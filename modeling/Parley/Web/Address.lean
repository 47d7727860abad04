import Parley.Web.Authority

/-!
# Addresses

An address may start with a scheme and a colon, then with two slashes and the authority. A path
follows. What follows a question mark is its query, and a number sign ends it.
-/

namespace Parley.Web

/-- The parts of an address. A part that is missing is empty. -/
structure Address where
  scheme : List Char
  authority : List Char
  path : List Char
  query : List Char
deriving DecidableEq, Repr

namespace Address

/-- Characters that no address contains; they are dropped where they stand. -/
def isDropped (c : Char) : Bool := c == '\t' || c == '\n' || c == '\r'

def isSchemeChar (c : Char) : Bool := c.isAlphanum || c == '+' || c == '-' || c == '.'

/-- The scheme before the first colon and what follows it. A scheme starts with a letter. -/
def splitScheme (cs : List Char) : List Char × List Char :=
  let scheme := cs.takeWhile (· != ':')
  match cs.drop scheme.length, scheme with
  | _ :: rest, c :: _ =>
    if c.isAlpha && scheme.all isSchemeChar then (scheme.map Char.toLower, rest) else ([], cs)
  | _, _ => ([], cs)

def endsAuthority (c : Char) : Bool := c == '/' || c == '?' || c == '#'

def splitAuthority : List Char → List Char × List Char
  | '/' :: '/' :: rest => rest.span (!endsAuthority ·)
  | cs => ([], cs)

/-- Reads an address. Blanks and control characters at its front do not count, and a number sign
ends it. -/
def read (cs : List Char) : Except Problem Address := do
  let cs := (cs.dropWhile fun c => c.toNat ≤ 0x20).filter (!isDropped ·)
  let (scheme, cs) := splitScheme cs
  let (authority, cs) := splitAuthority cs
  Authority.check authority
  let (path, query) := (cs.takeWhile (· != '#')).span (· != '?')
  return ⟨scheme, authority, path, query.drop 1⟩

def request (a : Address) : List Char :=
  a.path ++ if a.query.isEmpty then [] else '?' :: a.query

def wireBytes (cs : List Char) : Except Problem (List UInt8) := do
  let a ← read cs
  let path ← (Text.encodeUtf8 (String.ofList a.path)).mapError .unwritable
  let authority ← (Authority.ofText a.authority).wireForm
  let front := (if a.scheme.isEmpty then [] else a.scheme ++ [':']) ++
    if authority.isEmpty then [] else '/' :: '/' :: authority
  return front.map (fun c => UInt8.ofNat c.toNat) ++ path

end Address
end Parley.Web
