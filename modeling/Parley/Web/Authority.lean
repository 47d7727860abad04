import Parley.Web.Numeric
import Parley.Web.Percent
import Parley.Web.Problem

/-!
# Authorities

The authority of an address names a server: perhaps a user with a password, then a host, perhaps in
square brackets, and perhaps a port. It has a form on the wire, in ASCII, and a form that is shown.
-/

namespace Parley.Web

/-- The parts of an authority. A part that is missing is empty. -/
structure Authority where
  user : List Char
  password : List Char
  host : List Char
  port : List Char
deriving DecidableEq, Repr

namespace Authority

/-- The part before the last character of a kind, and the part after it. Without that character all
is in the second part. -/
def splitLast (c : Char) (cs : List Char) : List Char × List Char :=
  let after := (cs.reverse.takeWhile (· != c)).reverse
  (cs.take (cs.length - after.length - 1), after)

/-- The parts before and after the first colon. -/
def splitColon (cs : List Char) : List Char × List Char :=
  let (before, after) := Text.partitionAt ':' cs
  (before, after.getD [])

/-- What is between the first opening bracket and the closing one after it, and what follows. -/
def bracketed? (cs : List Char) : Option (List Char × List Char) :=
  (Text.partitionAt '[' cs).2.map fun rest =>
    let (inner, after) := Text.partitionAt ']' rest
    (inner, after.getD [])

/-- A host and the text of a port. A host in brackets may have colons. -/
def splitHost (cs : List Char) : List Char × List Char :=
  match bracketed? cs with
  | some (host, after) => (host, (splitColon after).2)
  | none => splitColon cs

/-- A small letter for a capital letter that is one of ASCII in small letters. -/
def lowerChar (c : Char) : Char := if c == '\u212a' then 'k' else c.toLower

/-- A host in small letters, up to a percent sign. Letters beyond ASCII are left as they are. -/
def lowerHost (host : List Char) : List Char :=
  let (name, zone) := host.span (· != '%')
  name.map lowerChar ++ zone

def ofText (cs : List Char) : Authority :=
  let (account, server) := splitLast '@' cs
  let (user, password) := splitColon account
  let (host, port) := splitHost server
  ⟨user, password, lowerHost host, port⟩

/-- Refuses a host in brackets that is no numeric address. -/
def checkBracketed (host : List Char) : Except Problem Unit :=
  if host.head? = some 'v' then if Numeric.isVersioned host then .ok () else .error .version
  else if Numeric.isFourNumbers host then .error .fourNumbers
  else if Numeric.isEightGroups host then .ok ()
  else .error (.notNumeric (String.ofList host))

/-- The characters whose folded form has a slash, a question mark, a number sign, an at sign or a
colon. -/
def foldedDelimiters : List Char :=
  ['\u2047', '\u2048', '\u2049', '\u2100', '\u2101', '\u2105', '\u2106', '\u2a74', '\ufe13', '\ufe16',
    '\ufe55', '\ufe56', '\ufe5f', '\ufe6b', '\uff03', '\uff0f', '\uff1a', '\uff1f', '\uff20']

/-- Refuses an authority that cannot be told from its surroundings. -/
def check (cs : List Char) : Except Problem Unit := do
  if cs.contains '[' != cs.contains ']' then throw .brackets
  if let some (host, _) := bracketed? cs then checkBracketed host
  if cs.any foldedDelimiters.contains then throw (.delimiter (String.ofList cs))

def portLimit : Nat := 65535

def readPort (cs : List Char) : Except Problem (Option Nat) :=
  if cs.isEmpty then .ok none
  else if !cs.all Char.isDigit then .error (.port (String.ofList cs))
  else if Text.digitLimit < cs.length then .error (.portDigits cs.length)
  else
    let n := Json.Reader.natOfDigits cs
    if portLimit < n then .error .portRange else .ok (some n)

/-- An authority of parts. A password without a user and a port of zero are left out. -/
def write (user password host : List Char) (port : Option Nat) : List Char :=
  (if user.isEmpty then []
    else user ++ (if password.isEmpty then [] else ':' :: password) ++ ['@']) ++
  (if host.contains ':' then '[' :: host ++ [']'] else host) ++
  match port with
  | some n => if n = 0 then [] else ':' :: Nat.toDigits 10 n
  | none => []

/-- The characters that may stand for themselves in a user's name and in a password. -/
def accountChars : List Char := "%!$&'()*+,;=".toList

def quote (cs : List Char) : Except Problem (List Char) :=
  (Percent.quote accountChars cs).mapError .unwritable

def wireForm (a : Authority) : Except Problem (List Char) := do
  let host ← (Host.wireName (Text.codePoints a.host)).mapError .wireHost
  let port ← readPort a.port
  if a.user.isEmpty then return write [] [] (Text.ofCodePoints host) port
  let user ← quote a.user
  let password ← quote a.password
  return write user password (Text.ofCodePoints host) port

/-- Whether a byte of a user's name or of a password stays quoted where it is shown: control
characters, the space, the percent sign, and what would end the name. -/
def staysQuoted (b : UInt8) : Bool :=
  b ≤ 0x20 || b == Percent.percentByte || b == 0x7F ||
    ":@/?#".toList.contains (Char.ofNat b.toNat)

def shownForm (a : Authority) : Except Problem (List Char) := do
  let host ← (Host.shownName (Text.codePoints a.host)).mapError .shownHost
  let port ← readPort a.port
  return write (Percent.unquote staysQuoted a.user) (Percent.unquote staysQuoted a.password)
    (Text.ofCodePoints host) port

def usualPorts : List (List Char × List Char) :=
  [("http".toList, ":80".toList), ("ws".toList, ":80".toList), ("https".toList, ":443".toList),
    ("wss".toList, ":443".toList)]

def withoutUsualPort (scheme cs : List Char) : List Char :=
  match usualPorts.lookup scheme with
  | some port => if port.isSuffixOf cs then cs.take (cs.length - port.length) else cs
  | none => cs

/-- Whether an authority on the wire can be that of a server: what is before the first colon has no
empty label but the last, and none that is too long. -/
def isServer (cs : List Char) : Bool :=
  (Host.checkAscii (Text.codePoints (splitColon cs).1)).isOk

end Authority
end Parley.Web
