import Parley.Web.Address
import Parley.Web.Content

/-!
# Targets

What the address of a request leads to: a server, which is called by a scheme, and a path on it. What
follows the scheme and the authority is itself read as an address, so that it may have both once more.
-/

namespace Parley.Web

/-- What an address asks for. -/
structure Target where
  /-- Whether the server is called through a web socket. -/
  socket : Bool
  /-- Whether there can be a server of this name. -/
  reachable : Bool
  path : List Char
deriving DecidableEq, Repr

namespace Target

def socketSchemes : List (List Char) := ["ws".toList, "wss".toList]

def usualScheme : List Char := "http".toList

def usualAuthority : List Char := "localhost".toList

/-- The authority of a server on the wire, which must be readable again. -/
def serverOf (scheme authority : List Char) : Except Problem (List Char) := do
  let authority := if authority.isEmpty then usualAuthority else authority
  let wire ← (Authority.ofText authority).wireForm
  Authority.check wire
  return Authority.withoutUsualPort scheme wire

def checkShown (server : List Char) : Except Problem Unit := do
  Authority.check server
  Authority.check (← (Authority.ofText server).shownForm)

def pathOf (bytes : List UInt8) : List Char :=
  Text.ofCodePoints (Text.decodeReplacing (Percent.decode bytes))

/-- The target of an address, to which content is sent. -/
def read (address : String) (content : Content) : Except Problem Target := do
  let outer ← Address.read address.toList
  let scheme := if outer.scheme.isEmpty then usualScheme else outer.scheme
  let inner ← Address.read outer.request
  let bytes ← Address.wireBytes inner.path
  let server ← serverOf scheme outer.authority
  content.check
  let _ ← (Text.encodeUtf8 (String.ofList outer.request)).mapError .unwritable
  checkShown server
  return ⟨socketSchemes.contains scheme, Authority.isServer server, pathOf bytes⟩

end Target

/-- The names of a path. Slashes at its front count as one. -/
def segments (path : List Char) : List (List Char) :=
  Text.pieces '/' (path.dropWhile (· == '/'))

def mergeSlashes : List Char → List Char
  | '/' :: '/' :: rest => '/' :: mergeSlashes rest
  | c :: rest => c :: mergeSlashes rest
  | [] => []

end Parley.Web
