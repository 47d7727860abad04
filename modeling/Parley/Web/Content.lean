import Parley.Text.Blank
import Parley.Text.Encoding
import Parley.Web.Framework
import Parley.Web.Problem

/-!
# Reading what requests carry

A text that a request carries counts as JSON if its content type says so and it can be read.
-/

namespace Parley.Web.Content

def usualType : String := "application/json"

def isJsonType (contentType : String) : Bool :=
  let name := (Text.strip (Text.partition ';' contentType).1).toList.map Char.toLower
  name == "application/json".toList ||
    "application/".toList.isPrefixOf name && "+json".toList.isSuffixOf name

/-- The bytes of a text with its content type, which must be on one line. -/
def checkText (contentType body : String) : Except Problem (List UInt8) :=
  if contentType.toList.any fun c => c == '\n' || c == '\r' then .error .lineEnd
  else (Text.encodeUtf8 body).mapError .unwritable

def check : Content → Except Problem Unit
  | .text contentType body => (checkText contentType body).map fun _ => ()
  | _ => .ok ()

/-- The JSON of bytes. What is nested too deep cannot be looked at; other bytes that are no JSON count
as none. -/
def jsonOfBytes (body : List UInt8) : Except Fault (Option Json) :=
  match Text.decodeJson? body with
  | none => .ok none
  | some codes => match Json.read (String.ofList (Text.ofCodePoints codes)) with
    | .ok v => .ok (some v)
    | .error (.tooDeep container) => .error (.tooDeep container)
    | .error _ => .ok none

/-- The JSON that is carried, if any. A text of another type counts as none. -/
def json? : Content → Except Fault (Option Json)
  | .nothing => .ok none
  | .json v => .ok (some v)
  | .text contentType body =>
    match isJsonType contentType, checkText contentType body with
    | true, .ok bytes => jsonOfBytes bytes
    | _, _ => .ok none

end Parley.Web.Content
