import Parley.Dialogue.Finding
import Parley.Text.Word
import Parley.Validation.Flaw

/-!
# Issues

What validation reports: findings of the reading and flaws of the document, with their place as
text. The place of a finding is read off its message: a message of one line stands at the place it
names; one that spans lines, or names no place, stands at the document as a whole.
-/

namespace Parley

inductive IssueSeverity where
  | error
  | warning
deriving DecidableEq, Repr

structure Issue where
  severity : IssueSeverity
  location : String
  message : String
  suggestion : Option String
deriving DecidableEq, Repr

def wholeDocument : String := "document"

/-- The characters of places: those of words, points and square brackets. -/
def isPlaceChar (c : Char) : Bool := Text.isWord c || c == '[' || c == ']' || c == '.'

/-- The characters of a line, without the line feed that may end it; nothing if the line does not
end the text. -/
def soleLine? (cs : List Char) : Option (List Char) :=
  match cs.dropWhile (· != '\n') with
  | [] | [_] => some (cs.takeWhile (· != '\n'))
  | _ => none

/-- The place that a message names, before a colon and a blank, and the one line that it has on
it. -/
def placed? (message : String) : Option (String × String) :=
  let place := message.toList.takeWhile isPlaceChar
  match message.toList.dropWhile isPlaceChar with
  | ':' :: ' ' :: told =>
    if place.isEmpty then none
    else (soleLine? told).map fun line => (String.ofList place, String.ofList line)
  | _ => none

namespace Issue

/-- An issue for a message, at the place that it names if it names one. -/
def ofMessage (severity : IssueSeverity) (message : String) : Issue :=
  match placed? message with
  | some (place, told) => ⟨severity, place, told, none⟩
  | none => ⟨severity, wholeDocument, message, none⟩

def ofFinding (severity : IssueSeverity) (f : Finding) : Issue := ofMessage severity f.message

end Issue

namespace FlawKind

def severity : FlawKind → IssueSeverity
  | .noLines | .duplicateChoice _ => .error
  | _ => .warning

def message : FlawKind → String
  | .noLines => "Dialogue has no lines"
  | .silentLine => "Line has neither text nor textKey"
  | .duplicateChoice id => "Duplicate option id '" ++ id ++ "'"
  | .idleChoice => "Option has no lines, actions or branches"
  | .shadowingFork => "Fork has no checks, so later forks are unreachable"
  | .shadowingBranch => "Branch has no checks, so later branches are unreachable"
  | .unreachableBase => "Base lines are unreachable because the last fork always matches"
  | .smallAmount n => "Amount " ++ n.write ++ " is below 1 and will grant 1"

def suggestion : FlawKind → Option String
  | .noLines => some "Add 'lines' or at least one fork with lines"
  | .duplicateChoice _ => some "Only the first one can be selected"
  | .shadowingFork => some "Move catch-all forks last"
  | _ => none

end FlawKind

def Issue.ofFlaw (f : Flaw) : Issue :=
  ⟨f.kind.severity, if f.location.isEmpty then wholeDocument else f.location.write,
    f.kind.message, f.kind.suggestion⟩

def Issue.toJson (i : Issue) : Json :=
  .obj [("severity", .str (match i.severity with | .error => "error" | .warning => "warning")),
    ("location", .str i.location), ("message", .str i.message),
    ("suggestion", match i.suggestion with | some s => .str s | none => .null)]

end Parley
