import Parley.Dialogue.Location
import Parley.Fault
import Parley.Json.Display

/-!
# Findings

What reading a document finds wrong with it, and where. Errors and warnings leave a document;
a fatal finding ends the reading.
-/

namespace Parley

def knownSpeakers : List String := ["npc", "player"]

def knownEmotions : List String := ["angry", "disgust", "fear", "happy", "sad", "surprise"]

/-- The lists of a document, by what their entries are. -/
inductive EntryKind where
  | line
  | choice
  | fork
  | branch
  | check
  | action
deriving DecidableEq, Repr

def EntryKind.name : EntryKind → String
  | .line => "line"
  | .choice => "option"
  | .fork => "fork"
  | .branch => "branch"
  | .check => "check"
  | .action => "action"

/-- What is wrong at a place. -/
inductive Defect where
  /-- The file cannot be read as JSON. -/
  | unreadableFile (name reason : String)
  /-- The text is no JSON. -/
  | unreadableText (e : Json.Malformed)
  /-- The value is no object. -/
  | notADocument
  /-- The document's id is no text. -/
  | idNotText (id : Json)
  /-- A section is neither a list nor null. -/
  | notAList (value : Json)
  /-- An entry of a list is no object. -/
  | notAnObject (kind : EntryKind)
  | unknownSpeaker (speaker : Json)
  | unknownEmotion (emotion : Json)
  | choiceWithoutId
  | checkWithoutItem
  | actionWithoutItem
  | unknownCheck (type : Json)
  | unknownAction (type : Json)
  | amountNotNumber (amount : Json)
  | amountNotFinite (amount : Number)
  /-- What is to be a text has an integer of too many digits. -/
  | unwritable
  /-- The amount is an integer beyond the range of `Double`. -/
  | amountTooLarge
deriving Repr

inductive Severity where
  | error
  | warning
  | fatal
deriving DecidableEq, Repr

namespace Defect

def severity : Defect → Severity
  | .unreadableFile .. | .unreadableText _ | .notADocument | .unknownSpeaker _ | .choiceWithoutId
  | .checkWithoutItem | .actionWithoutItem => .error
  | .unwritable | .amountTooLarge => .fatal
  | _ => .warning

def fault? : Defect → Option Fault
  | .unwritable => some .integerTooLong
  | .amountTooLarge => some .integerTooLarge
  | _ => none

def message : Defect → String
  | .unreadableFile name reason => name ++ ": cannot read dialogue (" ++ reason ++ ")"
  | .unreadableText e => "Invalid JSON: " ++ e.message
  | .notADocument => "Dialogue document must be a JSON object"
  | .idNotText id => "Document id " ++ id.quoted ++ " is not a string"
  | .notAList v => "expected a list, got " ++ v.kind
  | .notAnObject kind => "skipping non-object " ++ kind.name
  | .unknownSpeaker v =>
    "unknown speaker '" ++ v.display ++ "' (expected one of " ++
      ", ".intercalate knownSpeakers ++ ")"
  | .unknownEmotion v => "unknown emotion '" ++ v.display ++ "'"
  | .choiceWithoutId => "option has no id and can never be selected"
  | .checkWithoutItem => "hasItem check has no itemId"
  | .actionWithoutItem => "giveItem action has no itemId"
  | .unknownCheck v => "unknown check type '" ++ v.display ++ "' always fails"
  | .unknownAction v => "unknown action type '" ++ v.display ++ "' is ignored"
  | .amountNotNumber v => "amount " ++ v.quoted ++ " is not a number, granting 1"
  | .amountNotFinite n => "amount " ++ n.write ++ " is not finite, granting 1"
  | .unwritable => Fault.integerTooLong.message
  | .amountTooLarge => Fault.integerTooLarge.message

theorem fault?_eq_none_iff {d : Defect} : d.fault? = none ↔ d.severity ≠ .fatal := by
  cases d <;> simp [fault?, severity]

theorem eq_unwritable_of_fault? {d : Defect} (h : d.fault? = some .integerTooLong) :
    d = .unwritable := by
  cases d with
  | unwritable => rfl
  | _ => cases h

end Defect

/-- A defect and its place in the value that was read. -/
structure Finding where
  location : Location
  defect : Defect
deriving Repr

namespace Finding

def severity (f : Finding) : Severity := f.defect.severity

def message (f : Finding) : String :=
  if f.location.isEmpty then f.defect.message
  else f.location.write ++ ": " ++ f.defect.message

end Finding

/-- A value that was read, with what was found on the way. -/
structure Noted (α : Type) where
  value : α
  findings : List Finding
deriving Repr

namespace Noted

def Calm (n : Noted α) : Prop := ∀ f ∈ n.findings, f.severity ≠ .fatal

/-- The value, unless a finding is fatal: then there is the fault of the first that is. -/
def unlessFatal (n : Noted α) : Except Fault α :=
  match n.findings.findSome? (·.defect.fault?) with
  | some fault => .error fault
  | none => .ok n.value

theorem calm_iff {n : Noted α} :
    n.Calm ↔ n.findings.findSome? (·.defect.fault?) = none := by
  simp only [Calm, List.findSome?_eq_none_iff, Defect.fault?_eq_none_iff, Finding.severity]

theorem unlessFatal_eq_ok_iff {n : Noted α} {a : α} :
    n.unlessFatal = .ok a ↔ n.Calm ∧ n.value = a := by
  rw [calm_iff, unlessFatal]
  split
  · rename_i hfatal
    simp [hfatal]
  · rename_i hcalm
    simp [hcalm]

end Noted

end Parley
