import Parley.Dialogue.Document

/-!
# Equality of documents

Two documents are the same when they have the same shape and the values in the same places are the
same. Checks and actions of unknown types are compared by their type alone.
-/

namespace Parley

/-- Whether two optional values are both absent or both there and the same. -/
def sameOption (same : α → α → Bool) : Option α → Option α → Bool
  | none, none => true
  | some a, some b => same a b
  | _, _ => false

def sameList (same : α → α → Bool) : List α → List α → Bool
  | [], [] => true
  | a :: as, b :: bs => same a b && sameList same as bs
  | _, _ => false

def Check.same : Check → Check → Bool
  | .hasItem item negate, .hasItem item₂ negate₂ => item == item₂ && negate == negate₂
  | .unknown type _, .unknown type₂ _ => type == type₂
  | _, _ => false

def Action.same : Action → Action → Bool
  | .giveItem item amount ifMissing, .giveItem item₂ amount₂ ifMissing₂ =>
    item == item₂ && sameOption Number.same amount amount₂ && ifMissing == ifMissing₂
  | .unknown type _, .unknown type₂ _ => type == type₂
  | _, _ => false

def Action.sameSection : Option (List Action) → Option (List Action) → Bool :=
  sameOption (sameList Action.same)

mutual

def Line.same : Line → Line → Bool
  | ⟨speaker, text, textKey, emotion, name, nameKey, options, hide⟩,
    ⟨speaker₂, text₂, textKey₂, emotion₂, name₂, nameKey₂, options₂, hide₂⟩ =>
    speaker.same speaker₂ && text == text₂ && textKey.same textKey₂ && emotion.same emotion₂ &&
      name.same name₂ && nameKey.same nameKey₂ &&
      (match options, options₂ with
        | none, none => true
        | some cs, some ds => Choice.sameItems cs ds
        | _, _ => false) &&
      hide.same hide₂

def Line.sameItems : List Line → List Line → Bool
  | [], [] => true
  | l :: ls, m :: ms => Line.same l m && Line.sameItems ls ms
  | _, _ => false

def Choice.same : Choice → Choice → Bool
  | ⟨id, text, textKey, lines, actions, branches⟩,
    ⟨id₂, text₂, textKey₂, lines₂, actions₂, branches₂⟩ =>
    id == id₂ && text == text₂ && textKey.same textKey₂ &&
      (match lines, lines₂ with
        | none, none => true
        | some ls, some ms => Line.sameItems ls ms
        | _, _ => false) &&
      Action.sameSection actions actions₂ &&
      (match branches, branches₂ with
        | none, none => true
        | some bs, some cs => Branch.sameItems bs cs
        | _, _ => false)

def Choice.sameItems : List Choice → List Choice → Bool
  | [], [] => true
  | c :: cs, d :: ds => Choice.same c d && Choice.sameItems cs ds
  | _, _ => false

def Branch.same : Branch → Branch → Bool
  | ⟨checks, lines, actions⟩, ⟨checks₂, lines₂, actions₂⟩ =>
    sameList Check.same checks checks₂ &&
      (match lines, lines₂ with
        | none, none => true
        | some ls, some ms => Line.sameItems ls ms
        | _, _ => false) &&
      Action.sameSection actions actions₂

def Branch.sameItems : List Branch → List Branch → Bool
  | [], [] => true
  | b :: bs, c :: cs => Branch.same b c && Branch.sameItems bs cs
  | _, _ => false

end

def Fork.same (f g : Fork) : Bool :=
  sameList Check.same f.checks g.checks && Line.sameItems f.lines g.lines &&
    Action.sameSection f.actions g.actions

def Document.same (d e : Document) : Bool :=
  d.id == e.id && sameOption Line.sameItems d.lines e.lines &&
    sameOption (sameList Fork.same) d.forks e.forks && Action.sameSection d.actions e.actions

end Parley
