import Parley.Dialogue.Document
import Parley.Text.Order

/-!
# Statistics

How many nodes of each kind a document has at any depth, and which items its checks and actions
name.
-/

namespace Parley

/-- Counts of nodes, and the item ids met on the way. -/
structure Tally where
  lines : Nat
  options : Nat
  branches : Nat
  checks : Nat
  actions : Nat
  items : List String
deriving DecidableEq, Repr

namespace Tally

def empty : Tally := ⟨0, 0, 0, 0, 0, []⟩

instance : Add Tally where
  add a b := ⟨a.lines + b.lines, a.options + b.options, a.branches + b.branches,
    a.checks + b.checks, a.actions + b.actions, a.items ++ b.items⟩

@[simp] theorem lines_add (a b : Tally) : (a + b).lines = a.lines + b.lines := rfl

@[simp] theorem options_add (a b : Tally) : (a + b).options = a.options + b.options := rfl

@[simp] theorem branches_add (a b : Tally) : (a + b).branches = a.branches + b.branches := rfl

@[simp] theorem checks_add (a b : Tally) : (a + b).checks = a.checks + b.checks := rfl

@[simp] theorem actions_add (a b : Tally) : (a + b).actions = a.actions + b.actions := rfl

@[simp] theorem items_add (a b : Tally) : (a + b).items = a.items ++ b.items := rfl

end Tally

def Check.item? : Check → Option String
  | .hasItem item _ => some item
  | .unknown .. => none

def Action.item? : Action → Option String
  | .giveItem item _ _ => some item
  | .unknown .. => none

def Check.tally (checks : List Check) : Tally :=
  { Tally.empty with checks := checks.length, items := checks.filterMap Check.item? }

def Action.tally (actions : Option (List Action)) : Tally :=
  let as := actions.getD []
  { Tally.empty with actions := as.length, items := as.filterMap Action.item? }

mutual

def Line.tally : Line → Tally
  | ⟨_, _, _, _, _, _, options, _⟩ =>
    { Tally.empty with lines := 1 } + match options with
      | some cs => Choice.tallyList cs
      | none => Tally.empty

def Line.tallyList : List Line → Tally
  | [] => Tally.empty
  | l :: rest => l.tally + Line.tallyList rest

def Choice.tally : Choice → Tally
  | ⟨_, _, _, lines, actions, branches⟩ =>
    { Tally.empty with options := 1 } +
      (match lines with
        | some ls => Line.tallyList ls
        | none => Tally.empty) +
      Action.tally actions +
      (match branches with
        | some bs => Branch.tallyList bs
        | none => Tally.empty)

def Choice.tallyList : List Choice → Tally
  | [] => Tally.empty
  | c :: rest => c.tally + Choice.tallyList rest

def Branch.tally : Branch → Tally
  | ⟨checks, lines, actions⟩ =>
    { Tally.empty with branches := 1 } + Check.tally checks +
      (match lines with
        | some ls => Line.tallyList ls
        | none => Tally.empty) +
      Action.tally actions

def Branch.tallyList : List Branch → Tally
  | [] => Tally.empty
  | b :: rest => b.tally + Branch.tallyList rest

end

def Fork.tally (f : Fork) : Tally :=
  Check.tally f.checks + Line.tallyList f.lines + Action.tally f.actions

def Fork.tallyList : List Fork → Tally
  | [] => Tally.empty
  | f :: rest => f.tally + Fork.tallyList rest

def Document.tally (d : Document) : Tally :=
  Line.tallyList (d.lines.getD []) + Action.tally d.actions + Fork.tallyList (d.forks.getD [])

/-- What is reported about a loaded document. -/
structure Statistics where
  lines : Nat
  forks : Nat
  options : Nat
  branches : Nat
  checks : Nat
  actions : Nat
  items : List String
  errors : Nat
  warnings : Nat
deriving DecidableEq, Repr

def Document.statistics (d : Document) (errors warnings : Nat) : Statistics :=
  let t := d.tally
  ⟨t.lines, (d.forks.getD []).length, t.options, t.branches, t.checks, t.actions,
    sortedDistinct t.items, errors, warnings⟩

namespace Statistics

/-- The statistics as named values, in the order in which they are shown. -/
def toMembers (s : Statistics) : Members :=
  let count (n : Nat) : Json := .num (.int n)
  [("lines", count s.lines), ("forks", count s.forks), ("options", count s.options),
   ("branches", count s.branches), ("checks", count s.checks), ("actions", count s.actions),
   ("items", .arr (s.items.map .str)), ("errors", count s.errors), ("warnings", count s.warnings)]

end Statistics
end Parley
