import Parley.Dialogue.Document
import Parley.Inventory.Service

/-!
# Resolution

Which variant of a document or of a choice is played: the first whose checks all pass, and the base
if none does. The inventory is fetched only when a check needs it and no snapshot is known.
-/

namespace Parley

def Check.passes (inventory : Option Snapshot) : Check → Bool
  | .hasItem item negate => Snapshot.owns inventory item != negate
  | .unknown .. => false

/-- Lines to play and actions to queue. -/
structure Resolution where
  lines : List Line
  actions : List Action

namespace Resolution

/-- Whether all checks pass, evaluated in order up to the first that fails. -/
def passes (supply : Supply) : List Check → Stock → Bool × Stock
  | [], s => (true, s)
  | c :: rest, s =>
    let (inventory, s) := s.get supply
    if c.passes inventory then passes supply rest s else (false, s)

def firstPassing (supply : Supply) (checks : α → List Check) : List α → Stock → Option α × Stock
  | [], s => (none, s)
  | a :: rest, s =>
    match passes supply (checks a) s with
    | (true, s) => (some a, s)
    | (false, s) => firstPassing supply checks rest s

/-- What a document plays, given the fork that was chosen. -/
def ofFork (d : Document) : Option Fork → Resolution
  | some f => ⟨f.lines, (f.actions <|> d.actions).getD []⟩
  | none => ⟨d.lines.getD [], d.actions.getD []⟩

/-- What a choice plays, given the branch that was chosen. -/
def ofBranch (c : Choice) : Option Branch → Resolution
  | some b => ⟨(b.lines <|> c.lines).getD [], (b.actions <|> c.actions).getD []⟩
  | none => ⟨c.lines.getD [], c.actions.getD []⟩

end Resolution

def Document.resolve (supply : Supply) (d : Document) (s : Stock) : Resolution × Stock :=
  let (fork, s) := Resolution.firstPassing supply Fork.checks (d.forks.getD []) s
  (Resolution.ofFork d fork, s)

def Choice.resolve (supply : Supply) (c : Choice) (s : Stock) : Resolution × Stock :=
  let (branch, s) := Resolution.firstPassing supply Branch.checks (c.branches.getD []) s
  (Resolution.ofBranch c branch, s)

/-- Resolves a document against one inventory, as a preview of what would be played. -/
def Document.preview (d : Document) (inventory : Option Snapshot) : Resolution :=
  let supply := Supply.constant (if inventory.isSome then .stored else .nothing) false
  (d.resolve supply (Stock.ofService ⟨inventory.getD ⟨[], []⟩, 0, 0, 0⟩)).1

end Parley
