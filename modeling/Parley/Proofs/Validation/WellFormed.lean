import Mathlib.Logic.Relation
import Parley.Dialogue.Finding

/-!
# Well-formed values

What a document without errors is, told of the value that it is read from and not of the reading: a
tree of objects, each an entry of one of its parent's lists, in which every object is sound by
itself.
-/

namespace Parley

/-- What an object is within a document: the document itself, or an entry of one of its lists. -/
inductive Part where
  | document
  | entry (kind : EntryKind)

/-- An object that is read, and as what. -/
structure Node where
  part : Part
  members : Members

def objectsOf : Json → List Members
  | .arr items => items.filterMap Json.members?
  | _ => []

namespace Node

/-- The lists that are read of an object, by the names of their members. A choice without an id is
skipped with all its lists. -/
def lists (n : Node) : List (String × EntryKind) :=
  match n.part with
  | .document => [("lines", .line), ("forks", .fork), ("actions", .action)]
  | .entry .fork => [("checks", .check), ("lines", .line), ("actions", .action)]
  | .entry .line => [("options", .choice)]
  | .entry .choice =>
    if (n.members.get "id").truthy then
      [("lines", .line), ("actions", .action), ("branches", .branch)]
    else []
  | .entry .branch => [("checks", .check), ("lines", .line), ("actions", .action)]
  | .entry .check => []
  | .entry .action => []

def Child (n child : Node) : Prop :=
  ∃ list ∈ n.lists, ∃ ms ∈ objectsOf (n.members.get list.1), child = ⟨.entry list.2, ms⟩

abbrev Visits : Node → Node → Prop := Relation.ReflTransGen Child

/-- Nothing is wrong with an object by itself: a line has a known speaker and choices whose ids read
differently, a choice has an id, and what tests or gives an item names it. -/
def Sound (n : Node) : Prop :=
  match n.part with
  | .entry .line =>
    (∀ v, n.members.get? "speaker" = some v → v = .str "npc" ∨ v = .str "player") ∧
      ((objectsOf (n.members.get "options")).map fun o => (o.get "id").display).Nodup
  | .entry .choice => (n.members.get "id").truthy = true
  | .entry .check =>
    n.members.get "type" = .str "hasItem" → (n.members.get "itemId").truthy = true
  | .entry .action =>
    n.members.get "type" = .str "giveItem" → (n.members.get "itemId").truthy = true
  | _ => True

/-- All that is read when an object is read is sound. -/
def SoundBelow (n : Node) : Prop := ∀ m, n.Visits m → m.Sound

theorem soundBelow_iff (n : Node) : n.SoundBelow ↔ n.Sound ∧
    ∀ list ∈ n.lists, ∀ ms ∈ objectsOf (n.members.get list.1),
      SoundBelow ⟨.entry list.2, ms⟩ := by
  constructor
  · intro h
    exact ⟨h n .refl, fun list hlist ms hms m hm => h m (.head ⟨list, hlist, ms, hms, rfl⟩ hm)⟩
  · rintro ⟨hself, hbelow⟩ m hm
    rcases Relation.ReflTransGen.cases_head hm with rfl | ⟨child, ⟨list, hlist, ms, hms, rfl⟩, hm⟩
    · exact hself
    · exact hbelow list hlist ms hms m hm

end Node

def HasLine (ms : Members) : Prop := objectsOf (ms.get "lines") ≠ []

/-- A well-formed document is an object with a line, in its own list or in that of a fork, and all
that is read of it is sound. -/
def WellFormed (v : Json) : Prop :=
  ∃ ms, v = .obj ms ∧ (HasLine ms ∨ ∃ fork ∈ objectsOf (Members.get ms "forks"), HasLine fork) ∧
    Node.SoundBelow ⟨.document, ms⟩

end Parley
