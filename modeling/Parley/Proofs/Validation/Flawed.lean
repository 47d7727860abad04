import Parley.Proofs.Validation.Defects
import Parley.Validation.Flaw

/-!
# The flaws of a value

What does not play well in a value that is read as a document, told of the value and not of the
document that is made of it. An entry is judged with the entries around it, of which only those count
that are read: what is skipped is as if it were not there.

The way to a flaw goes by the indices of the value. A document only has the entries that were kept,
so in the document the same entry has another number as soon as something before it was skipped.
-/

namespace Parley

/-- The members of an entry that is read. What is no object is skipped, and so is a choice without
an id. -/
def EntryKind.kept? (kind : EntryKind) : Json → Option Members
  | .obj ms => if kind = .choice ∧ (Members.get ms "id").truthy = false then none else some ms
  | _ => none

def EntryKind.kept (kind : EntryKind) (items : List Json) : List Members :=
  items.filterMap kind.kept?

def Defect.skips : Defect → Bool
  | .notAnObject _ | .choiceWithoutId => true
  | _ => false

namespace EntryKind

variable {kind : EntryKind} {v : Json} {ms : Members}

theorem eq_obj_of_kept? (h : kind.kept? v = some ms) : v = .obj ms := by
  unfold kept? at h
  split at h
  · split at h
    · cases h
    · cases h
      rfl
  · cases h

theorem kept?_eq_none_iff :
    kind.kept? v = none ↔ ∃ d, Wrong (.part (.entry kind)) v d ∧ d.skips = true := by
  constructor
  · intro h
    unfold kept? at h
    split at h
    · split at h
      · rename_i hid
        obtain ⟨rfl, hid⟩ := hid
        exact ⟨_, .choiceWithoutId hid, rfl⟩
      · cases h
    · rename_i hobj
      exact ⟨_, .notAnObject hobj, rfl⟩
  · rintro ⟨d, hd, hskips⟩
    cases hd with
    | notAnObject object =>
      unfold kept?
      split
      · exact absurd rfl (object _)
      · rfl
    | choiceWithoutId id => simp [kept?, id]
    | _ => cases hskips

end EntryKind

/-- What is amiss with an entry, given the entries that are kept before and after it. -/
inductive Amiss (before : List Members) : EntryKind → Members → List Members → FlawKind → Prop where
  | silentLine {ms : Members} {after : List Members} (text : ∀ v, ms.get? "text" = some v → v = .str "")
      (key : (ms.get "textKey").truthy = false) : Amiss before .line ms after .silentLine
  | duplicateChoice {ms : Members} {after : List Members}
      (earlier : ∃ o ∈ before, (o.get "id").display = (ms.get "id").display) :
      Amiss before .choice ms after (.duplicateChoice (ms.get "id").display)
  | idleChoice {ms : Members} {after : List Members} (lines : ms.get? "lines" = none)
      (actions : ms.get? "actions" = none) (branches : objectsOf (ms.get "branches") = []) :
      Amiss before .choice ms after .idleChoice
  | shadowingFork {ms : Members} {after : List Members} (checks : objectsOf (ms.get "checks") = [])
      (later : after ≠ []) : Amiss before .fork ms after .shadowingFork
  | shadowingBranch {ms : Members} {after : List Members} (checks : objectsOf (ms.get "checks") = [])
      (later : after ≠ []) : Amiss before .branch ms after .shadowingBranch
  | smallAmount {ms : Members} {after : List Members} {n : Number}
      (type : ms.get "type" = .str "giveItem") (amount : ms.get "amount" = .num n)
      (finite : n.finite = .ok true) (small : n.ltInt 1 = true) :
      Amiss before .action ms after (.smallAmount n)

/-- A flaw of a value or of what is read below it, with the way that leads to what it is about. -/
inductive Flawed : Place → Json → Location → FlawKind → Prop where
  | noLines {ms : Members} (lines : ¬ HasLine ms)
      (forks : ∀ fork ∈ objectsOf (ms.get "forks"), ¬ HasLine fork) :
      Flawed (.part .document) (.obj ms) [] .noLines
  | unreachableBase {ms fork : Members}
      (last : (objectsOf (ms.get "forks")).getLast? = some fork)
      (checks : objectsOf (fork.get "checks") = []) (lines : HasLine ms) :
      Flawed (.part .document) (.obj ms) [.field "lines"] .unreachableBase
  | entry {kind : EntryKind} {items before after : List Json} {v : Json} {ms : Members} {k : FlawKind}
      (split : items = before ++ v :: after) (kept : kind.kept? v = some ms)
      (amiss : Amiss (kind.kept before) kind ms (kind.kept after) k) :
      Flawed (.list kind) (.arr items) [.item before.length] k
  | field {p : Part} {ms : Members} {name : String} {kind : EntryKind} {v : Json} {l : Location}
      {k : FlawKind} (list : (name, kind) ∈ Node.lists ⟨p, ms⟩) (given : ms.get? name = some v)
      (below : Flawed (.list kind) v l k) : Flawed (.part p) (.obj ms) (.field name :: l) k
  | item {kind : EntryKind} {items before after : List Json} {v : Json} {l : Location} {k : FlawKind}
      (split : items = before ++ v :: after) (below : Flawed (.part (.entry kind)) v l k) :
      Flawed (.list kind) (.arr items) (.item before.length :: l) k

/-- A way by the indices of the value, and the way to the same place by the numbers of the entries
that are kept. -/
inductive Renumbered : Place → Json → Location → Location → Prop where
  | here {p : Place} {v : Json} : Renumbered p v [] []
  | field {p : Part} {ms : Members} {name : String} {kind : EntryKind} {v : Json} {l m : Location}
      (list : (name, kind) ∈ Node.lists ⟨p, ms⟩) (given : ms.get? name = some v)
      (below : Renumbered (.list kind) v l m) :
      Renumbered (.part p) (.obj ms) (.field name :: l) (.field name :: m)
  | item {kind : EntryKind} {items before after : List Json} {v : Json} {ms : Members} {l m : Location}
      (split : items = before ++ v :: after) (kept : kind.kept? v = some ms)
      (below : Renumbered (.part (.entry kind)) v l m) :
      Renumbered (.list kind) (.arr items) (.item before.length :: l)
        (.item (kind.kept before).length :: m)

/-- No entry is skipped before one that is on the way. -/
def Unskipped (p : Place) (v : Json) (l : Location) : Prop :=
  ∀ way i rest j d, l = way ++ .item i :: rest → j < i → Defective p v (way ++ [.item j]) d →
    d.skips = false

end Parley
