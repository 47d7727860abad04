import Parley.Dialogue.Resolution
import Parley.Proofs.Dialogue.Copy
import Parley.Proofs.Validation.Pieces

/-!
# Working copies resolve like their source

A working copy has at the end of every way what its source has there, with the same sections absent
and the same sections empty. So a choice of the copy is resolved as the choice of the source that
stands where it stands, whatever the inventory.
-/

namespace Parley

def Line.Mirrors (l l' : Line) : Prop := ∀ way p, (Piece.line l).At way p ↔ (Piece.line l').At way p

theorem Line.Mirrors.resolve_eq {l l' : Line} (h : l.Mirrors l') {way : Location} {c c' : Choice}
    (hc : (Piece.line l).At way (.choice c)) (hc' : (Piece.line l').At way (.choice c'))
    (supply : Supply) (s : Stock) : c.resolve supply s = c'.resolve supply s := by
  have hsame : Piece.choice c = .choice c' := ((h way _).mp hc).right_unique hc'
  cases hsame
  rfl

/-- A working copy of lines, and of actions, is its source, absent ones being none. The lines of the
copy mirror those of the source, one by one, and their choices are resolved as those of the
source. -/
theorem copies_exact (lines : Option (List Line)) (actions : Option (List Action)) :
    Line.copySection lines = lines.getD [] ∧ Action.copySection actions = actions.getD [] ∧
    List.Forall₂ (fun l l' => l.Mirrors l' ∧ ∀ way c c', (Piece.line l).At way (.choice c) →
      (Piece.line l').At way (.choice c') → ∀ supply s, c.resolve supply s = c'.resolve supply s)
      (Line.copySection lines) (lines.getD []) := by
  have hlines : Line.copySection lines = lines.getD [] := Line.copyList_eq _
  refine ⟨hlines, rfl, ?_⟩
  rw [hlines]
  refine List.forall₂_same.mpr ?_
  intro l _
  have hmirrors : l.Mirrors l := fun _ _ => Iff.rfl
  exact ⟨hmirrors, fun _ _ _ hc hc' => hmirrors.resolve_eq hc hc'⟩

end Parley
