import Parley.Text.Split

/-!
# Pieces between marks

The pieces of a text are those of the library's `List.splitOn`: they have no mark, and with a mark
between any two of them they are the text again.
-/

namespace Parley.Text

variable {α : Type} [DecidableEq α]

theorem pieces_eq_splitOn (mark : α) (cs : List α) : pieces mark cs = cs.splitOn mark := by
  induction cs with
  | nil => rfl
  | cons c rest ih =>
    rw [List.splitOn_cons_eq_if_modifyHead, pieces, ih]
    split
    · rfl
    · cases h : rest.splitOn mark with
      | nil => exact absurd h (List.splitOn_ne_nil mark rest)
      | cons p ps => rfl

theorem mem_of_mem_piece {mark c : α} {cs p : List α} (hp : p ∈ pieces mark cs) (hc : c ∈ p) :
    c ∈ cs ∧ c ≠ mark := by
  rw [pieces_eq_splitOn] at hp
  induction cs generalizing p with
  | nil =>
    rw [List.splitOn_nil, List.mem_singleton] at hp
    rw [hp] at hc
    cases hc
  | cons d rest ih =>
    obtain ⟨q, qs, hrest⟩ := List.exists_cons_of_ne_nil (List.splitOn_ne_nil mark rest)
    rw [hrest] at ih
    rw [List.splitOn_cons_eq_if_modifyHead, hrest, List.modifyHead_cons] at hp
    have hlater {p : List α} (hp : p ∈ q :: qs) (hc : c ∈ p) : c ∈ d :: rest ∧ c ≠ mark :=
      (ih hp hc).imp_left (List.mem_cons_of_mem d)
    split at hp
    · rcases List.mem_cons.mp hp with rfl | hp
      · cases hc
      · exact hlater hp hc
    · rename_i hd
      rcases List.mem_cons.mp hp with rfl | hp
      · rcases List.mem_cons.mp hc with rfl | hc
        · exact ⟨List.mem_cons_self, fun hsame => hd (beq_iff_eq.mpr hsame)⟩
        · exact hlater List.mem_cons_self hc
      · exact hlater (List.mem_cons_of_mem q hp) hc

theorem pieces_eq_iff {mark : α} {cs : List α} {ps : List (List α)} :
    pieces mark cs = ps ↔ ps ≠ [] ∧ (∀ p ∈ ps, mark ∉ p) ∧ [mark].intercalate ps = cs := by
  constructor
  · rintro rfl
    refine ⟨?_, fun p hp hmark => (mem_of_mem_piece hp hmark).2 rfl, ?_⟩
    · rw [pieces_eq_splitOn]
      exact List.splitOn_ne_nil mark cs
    · rw [pieces_eq_splitOn, List.intercalate_splitOn]
  · rintro ⟨hne, hnone, rfl⟩
    rw [pieces_eq_splitOn, List.splitOn_intercalate mark hnone hne]

end Parley.Text
