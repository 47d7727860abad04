import Mathlib.Data.List.Lex
import Parley.Proofs.Text.Carries
import Parley.Text.Order

/-!
# Texts in order

To sort texts and to drop those that are empty or that occur before leaves each of the others once,
in the order of code points. Texts that carry code points are in strict order then, because no two
of them carry the same.
-/

namespace Parley

theorem codePointLE_iff {a b : String} :
    codePointLE a b = true ↔ Text.codePoints a.toList ≤ Text.codePoints b.toList := by
  simp [codePointLE]

theorem pairwise_sortedTexts (texts : List String) :
    (sortedTexts texts).Pairwise fun a b =>
      Text.codePoints a.toList ≤ Text.codePoints b.toList := by
  have htrans : ∀ a b c, codePointLE a b = true → codePointLE b c = true →
      codePointLE a c = true := by
    simp only [codePointLE_iff]
    exact fun a b c => le_trans
  have htotal : ∀ a b, (codePointLE a b || codePointLE b a) = true := by
    simp only [Bool.or_eq_true, codePointLE_iff]
    exact fun a b => le_total _ _
  exact (List.pairwise_mergeSort htrans htotal texts).imp codePointLE_iff.mp

theorem nodup_eraseDups (texts : List String) : texts.eraseDups.Nodup := by
  match texts with
  | [] => exact .nil
  | s :: rest =>
    rw [List.eraseDups_cons, List.nodup_cons]
    exact ⟨by simp, nodup_eraseDups _⟩
termination_by texts.length
decreasing_by exact Nat.lt_succ_of_le (List.length_filter_le ..)

theorem mem_sortedDistinct {texts : List String} {s : String} :
    s ∈ sortedDistinct texts ↔ s ∈ texts ∧ s ≠ "" := by
  rw [sortedDistinct, sortedTexts, List.mem_mergeSort, List.mem_eraseDups, List.mem_filter]
  simp

theorem nodup_sortedDistinct (texts : List String) : (sortedDistinct texts).Nodup :=
  (List.mergeSort_perm _ _).nodup_iff.mpr (nodup_eraseDups _)

/-- Texts that carry code points are in strict order after sorting. -/
theorem pairwise_sortedDistinct {texts : List String}
    (h : ∀ s ∈ sortedDistinct texts, Text.Carries s) :
    (sortedDistinct texts).Pairwise fun a b =>
      Text.codePoints a.toList < Text.codePoints b.toList := by
  refine ((pairwise_sortedTexts _).and (nodup_sortedDistinct texts)).imp_of_mem ?_
  rintro a b ha hb ⟨hle, hne⟩
  exact lt_of_le_of_ne hle fun hsame => hne ((h a ha).eq_of_codePoints (h b hb) hsame)

end Parley
