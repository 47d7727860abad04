import Parley.Double

/-!
# The range of integers as doubles

An integer is rounded to infinity exactly from the middle between the largest finite number and the
next power of two on, where the tie goes to the even one.
-/

namespace Parley.Double

theorem exponentOf_one {n : Nat} (h : n ≠ 0) : exponentOf n 1 = (Nat.log2 n : Int) - 52 := by
  have hlow : twoTo n.log2 ≤ n := Nat.log2_self_le h
  have hguess : ¬ (scaled n 1 ((n.log2 : Int) - (Nat.log2 1 : Int) - 53)).1 /
      (scaled n 1 ((n.log2 : Int) - (Nat.log2 1 : Int) - 53)).2 < twoTo 53 := by
    have hone : Nat.log2 1 = 0 := by decide
    rw [hone, Nat.not_lt]
    unfold scaled
    split
    · rename_i hlarge
      have hsplit : n.log2 = 53 + (n.log2 - 53) := by omega
      have hplace : ((n.log2 : Int) - ((0 : Nat) : Int) - 53).toNat = n.log2 - 53 := by omega
      rw [hplace, Nat.one_mul, Nat.le_div_iff_mul_le (twoTo_pos _), ← twoTo_add, ← hsplit]
      exact hlow
    · rename_i hsmall
      have hsplit : n.log2 + (53 - n.log2) = 53 := by omega
      have hplace : (-((n.log2 : Int) - ((0 : Nat) : Int) - 53)).toNat = 53 - n.log2 := by omega
      rw [hplace, Nat.div_one]
      calc twoTo 53 = twoTo n.log2 * twoTo (53 - n.log2) := by rw [← twoTo_add, hsplit]
        _ ≤ n * twoTo (53 - n.log2) := Nat.mul_le_mul_right _ hlow
  unfold exponentOf
  dsimp only
  rw [if_neg hguess]
  have hone : Nat.log2 1 = 0 := by decide
  simp only [leastExponent, hone]
  omega

theorem roundQuotient_eq_twoTo_iff {n half : Nat} (hhalf : 0 < half)
    (hn : n < twoTo 53 * (2 * half)) :
    roundQuotient n (2 * half) = twoTo 53 ↔ twoTo 53 * (2 * half) ≤ n + half := by
  have hfifty : twoTo 53 = 9007199254740992 := by decide
  rw [hfifty] at hn ⊢
  constructor
  · intro h
    have hbound := (roundQuotient_bounds n (show 0 < 2 * half by omega)).2
    rw [h] at hbound
    omega
  · intro h
    have hquotient : n / (2 * half) = 9007199254740991 := by
      rw [Nat.div_eq_iff (by omega)]
      omega
    have hrest := Nat.div_add_mod n (2 * half)
    rw [hquotient] at hrest
    unfold roundQuotient
    dsimp only
    rw [hquotient, if_pos]
    simp only [Bool.or_eq_true, decide_eq_true_eq, Bool.and_eq_true, beq_iff_eq, and_true]
    omega

/-- Rounding overflows if the mantissa does not fit below the greatest exponent. -/
theorem isFinite_ofRatio {negative : Bool} {num den : Nat} (h : num ≠ 0) :
    (ofRatio negative num den).isFinite = false ↔ greatestExponent <
      if roundQuotient (scaled num den (exponentOf num den)).1
          (scaled num den (exponentOf num den)).2 = twoTo 53
        then exponentOf num den + 1 else exponentOf num den := by
  unfold ofRatio
  rw [if_neg h]
  dsimp only
  by_cases hcarry : roundQuotient (scaled num den (exponentOf num den)).1
      (scaled num den (exponentOf num den)).2 = twoTo 53
  · rw [if_pos hcarry, if_pos hcarry]
    by_cases hover : greatestExponent < exponentOf num den + 1
    · simp [hover, isFinite]
    · simp [hover, isFinite]
  · rw [if_neg hcarry, if_neg hcarry]
    by_cases hover : greatestExponent < exponentOf num den
    · simp [hover, isFinite]
    · simp [hover, isFinite]

/-- From the middle between the largest finite number and the next power of two on, the nearest
number is infinite. -/
theorem isFinite_ofRatio_one (negative : Bool) (n : Nat) :
    (ofRatio negative n 1).isFinite = false ↔ twoTo 1024 ≤ n + twoTo 970 := by
  have hmiddle : 0 < twoTo 970 := twoTo_pos 970
  have hscale : twoTo 971 = 2 * twoTo 970 := twoTo_succ 970
  have htop : twoTo 1024 = twoTo 53 * (2 * twoTo 970) := by rw [← hscale, ← twoTo_add]
  have hbelow : twoTo 1024 = 2 * twoTo 1023 := twoTo_succ 1023
  have hfifty : twoTo 53 = 9007199254740992 := by decide
  have hvalue : twoTo 1024 = 9007199254740992 * (2 * twoTo 970) := by rw [htop, hfifty]
  by_cases hzero : n = 0
  · subst hzero
    exact iff_of_false (by rintro ⟨⟩) (by omega)
  have hlow : twoTo n.log2 ≤ n := Nat.log2_self_le hzero
  have hhigh : n < twoTo (n.log2 + 1) := Nat.lt_log2_self
  have hmono {i j : Nat} (h : i ≤ j) : twoTo i ≤ twoTo j := Nat.pow_le_pow_right (by decide) h
  rw [isFinite_ofRatio hzero, exponentOf_one hzero]
  rcases Nat.lt_trichotomy n.log2 1023 with hsmall | hedge | hlarge
  · -- The number is below half the next power of two, so a carry still fits.
    have hbound := hmono (show n.log2 + 1 ≤ 1023 by omega)
    refine iff_of_false ?_ (by omega)
    unfold greatestExponent
    split <;> omega
  · have hscaled : scaled n 1 ((n.log2 : Int) - 52) = (n, 2 * twoTo 970) := by
      rw [hedge, ← hscale]
      exact congrArg (Prod.mk n) (Nat.one_mul _)
    rw [hedge] at hhigh
    rw [hscaled, hedge, htop, ← roundQuotient_eq_twoTo_iff hmiddle (htop ▸ hhigh)]
    unfold greatestExponent
    split
    · rename_i hcarry
      exact iff_of_true (by omega) hcarry
    · rename_i hcarry
      exact iff_of_false (by omega) hcarry
  · have hbound := hmono (show 1024 ≤ n.log2 by omega)
    refine iff_of_true ?_ (by omega)
    unfold greatestExponent
    split <;> omega

theorem ofInt?_eq_none_iff (n : Int) : ofInt? n = none ↔ twoTo 1024 ≤ n.natAbs + twoTo 970 := by
  rw [← isFinite_ofRatio_one (n < 0)]
  unfold ofInt? ofInt
  dsimp only
  cases (ofRatio (n < 0) n.natAbs 1).isFinite <;> simp

end Parley.Double
