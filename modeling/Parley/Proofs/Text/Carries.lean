import Parley.Text.Surrogate

/-!
# Texts that carry code points

A text that was made of code points carries them: they are read back from it, also where another text
follows, so that the lengths of such texts add up.
-/

namespace Parley.Text

theorem codePoints_ofCodePoints_append {ns : List Nat} (h : ∀ n ∈ ns, n < codePointLimit)
    (cs : List Char) : codePoints (ofCodePoints ns ++ cs) = ns ++ codePoints cs := by
  induction ns with
  | nil => rfl
  | cons n ns ih =>
    obtain ⟨hn, hns⟩ := List.forall_mem_cons.mp h
    change codePoints ((carry n ++ ofCodePoints ns) ++ cs) = _
    rw [List.append_assoc, codePoints_carry_append hn, ih hns, List.cons_append]

theorem lt_of_mem_codePoints {cs : List Char} {n : Nat} (h : n ∈ codePoints cs) :
    n < codePointLimit := by
  have hcode (c : Char) : codePoints.code c < codePointLimit := by
    have hc := toNat_lt_codePointLimit c
    unfold codePoints.code
    split <;> omega
  fun_induction codePoints cs with
  | case1 => cases h
  | case2 c =>
    rw [List.mem_singleton.mp h]
    exact hcode c
  | case3 c d rest hmark ih =>
    rcases List.mem_cons.mp h with hd | h
    · rw [hd]
      exact toNat_lt_codePointLimit d
    · exact ih h
  | case4 c d rest hmark ih =>
    rcases List.mem_cons.mp h with hc | h
    · rw [hc]
      exact hcode c
    · exact ih h

theorem eq_of_ofNat_eq_lineFeed {n : Nat} (h : Char.ofNat n = '\n') : n = 10 := by
  by_cases hvalid : n.isValidChar
  · rw [Char.ofNat, dif_pos hvalid] at h
    exact congrArg Char.toNat h
  · rw [Char.ofNat, dif_neg hvalid] at h
    exact absurd h (by decide)

theorem lineFeed_not_mem_ofCodePoints {ns : List Nat} (h : 10 ∉ ns) : '\n' ∉ ofCodePoints ns := by
  intro hmem
  obtain ⟨n, hn, hcarry⟩ := List.mem_flatMap.mp hmem
  have hne : n ≠ 10 := fun hsame => h (hsame ▸ hn)
  have hself : '\n' ≠ Char.ofNat n := fun hsame => hne (eq_of_ofNat_eq_lineFeed hsame.symm)
  have hstandIn : '\n' ≠ Char.ofNat (n + standInOffset) := by
    intro hsame
    have hcode := eq_of_ofNat_eq_lineFeed hsame.symm
    simp only [standInOffset] at hcode
    omega
  have hmark : '\n' ≠ selfMark := by decide
  unfold carry at hcarry
  split at hcarry
  · exact hstandIn (List.mem_singleton.mp hcarry)
  · dsimp only at hcarry
    split at hcarry
    · simp [hself, hmark] at hcarry
    · exact hself (List.mem_singleton.mp hcarry)

theorem ofCodePoints_of_unreserved {cs : List Char} (h : cs.any isReserved = false) :
    ofCodePoints (cs.map Char.toNat) = cs := by
  induction cs with
  | nil => rfl
  | cons c cs ih =>
    rw [List.any_cons, Bool.or_eq_false_iff] at h
    obtain ⟨hc, hcs⟩ := h
    change carry c.toNat ++ ofCodePoints (cs.map Char.toNat) = _
    rw [ih hcs]
    simp [carry, isSurrogate_toNat, hc]

theorem codePoints_of_unreserved {cs : List Char} (h : cs.any isReserved = false) :
    codePoints cs = cs.map Char.toNat := by
  have hcodes : ∀ n ∈ cs.map Char.toNat, n < codePointLimit := by
    rw [List.forall_mem_map]
    intro c _
    exact toNat_lt_codePointLimit c
  have hread := codePoints_ofCodePoints hcodes
  rwa [ofCodePoints_of_unreserved h] at hread

def Carries (s : String) : Prop :=
  ∃ ns, (∀ n ∈ ns, n < codePointLimit) ∧ s.toList = ofCodePoints ns

namespace Carries

variable {s t : String}

theorem eq_of_codePoints (hs : Carries s) (ht : Carries t)
    (h : codePoints s.toList = codePoints t.toList) : s = t := by
  obtain ⟨ns, hns, hs⟩ := hs
  obtain ⟨ms, hms, ht⟩ := ht
  rw [hs, ht, codePoints_ofCodePoints hns, codePoints_ofCodePoints hms] at h
  rw [← String.toList_inj, hs, ht, h]

theorem append (hs : Carries s) (ht : Carries t) : Carries (s ++ t) := by
  obtain ⟨ns, hns, hs⟩ := hs
  obtain ⟨ms, hms, ht⟩ := ht
  refine ⟨ns ++ ms, List.forall_mem_append.mpr ⟨hns, hms⟩, ?_⟩
  rw [String.toList_append, hs, ht, ofCodePoints, ofCodePoints, ofCodePoints, List.flatMap_append]

theorem length_append (hs : Carries s) (t : String) :
    length (s ++ t).toList = length s.toList + length t.toList := by
  obtain ⟨ns, hns, hs⟩ := hs
  rw [String.toList_append, hs, length, length, length, codePoints_ofCodePoints_append hns,
    codePoints_ofCodePoints hns, List.length_append]

theorem length_between (hs : Carries s) (ht : Carries t) (u : String) :
    length (s ++ t ++ u).toList = length s.toList + length t.toList + length u.toList := by
  rw [(hs.append ht).length_append, hs.length_append]

end Carries

theorem carries_ofCodePoints {ns : List Nat} (h : ∀ n ∈ ns, n < codePointLimit) :
    Carries (String.ofList (ofCodePoints ns)) :=
  ⟨ns, h, String.toList_ofList⟩

theorem carries_of_unreserved {s : String} (h : s.toList.any isReserved = false) : Carries s := by
  refine ⟨s.toList.map Char.toNat, ?_, (ofCodePoints_of_unreserved h).symm⟩
  rw [List.forall_mem_map]
  intro c _
  exact toNat_lt_codePointLimit c

end Parley.Text
