import Parley.Terminal.Wrap

/-!
# What rows keep of a paragraph

A paragraph is broken into rows that are no wider than they may be. Read in order, they are the
paragraph without some of its blanks, so all that is no white space stands in them in its order.
-/

namespace Parley.Terminal

open Text

/-- The code points of a text that are no white space. -/
def ink (ns : List Nat) : List Nat := ns.filter fun n => !isBlank (shownChar n)

@[simp] theorem ink_append (ns ms : List Nat) : ink (ns ++ ms) = ink ns ++ ink ms :=
  List.filter_append ..

theorem ink_cons_congr (n : Nat) {ns ms : List Nat} (h : ink ns = ink ms) :
    ink (n :: ns) = ink (n :: ms) := by
  change ink ([n] ++ ns) = ink ([n] ++ ms)
  rw [ink_append, ink_append, h]

theorem ink_cons_of_blank {n : Nat} (h : isBlank (shownChar n) = true) (ns : List Nat) :
    ink (n :: ns) = ink ns := by
  simp [ink, h]

theorem ink_eq_nil {ns : List Nat} (h : ∀ n ∈ ns, isBlank (shownChar n) = true) :
    ink ns = [] := by
  simpa [ink] using h

theorem ink_replicate_space (k : Nat) : ink (List.replicate k space) = [] := by
  apply ink_eq_nil
  intro n hn
  rw [List.eq_of_mem_replicate hn]
  decide

theorem isBlank_of_isBreak {n : Nat} (h : isBreak n = true) : isBlank (shownChar n) = true :=
  isBlank_of_isBreakingBlank h

theorem ink_expandTabs (column : Nat) (ns : List Nat) : ink (expandTabs column ns) = ink ns := by
  induction ns generalizing column with
  | nil => rfl
  | cons n rest ih =>
    rw [expandTabs]
    split
    · rename_i htab
      have hblank : isBlank (shownChar n) = true := by
        rw [eq_of_beq htab]
        decide
      rw [ink_append, ink_replicate_space, ih, ink_cons_of_blank hblank, List.nil_append]
    · split
      · exact ink_cons_congr n (ih 0)
      · exact ink_cons_congr n (ih (column + 1))

theorem ink_normalizeBlanks (ns : List Nat) : ink (normalizeBlanks ns) = ink ns := by
  rw [← ink_expandTabs 0 ns, normalizeBlanks]
  induction expandTabs 0 ns with
  | nil => rfl
  | cons n rest ih =>
    rw [List.map_cons]
    cases hn : isBreak n with
    | true =>
      rw [if_pos rfl, ink_cons_of_blank (by decide), ink_cons_of_blank (isBlank_of_isBreak hn), ih]
    | false =>
      rw [if_neg Bool.false_ne_true]
      exact ink_cons_congr n ih

theorem mem_expandTabs {column n : Nat} {ns : List Nat} (h : n ∈ expandTabs column ns) :
    n = space ∨ n ∈ ns := by
  induction ns generalizing column with
  | nil => cases h
  | cons m rest ih =>
    have hcons {column : Nat} (h : n ∈ m :: expandTabs column rest) : n = space ∨ n ∈ m :: rest := by
      rcases List.mem_cons.mp h with rfl | h
      · exact .inr List.mem_cons_self
      · exact (ih h).imp_right (List.mem_cons_of_mem m)
    rw [expandTabs] at h
    split at h
    · rcases List.mem_append.mp h with h | h
      · exact .inl (List.eq_of_mem_replicate h)
      · exact (ih h).imp_right (List.mem_cons_of_mem m)
    · split at h <;> exact hcons h

theorem mem_normalizeBlanks {n : Nat} {ns : List Nat} (h : n ∈ normalizeBlanks ns) :
    n = space ∨ n ∈ ns := by
  obtain ⟨m, hm, hn⟩ := List.mem_map.mp h
  split at hn
  · exact .inl hn.symm
  · exact mem_expandTabs (hn ▸ hm)

/-- A text is another without some of its blanks. -/
structure Thinned (ns ms : List Nat) : Prop where
  sublist : ns.Sublist ms
  ink_eq : ink ns = ink ms

namespace Thinned

variable {ns ms ns' ms' : List Nat}

theorem refl (ns : List Nat) : Thinned ns ns := ⟨.refl ns, rfl⟩

theorem trans {ks : List Nat} (h : Thinned ns ms) (h' : Thinned ms ks) : Thinned ns ks :=
  ⟨h.sublist.trans h'.sublist, h.ink_eq.trans h'.ink_eq⟩

theorem append (h : Thinned ns ms) (h' : Thinned ns' ms') : Thinned (ns ++ ns') (ms ++ ms') :=
  ⟨h.sublist.append h'.sublist, by rw [ink_append, ink_append, h.ink_eq, h'.ink_eq]⟩

theorem of_blank (h : ∀ n ∈ ms, isBlank (shownChar n) = true) : Thinned [] ms :=
  ⟨List.nil_sublist ms, (ink_eq_nil h).symm⟩

end Thinned

theorem thinned_of_isBlankChunk {chunk : List Nat} (h : isBlankChunk chunk = true) :
    Thinned [] chunk :=
  .of_blank (List.all_eq_true.mp h)

theorem flatten_chunksFrom {steps : Nat} {behind ns : List Nat} (h : ns.length ≤ steps) :
    (chunksFrom steps behind ns).flatten = ns := by
  induction steps generalizing behind ns with
  | zero => rw [List.length_eq_zero_iff.mp (Nat.le_zero.mp h), chunksFrom, List.flatten_nil]
  | succ steps ih =>
    rw [chunksFrom]
    split
    · rename_i hempty
      rw [List.isEmpty_iff.mp hempty, List.flatten_nil]
    · have hrest : (ns.drop (max 1 (chunkLength behind ns))).length ≤ steps := by
        rw [List.length_drop]
        omega
      rw [List.flatten_cons, ih hrest, List.take_append_drop]

theorem ne_nil_of_mem_chunksFrom {steps : Nat} {behind ns chunk : List Nat}
    (h : chunk ∈ chunksFrom steps behind ns) : chunk ≠ [] := by
  induction steps generalizing behind ns with
  | zero => cases h
  | succ steps ih =>
    rw [chunksFrom] at h
    split at h
    · cases h
    · rename_i hne
      rcases List.mem_cons.mp h with rfl | h
      · rw [List.isEmpty_iff] at hne
        rw [ne_eq, List.take_eq_nil_iff, not_or]
        exact ⟨by omega, hne⟩
      · exact ih h

theorem fill_append (width used : Nat) (cs : List (List Nat)) :
    (fill width used cs).1 ++ (fill width used cs).2 = cs := by
  induction cs generalizing used with
  | nil => rfl
  | cons chunk rest ih =>
    rw [fill]
    split
    · rw [List.cons_append, ih]
    · rfl

theorem length_fill_le {width used : Nat} (h : used ≤ width) (cs : List (List Nat)) :
    used + (fill width used cs).1.flatten.length ≤ width := by
  induction cs generalizing used with
  | nil => exact h
  | cons chunk rest ih =>
    rw [fill]
    split
    · rename_i hfits
      have hrest := ih hfits
      rw [List.flatten_cons, List.length_append]
      omega
    · exact h

/-- The first chunk that is left does not fit after those that are taken. -/
theorem lt_of_fill {width used : Nat} {cs rest : List (List Nat)} {chunk : List Nat}
    (h : (fill width used cs).2 = chunk :: rest) :
    width < used + (fill width used cs).1.flatten.length + chunk.length := by
  induction cs generalizing used with
  | nil => cases h
  | cons c cs ih =>
    rw [fill] at h ⊢
    split at h
    · rename_i hfits
      have hrest := ih h
      rw [if_pos hfits, List.flatten_cons, List.length_append]
      omega
    · rename_i hfits
      rw [if_neg hfits]
      cases h
      simpa using hfits

theorem cutLength_le (room : Nat) (chunk : List Nat) : cutLength room chunk ≤ room := by
  unfold cutLength
  dsimp only
  have hfitting := List.length_take_le room chunk
  split
  · rename_i h
    simp only [Bool.and_eq_true, decide_eq_true_eq] at h
    omega
  · exact Nat.le_refl room

theorem cutLength_pos {room : Nat} (h : 0 < room) (chunk : List Nat) :
    0 < cutLength room chunk := by
  unfold cutLength
  dsimp only
  split
  · exact Nat.succ_pos _
  · exact h

theorem thinned_dropBlankEnd (row : List (List Nat)) :
    Thinned (dropBlankEnd row).flatten row.flatten := by
  unfold dropBlankEnd
  split
  · rename_i chunk hlast
    split
    · rename_i hblank
      obtain ⟨front, rfl⟩ := List.getLast?_eq_some_iff.mp hlast
      rw [List.dropLast_concat, List.flatten_append, List.flatten_singleton]
      simpa using (Thinned.refl front.flatten).append (thinned_of_isBlankChunk hblank)
    · exact .refl _
  · exact .refl _

/-- What a row takes of chunks and what it leaves: all of them fit; or the next does not fit any
more; or the next fits no row and is cut. -/
inductive Takes (width : Nat) : List (List Nat) → List (List Nat) → List (List Nat) → Prop where
  | all {row : List (List Nat)} (fits : row.flatten.length ≤ width) :
      Takes width row (dropBlankEnd row) []
  | stop {row rest : List (List Nat)} {chunk : List Nat} (fits : row.flatten.length ≤ width)
      (filled : row ≠ []) : Takes width (row ++ chunk :: rest) (dropBlankEnd row) (chunk :: rest)
  | cut {row rest : List (List Nat)} {chunk : List Nat} {n : Nat}
      (fits : row.flatten.length + n ≤ width) (long : width < chunk.length)
      (gains : row = [] → 0 < width → 0 < n) :
      Takes width (row ++ chunk :: rest) (dropBlankEnd (row ++ [chunk.take n]))
        (chunk.drop n :: rest)

theorem takes_takeRow (width : Nat) (cs : List (List Nat)) :
    Takes width cs (takeRow width cs).1 (takeRow width cs).2 := by
  have happend := fill_append width 0 cs
  have hfits := length_fill_le (Nat.zero_le width) cs
  have hnext {chunk : List Nat} {rest : List (List Nat)} := @lt_of_fill width 0 cs rest chunk
  rw [Nat.zero_add] at hfits
  unfold takeRow
  -- What is filled and what is left are known by these three facts alone.
  generalize fill width 0 cs = r at happend hfits hnext
  obtain ⟨row, left⟩ := r
  dsimp only at happend hfits hnext ⊢
  subst happend
  cases left with
  | nil =>
    rw [List.append_nil]
    exact .all hfits
  | cons chunk rest =>
    have hfull := hnext rfl
    dsimp only
    split
    · rename_i hlong
      have hcut := cutLength_le (width - row.flatten.length) chunk
      refine .cut (by omega) hlong ?_
      rintro rfl hwidth
      exact cutLength_pos hwidth chunk
    · refine .stop hfits ?_
      rintro rfl
      simp only [List.flatten_nil, List.length_nil] at hfull
      omega

namespace Takes

variable {width : Nat} {cs row left : List (List Nat)}

theorem thinned (h : Takes width cs row left) :
    Thinned (row.flatten ++ left.flatten) cs.flatten := by
  cases h with
  | all =>
    rw [List.flatten_nil, List.append_nil]
    exact thinned_dropBlankEnd cs
  | stop =>
    rw [List.flatten_append]
    exact (thinned_dropBlankEnd _).append (.refl _)
  | @cut row rest chunk n =>
    have hcut : (row ++ chunk :: rest).flatten =
        (row ++ [chunk.take n]).flatten ++ (chunk.drop n :: rest).flatten := by
      rw [List.flatten_append, List.flatten_append, List.flatten_singleton, List.flatten_cons,
        List.flatten_cons, List.append_assoc, ← List.append_assoc (chunk.take n),
        List.take_append_drop]
    rw [hcut]
    exact (thinned_dropBlankEnd _).append (.refl _)

theorem length_le (h : Takes width cs row left) : row.flatten.length ≤ width := by
  have hdrop (row : List (List Nat)) := (thinned_dropBlankEnd row).sublist.length_le
  cases h with
  | all fits => exact Nat.le_trans (hdrop _) fits
  | stop fits => exact Nat.le_trans (hdrop _) fits
  | @cut row rest chunk n fits =>
    apply Nat.le_trans (hdrop _)
    rw [List.flatten_append, List.flatten_singleton, List.length_append, List.length_take]
    omega

theorem ne_nil (h : Takes width cs row left) (hchunks : ∀ chunk ∈ cs, chunk ≠ []) :
    ∀ chunk ∈ left, chunk ≠ [] := by
  cases h with
  | all => exact List.forall_mem_nil _
  | stop =>
    intro chunk hchunk
    exact hchunks chunk (List.mem_append_right _ hchunk)
  | @cut row rest chunk n fits long =>
    rw [List.forall_mem_cons]
    constructor
    · rw [ne_eq, List.drop_eq_nil_iff]
      omega
    · intro c hc
      exact hchunks c (List.mem_append_right _ (List.mem_cons_of_mem _ hc))

theorem length_lt (h : Takes width cs row left) (hwidth : 0 < width) (hcs : cs ≠ [])
    (hchunks : ∀ chunk ∈ cs, chunk ≠ []) : left.flatten.length < cs.flatten.length := by
  have hpos {row : List (List Nat)} (hrow : row ≠ []) (hmem : row ⊆ cs) :
      0 < row.flatten.length := by
    obtain ⟨chunk, rest, rfl⟩ := List.exists_cons_of_ne_nil hrow
    have hchunk := List.length_pos_iff.mpr (hchunks chunk (hmem List.mem_cons_self))
    rw [List.flatten_cons, List.length_append]
    omega
  cases h with
  | all => exact hpos hcs (List.Subset.refl cs)
  | stop fits filled =>
    have hrow := hpos filled (List.subset_append_left _ _)
    rw [List.flatten_append, List.length_append]
    omega
  | @cut row rest chunk n fits long gains =>
    have hgain : 0 < row.flatten.length ∨ 0 < n := by
      by_cases hrow : row = []
      · exact .inr (gains hrow hwidth)
      · exact .inl (hpos hrow (List.subset_append_left _ _))
    rw [List.flatten_append, List.flatten_cons, List.flatten_cons]
    simp only [List.length_append, List.length_drop]
    omega

end Takes

theorem skipBlank_cases (first : Bool) (cs : List (List Nat)) :
    skipBlank first cs = cs ∨ ∃ chunk rest, isBlankChunk chunk = true ∧ cs = chunk :: rest ∧
      skipBlank first cs = rest := by
  cases cs with
  | nil => exact .inl rfl
  | cons chunk rest =>
    unfold skipBlank
    dsimp only
    split
    · rename_i h
      exact .inr ⟨chunk, rest, (Bool.and_eq_true_iff.mp h).1, rfl, rfl⟩
    · exact .inl rfl

theorem length_le_of_mem_rowsFrom {width steps : Nat} {first : Bool} {cs : List (List Nat)} :
    ∀ row ∈ rowsFrom width steps first cs, row.length ≤ width := by
  induction steps generalizing first cs with
  | zero => exact List.forall_mem_nil _
  | succ steps ih =>
    rw [rowsFrom]
    split
    · exact List.forall_mem_nil _
    · dsimp only
      split
      · exact ih
      · rw [List.forall_mem_cons]
        exact ⟨(takes_takeRow ..).length_le, ih⟩

section

variable {width : Nat} {cs : List (List Nat)}

theorem thinned_nextRow (width : Nat) (first : Bool) (cs : List (List Nat)) :
    Thinned ((nextRow width first cs).1.flatten ++ (nextRow width first cs).2.flatten)
      cs.flatten := by
  unfold nextRow
  rcases skipBlank_cases first cs with hskip | ⟨chunk, rest, hblank, rfl, hskip⟩
  · rw [hskip]
    exact (takes_takeRow width cs).thinned
  · rw [hskip]
    exact (thinned_of_isBlankChunk hblank).append (takes_takeRow width rest).thinned

theorem length_nextRow_lt (hwidth : 0 < width) (first : Bool) (hcs : cs ≠ [])
    (hchunks : ∀ chunk ∈ cs, chunk ≠ []) :
    (nextRow width first cs).2.flatten.length < cs.flatten.length := by
  unfold nextRow
  rcases skipBlank_cases first cs with hskip | ⟨chunk, rest, hblank, rfl, hskip⟩
  · rw [hskip]
    exact (takes_takeRow width cs).length_lt hwidth hcs hchunks
  · have hlength := (takes_takeRow width rest).thinned.sublist.length_le
    have hchunk := List.length_pos_iff.mpr (hchunks chunk List.mem_cons_self)
    rw [List.length_append] at hlength
    rw [hskip, List.flatten_cons, List.length_append]
    omega

theorem ne_nil_of_mem_nextRow (width : Nat) (first : Bool) (hchunks : ∀ chunk ∈ cs, chunk ≠ []) :
    ∀ chunk ∈ (nextRow width first cs).2, chunk ≠ [] := by
  apply (takes_takeRow width (skipBlank first cs)).ne_nil
  rcases skipBlank_cases first cs with hskip | ⟨chunk, rest, -, rfl, hskip⟩
  · rwa [hskip]
  · rw [hskip]
    exact (List.forall_mem_cons.mp hchunks).2

theorem thinned_rowsFrom (hwidth : 0 < width) {steps : Nat} {first : Bool}
    (hchunks : ∀ chunk ∈ cs, chunk ≠ []) (hsteps : cs.flatten.length ≤ steps) :
    Thinned (rowsFrom width steps first cs).flatten cs.flatten := by
  -- A row leaves less than it finds, also one that is dropped as empty, so there are steps for what
  -- it leaves.
  induction steps generalizing first cs with
  | zero =>
    rw [List.length_eq_zero_iff.mp (Nat.le_zero.mp hsteps)]
    exact .refl []
  | succ steps ih =>
    rw [rowsFrom]
    split
    · rename_i hempty
      rw [List.isEmpty_iff.mp hempty]
      exact .refl []
    · rename_i hne
      rw [List.isEmpty_iff] at hne
      have hrow := thinned_nextRow width first cs
      have hlength := length_nextRow_lt hwidth first hne hchunks
      have hleft (first' : Bool) : Thinned
          (rowsFrom width steps first' (nextRow width first cs).2).flatten
          (nextRow width first cs).2.flatten :=
        ih (ne_nil_of_mem_nextRow width first hchunks) (by omega)
      dsimp only
      split
      · rename_i hempty
        rw [List.isEmpty_iff.mp hempty] at hrow
        exact (hleft first).trans hrow
      · rw [List.flatten_cons]
        exact ((Thinned.refl _).append (hleft false)).trans hrow

end

theorem length_le_of_mem_wrap {width : Nat} {ns row : List Nat} (h : row ∈ wrap width ns) :
    row.length ≤ width :=
  length_le_of_mem_rowsFrom row h

theorem thinned_wrap {width : Nat} (hwidth : 0 < width) (ns : List Nat) :
    Thinned (wrap width ns).flatten (normalizeBlanks ns) := by
  have hchunks : (chunks (normalizeBlanks ns)).flatten = normalizeBlanks ns :=
    flatten_chunksFrom (Nat.le_refl _)
  have hsteps : (chunks (normalizeBlanks ns)).flatten.length ≤
      2 * (normalizeBlanks ns).length + 1 := by
    rw [hchunks]
    omega
  have hrows : Thinned (wrap width ns).flatten (chunks (normalizeBlanks ns)).flatten :=
    thinned_rowsFrom hwidth (fun _ => ne_nil_of_mem_chunksFrom) hsteps
  rwa [hchunks] at hrows

theorem mem_of_mem_wrap {width n : Nat} {ns row : List Nat} (hwidth : 0 < width)
    (hrow : row ∈ wrap width ns) (hn : n ∈ row) : n = space ∨ n ∈ ns :=
  mem_normalizeBlanks ((thinned_wrap hwidth ns).sublist.subset (List.mem_flatten_of_mem hrow hn))

end Parley.Terminal
