import Mathlib.Data.List.Infix
import Parley.Text.Replace

/-!
# Replacing parts one after another

Parts of a text are replaced all at once if what is inserted is not searched again. To replace them
one after another comes to the same unless a text that stands for one part, put where that part was,
lets another part appear.
-/

namespace Parley.Text

section

variable {α : Type}

/-- Replaces the parts of all entries at once, from left to right. Of two that begin at one place
the first entry counts. -/
def replaceEach (part new : α → List Char) (as : List α) (cs : List Char) : List Char :=
  match cs with
  | [] => []
  | c :: rest => match as.find? fun a => (part a).isPrefixOf (c :: rest) with
    | some a => new a ++ replaceEach part new as (rest.drop ((part a).length - 1))
    | none => c :: replaceEach part new as rest
termination_by cs.length
decreasing_by
  · simp only [List.length_drop, List.length_cons]
    omega
  · simp

variable {part new new' : α → List Char} {as : List α}

/-- An entry is the first whose part a text begins with. -/
def Begins (part : α → List Char) (as : List α) (a : α) (cs : List Char) : Prop :=
  as.find? (fun b => (part b).isPrefixOf cs) = some a

theorem Begins.mem {a : α} {cs : List Char} (h : Begins part as a cs) : a ∈ as :=
  List.mem_of_find?_eq_some h

/-- A text begins with the part of an entry, or it is empty or begins with another character. -/
theorem partInduction (hparts : ∀ a ∈ as, part a ≠ []) {P : List Char → Prop} (nil : P [])
    (found : ∀ a rest, Begins part as a (part a ++ rest) → P rest → P (part a ++ rest))
    (skip : ∀ c rest, (∀ a ∈ as, ¬ part a <+: c :: rest) → P rest → P (c :: rest))
    (cs : List Char) : P cs := by
  match cs with
  | [] => exact nil
  | c :: rest =>
    cases hfind : as.find? fun a => (part a).isPrefixOf (c :: rest) with
    | none =>
      refine skip c rest ?_ (partInduction hparts nil found skip rest)
      simpa using hfind
    | some a =>
      have hbegins : (part a).isPrefixOf (c :: rest) = true :=
        List.find?_some (p := fun a => (part a).isPrefixOf (c :: rest)) hfind
      obtain ⟨tail, htail⟩ := List.isPrefixOf_iff_prefix.mp hbegins
      have hlength : tail.length < (c :: rest).length := by
        have := List.length_pos_iff.mpr (hparts a (List.mem_of_find?_eq_some hfind))
        rw [← htail, List.length_append]
        omega
      rw [← htail] at hfind ⊢
      exact found a tail hfind (partInduction hparts nil found skip tail)
termination_by cs.length
decreasing_by
  · exact Nat.lt_succ_self rest.length
  · exact hlength

@[simp] theorem replaceEach_nil : replaceEach part new as [] = [] := by rw [replaceEach]

theorem replaceEach_of_begins {a : α} {rest : List Char} (ha : part a ≠ [])
    (h : Begins part as a (part a ++ rest)) :
    replaceEach part new as (part a ++ rest) = new a ++ replaceEach part new as rest := by
  obtain ⟨c, tail, htail⟩ := List.exists_cons_of_ne_nil ha
  unfold Begins at h
  rw [htail, List.cons_append] at h ⊢
  rw [replaceEach, h]
  simp [htail]

theorem replaceEach_cons {c : Char} {rest : List Char} (h : ∀ a ∈ as, ¬ part a <+: c :: rest) :
    replaceEach part new as (c :: rest) = c :: replaceEach part new as rest := by
  have hnone : as.find? (fun a => (part a).isPrefixOf (c :: rest)) = none := by simpa using h
  rw [replaceEach, hnone]

theorem replaceEach_congr (hparts : ∀ a ∈ as, part a ≠ []) (h : ∀ a ∈ as, new a = new' a)
    (cs : List Char) : replaceEach part new as cs = replaceEach part new' as cs := by
  induction cs using partInduction hparts with
  | nil => simp
  | found a rest hbegins ih =>
    have ha := hparts a hbegins.mem
    rw [replaceEach_of_begins ha hbegins, replaceEach_of_begins ha hbegins, h a hbegins.mem, ih]
  | skip c rest hnone ih => rw [replaceEach_cons hnone, replaceEach_cons hnone, ih]

theorem replaceEach_self (hparts : ∀ a ∈ as, part a ≠ []) (cs : List Char) :
    replaceEach part part as cs = cs := by
  induction cs using partInduction hparts with
  | nil => simp
  | found a rest hbegins ih => rw [replaceEach_of_begins (hparts a hbegins.mem) hbegins, ih]
  | skip c rest hnone ih => rw [replaceEach_cons hnone, ih]

end

section

variable {part new cs : List Char}

@[simp] theorem replaceAll_nil : replaceAll part new [] = [] := by rw [replaceAll]

theorem replaceAll_part_append (hpart : part ≠ []) (new rest : List Char) :
    replaceAll part new (part ++ rest) = new ++ replaceAll part new rest := by
  obtain ⟨c, tail, rfl⟩ := List.exists_cons_of_ne_nil hpart
  rw [List.cons_append, replaceAll, if_pos (by simp)]
  simp

theorem replaceAll_cons {c : Char} {rest : List Char} (h : ¬ part <+: c :: rest) :
    replaceAll part new (c :: rest) = c :: replaceAll part new rest := by
  refine replaceAll_cons_of_not_prefix ?_
  rwa [← Bool.not_eq_true, List.isPrefixOf_iff_prefix]

theorem replaceAll_append {front rest : List Char}
    (h : ∀ s, s <:+ front → s ≠ [] → ¬ part <+: s ++ rest) :
    replaceAll part new (front ++ rest) = front ++ replaceAll part new rest := by
  induction front with
  | nil => rfl
  | cons c front ih =>
    have hfirst : ¬ part <+: c :: (front ++ rest) :=
      h (c :: front) List.suffix_rfl (List.cons_ne_nil c front)
    have hrest := ih fun s hs => h s (hs.trans (List.suffix_cons c front))
    rw [List.cons_append, replaceAll_cons hfirst, hrest, List.cons_append]

theorem replaceAll_of_not_infix (h : ¬ part <:+: cs) : replaceAll part new cs = cs := by
  have hkept : replaceAll part new (cs ++ []) = cs ++ replaceAll part new [] := by
    refine replaceAll_append ?_
    intro s hs _ hbegins
    exact h ((List.append_nil s ▸ hbegins).isInfix.trans hs.isInfix)
  simpa using hkept

/-- A text begins with a part, or it is empty or begins with another character. -/
theorem singlePartInduction (hpart : part ≠ []) {P : List Char → Prop} (nil : P [])
    (found : ∀ rest, P rest → P (part ++ rest))
    (skip : ∀ c rest, ¬ part <+: c :: rest → P rest → P (c :: rest)) (cs : List Char) : P cs := by
  have hparts : ∀ a ∈ [part], id a ≠ [] := by simpa using hpart
  induction cs using partInduction hparts with
  | nil => exact nil
  | found a rest hbegins ih =>
    obtain rfl := List.mem_singleton.mp hbegins.mem
    exact found rest ih
  | skip c rest hnone ih => exact skip c rest (hnone part List.mem_cons_self) ih

theorem replaceAll_self (hpart : part ≠ []) (cs : List Char) : replaceAll part part cs = cs := by
  induction cs using singlePartInduction hpart with
  | nil => simp
  | found rest ih => rw [replaceAll_part_append hpart, ih]
  | skip c rest hnone ih => rw [replaceAll_cons hnone, ih]

/-- Each occurrence takes the length of the part away and brings that of what is inserted. -/
theorem exists_length_replaceAll (hpart : part ≠ []) (new cs : List Char) :
    ∃ n, (replaceAll part new cs).length + n * part.length = cs.length + n * new.length := by
  induction cs using singlePartInduction hpart with
  | nil => exact ⟨0, by simp⟩
  | found rest ih =>
    obtain ⟨n, hn⟩ := ih
    refine ⟨n + 1, ?_⟩
    rw [replaceAll_part_append hpart]
    simp only [List.length_append, Nat.succ_mul]
    omega
  | skip c rest hnone ih =>
    obtain ⟨n, hn⟩ := ih
    refine ⟨n, ?_⟩
    rw [replaceAll_cons hnone]
    simp only [List.length_cons]
    omega

/-- A text in which the part occurs changes, unless the part is replaced by itself. -/
theorem eq_of_replaceAll_eq_self (hpart : part ≠ []) (h : part <:+: cs)
    (hsame : replaceAll part new cs = cs) : new = part := by
  induction cs using singlePartInduction hpart with
  | nil => exact absurd (List.infix_nil.mp h) hpart
  | found rest ih =>
    rw [replaceAll_part_append hpart] at hsame
    obtain ⟨n, hn⟩ := exists_length_replaceAll hpart new rest
    have hlengths := congrArg List.length hsame
    simp only [List.length_append] at hlengths
    have hequal : (n + 1) * new.length = (n + 1) * part.length := by
      simp only [Nat.succ_mul]
      omega
    exact (List.append_inj hsame (Nat.eq_of_mul_eq_mul_left n.succ_pos hequal)).1
  | skip c rest hnone ih =>
    rw [replaceAll_cons hnone] at hsame
    exact ih ((List.infix_cons_iff.mp h).resolve_left hnone) (List.tail_eq_of_cons_eq hsame)

end

/-- A text completes a part: with a proper beginning of the part before it and a proper end after
it, the part occurs. -/
def Completes (text part : List Char) : Prop :=
  ∃ before after, before <+: part ∧ before ≠ part ∧ after <:+ part ∧ after ≠ part ∧
    part <:+: before ++ text ++ after

instance (text part : List Char) : Decidable (Completes text part) :=
  decidable_of_iff (∃ before ∈ part.inits, ∃ after ∈ part.tails, before ≠ part ∧ after ≠ part ∧
    part <:+: before ++ text ++ after) (by
      simp only [List.mem_inits, List.mem_tails, Completes]
      constructor
      · rintro ⟨before, hbefore, after, hafter, hne, hne', hoccurs⟩
        exact ⟨before, after, hbefore, hne, hafter, hne', hoccurs⟩
      · rintro ⟨before, after, hbefore, hne, hafter, hne', hoccurs⟩
        exact ⟨before, hbefore, after, hafter, hne, hne', hoccurs⟩)

section

variable {text part : List Char}

theorem not_begins_of_not_completes (hpart : part ≠ []) (h : ¬ Completes text part)
    {s rest : List Char} (hs : s <:+ text) (hne : s ≠ []) : ¬ part <+: s ++ rest := by
  rintro ⟨tail, htail⟩
  apply h
  obtain ⟨u, rfl⟩ := hs
  rcases List.append_eq_append_iff.mp htail with ⟨b, rfl, -⟩ | ⟨after, rfl, -⟩
  · exact ⟨[], [], List.nil_prefix, hpart.symm, List.nil_suffix, hpart.symm, u, b, by simp⟩
  · refine ⟨[], after, List.nil_prefix, hpart.symm, ⟨s, rfl⟩, ?_, u, [], by simp⟩
    intro hsame
    exact hne (List.self_eq_append_left.mp hsame)

theorem not_goes_on_of_not_completes (h : ¬ Completes text part) {front back rest : List Char}
    (hfront : front ≠ []) (hback : back ≠ []) (hsplit : part = front ++ back) :
    ¬ back <+: text ++ rest := by
  rintro ⟨tail, htail⟩
  apply h
  subst hsplit
  have hbefore : front ≠ front ++ back := fun hsame => hback (List.self_eq_append_right.mp hsame)
  rcases List.append_eq_append_iff.mp htail with ⟨c, rfl, -⟩ | ⟨after, rfl, -⟩
  · refine ⟨front, [], List.prefix_append _ _, hbefore, List.nil_suffix, ?_, [], c, by simp⟩
    simp [hback]
  · refine ⟨front, after, List.prefix_append _ _, hbefore, ⟨front ++ text, by simp⟩, ?_, [], [],
      by simp⟩
    rw [← List.append_assoc]
    intro hsame
    exact hfront (List.append_eq_nil_iff.mp (List.self_eq_append_left.mp hsame)).1

end

section

variable {α : Type} {part new new' : α → List Char} {as : List α} {a : α}

/-- What goes on as the part after a beginning of it went on so before the others were replaced, if
no text for another entry completes the part. -/
theorem prefix_of_prefix_replaceEach (hparts : ∀ b ∈ as, part b ≠ []) (hkept : new a = part a)
    (hothers : ∀ b ∈ as, b ≠ a → ¬ Completes (new b) (part a)) {cs front back : List Char}
    (hfront : front ≠ []) (hsplit : part a = front ++ back)
    (h : back <+: replaceEach part new as cs) : back <+: cs := by
  induction cs using partInduction hparts generalizing front back with
  | nil => simpa using h
  | found b rest hbegins ih =>
    rw [replaceEach_of_begins (hparts b hbegins.mem) hbegins] at h
    by_cases hb : b = a
    · -- The part goes on into itself, where it was not replaced yet.
      subst hb
      rw [hkept] at h
      have hlength : back.length ≤ (part b).length := by
        rw [hsplit, List.length_append]
        omega
      exact (List.prefix_of_prefix_length_le h (List.prefix_append _ _) hlength).trans
        (List.prefix_append _ _)
    · by_cases hback : back = []
      · rw [hback]
        exact List.nil_prefix
      · exact absurd h
          (not_goes_on_of_not_completes (hothers b hbegins.mem hb) hfront hback hsplit)
  | skip c rest hnone ih =>
    rw [replaceEach_cons hnone] at h
    rcases List.prefix_cons_iff.mp h with rfl | ⟨back', rfl, hback'⟩
    · exact List.nil_prefix
    · have hfront' : front ++ [c] ≠ [] := by simp
      have hsplit' : part a = (front ++ [c]) ++ back' := by simpa using hsplit
      exact List.prefix_cons_inj c |>.mpr (ih hfront' hsplit' hback')

/-- To replace one more part comes to the same as to replace it at once with the others, if no text
for another entry completes it. -/
theorem replaceAll_replaceEach (hparts : ∀ b ∈ as, part b ≠ []) (ha : a ∈ as)
    (hkept : new a = part a) (hothers : ∀ b ∈ as, b ≠ a → ¬ Completes (new b) (part a))
    (hsame : ∀ b ∈ as, b ≠ a → new' b = new b) (cs : List Char) :
    replaceAll (part a) (new' a) (replaceEach part new as cs) = replaceEach part new' as cs := by
  induction cs using partInduction hparts with
  | nil => simp
  | found b rest hbegins ih =>
    have hb := hparts b hbegins.mem
    rw [replaceEach_of_begins hb hbegins, replaceEach_of_begins hb hbegins]
    by_cases hba : b = a
    · subst hba
      rw [hkept, replaceAll_part_append hb, ih]
    · rw [replaceAll_append, ih, hsame b hbegins.mem hba]
      intro s hs hne
      exact not_begins_of_not_completes (hparts a ha) (hothers b hbegins.mem hba) hs hne
  | skip c rest hnone ih =>
    rw [replaceEach_cons hnone, replaceEach_cons hnone, replaceAll_cons, ih]
    intro hbegins
    obtain ⟨d, back, hsplit⟩ := List.exists_cons_of_ne_nil (hparts a ha)
    rw [hsplit, List.cons_prefix_cons] at hbegins
    obtain ⟨rfl, hgoes⟩ := hbegins
    have hback := prefix_of_prefix_replaceEach hparts hkept hothers (List.cons_ne_nil d [])
      hsplit hgoes
    exact hnone a ha (hsplit ▸ List.cons_prefix_cons.mpr ⟨rfl, hback⟩)

end

end Parley.Text
