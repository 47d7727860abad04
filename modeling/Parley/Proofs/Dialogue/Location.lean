import Parley.Dialogue.Location

/-!
# What the text of a location tells

A way through a document goes by words and by indices. Its text separates them, so the text tells
every step of the way, and two places have different texts.
-/

namespace Parley

def Step.Plain : Step → Prop
  | .field name => name ≠ "" ∧ ∀ c ∈ name.toList, c.isAlpha = true
  | .item _ => True

/-- Where a run of characters of one kind ends, what follows is told apart from it. -/
theorem append_inj_of_run {p : Char → Bool} {as bs cs ds : List Char}
    (has : ∀ c ∈ as, p c = true) (hbs : ∀ c ∈ bs, p c = true) (hcs : cs.takeWhile p = [])
    (hds : ds.takeWhile p = []) (h : as ++ cs = bs ++ ds) : as = bs ∧ cs = ds := by
  have hrun := congrArg (List.takeWhile p) h
  rw [List.takeWhile_append_of_pos has, List.takeWhile_append_of_pos hbs, hcs, hds,
    List.append_nil, List.append_nil] at hrun
  subst hrun
  exact ⟨rfl, List.append_cancel_left h⟩

namespace Location

theorem toList_writeAfter_field (name : String) (l : Location) :
    (writeAfter (.field name :: l)).toList = '.' :: (name.toList ++ (writeAfter l).toList) := by
  simp [writeAfter]

theorem toList_writeAfter_item (i : Nat) (l : Location) :
    (writeAfter (.item i :: l)).toList =
      '[' :: (i.repr.toList ++ ']' :: (writeAfter l).toList) := by
  simp [writeAfter]

theorem takeWhile_isAlpha_writeAfter (l : Location) :
    (writeAfter l).toList.takeWhile Char.isAlpha = [] := by
  cases l with
  | nil => rfl
  | cons s l =>
    cases s with
    | field name => rw [toList_writeAfter_field]; rfl
    | item i => rw [toList_writeAfter_item]; rfl

theorem isDigit_of_mem_repr {i : Nat} {c : Char} (h : c ∈ i.repr.toList) : c.isDigit = true := by
  rw [Nat.repr_eq_ofList_toDigits, String.toList_ofList] at h
  exact Nat.isDigit_of_mem_toDigits (by decide) (by decide) h

theorem writeAfter_inj {l l' : Location} (hl : ∀ s ∈ l, s.Plain) (hl' : ∀ s ∈ l', s.Plain)
    (h : writeAfter l = writeAfter l') : l = l' := by
  induction l generalizing l' with
  | nil =>
    cases l' with
    | nil => rfl
    | cons s' l' =>
      have h := congrArg String.toList h
      cases s' with
      | field name => rw [toList_writeAfter_field] at h; cases h
      | item i => rw [toList_writeAfter_item] at h; cases h
  | cons s l ih =>
    have hs := hl s List.mem_cons_self
    replace hl : ∀ s ∈ l, s.Plain := fun s hs => hl s (List.mem_cons_of_mem _ hs)
    have h := congrArg String.toList h
    cases l' with
    | nil =>
      cases s with
      | field name => rw [toList_writeAfter_field] at h; cases h
      | item i => rw [toList_writeAfter_item] at h; cases h
    | cons s' l' =>
      have hs' := hl' s' List.mem_cons_self
      replace hl' : ∀ s ∈ l', s.Plain := fun s hs => hl' s (List.mem_cons_of_mem _ hs)
      cases s with
      | field name =>
        cases s' with
        | field name' =>
          rw [toList_writeAfter_field, toList_writeAfter_field] at h
          obtain ⟨hname, hrest⟩ := append_inj_of_run hs.2 hs'.2 (takeWhile_isAlpha_writeAfter l)
            (takeWhile_isAlpha_writeAfter l') (List.cons.inj h).2
          rw [String.toList_inj.mp hname, ih hl hl' (String.toList_inj.mp hrest)]
        | item i' =>
          rw [toList_writeAfter_field, toList_writeAfter_item] at h
          exact absurd (List.cons.inj h).1 (by decide)
      | item i =>
        cases s' with
        | field name' =>
          rw [toList_writeAfter_item, toList_writeAfter_field] at h
          exact absurd (List.cons.inj h).1 (by decide)
        | item i' =>
          rw [toList_writeAfter_item, toList_writeAfter_item] at h
          obtain ⟨hindex, hrest⟩ := append_inj_of_run (fun _ => isDigit_of_mem_repr)
            (fun _ => isDigit_of_mem_repr) rfl rfl (List.cons.inj h).2
          have hvalue := congrArg (Nat.ofDigitChars 10 · 0) hindex
          simp only [Nat.repr_eq_ofList_toDigits, String.toList_ofList,
            Nat.ofDigitChars_ten_toDigits] at hvalue
          rw [hvalue, ih hl hl' (String.toList_inj.mp (List.cons.inj hrest).2)]

theorem point_write_field (name : String) (l : Location) :
    "." ++ write (.field name :: l) = writeAfter (.field name :: l) := by
  simp [write, writeAfter, String.append_assoc]

theorem write_field_ne_empty {name : String} (h : name ≠ "") (l : Location) :
    write (.field name :: l) ≠ "" := by
  intro hempty
  rw [write, String.append_eq_empty_iff] at hempty
  exact h hempty.1

/-- The texts of ways that begin with a word tell the ways. -/
theorem write_field_inj {name name' : String} {l l' : Location}
    (hl : ∀ s ∈ Step.field name :: l, s.Plain) (hl' : ∀ s ∈ Step.field name' :: l', s.Plain)
    (h : write (.field name :: l) = write (.field name' :: l')) :
    Step.field name :: l = Step.field name' :: l' := by
  apply writeAfter_inj hl hl'
  rw [← point_write_field, ← point_write_field, h]

end Location
end Parley
