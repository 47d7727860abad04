import Mathlib.Data.List.Forall2
import Parley.Proofs.Dialogue.Section
import Parley.Proofs.Validation.Defects

/-!
# Findings are the defects

Whatever value is read as a document, the findings are the defects of that value, each once, at the
place where it is, in the order of reading. A reader of objects is sound for its part if it finds the
defects of the object itself and reads the lists that the object has; that the findings of different
lists stand in their order is said of sections in general.
-/

namespace Parley

/-- The one finding comes before the other: its place is read before, or they are of different
severity at one place, or the other is that of an amount, which is read last. -/
inductive Finding.Precedes (f g : Finding) : Prop where
  | before (place : f.location.Before g.location)
  | beside (place : f.location = g.location) (early : f.defect ≠ .amountTooLarge)
      (other : f.severity = g.severity → g.defect = .amountTooLarge)

theorem Finding.Precedes.irrefl (f : Finding) : ¬ f.Precedes f := by
  intro h
  cases h with
  | before place => exact place.ne rfl
  | beside _ early other => exact early (other rfl)

/-- The findings are the defects of a value that stands at a place, each once, in the order of
reading. -/
structure Diagnosis (p : Place) (here : Location) (v : Json) (fs : List Finding) : Prop where
  mem_iff : ∀ f, f ∈ fs ↔ ∃ l d, f = ⟨here ++ l, d⟩ ∧ Defective p v l d
  ordered : fs.Pairwise Finding.Precedes

/-- The findings are the defects of one list of an object, each once. -/
structure Covers (here : Location) (ms : Members) (list : String × EntryKind) (fs : List Finding) :
    Prop where
  mem_iff : ∀ f, f ∈ fs ↔ ∃ v l d, ms.get? list.1 = some v ∧
    f = ⟨here ++ .field list.1 :: l, d⟩ ∧ Defective (.list list.2) v l d
  ordered : fs.Pairwise Finding.Precedes

section

variable {α : Type} {kind : EntryKind} {read : Location → Json → Noted (Option α)}

theorem Location.item_append (here : Location) (i : Nat) (l : Location) :
    here.item i ++ l = here ++ .item i :: l := by
  simp [Location.item]

theorem Location.field_append (here : Location) (name : String) (l : Location) :
    here.field name ++ l = here ++ .field name :: l := by
  simp [Location.field]

/-- The findings in a list are those in its entries, at their indices. -/
theorem diagnosis_readAll {items : List Json}
    (h : ∀ u ∈ items, ∀ here, Diagnosis (.part (.entry kind)) here u (read here u).findings)
    (here : Location) (i : Nat) :
    (∀ f, f ∈ (readAll read here i items).findings ↔ ∃ j u l d, items[j]? = some u ∧
      f = ⟨here ++ .item (i + j) :: l, d⟩ ∧ Defective (.part (.entry kind)) u l d) ∧
    (readAll read here i items).findings.Pairwise Finding.Precedes := by
  induction items generalizing i with
  | nil => simp [readAll]
  | cons u rest ih =>
    have hfirst := h u List.mem_cons_self (here.item i)
    obtain ⟨hothers, hordered⟩ := ih (fun u hu => h u (List.mem_cons_of_mem _ hu)) (i + 1)
    refine ⟨fun f => ?_, List.pairwise_append.mpr ⟨hfirst.ordered, hordered, ?_⟩⟩
    · rw [readAll, List.mem_append, hfirst.mem_iff, hothers]
      constructor
      · rintro (⟨l, d, rfl, hd⟩ | ⟨j, u', l, d, hu', rfl, hd⟩)
        · exact ⟨0, u, l, d, rfl, by rw [Location.item_append, Nat.add_zero], hd⟩
        · exact ⟨j + 1, u', l, d, hu', by rw [Nat.add_assoc, Nat.add_comm 1 j], hd⟩
      · rintro ⟨j, u', l, d, hu', rfl, hd⟩
        cases j with
        | zero =>
          cases hu'
          exact .inl ⟨l, d, by rw [Location.item_append, Nat.add_zero], hd⟩
        | succ j => exact .inr ⟨j, u', l, d, hu', by rw [Nat.add_assoc, Nat.add_comm 1 j], hd⟩
    · intro f hf g hg
      obtain ⟨l, d, rfl, -⟩ := (hfirst.mem_iff f).mp hf
      obtain ⟨j, u', l', d', -, rfl, -⟩ := (hothers g).mp hg
      rw [Location.item_append]
      exact .before (.append (.item (by omega)) here)

/-- A section is found to be no list, or the findings are those in its entries. -/
theorem diagnosis_readEach {v : Json}
    (h : ∀ items, v = .arr items → ∀ u ∈ items, ∀ here,
      Diagnosis (.part (.entry kind)) here u (read here u).findings) (here : Location) :
    Diagnosis (.list kind) here v (readEach read here v).findings := by
  have hother : v ≠ .null → (∀ items, v ≠ .arr items) →
      Diagnosis (.list kind) here v [⟨here, .notAList v⟩] := by
    intro hnull hlist
    refine ⟨fun f => ?_, List.pairwise_singleton _ _⟩
    rw [List.mem_singleton]
    constructor
    · rintro rfl
      exact ⟨[], _, by rw [List.append_nil], .here (.notAList hnull hlist)⟩
    · rintro ⟨l, d, rfl, hd⟩
      cases hd with
      | here h => cases h with | notAList => rw [List.append_nil]
      | item => exact absurd rfl (hlist _)
  cases v with
  | null =>
    refine ⟨fun f => ⟨by rintro ⟨⟩, ?_⟩, .nil⟩
    rintro ⟨l, d, rfl, hd⟩
    cases hd with
    | here h => cases h with | notAList given => exact absurd rfl given
  | arr items =>
    obtain ⟨hmem, hordered⟩ := diagnosis_readAll (h items rfl) here 0
    refine ⟨fun f => ?_, hordered⟩
    rw [readEach, hmem]
    constructor
    · rintro ⟨j, u, l, d, hu, rfl, hd⟩
      exact ⟨.item j :: l, d, by rw [Nat.zero_add], .item hu hd⟩
    · rintro ⟨l, d, rfl, hd⟩
      cases hd with
      | here h => cases h with | notAList _ list => exact absurd rfl (list items)
      | @item _ _ j u l _ hu hd => exact ⟨j, u, l, d, hu, by rw [Nat.zero_add], hd⟩
  | bool | num | str | obj => exact hother (by rintro ⟨⟩) (by rintro _ ⟨⟩)

theorem covers_readMember (name : String) (ms : Members)
    (h : ∀ items, ms.get? name = some (.arr items) → ∀ u ∈ items, ∀ here,
      Diagnosis (.part (.entry kind)) here u (read here u).findings) (here : Location) :
    Covers here ms (name, kind) (readMember name read here ms).findings := by
  unfold readMember
  cases hget : ms.get? name with
  | none => exact ⟨fun f => by simp [hget], .nil⟩
  | some v =>
    have heach : Diagnosis (.list kind) (here.field name) v
        (readEach read (here.field name) v).findings :=
      diagnosis_readEach (fun items hv => h items (hget.trans (congrArg some hv))) _
    refine ⟨fun f => ?_, heach.ordered⟩
    simp only [heach.mem_iff, Location.field_append, hget, Option.some.injEq]
    constructor
    · rintro ⟨l, d, hf, hd⟩
      exact ⟨v, l, d, rfl, hf, hd⟩
    · rintro ⟨_, l, d, rfl, hf, hd⟩
      exact ⟨l, d, hf, hd⟩

theorem findings_readEach_get (name : String) (here : Location) (ms : Members) :
    (readEach read (here.field name) (ms.get name)).findings =
      (readMember name read here ms).findings := by
  unfold readMember Members.get
  cases ms.get? name <;> rfl

end

theorem mem_flatten_iff_of_forall₂ {ι β : Type} {P : ι → β → Prop} {is : List ι}
    {sections : List (List β)} (h : List.Forall₂ (fun i fs => ∀ f, f ∈ fs ↔ P i f) is sections)
    (f : β) : f ∈ sections.flatten ↔ ∃ i ∈ is, P i f := by
  induction h with
  | nil => simp
  | cons hfirst _ ih =>
    simp only [List.flatten_cons, List.mem_append, hfirst f, ih, List.mem_cons, exists_eq_or_imp]

section

variable {here : Location} {ms : Members} {lists : List (String × EntryKind)}
  {sections : List (List Finding)}

theorem mem_sections (h : List.Forall₂ (Covers here ms) lists sections) (f : Finding) :
    f ∈ sections.flatten ↔ ∃ list ∈ lists, ∃ v l d, ms.get? list.1 = some v ∧
      f = ⟨here ++ .field list.1 :: l, d⟩ ∧ Defective (.list list.2) v l d :=
  mem_flatten_iff_of_forall₂ (h.imp fun _ _ hcovers => hcovers.mem_iff) f

theorem ordered_sections (h : List.Forall₂ (Covers here ms) lists sections)
    (hnames : (lists.map (·.1)).Pairwise fun a b => readingOrder.idxOf a < readingOrder.idxOf b) :
    sections.flatten.Pairwise Finding.Precedes := by
  induction h with
  | nil => exact .nil
  | cons hfirst hrest ih =>
    rw [List.map_cons, List.pairwise_cons] at hnames
    refine List.pairwise_append.mpr ⟨hfirst.ordered, ih hnames.2, ?_⟩
    intro f hf g hg
    obtain ⟨_, l, d, -, rfl, -⟩ := (hfirst.mem_iff f).mp hf
    obtain ⟨list, hlist, _, l', d', -, rfl, -⟩ := (mem_sections hrest g).mp hg
    have hlt := hnames.1 _ (List.mem_map.mpr ⟨list, hlist, rfl⟩)
    exact .before (.append (.field hlt) here)

theorem Diagnosis.of_sections {p : Part} {own : List Finding} (hlists : Node.lists ⟨p, ms⟩ = lists)
    (hown : ∀ f, f ∈ own ↔ ∃ d, f = ⟨here, d⟩ ∧ Wrong (.part p) (.obj ms) d)
    (hordered : own.Pairwise Finding.Precedes)
    (h : List.Forall₂ (Covers here ms) lists sections) :
    Diagnosis (.part p) here (.obj ms) (own ++ sections.flatten) := by
  have hnames := Node.ordered_lists ⟨p, ms⟩
  rw [hlists] at hnames
  refine ⟨fun f => ?_, List.pairwise_append.mpr ⟨hordered, ordered_sections h hnames, ?_⟩⟩
  · rw [List.mem_append, hown, mem_sections h]
    constructor
    · rintro (⟨d, rfl, hd⟩ | ⟨list, hlist, v, l, d, hget, rfl, hd⟩)
      · exact ⟨[], d, by rw [List.append_nil], .here hd⟩
      · exact ⟨.field list.1 :: l, d, rfl, .field (hlists ▸ hlist) hget hd⟩
    · rintro ⟨l, d, rfl, hd⟩
      cases hd with
      | here h => exact .inl ⟨d, by rw [List.append_nil], h⟩
      | @field _ _ name kind v l _ hlist hget hd =>
        exact .inr ⟨(name, kind), hlists ▸ hlist, v, l, d, hget, rfl, hd⟩
  · intro f hf g hg
    obtain ⟨d, rfl, -⟩ := (hown f).mp hf
    obtain ⟨list, hlist, v, l, d', -, rfl, -⟩ := (mem_sections h g).mp hg
    have hbefore := Location.Before.append (.outside (s := .field list.1) (l := l)) here
    rw [List.append_nil] at hbefore
    exact .before hbefore

theorem Diagnosis.of_own {p : Part} {own : List Finding} (hlists : Node.lists ⟨p, ms⟩ = [])
    (hown : ∀ f, f ∈ own ↔ ∃ d, f = ⟨here, d⟩ ∧ Wrong (.part p) (.obj ms) d)
    (hordered : own.Pairwise Finding.Precedes) : Diagnosis (.part p) here (.obj ms) own := by
  have h := Diagnosis.of_sections hlists hown hordered .nil
  rwa [List.flatten_nil, List.append_nil] at h

end

theorem diagnosis_notAnObject {kind : EntryKind} {v : Json} (h : ∀ ms, v ≠ .obj ms)
    (here : Location) :
    Diagnosis (.part (.entry kind)) here v [⟨here, .notAnObject kind⟩] := by
  refine ⟨fun f => ?_, List.pairwise_singleton _ _⟩
  rw [List.mem_singleton]
  constructor
  · rintro rfl
    exact ⟨[], _, by rw [List.append_nil], .here (.notAnObject h)⟩
  · rintro ⟨l, d, rfl, hd⟩
    cases hd with
    | here hwrong =>
      cases hwrong with
      | notAnObject => rw [List.append_nil]
      | _ => exact absurd rfl (h _)
    | field => exact absurd rfl (h _)

theorem diagnosis_readObject {α : Type} {kind : EntryKind} {read : Location → Members → Noted α}
    (h : ∀ ms here, Diagnosis (.part (.entry kind)) here (.obj ms) (read here ms).findings)
    (v : Json) (here : Location) :
    Diagnosis (.part (.entry kind)) here v (readObject kind read here v).findings := by
  cases v with
  | obj ms => exact h ms here
  | _ => exact diagnosis_notAnObject (by rintro _ ⟨⟩) here

end Parley
