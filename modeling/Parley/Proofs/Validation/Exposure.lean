import Parley.Proofs.Validation.Diagnosis
import Parley.Proofs.Validation.Making
import Parley.Proofs.Validation.Renumbering
import Parley.Proofs.Validation.Selectable

/-!
# Flaws are told by the numbers of what is kept

The flaws that are found in a section are the flaws of the value that it is read from. The place that
is told of each is the way to it by the numbers of the entries that are kept.
-/

namespace Parley

variable {α : Type}

/-- The flaws of entries after others, where each is judged with those before and after it. -/
def flawsAmong (flaws : Location → List α → α → List α → List Flaw) (here : Location) :
    List α → List α → List Flaw
  | _, [] => []
  | before, a :: rest =>
    flaws (here.item before.length) before a rest ++ flawsAmong flaws here (before ++ [a]) rest

theorem mem_flawsAmong {flaws : Location → List α → α → List α → List Flaw} {here : Location}
    {before as : List α} {f : Flaw} :
    f ∈ flawsAmong flaws here before as ↔ ∃ bs a cs, as = bs ++ a :: cs ∧
      f ∈ flaws (here.item (before.length + bs.length)) (before ++ bs) a cs := by
  induction as generalizing before with
  | nil => simp [flawsAmong]
  | cons a rest ih =>
    rw [flawsAmong, List.mem_append, ih]
    constructor
    · rintro (hf | ⟨bs, b, cs, rfl, hf⟩)
      · exact ⟨[], a, rest, rfl, by rwa [List.append_nil]⟩
      · refine ⟨a :: bs, b, cs, rfl, ?_⟩
        rw [List.length_append, List.append_assoc, Nat.add_assoc, Nat.add_comm [a].length] at hf
        exact hf
    · rintro ⟨bs, b, cs, hsplit, hf⟩
      cases bs with
      | nil =>
        cases hsplit
        rw [List.append_nil] at hf
        exact .inl hf
      | cons c bs =>
        cases hsplit
        refine .inr ⟨bs, b, cs, rfl, ?_⟩
        rw [List.length_append, List.append_assoc, Nat.add_assoc, Nat.add_comm [a].length]
        exact hf

def Action.flawsAmid (here : Location) (_ : List Action) (a : Action) (_ : List Action) :
    List Flaw :=
  (a.flaw? here).toList

def Line.flawsAmid (here : Location) (_ : List Line) (l : Line) (_ : List Line) : List Flaw :=
  l.flaws here

def Choice.flawsAmid (here : Location) (before : List Choice) (c : Choice) (_ : List Choice) :
    List Flaw :=
  c.flaws here (before.map Choice.id).reverse

def Branch.flawsAmid (here : Location) (_ : List Branch) (b : Branch) (after : List Branch) :
    List Flaw :=
  b.flaws here after.isEmpty

def Fork.flawsAmid (here : Location) (_ : List Fork) (f : Fork) (after : List Fork) : List Flaw :=
  Line.flawsFrom (here.field "lines") 0 f.lines ++
    Action.flaws (here.field "actions") f.actions ++
    if f.checks.isEmpty && !after.isEmpty then [⟨here, .shadowingFork⟩] else []

section

variable (here : Location)

theorem Action.flawsFrom_eq (before as : List Action) :
    Action.flawsFrom here before.length as = flawsAmong Action.flawsAmid here before as := by
  induction as generalizing before with
  | nil => rfl
  | cons a rest ih =>
    rw [Action.flawsFrom, flawsAmong, ← ih, List.length_append]
    rfl

theorem Line.flawsFrom_eq (before ls : List Line) :
    Line.flawsFrom here before.length ls = flawsAmong Line.flawsAmid here before ls := by
  induction ls generalizing before with
  | nil => rfl
  | cons l rest ih =>
    rw [Line.flawsFrom, flawsAmong, ← ih, List.length_append]
    rfl

theorem Choice.flawsFrom_eq (before cs : List Choice) :
    Choice.flawsFrom here before.length (before.map Choice.id).reverse cs =
      flawsAmong Choice.flawsAmid here before cs := by
  induction cs generalizing before with
  | nil => rfl
  | cons c rest ih =>
    rw [Choice.flawsFrom, flawsAmong, ← ih, List.length_append, List.map_append,
      List.reverse_append]
    rfl

theorem Branch.flawsFrom_eq (before bs : List Branch) :
    Branch.flawsFrom here before.length bs = flawsAmong Branch.flawsAmid here before bs := by
  induction bs generalizing before with
  | nil => rfl
  | cons b rest ih =>
    rw [Branch.flawsFrom, flawsAmong, ← ih, List.length_append]
    rfl

theorem Fork.flawsFrom_eq (before fs : List Fork) :
    Fork.flawsFrom here before.length fs = flawsAmong Fork.flawsAmid here before fs := by
  induction fs generalizing before with
  | nil => rfl
  | cons f rest ih =>
    rw [Fork.flawsFrom, flawsAmong, ← ih, List.length_append]
    rfl

end

/-- The flaws are those of a value that stands at a place. -/
def Exposes (p : Place) (here : Location) (v : Json) (fs : List Flaw) : Prop :=
  ∀ f, f ∈ fs ↔ ∃ l m, f.location = here ++ m ∧ Flawed p v l f.kind ∧ Renumbered p v l m

def ExposesList (here : Location) (ms : Members) (list : String × EntryKind) (fs : List Flaw) :
    Prop :=
  ∀ f, f ∈ fs ↔ ∃ v l m, ms.get? list.1 = some v ∧ f.location = here ++ .field list.1 :: m ∧
    Flawed (.list list.2) v l f.kind ∧ Renumbered (.list list.2) v l m

/-- Of what is made of an object, amid what is made of others, the flaws are what is amiss with the
object and what is flawed below it. -/
def Judges (kind : EntryKind) (make : Members → α)
    (flaws : Location → List α → α → List α → List Flaw) (ms : Members) : Prop :=
  ∀ here before after f, f ∈ flaws here (before.map make) (make ms) (after.map make) ↔
    (f.location = here ∧ Amiss before kind ms after f.kind) ∨
    ∃ l m, f.location = here ++ m ∧ Flawed (.part (.entry kind)) (.obj ms) l f.kind ∧
      Renumbered (.part (.entry kind)) (.obj ms) l m

section

variable {kind : EntryKind} {make : Members → α}
  {flaws : Location → List α → α → List α → List Flaw}

theorem EntryKind.kept_eq_split_iff {items : List Json} {before after : List Members}
    {ms : Members} :
    kind.kept items = before ++ ms :: after ↔ ∃ skipped v rest, items = skipped ++ v :: rest ∧
      kind.kept? v = some ms ∧ kind.kept skipped = before ∧ kind.kept rest = after := by
  unfold kept
  constructor
  · intro h
    obtain ⟨first, others, rfl, hfirst, hothers⟩ := List.filterMap_eq_append_iff.mp h
    obtain ⟨skipped, v, rest, rfl, hskipped, hv, hrest⟩ := List.filterMap_eq_cons_iff.mp hothers
    refine ⟨first ++ skipped, v, rest, (List.append_assoc ..).symm, hv, ?_, hrest⟩
    rw [List.filterMap_append, hfirst, List.filterMap_eq_nil_iff.mpr hskipped, List.append_nil]
  · rintro ⟨skipped, v, rest, rfl, hv, rfl, rfl⟩
    rw [List.filterMap_append, List.filterMap_cons_some hv]

/-- The flaws of what is made of a list are those of its entries, each judged amid what is kept. -/
theorem mem_flawsAmong_kept {items : List Json} {here : Location} {f : Flaw} :
    f ∈ flawsAmong flaws here [] ((kind.kept items).map make) ↔
      ∃ before v after ms, items = before ++ v :: after ∧ kind.kept? v = some ms ∧
        f ∈ flaws (here.item (kind.kept before).length) ((kind.kept before).map make) (make ms)
          ((kind.kept after).map make) := by
  rw [mem_flawsAmong]
  constructor
  · rintro ⟨bs, a, cs, hsplit, hf⟩
    obtain ⟨before, rest, hkept, rfl, hrest⟩ := List.map_eq_append_iff.mp hsplit
    obtain ⟨ms, after, rfl, rfl, rfl⟩ := List.map_eq_cons_iff.mp hrest
    obtain ⟨skipped, v, rest, rfl, hv, rfl, rfl⟩ := EntryKind.kept_eq_split_iff.mp hkept
    rw [List.nil_append, List.length_nil, Nat.zero_add, List.length_map] at hf
    exact ⟨skipped, v, rest, ms, rfl, hv, hf⟩
  · rintro ⟨before, v, after, ms, rfl, hv, hf⟩
    have hkept := EntryKind.kept_eq_split_iff.mpr ⟨before, v, after, rfl, hv, rfl, rfl⟩
    refine ⟨_, _, _, List.map_eq_append_iff.mpr ⟨_, _, hkept, rfl, rfl⟩, ?_⟩
    rw [List.nil_append, List.length_nil, Nat.zero_add, List.length_map]
    exact hf

theorem exposes_list {v : Json}
    (h : ∀ items, v = .arr items → ∀ u ∈ items, ∀ ms, kind.kept? u = some ms →
      Judges kind make flaws ms) (here : Location) :
    Exposes (.list kind) here v (flawsAmong flaws here [] ((kind.keptIn v).map make)) := by
  intro f
  by_cases hv : ∃ items, v = .arr items
  · obtain ⟨items, rfl⟩ := hv
    rw [EntryKind.keptIn, mem_flawsAmong_kept]
    constructor
    · rintro ⟨before, u, after, ms, rfl, hu, hf⟩
      rcases (h _ rfl u (by simp) ms hu _ _ _ f).mp hf with
        ⟨hlocation, hamiss⟩ | ⟨l, m, hlocation, hflawed, hrenumbered⟩
      · exact ⟨_, _, hlocation, .entry rfl hu hamiss, .item rfl hu .here⟩
      · rw [← EntryKind.eq_obj_of_kept? hu] at hflawed hrenumbered
        rw [Location.item_append] at hlocation
        exact ⟨_, _, hlocation, .item rfl hflawed, .item rfl hu hrenumbered⟩
    · rintro ⟨l, m, hlocation, hflawed, hrenumbered⟩
      cases hflawed with
      | @entry _ _ before after u ms _ split kept amiss =>
        obtain rfl := hrenumbered.right_unique (.item split kept .here)
        refine ⟨before, u, after, ms, split, kept, ?_⟩
        exact (h _ rfl u (by simp [split]) ms kept _ _ _ f).mpr (.inl ⟨hlocation, amiss⟩)
      | @item _ _ before after u l _ split below =>
        obtain ⟨m', hm'⟩ := below.exists_renumbered
        obtain ⟨ms, kept⟩ := below.exists_kept
        obtain rfl := hrenumbered.right_unique (.item split kept hm')
        refine ⟨before, u, after, ms, split, kept, ?_⟩
        rw [EntryKind.eq_obj_of_kept? kept] at below hm'
        refine (h _ rfl u (by simp [split]) ms kept _ _ _ f).mpr (.inr ⟨l, m', ?_, below, hm'⟩)
        rw [hlocation, Location.item_append]
  · -- What is no list has no entries, and no flaws.
    have hkept : kind.keptIn v = [] := by
      cases v with
      | arr items => exact absurd ⟨items, rfl⟩ hv
      | _ => rfl
    rw [hkept]
    refine iff_of_false List.not_mem_nil ?_
    rintro ⟨l, m, -, hflawed, -⟩
    cases hflawed with
    | entry => exact hv ⟨_, rfl⟩
    | item => exact hv ⟨_, rfl⟩

theorem exposesList_member (name : String) (ms : Members)
    (h : ∀ items, ms.get? name = some (.arr items) → ∀ u ∈ items, ∀ o, kind.kept? u = some o →
      Judges kind make flaws o) (here : Location) :
    ExposesList here ms (name, kind)
      (flawsAmong flaws (here.field name) [] ((kind.keptIn (ms.get name)).map make)) := by
  intro f
  unfold Members.get
  cases hget : ms.get? name with
  | none => simp [EntryKind.keptIn, flawsAmong]
  | some v =>
    have hlist := exposes_list (v := v) (fun items hv => h items (hget.trans (congrArg some hv)))
      (here.field name) f
    simp only [Location.field_append] at hlist
    rw [Option.getD_some, hlist]
    constructor
    · rintro ⟨l, m, hlocation, hbelow⟩
      exact ⟨v, l, m, rfl, hlocation, hbelow⟩
    · rintro ⟨u, l, m, hu, hlocation, hbelow⟩
      cases hu
      exact ⟨l, m, hlocation, hbelow⟩

/-- The same of a section, which is made of the kept entries of a member. -/
theorem exposesList_section {name : String} {ms : Members} {entries : Option (List α)}
    (hentries : entries = (ms.get? name).map fun v => (kind.keptIn v).map make)
    (h : ∀ items, ms.get? name = some (.arr items) → ∀ u ∈ items, ∀ o, kind.kept? u = some o →
      Judges kind make flaws o) (here : Location) :
    ExposesList here ms (name, kind) (flawsAmong flaws (here.field name) [] (entries.getD [])) := by
  rw [hentries, getD_map_keptIn]
  exact exposesList_member name ms h here

end

section

variable {here : Location} {ms : Members} {lists : List (String × EntryKind)}
  {sections : List (List Flaw)}

theorem mem_flaws_sections (h : List.Forall₂ (ExposesList here ms) lists sections) (f : Flaw) :
    f ∈ sections.flatten ↔ ∃ list ∈ lists, ∃ v l m, ms.get? list.1 = some v ∧
      f.location = here ++ .field list.1 :: m ∧ Flawed (.list list.2) v l f.kind ∧
      Renumbered (.list list.2) v l m :=
  mem_flatten_iff_of_forall₂ h f

theorem exposes_sections (kind : EntryKind) (hlists : Node.lists ⟨.entry kind, ms⟩ = lists)
    (h : List.Forall₂ (ExposesList here ms) lists sections) :
    Exposes (.part (.entry kind)) here (.obj ms) sections.flatten := by
  intro f
  rw [mem_flaws_sections h]
  constructor
  · rintro ⟨list, hlist, v, l, m, hget, hlocation, hflawed, hrenumbered⟩
    rw [← hlists] at hlist
    exact ⟨_, _, hlocation, .field hlist hget hflawed, .field hlist hget hrenumbered⟩
  · rintro ⟨l, m, hlocation, hflawed, hrenumbered⟩
    cases hflawed with
    | @field _ _ name kind v l _ list given below =>
      obtain ⟨m', hm'⟩ := below.exists_renumbered
      obtain rfl := hrenumbered.right_unique (.field list given hm')
      exact ⟨(name, kind), hlists ▸ list, v, l, m', given, hlocation, below, hm'⟩

end

end Parley
