import Parley.Dialogue.Reading

/-!
# Sections of a document

Every list of a document is read in one way: a section is missing, null, a list or something else,
and of a list each entry is kept or skipped. The readers of `Parley.Dialogue.Reading` are instances
of the one reader defined here, so that a law of sections is proved once and not for each kind of
entry.
-/

namespace Parley

variable {α : Type}

/-- The entries of a list from an index on, where `read` keeps or skips each. -/
def readAll (read : Location → Json → Noted (Option α)) (here : Location) :
    Nat → List Json → Noted (List α)
  | _, [] => ⟨[], []⟩
  | i, v :: rest =>
    let first := read (here.item i) v
    let others := readAll read here (i + 1) rest
    ⟨first.value.toList ++ others.value, first.findings ++ others.findings⟩

/-- The entries of a value that should be a list. -/
def readEach (read : Location → Json → Noted (Option α)) (here : Location) :
    Json → Noted (List α)
  | .null => ⟨[], []⟩
  | .arr items => readAll read here 0 items
  | v => ⟨[], [⟨here, .notAList v⟩]⟩

/-- The section of a name, if the object has a member of that name. -/
def readMember (name : String) (read : Location → Json → Noted (Option α)) (here : Location)
    (ms : Members) : Noted (Option (List α)) :=
  match ms.get? name with
  | none => ⟨none, []⟩
  | some v =>
    let entries := readEach read (here.field name) v
    ⟨some entries.value, entries.findings⟩

/-- An entry that is read from the members of an object; everything else is skipped. -/
def readObject (kind : EntryKind) (read : Location → Members → Noted α) (here : Location) :
    Json → Noted (Option α)
  | .obj ms => ⟨some (read here ms).value, (read here ms).findings⟩
  | _ => ⟨none, [⟨here, .notAnObject kind⟩]⟩

theorem readEntries_eq_readAll (kind : EntryKind) (read : Location → Members → Noted α)
    (here : Location) (i : Nat) (items : List Json) :
    readEntries kind read here i items = readAll (readObject kind read) here i items := by
  induction items generalizing i with
  | nil => rfl
  | cons v rest ih => cases v <;> simp [readEntries, readAll, readObject, ih]

theorem readSection_eq_readEach (kind : EntryKind) (read : Location → Members → Noted α)
    (here : Location) (v : Json) :
    readSection kind read here v = readEach (readObject kind read) here v := by
  cases v with
  | arr items => exact readEntries_eq_readAll kind read here 0 items
  | _ => rfl

theorem Line.readItems_eq_readAll (here : Location) (i : Nat) (items : List Json) :
    Line.readItems here i items = readAll Line.readItem here i items := by
  induction items generalizing i with
  | nil => rfl
  | cons v rest ih => rw [Line.readItems, readAll, ih]

theorem Choice.readItems_eq_readAll (here : Location) (i : Nat) (items : List Json) :
    Choice.readItems here i items = readAll Choice.readItem here i items := by
  induction items generalizing i with
  | nil => rfl
  | cons v rest ih => rw [Choice.readItems, readAll, ih]

theorem Branch.readItems_eq_readAll (here : Location) (i : Nat) (items : List Json) :
    Branch.readItems here i items = readAll Branch.readItem here i items := by
  induction items generalizing i with
  | nil => rfl
  | cons v rest ih => rw [Branch.readItems, readAll, ih]

theorem Line.readList_eq_readEach (here : Location) (v : Json) :
    Line.readList here v = readEach Line.readItem here v := by
  cases v with
  | arr items => exact Line.readItems_eq_readAll here 0 items
  | _ => rfl

theorem Choice.readList_eq_readEach (here : Location) (v : Json) :
    Choice.readList here v = readEach Choice.readItem here v := by
  cases v with
  | arr items => exact Choice.readItems_eq_readAll here 0 items
  | _ => rfl

theorem Branch.readList_eq_readEach (here : Location) (v : Json) :
    Branch.readList here v = readEach Branch.readItem here v := by
  cases v with
  | arr items => exact Branch.readItems_eq_readAll here 0 items
  | _ => rfl

theorem Line.readIn_eq_readMember (here : Location) (ms : Members) :
    Line.readIn here ms = readMember "lines" Line.readItem here ms := by
  unfold readMember
  induction ms with
  | nil => rfl
  | cons p rest ih =>
    obtain ⟨name, v⟩ := p
    by_cases h : name = "lines"
    · simp [Line.readIn, Members.get?_cons, h, Line.readList_eq_readEach]
    · simp [Line.readIn, Members.get?_cons, h, Ne.symm h, ih]

theorem Choice.readIn_eq_readMember (here : Location) (ms : Members) :
    Choice.readIn here ms = readMember "options" Choice.readItem here ms := by
  unfold readMember
  induction ms with
  | nil => rfl
  | cons p rest ih =>
    obtain ⟨name, v⟩ := p
    by_cases h : name = "options"
    · simp [Choice.readIn, Members.get?_cons, h, Choice.readList_eq_readEach]
    · simp [Choice.readIn, Members.get?_cons, h, Ne.symm h, ih]

theorem Branch.readIn_eq_readMember (here : Location) (ms : Members) :
    Branch.readIn here ms = readMember "branches" Branch.readItem here ms := by
  unfold readMember
  induction ms with
  | nil => rfl
  | cons p rest ih =>
    obtain ⟨name, v⟩ := p
    by_cases h : name = "branches"
    · simp [Branch.readIn, Members.get?_cons, h, Branch.readList_eq_readEach]
    · simp [Branch.readIn, Members.get?_cons, h, Ne.symm h, ih]

theorem Action.readIn_eq_readMember (here : Location) (ms : Members) :
    Action.readIn here ms = readMember "actions" (readObject .action Action.read) here ms := by
  unfold Action.readIn readMember Action.readList
  cases ms.get? "actions" with
  | none => rfl
  | some v => simp only [readSection_eq_readEach]

theorem Fork.readIn_eq_readMember (here : Location) (ms : Members) :
    Fork.readIn here ms = readMember "forks" (readObject .fork Fork.read) here ms := by
  unfold Fork.readIn readMember Fork.readList
  cases ms.get? "forks" with
  | none => rfl
  | some v => simp only [readSection_eq_readEach]

/-- What holds of every entry that is kept, if nothing in it is fatal, holds of all entries of a
section without a fatal finding. -/
theorem forall_mem_readAll {P : α → Prop} {read : Location → Json → Noted (Option α)}
    {here : Location} {items : List Json}
    (h : ∀ v ∈ items, ∀ here a, (read here v).Calm → (read here v).value = some a → P a) (i : Nat)
    (hcalm : (readAll read here i items).Calm) : ∀ a ∈ (readAll read here i items).value, P a := by
  induction items generalizing i with
  | nil => simp [readAll]
  | cons v rest ih =>
    obtain ⟨hfirst, hrest⟩ := List.forall_mem_append.mp hcalm
    intro a ha
    rcases List.mem_append.mp ha with ha | ha
    · exact h v (by simp) _ a hfirst (Option.mem_toList.mp ha)
    · exact ih (fun u hu => h u (by simp [hu])) (i + 1) hrest a ha

theorem forall_mem_readEach {P : α → Prop} {read : Location → Json → Noted (Option α)}
    {here : Location} {v : Json}
    (h : ∀ items, v = .arr items → ∀ u ∈ items, ∀ here a, (read here u).Calm →
      (read here u).value = some a → P a) (hcalm : (readEach read here v).Calm) :
    ∀ a ∈ (readEach read here v).value, P a := by
  cases v with
  | arr items => exact forall_mem_readAll (h items rfl) 0 hcalm
  | _ => simp [readEach]

theorem forall_mem_readMember {P : α → Prop} {name : String}
    {read : Location → Json → Noted (Option α)} {here : Location} {ms : Members}
    (h : ∀ items, ms.get? name = some (.arr items) →
      ∀ u ∈ items, ∀ here a, (read here u).Calm → (read here u).value = some a → P a)
    (hcalm : (readMember name read here ms).Calm) :
    ∀ as, (readMember name read here ms).value = some as → ∀ a ∈ as, P a := by
  intro as has
  unfold readMember at has hcalm
  cases hv : ms.get? name with
  | none => simp [hv] at has
  | some v =>
    simp only [hv, Option.some.injEq] at has hcalm
    subst has
    exact forall_mem_readEach (fun items hitems => h items (by rw [hv, hitems])) hcalm

/-- The entries of the lists among an object's members are smaller than the object. -/
theorem Json.sizeOf_lt_of_get? {ms : Members} {name : String} {items : List Json} {u : Json}
    (h : ms.get? name = some (.arr items)) (hu : u ∈ items) : sizeOf u < sizeOf (Json.obj ms) := by
  have hitems : sizeOf u < sizeOf items := List.sizeOf_lt_of_mem hu
  have hms : sizeOf (name, Json.arr items) < sizeOf ms := by
    apply List.sizeOf_lt_of_mem
    obtain ⟨l₁, l₂, hms, -⟩ := List.lookup_eq_some_iff.mp h
    simp [hms]
  simp only [Prod.mk.sizeOf_spec, Json.arr.sizeOf_spec] at hms
  simp only [Json.obj.sizeOf_spec]
  omega

/-- What follows for a value from the entries of the lists among its members holds of every
value. -/
theorem Json.entryInduction {P : Json → Prop}
    (step : ∀ v, (∀ (ms : Members) name items, v = .obj ms → ms.get? name = some (.arr items) →
      ∀ u ∈ items, P u) → P v) (v : Json) : P v :=
  step v fun _ _ _ hv hget u hu =>
    have : sizeOf u < sizeOf v := hv ▸ Json.sizeOf_lt_of_get? hget hu
    Json.entryInduction step u
termination_by sizeOf v

end Parley
