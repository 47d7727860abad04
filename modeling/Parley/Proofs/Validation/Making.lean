import Parley.Proofs.Dialogue.Section
import Parley.Proofs.Validation.Flawed

/-!
# What entries are made of

The entry that is made of an object does not depend on where the object stands. So a section is the
list of what is made of the entries that are kept, in their order, and the numbers of its entries are
theirs.
-/

namespace Parley

/-- The entries that are read of a value that should be a list. -/
def EntryKind.keptIn (kind : EntryKind) : Json → List Members
  | .arr items => kind.kept items
  | _ => []

theorem EntryKind.keptIn_eq_objectsOf {kind : EntryKind} (h : kind ≠ .choice) (v : Json) :
    kind.keptIn v = objectsOf v := by
  have hkept : kind.kept? = Json.members? := by
    funext u
    cases u <;> simp [kept?, Json.members?, h]
  cases v with
  | arr items => rw [keptIn, kept, hkept, objectsOf]
  | _ => rfl

variable {α : Type} {kind : EntryKind} {read : Location → Json → Noted (Option α)}
  {make : Members → α}

/-- Wherever the value stands, the reader skips it, or keeps what is made of its members. -/
def Makes (kind : EntryKind) (read : Location → Json → Noted (Option α)) (make : Members → α)
    (v : Json) : Prop :=
  ∀ here, (read here v).value = (kind.kept? v).map make

theorem value_readAll {items : List Json} (h : ∀ u ∈ items, Makes kind read make u)
    (here : Location) (i : Nat) :
    (readAll read here i items).value = (kind.kept items).map make := by
  induction items generalizing i with
  | nil => rfl
  | cons u rest ih =>
    have hothers := ih (fun w hw => h w (List.mem_cons_of_mem _ hw)) (i + 1)
    rw [readAll, h u List.mem_cons_self, hothers]
    unfold EntryKind.kept
    rw [List.filterMap_cons]
    cases kind.kept? u <;> rfl

theorem value_readEach {v : Json}
    (h : ∀ items, v = .arr items → ∀ u ∈ items, Makes kind read make u) (here : Location) :
    (readEach read here v).value = (kind.keptIn v).map make := by
  cases v with
  | arr items => exact value_readAll (h items rfl) here 0
  | _ => rfl

theorem value_readMember (name : String) (ms : Members)
    (h : ∀ items, ms.get? name = some (.arr items) → ∀ u ∈ items, Makes kind read make u)
    (here : Location) :
    (readMember name read here ms).value =
      (ms.get? name).map fun v => (kind.keptIn v).map make := by
  unfold readMember
  cases hget : ms.get? name with
  | none => rfl
  | some v =>
    have heach := value_readEach (v := v)
      (fun items hv => h items (hget.trans (congrArg some hv))) (here.field name)
    rw [Option.map_some, ← heach]

theorem getD_map_keptIn (kind : EntryKind) (make : Members → α) (ms : Members) (name : String) :
    ((ms.get? name).map fun v => (kind.keptIn v).map make).getD [] =
      (kind.keptIn (ms.get name)).map make := by
  unfold Members.get
  cases ms.get? name <;> rfl

/-- The entries of a section that falls back to another object's if it is absent. -/
theorem getD_orElse_keptIn (kind : EntryKind) (make : Members → α) (entry ms : Members)
    (name : String) :
    (((entry.get? name).map fun v => (kind.keptIn v).map make) <|>
        ((ms.get? name).map fun v => (kind.keptIn v).map make)).getD [] =
      (kind.keptIn ((entry.get? name).getD (ms.get name))).map make := by
  cases entry.get? name with
  | none => exact getD_map_keptIn kind make ms name
  | some v => rfl

theorem makes_readObject {read : Location → Members → Noted α} (hkind : kind ≠ .choice)
    (h : ∀ ms here, (read here ms).value = make ms) (v : Json) :
    Makes kind (readObject kind read) make v := by
  intro here
  cases v with
  | obj ms => simp [readObject, EntryKind.kept?, hkind, h]
  | _ => rfl

def Check.ofMembers (ms : Members) : Check := (Check.read [] ms).value

def Action.ofMembers (ms : Members) : Action := (Action.read [] ms).value

theorem Check.makes_read (v : Json) :
    Makes .check (readObject .check Check.read) Check.ofMembers v := by
  refine makes_readObject (by decide) (fun ms here => ?_) v
  unfold Check.ofMembers Check.read
  split <;> rfl

theorem Action.value_readAmount (here : Location) (v : Json) :
    (Action.readAmount here v).value = (Action.readAmount [] v).value := by
  unfold Action.readAmount
  split
  · rfl
  · split <;> rfl
  · rfl

theorem Action.makes_read (v : Json) :
    Makes .action (readObject .action Action.read) Action.ofMembers v := by
  refine makes_readObject (by decide) (fun ms here => ?_) v
  unfold Action.ofMembers Action.read
  split
  · simp only [Action.value_readAmount here]
  · rfl

theorem Action.value_readIn (here : Location) (ms : Members) :
    (Action.readIn here ms).value =
      (ms.get? "actions").map fun v => (EntryKind.action.keptIn v).map Action.ofMembers := by
  rw [Action.readIn_eq_readMember]
  exact value_readMember _ ms (fun _ _ u _ => Action.makes_read u) here

theorem Check.value_readList (here : Location) (v : Json) :
    (Check.readList here v).value = (EntryKind.check.keptIn v).map Check.ofMembers := by
  rw [Check.readList, readSection_eq_readEach]
  exact value_readEach (fun _ _ u _ => Check.makes_read u) here

theorem Action.value_readList (here : Location) (v : Json) :
    (Action.readList here v).value = (EntryKind.action.keptIn v).map Action.ofMembers := by
  rw [Action.readList, readSection_eq_readEach]
  exact value_readEach (fun _ _ u _ => Action.makes_read u) here

def Line.ofMembers (ms : Members) : Line :=
  ⟨(ms.get? "speaker").getD (.str "npc"), ((ms.get? "text").map Json.display).getD "",
    ms.get "textKey", ms.get "emotion", ms.get "name", ms.get "nameKey",
    (Choice.readIn [] ms).value, ms.get "hideSpeakerVisuals"⟩

def Choice.ofMembers (ms : Members) : Choice :=
  ⟨(ms.get "id").display, ((ms.get? "text").map Json.display).getD "", ms.get "textKey",
    (Line.readIn [] ms).value, (Action.readIn [] ms).value, (Branch.readIn [] ms).value⟩

def Branch.ofMembers (ms : Members) : Branch :=
  ⟨(Check.readList [] (ms.get "checks")).value, (Line.readIn [] ms).value,
    (Action.readIn [] ms).value⟩

/-- What is made of the entries below an object does not depend on where it stands, so neither does
what is made of the object. -/
theorem makes_readItem (v : Json) :
    Makes .line Line.readItem Line.ofMembers v ∧
    Makes .choice Choice.readItem Choice.ofMembers v ∧
    Makes .branch Branch.readItem Branch.ofMembers v := by
  induction v using Json.entryInduction with
  | step v ih =>
    cases v with
    | obj ms =>
      have hlines (here : Location) : (Line.readIn here ms).value = (Line.readIn [] ms).value := by
        have h := value_readMember "lines" ms
          (fun items hget u hu => (ih ms _ items rfl hget u hu).1)
        rw [Line.readIn_eq_readMember, Line.readIn_eq_readMember, h here, h []]
      have hoptions (here : Location) :
          (Choice.readIn here ms).value = (Choice.readIn [] ms).value := by
        have h := value_readMember "options" ms
          (fun items hget u hu => (ih ms _ items rfl hget u hu).2.1)
        rw [Choice.readIn_eq_readMember, Choice.readIn_eq_readMember, h here, h []]
      have hbranches (here : Location) :
          (Branch.readIn here ms).value = (Branch.readIn [] ms).value := by
        have h := value_readMember "branches" ms
          (fun items hget u hu => (ih ms _ items rfl hget u hu).2.2)
        rw [Branch.readIn_eq_readMember, Branch.readIn_eq_readMember, h here, h []]
      refine ⟨fun here => ?_, fun here => ?_, fun here => ?_⟩
      · cases htext : Members.get? ms "text" <;>
          simp [Line.readItem, Line.ofMembers, EntryKind.kept?, hoptions here, htext]
      · have hactions := Action.value_readIn here ms
        rw [← Action.value_readIn []] at hactions
        cases hid : (Members.get ms "id").truthy with
        | false => simp [Choice.readItem, EntryKind.kept?, hid]
        | true =>
          cases htext : Members.get? ms "text" <;>
            simp [Choice.readItem, Choice.ofMembers, EntryKind.kept?, hid, hlines here,
              hbranches here, hactions, htext]
      · have hactions := Action.value_readIn here ms
        rw [← Action.value_readIn []] at hactions
        have hchecks := Check.value_readList (here.field "checks") (Members.get ms "checks")
        rw [← Check.value_readList []] at hchecks
        simp [Branch.readItem, Branch.ofMembers, EntryKind.kept?, hlines here, hactions, hchecks]
    | _ => exact ⟨fun _ => rfl, fun _ => rfl, fun _ => rfl⟩

theorem Line.value_readIn (here : Location) (ms : Members) :
    (Line.readIn here ms).value =
      (ms.get? "lines").map fun v => (EntryKind.line.keptIn v).map Line.ofMembers := by
  rw [Line.readIn_eq_readMember]
  exact value_readMember _ ms (fun _ _ u _ => (makes_readItem u).1) here

theorem Choice.value_readIn (here : Location) (ms : Members) :
    (Choice.readIn here ms).value =
      (ms.get? "options").map fun v => (EntryKind.choice.keptIn v).map Choice.ofMembers := by
  rw [Choice.readIn_eq_readMember]
  exact value_readMember _ ms (fun _ _ u _ => (makes_readItem u).2.1) here

theorem Branch.value_readIn (here : Location) (ms : Members) :
    (Branch.readIn here ms).value =
      (ms.get? "branches").map fun v => (EntryKind.branch.keptIn v).map Branch.ofMembers := by
  rw [Branch.readIn_eq_readMember]
  exact value_readMember _ ms (fun _ _ u _ => (makes_readItem u).2.2) here

theorem Line.value_readList (here : Location) (v : Json) :
    (Line.readList here v).value = (EntryKind.line.keptIn v).map Line.ofMembers := by
  rw [Line.readList_eq_readEach]
  exact value_readEach (fun _ _ u _ => (makes_readItem u).1) here

def Fork.ofMembers (ms : Members) : Fork := (Fork.read [] ms).value

theorem Fork.makes_read (v : Json) :
    Makes .fork (readObject .fork Fork.read) Fork.ofMembers v := by
  refine makes_readObject (by decide) (fun ms here => ?_) v
  simp only [Fork.ofMembers, Fork.read, Check.value_readList, Line.value_readList,
    Action.value_readIn]

theorem Fork.value_readIn (here : Location) (ms : Members) :
    (Fork.readIn here ms).value =
      (ms.get? "forks").map fun v => (EntryKind.fork.keptIn v).map Fork.ofMembers := by
  rw [Fork.readIn_eq_readMember]
  exact value_readMember _ ms (fun _ _ u _ => Fork.makes_read u) here

end Parley
