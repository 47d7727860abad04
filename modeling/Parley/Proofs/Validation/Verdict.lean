import Parley.Proofs.Validation.SoundReading
import Parley.Validation.Report

/-!
# The verdict of validation

Validation finds no error exactly in the well-formed values.
-/

namespace Parley

section

variable {α : Type} {p : α → Bool} {good : Members → Bool}
  {read : Location → Json → Noted (Option α)}

/-- If an entry is as told exactly if the object it is read from is, a list has such an entry
exactly if it has such an object. -/
theorem any_readAll (h : ∀ u here, (read here u).value.any p = u.members?.any good)
    (here : Location) (i : Nat) (items : List Json) :
    (readAll read here i items).value.any p = (items.filterMap Json.members?).any good := by
  induction items generalizing i with
  | nil => rfl
  | cons u rest ih =>
    have htoList (o : Option α) : o.toList.any p = o.any p := by cases o <;> simp
    rw [readAll, List.any_append, htoList, h u (here.item i), ih (i + 1)]
    cases hu : u.members? <;> simp [hu]

theorem any_readEach (h : ∀ u here, (read here u).value.any p = u.members?.any good)
    (here : Location) (v : Json) :
    (readEach read here v).value.any p = (objectsOf v).any good := by
  cases v with
  | arr items => exact any_readAll h here 0 items
  | _ => rfl

theorem any_readMember (h : ∀ u here, (read here u).value.any p = u.members?.any good)
    (name : String) (here : Location) (ms : Members) :
    ((readMember name read here ms).value.getD []).any p = (objectsOf (ms.get name)).any good := by
  unfold readMember
  cases hget : ms.get? name with
  | none => simp [Members.get, hget, objectsOf]
  | some v =>
    rw [Members.get, hget]
    exact any_readEach h (here.field name) v

end

theorem isEmpty_eq_not_any {α : Type} (as : List α) : as.isEmpty = !as.any fun _ => true := by
  cases as <;> rfl

theorem Line.any_readItem (u : Json) (here : Location) :
    ((Line.readItem here u).value.any fun _ => true) = u.members?.any fun _ => true := by
  cases u <;> rfl

theorem hasLine_iff {ms : Members} :
    HasLine ms ↔ ((objectsOf (ms.get "lines")).any fun _ => true) = true := by
  unfold HasLine
  cases objectsOf (ms.get "lines") <;> simp

theorem Document.hasAnyLines_read (ms : Members) (defaultId : String) {d : Document}
    (h : (Document.read (.obj ms) defaultId).value = some d) :
    d.hasAnyLines = true ↔ HasLine ms ∨ ∃ fork ∈ objectsOf (ms.get "forks"), HasLine fork := by
  have hfork (u : Json) (here : Location) :
      ((readObject .fork Fork.read here u).value.any fun f => !f.lines.isEmpty) =
        u.members?.any fun o => (objectsOf (o.get "lines")).any fun _ => true := by
    cases u with
    | obj o =>
      have heach := any_readEach Line.any_readItem (here.field "lines") (Members.get o "lines")
      rw [← Line.readList_eq_readEach] at heach
      simp only [readObject, Fork.read, Json.members?, Option.any_some, isEmpty_eq_not_any,
        Bool.not_not, heach]
    | _ => rfl
  cases h
  have hlines := any_readMember Line.any_readItem "lines" [] ms
  have hforks := any_readMember hfork "forks" [] ms
  rw [← Line.readIn_eq_readMember] at hlines
  rw [← Fork.readIn_eq_readMember] at hforks
  unfold Document.hasAnyLines
  dsimp only
  rw [hforks, isEmpty_eq_not_any, hlines, Bool.not_not, Bool.or_eq_true, ← hasLine_iff,
    List.any_eq_true]
  simp only [hasLine_iff]

theorem Document.noErrors_readId (ms : Members) (defaultId : String) :
    NoErrors (Document.readId ms defaultId).findings := by
  unfold Document.readId
  split
  · exact noErrors_nil
  · refine noErrors_singleton.mpr ?_
    split <;> exact nofun

/-- A value is read without errors, as a document without flaws that are errors, exactly if it is
well-formed. -/
theorem Document.passes_read_iff (v : Json) (defaultId : String) :
    (NoErrors (Document.read v defaultId).findings ∧
      ∀ d ∈ (Document.read v defaultId).value, Harmless d.flaws) ↔ WellFormed v := by
  cases v with
  | obj ms =>
    have hlines := Line.passes_readIn ms []
    have hforks := Fork.passes_readIn ms []
    have hany := Document.hasAnyLines_read ms defaultId rfl
    unfold Passes at hlines hforks
    have hwell : WellFormed (.obj ms) ↔
        (HasLine ms ∨ ∃ fork ∈ objectsOf (Members.get ms "forks"), HasLine fork) ∧
          Node.SoundBelow ⟨.document, ms⟩ := by
      unfold WellFormed
      simp
    rw [hwell, Node.soundBelow_iff]
    simp only [Document.read, Option.mem_def, Option.some.injEq, forall_eq', noErrors_append,
      Document.noErrors_readId, Action.noErrors_readIn, Document.harmless_flaws,
      Document.selectable_iff, hany, Node.Sound, Node.lists, List.forall_mem_cons, true_and,
      ← hlines, ← hforks]
    constructor
    · rintro ⟨⟨⟨hfl, hff⟩, hfa⟩, hplay, hsl, hsf⟩
      exact ⟨hplay, ⟨hfl, hsl⟩, ⟨hff, hsf⟩, hfa, by rintro _ ⟨⟩⟩
    · rintro ⟨hplay, ⟨hfl, hsl⟩, ⟨hff, hsf⟩, hfa, -⟩
      exact ⟨⟨⟨hfl, hff⟩, hfa⟩, hplay, hsl, hsf⟩
  | _ =>
    refine iff_of_false (fun h => ?_) ?_
    · exact h.1 _ List.mem_cons_self rfl
    · rintro ⟨ms, ⟨⟩, -⟩

theorem Validation.valid_ofLoaded (l : Loaded) :
    (Validation.ofLoaded l).valid = true ↔
      l.errors = [] ∧ ∀ d ∈ l.document, Harmless d.flaws := by
  obtain ⟨document, errors, warnings⟩ := l
  cases document <;>
    simp [Validation.ofLoaded, Validation.valid, Harmless, Issue.ofFlaw, List.filter_eq_nil_iff]

theorem Validation.exists_load {v : Json} {defaultId : String} {r : Validation}
    (h : Validation.ofValue v defaultId = .ok r) :
    ∃ l, Document.load v defaultId = .ok l ∧ r = Validation.ofLoaded l := by
  unfold Validation.ofValue at h
  cases hload : Document.load v defaultId with
  | error fault =>
    rw [hload] at h
    cases h
  | ok l =>
    rw [hload] at h
    cases h
    exact ⟨l, rfl, rfl⟩

theorem Loaded.of_ofNoted {n : Noted (Option Document)} {l : Loaded}
    (h : Loaded.ofNoted n = .ok l) :
    l.document = n.value ∧ (l.errors = [] ↔ NoErrors n.findings) := by
  obtain ⟨-, rfl⟩ := Loaded.ofNoted_eq_ok_iff.mp h
  simp [NoErrors, List.filter_eq_nil_iff]

/-- Whenever a value can be loaded, validation tells whether it is well-formed. -/
theorem Validation.valid_iff_wellFormed {v : Json} {defaultId : String} {l : Loaded}
    (h : Document.load v defaultId = .ok l) :
    ∃ r, Validation.ofValue v defaultId = .ok r ∧ (r.valid = true ↔ WellFormed v) := by
  obtain ⟨hdocument, herrors⟩ := Loaded.of_ofNoted h
  refine ⟨Validation.ofLoaded l, ?_, ?_⟩
  · rw [Validation.ofValue, h]
    rfl
  · rw [Validation.valid_ofLoaded, herrors, hdocument, Document.passes_read_iff]

/-- A fork with a line of two choices, the first with an id that reads `1`. -/
def crossroads (id : Json) : Json :=
  .obj [("forks", .arr [.obj [
    ("checks", .arr [.obj [("type", .str "hasItem"), ("itemId", .str "map")]]),
    ("lines", .arr [.null, .obj [("options", .arr [
      .obj [("id", .num (.int 1)), ("branches", .arr [.obj [("lines", .arr [])]])],
      .obj [("id", id), ("lines", .arr [.obj [("speaker", .str "player")]])]])]])]])]

theorem wellFormed_crossroads :
    WellFormed (crossroads (.str "2")) ∧ ¬ WellFormed (crossroads (.str "1")) := by
  obtain ⟨left, hleft⟩ : ∃ l, Document.load (crossroads (.str "2")) "gate" = .ok l := ⟨_, rfl⟩
  obtain ⟨right, hright⟩ : ∃ l, Document.load (crossroads (.str "1")) "gate" = .ok l := ⟨_, rfl⟩
  obtain ⟨r, hr, hiff⟩ := Validation.valid_iff_wellFormed hleft
  obtain ⟨r', hr', hiff'⟩ := Validation.valid_iff_wellFormed hright
  cases hr
  cases hr'
  exact ⟨hiff.mp rfl, fun h => Bool.false_ne_true (hiff'.mpr h)⟩

end Parley
