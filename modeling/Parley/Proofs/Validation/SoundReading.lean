import Parley.Proofs.Dialogue.Section
import Parley.Proofs.Validation.Selectable
import Parley.Proofs.Validation.WellFormed

/-!
# Reading without errors

An object is read without errors, and every choice below it can be selected, exactly if all that is
read of it is sound. Both are said of sections first, for any kind of entry.
-/

namespace Parley

def NoErrors (findings : List Finding) : Prop := ∀ f ∈ findings, f.severity ≠ .error

theorem noErrors_nil : NoErrors [] := nofun

theorem noErrors_append {fs gs : List Finding} :
    NoErrors (fs ++ gs) ↔ NoErrors fs ∧ NoErrors gs := List.forall_mem_append

theorem noErrors_singleton {f : Finding} : NoErrors [f] ↔ f.severity ≠ .error :=
  List.forall_mem_singleton

theorem noErrors_unless {holds : Bool} {here : Location} {d : Defect} (hd : d.severity = .error) :
    NoErrors (if holds then [] else [⟨here, d⟩]) ↔ holds = true := by
  cases holds <;> simp [NoErrors, Finding.severity, hd]

theorem noErrors_unwritten (here : Location) (vs : List Json) : NoErrors (unwritten here vs) := by
  unfold unwritten
  split
  · exact noErrors_nil
  · exact noErrors_singleton.mpr nofun

/-- The findings are no errors, and what was read is as told. -/
def Passes {α : Type} (P : α → Prop) (findings : List Finding) (as : List α) : Prop :=
  NoErrors findings ∧ ∀ a ∈ as, P a

section

variable {α : Type} {P : α → Prop} {Good : Members → Prop}
  {read : Location → Json → Noted (Option α)}

theorem passes_append {fs gs : List Finding} {as bs : List α} :
    Passes P (fs ++ gs) (as ++ bs) ↔ Passes P fs as ∧ Passes P gs bs := by
  unfold Passes
  rw [noErrors_append, List.forall_mem_append, and_and_and_comm]

/-- A list passes if each of its objects does; of the other entries the findings only warn. -/
theorem passes_readAll {items : List Json}
    (h : ∀ u ∈ items, ∀ here,
      Passes P (read here u).findings (read here u).value.toList ↔ ∀ ms ∈ u.members?, Good ms)
    (here : Location) (i : Nat) :
    Passes P (readAll read here i items).findings (readAll read here i items).value ↔
      ∀ ms ∈ items.filterMap Json.members?, Good ms := by
  induction items generalizing i with
  | nil => simp [readAll, Passes, noErrors_nil]
  | cons u rest ih =>
    have hothers := ih (fun u hu => h u (List.mem_cons_of_mem _ hu)) (i + 1)
    rw [readAll, passes_append, h u List.mem_cons_self (here.item i), hothers]
    cases hu : u.members? <;> simp [hu]

theorem passes_readEach {v : Json}
    (h : ∀ items, v = .arr items → ∀ u ∈ items, ∀ here,
      Passes P (read here u).findings (read here u).value.toList ↔ ∀ ms ∈ u.members?, Good ms)
    (here : Location) :
    Passes P (readEach read here v).findings (readEach read here v).value ↔
      ∀ ms ∈ objectsOf v, Good ms := by
  cases v with
  | arr items => exact passes_readAll (h items rfl) here 0
  | _ => simp [readEach, Passes, NoErrors, objectsOf, Finding.severity, Defect.severity]

theorem passes_readMember (name : String) (ms : Members)
    (h : ∀ items, ms.get? name = some (.arr items) → ∀ u ∈ items, ∀ here,
      Passes P (read here u).findings (read here u).value.toList ↔ ∀ ms ∈ u.members?, Good ms)
    (here : Location) :
    Passes P (readMember name read here ms).findings
        ((readMember name read here ms).value.getD []) ↔
      ∀ entry ∈ objectsOf (ms.get name), Good entry := by
  unfold readMember
  cases hget : ms.get? name with
  | none => simp [Passes, noErrors_nil, Members.get, hget, objectsOf]
  | some v =>
    rw [Members.get, hget]
    exact passes_readEach (fun items hv => h items (hget.trans (congrArg some hv)))
      (here.field name)

theorem passes_readObject {kind : EntryKind} {read : Location → Members → Noted α}
    (h : ∀ ms here, NoErrors (read here ms).findings ∧ P (read here ms).value ↔ Good ms)
    (u : Json) (here : Location) :
    Passes P (readObject kind read here u).findings (readObject kind read here u).value.toList ↔
      ∀ ms ∈ u.members?, Good ms := by
  cases u with
  | obj ms => simpa [readObject, Passes, Json.members?] using h ms here
  | _ => simp [readObject, Passes, NoErrors, Json.members?, Finding.severity, Defect.severity]

end

theorem Check.noErrors_read (ms : Members) (here : Location) :
    NoErrors (Check.read here ms).findings ↔ Node.SoundBelow ⟨.entry .check, ms⟩ := by
  rw [Node.soundBelow_iff]
  unfold Check.read
  split
  · rename_i htype
    dsimp only
    rw [noErrors_append, noErrors_unless rfl]
    simp [noErrors_unwritten, Node.Sound, Node.lists, htype]
  · rename_i htype
    simp only [Node.Sound, Node.lists, List.not_mem_nil, false_implies, implies_true, and_true]
    exact iff_of_true (List.forall_mem_cons.mpr ⟨nofun, noErrors_unwritten _ _⟩)
      fun h => absurd h htype

theorem Action.noErrors_readAmount (here : Location) (v : Json) :
    NoErrors (Action.readAmount here v).findings := by
  unfold Action.readAmount
  split
  · exact noErrors_nil
  · split
    · exact noErrors_nil
    · exact noErrors_singleton.mpr nofun
    · exact noErrors_singleton.mpr nofun
  · exact noErrors_singleton.mpr nofun

theorem Action.noErrors_read (ms : Members) (here : Location) :
    NoErrors (Action.read here ms).findings ↔ Node.SoundBelow ⟨.entry .action, ms⟩ := by
  rw [Node.soundBelow_iff]
  unfold Action.read
  split
  · rename_i htype
    dsimp only
    rw [noErrors_append, noErrors_append, noErrors_unless rfl]
    simp [Action.noErrors_readAmount, noErrors_unwritten, Node.Sound, Node.lists, htype]
  · rename_i htype
    simp only [Node.Sound, Node.lists, List.not_mem_nil, false_implies, implies_true, and_true]
    exact iff_of_true (List.forall_mem_cons.mpr ⟨nofun, noErrors_unwritten _ _⟩)
      fun h => absurd h htype

theorem Check.noErrors_readList (here : Location) (v : Json) :
    NoErrors (Check.readList here v).findings ↔
      ∀ ms ∈ objectsOf v, Node.SoundBelow ⟨.entry .check, ms⟩ := by
  have hentry (u : Json) (here : Location) :
      Passes (fun _ => True) (readObject .check Check.read here u).findings
          (readObject .check Check.read here u).value.toList ↔
        ∀ ms ∈ u.members?, Node.SoundBelow ⟨.entry .check, ms⟩ :=
    passes_readObject (fun ms here => by rw [and_true, Check.noErrors_read]) u here
  have heach := passes_readEach (v := v) (fun _ _ u _ => hentry u) here
  rw [Check.readList, readSection_eq_readEach]
  simpa [Passes] using heach

theorem Action.noErrors_readIn (here : Location) (ms : Members) :
    NoErrors (Action.readIn here ms).findings ↔
      ∀ entry ∈ objectsOf (ms.get "actions"), Node.SoundBelow ⟨.entry .action, entry⟩ := by
  have hentry (u : Json) (here : Location) :
      Passes (fun _ => True) (readObject .action Action.read here u).findings
          (readObject .action Action.read here u).value.toList ↔
        ∀ ms ∈ u.members?, Node.SoundBelow ⟨.entry .action, ms⟩ :=
    passes_readObject (fun ms here => by rw [and_true, Action.noErrors_read]) u here
  have hmember := passes_readMember "actions" ms (fun _ _ u _ => hentry u) here
  rw [Action.readIn_eq_readMember]
  simpa [Passes] using hmember

theorem Line.noErrors_fieldFindings (here : Location) (speaker emotion : Json) :
    NoErrors (Line.fieldFindings here speaker emotion) ↔
      speaker = .str "npc" ∨ speaker = .str "player" := by
  unfold Line.fieldFindings
  rw [noErrors_append, and_iff_left]
  · cases speaker with
    | str s =>
      dsimp only
      rw [noErrors_unless rfl]
      simp [knownSpeakers]
    | _ => simp [noErrors_singleton, Finding.severity, Defect.severity]
  · split
    · exact noErrors_nil
    · split
      · exact noErrors_nil
      · exact noErrors_singleton.mpr (by rintro ⟨⟩)
    · exact noErrors_singleton.mpr (by rintro ⟨⟩)

theorem Choice.ids_readIn (here : Location) {ms : Members}
    (h : ∀ o ∈ objectsOf (ms.get "options"), (Members.get o "id").truthy = true) :
    ((Choice.readIn here ms).value.getD []).map Choice.id =
      (objectsOf (ms.get "options")).map fun o => (Members.get o "id").display := by
  have hall (items : List Json)
      (h : ∀ o ∈ items.filterMap Json.members?, (Members.get o "id").truthy = true)
      (here : Location) (i : Nat) : (readAll Choice.readItem here i items).value.map Choice.id =
        (items.filterMap Json.members?).map fun o => (Members.get o "id").display := by
    induction items generalizing i with
    | nil => rfl
    | cons u rest ih =>
      rw [readAll, List.map_append]
      cases u with
      | obj o =>
        have hid : (Members.get o "id").truthy = true := h o (by simp [Json.members?])
        have hrest := ih (fun o ho => h o (by simp [Json.members?, ho])) (i + 1)
        simp [Choice.readItem, hid, hrest, Json.members?]
      | _ => exact ih h (i + 1)
  rw [Choice.readIn_eq_readMember]
  unfold readMember
  cases hget : ms.get? "options" with
  | none => simp [Members.get, hget, objectsOf]
  | some v =>
    rw [Members.get, hget] at h ⊢
    cases v with
    | arr items => exact hall items h _ 0
    | _ => rfl

section

variable {ms : Members}

def SectionPasses {α : Type} (P : α → Prop) (kind : EntryKind) (name : String)
    (readIn : Location → Members → Noted (Option (List α))) (ms : Members) : Prop :=
  ∀ here, Passes P (readIn here ms).findings ((readIn here ms).value.getD []) ↔
    ∀ entry ∈ objectsOf (ms.get name), Node.SoundBelow ⟨.entry kind, entry⟩

theorem Line.passes_readItem_obj
    (hchoices : SectionPasses Choice.Selectable .choice "options" Choice.readIn ms)
    (here : Location) :
    Passes Line.Selectable (Line.readItem here (.obj ms)).findings
        (Line.readItem here (.obj ms)).value.toList ↔ Node.SoundBelow ⟨.entry .line, ms⟩ := by
  have hspeaker : ((Members.get? ms "speaker").getD (.str "npc") = .str "npc" ∨
      (Members.get? ms "speaker").getD (.str "npc") = .str "player") ↔
      ∀ v, ms.get? "speaker" = some v → v = .str "npc" ∨ v = .str "player" := by
    cases ms.get? "speaker" <;> simp
  have hchoices' := hchoices here
  unfold Passes at hchoices'
  rw [Node.soundBelow_iff]
  simp only [Line.readItem, Passes, noErrors_append, Line.noErrors_fieldFindings, hspeaker,
    noErrors_unwritten, and_true, Option.toList_some, List.mem_singleton, forall_eq, Line.selectable_iff, Node.Sound, Node.lists]
  constructor
  · rintro ⟨⟨hknown, hfindings⟩, hids, hselectable⟩
    have hbelow := hchoices'.mp ⟨hfindings, hselectable⟩
    rw [Choice.ids_readIn here fun o ho => ((Node.soundBelow_iff _).mp (hbelow o ho)).1] at hids
    exact ⟨⟨hknown, hids⟩, hbelow⟩
  · rintro ⟨⟨hknown, hids⟩, hbelow⟩
    rw [← Choice.ids_readIn here fun o ho => ((Node.soundBelow_iff _).mp (hbelow o ho)).1] at hids
    obtain ⟨hfindings, hselectable⟩ := hchoices'.mpr hbelow
    exact ⟨⟨hknown, hfindings⟩, hids, hselectable⟩

theorem Choice.passes_readItem_obj
    (hlines : SectionPasses Line.Selectable .line "lines" Line.readIn ms)
    (hbranches : SectionPasses Branch.Selectable .branch "branches" Branch.readIn ms)
    (here : Location) :
    Passes Choice.Selectable (Choice.readItem here (.obj ms)).findings
        (Choice.readItem here (.obj ms)).value.toList ↔ Node.SoundBelow ⟨.entry .choice, ms⟩ := by
  have hlines' := hlines here
  have hbranches' := hbranches here
  unfold Passes at hlines' hbranches'
  rw [Node.soundBelow_iff]
  unfold Choice.readItem
  cases hid : (ms.get "id").truthy with
  | false =>
    simp [Passes, noErrors_singleton, Node.Sound, hid, Finding.severity, Defect.severity]
  | true =>
    simp only [↓reduceIte, Passes, noErrors_append, noErrors_unwritten, Option.toList_some, List.mem_singleton,
      forall_eq, Choice.selectable_iff, Action.noErrors_readIn, Node.Sound, Node.lists, hid,
      List.forall_mem_cons, true_and, ← hlines', ← hbranches']
    constructor
    · rintro ⟨⟨⟨hfl, hfa⟩, hfb⟩, hsl, hsb⟩
      exact ⟨⟨hfl, hsl⟩, hfa, hfb, hsb⟩
    · rintro ⟨⟨hfl, hsl⟩, hfa, hfb, hsb⟩
      exact ⟨⟨⟨hfl, hfa⟩, hfb⟩, hsl, hsb⟩

theorem Branch.passes_readItem_obj
    (hlines : SectionPasses Line.Selectable .line "lines" Line.readIn ms)
    (here : Location) :
    Passes Branch.Selectable (Branch.readItem here (.obj ms)).findings
        (Branch.readItem here (.obj ms)).value.toList ↔ Node.SoundBelow ⟨.entry .branch, ms⟩ := by
  have hlines' := hlines here
  unfold Passes at hlines'
  rw [Node.soundBelow_iff]
  simp only [Branch.readItem, Passes, noErrors_append, Option.toList_some, List.mem_singleton,
    forall_eq, Branch.selectable_iff, Check.noErrors_readList, Action.noErrors_readIn, Node.Sound,
    Node.lists, List.forall_mem_cons, true_and, ← hlines']
  constructor
  · rintro ⟨⟨⟨hfc, hfl⟩, hfa⟩, hsl⟩
    exact ⟨hfc, ⟨hfl, hsl⟩, hfa⟩
  · rintro ⟨hfc, ⟨hfl, hsl⟩, hfa⟩
    exact ⟨⟨⟨hfc, hfl⟩, hfa⟩, hsl⟩

end

/-- Of lines, choices and branches all that is found below depends on their lists, so all three
follow together by induction on the value. -/
theorem passes_readItem (v : Json) :
    (∀ here, Passes Line.Selectable (Line.readItem here v).findings
        (Line.readItem here v).value.toList ↔
      ∀ ms ∈ v.members?, Node.SoundBelow ⟨.entry .line, ms⟩) ∧
    (∀ here, Passes Choice.Selectable (Choice.readItem here v).findings
        (Choice.readItem here v).value.toList ↔
      ∀ ms ∈ v.members?, Node.SoundBelow ⟨.entry .choice, ms⟩) ∧
    ∀ here, Passes Branch.Selectable (Branch.readItem here v).findings
        (Branch.readItem here v).value.toList ↔
      ∀ ms ∈ v.members?, Node.SoundBelow ⟨.entry .branch, ms⟩ := by
  induction v using Json.entryInduction with
  | step v ih =>
    cases v with
    | obj ms =>
      have hlines : SectionPasses Line.Selectable .line "lines" Line.readIn ms := by
        intro here
        rw [Line.readIn_eq_readMember]
        exact passes_readMember _ _ (fun items hget u hu => (ih ms _ items rfl hget u hu).1) here
      have hchoices : SectionPasses Choice.Selectable .choice "options" Choice.readIn ms := by
        intro here
        rw [Choice.readIn_eq_readMember]
        exact passes_readMember _ _ (fun items hget u hu => (ih ms _ items rfl hget u hu).2.1) here
      have hbranches : SectionPasses Branch.Selectable .branch "branches" Branch.readIn ms := by
        intro here
        rw [Branch.readIn_eq_readMember]
        exact passes_readMember _ _ (fun items hget u hu => (ih ms _ items rfl hget u hu).2.2) here
      simp only [Json.members?, Option.mem_def, Option.some.injEq, forall_eq']
      exact ⟨Line.passes_readItem_obj hchoices, Choice.passes_readItem_obj hlines hbranches,
        Branch.passes_readItem_obj hlines⟩
    | _ =>
      simp [Line.readItem, Choice.readItem, Branch.readItem, Passes, NoErrors, Json.members?,
        Finding.severity, Defect.severity]

theorem Line.passes_readIn (ms : Members) :
    SectionPasses Line.Selectable .line "lines" Line.readIn ms := by
  intro here
  rw [Line.readIn_eq_readMember]
  exact passes_readMember _ _ (fun _ _ u _ => (passes_readItem u).1) here

theorem Fork.passes_read (ms : Members) (here : Location) :
    NoErrors (Fork.read here ms).findings ∧ (∀ l ∈ (Fork.read here ms).value.lines, l.Selectable) ↔
      Node.SoundBelow ⟨.entry .fork, ms⟩ := by
  have hlines : Passes Line.Selectable
      (Line.readList (here.field "lines") (ms.get "lines")).findings
      (Line.readList (here.field "lines") (ms.get "lines")).value ↔
      ∀ entry ∈ objectsOf (ms.get "lines"), Node.SoundBelow ⟨.entry .line, entry⟩ := by
    rw [Line.readList_eq_readEach]
    exact passes_readEach (fun _ _ u _ => (passes_readItem u).1) _
  unfold Passes at hlines
  rw [Node.soundBelow_iff]
  simp only [Fork.read, noErrors_append, Check.noErrors_readList, Action.noErrors_readIn,
    Node.Sound, Node.lists, List.forall_mem_cons, true_and, ← hlines]
  constructor
  · rintro ⟨⟨⟨hfc, hfl⟩, hfa⟩, hsl⟩
    exact ⟨hfc, ⟨hfl, hsl⟩, hfa, nofun⟩
  · rintro ⟨hfc, ⟨hfl, hsl⟩, hfa, -⟩
    exact ⟨⟨⟨hfc, hfl⟩, hfa⟩, hsl⟩

theorem Fork.passes_readIn (ms : Members) :
    SectionPasses (fun f : Fork => ∀ l ∈ f.lines, l.Selectable) .fork "forks" Fork.readIn ms := by
  intro here
  rw [Fork.readIn_eq_readMember]
  exact passes_readMember _ _ (fun _ _ u _ => passes_readObject Fork.passes_read u) here

end Parley
