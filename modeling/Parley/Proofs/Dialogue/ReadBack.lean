import Parley.Dialogue.Encode
import Parley.Proofs.Dialogue.Section

/-!
# Reading back a written document

Reading forgets: junk entries are skipped, texts and ids are made texts, amounts may be dropped.
What is left, unless the reading ended at a fatal finding, is canonical, and a canonical document is
read back from its written form unchanged. So a document that was loaded once is loaded again as
itself.
-/

namespace Parley

/-- A check as reading gives it: an unknown one keeps the object whose type it shows. -/
def Check.Canonical : Check → Prop
  | .hasItem .. => True
  | .unknown type source => source.get "type" ≠ .str "hasItem" ∧
    type = (source.get "type").display ∧ (source.get "type").isWritable = true

/-- An action as reading gives it: amounts are finite. -/
def Action.Canonical : Action → Prop
  | .giveItem _ amount _ => ∀ n, amount = some n → n.finite = .ok true
  | .unknown type source => source.get "type" ≠ .str "giveItem" ∧
    type = (source.get "type").display ∧ (source.get "type").isWritable = true

mutual

/-- A line as reading gives it. -/
inductive Line.Canonical : Line → Prop
  | intro {l : Line} (speaker : l.speaker.isWritable = true) (emotion : l.emotion.isWritable = true)
      (options : ∀ cs, l.options = some cs → ∀ c ∈ cs, Choice.Canonical c) : Line.Canonical l

/-- A choice as reading gives it: it has an id. -/
inductive Choice.Canonical : Choice → Prop
  | intro {c : Choice} (id : c.id ≠ "")
      (lines : ∀ ls, c.lines = some ls → ∀ l ∈ ls, Line.Canonical l)
      (actions : ∀ as, c.actions = some as → ∀ a ∈ as, Action.Canonical a)
      (branches : ∀ bs, c.branches = some bs → ∀ b ∈ bs, Branch.Canonical b) :
    Choice.Canonical c

/-- A branch as reading gives it. -/
inductive Branch.Canonical : Branch → Prop
  | intro {b : Branch} (checks : ∀ c ∈ b.checks, Check.Canonical c)
      (lines : ∀ ls, b.lines = some ls → ∀ l ∈ ls, Line.Canonical l)
      (actions : ∀ as, b.actions = some as → ∀ a ∈ as, Action.Canonical a) :
    Branch.Canonical b

end

/-- A fork as reading gives it. -/
structure Fork.Canonical (f : Fork) : Prop where
  checks : ∀ c ∈ f.checks, c.Canonical
  lines : ∀ l ∈ f.lines, l.Canonical
  actions : ∀ as, f.actions = some as → ∀ a ∈ as, a.Canonical

/-- A document as reading gives it. -/
structure Document.Canonical (d : Document) : Prop where
  lines : ∀ ls, d.lines = some ls → ∀ l ∈ ls, l.Canonical
  forks : ∀ fs, d.forks = some fs → ∀ f ∈ fs, f.Canonical
  actions : ∀ as, d.actions = some as → ∀ a ∈ as, a.Canonical

theorem calm_unwritten {here : Location} {vs : List Json} :
    (∀ f ∈ unwritten here vs, f.severity ≠ .fatal) ↔ ∀ v ∈ vs, v.isWritable = true := by
  rw [← List.all_eq_true, unwritten]
  by_cases h : vs.all Json.isWritable = true <;> simp [h, Finding.severity, Defect.severity]

theorem Check.canonical_read {here : Location} {ms : Members} (hcalm : (Check.read here ms).Calm) :
    (Check.read here ms).value.Canonical := by
  revert hcalm
  unfold Check.read
  split
  · intro _
    trivial
  · rename_i h
    intro hcalm
    have hwritable := calm_unwritten.mp (List.forall_mem_cons.mp hcalm).2
    exact ⟨h, rfl, hwritable _ List.mem_cons_self⟩

theorem Action.finite_readAmount (here : Location) (v : Json) :
    ∀ n, (Action.readAmount here v).value = some n → n.finite = .ok true := by
  intro n hn
  unfold Action.readAmount at hn
  split at hn
  · cases hn
  · split at hn
    · cases hn
      assumption
    · cases hn
    · cases hn
  · cases hn

theorem Action.canonical_read {here : Location} {ms : Members}
    (hcalm : (Action.read here ms).Calm) : (Action.read here ms).value.Canonical := by
  revert hcalm
  unfold Action.read
  split
  · intro _
    exact Action.finite_readAmount here _
  · rename_i h
    intro hcalm
    have hwritable := calm_unwritten.mp (List.forall_mem_cons.mp hcalm).2
    exact ⟨h, rfl, hwritable _ List.mem_cons_self⟩

theorem readObject_some {kind : EntryKind} {read : Location → Members → Noted α} {here : Location}
    {v : Json} {a : α} (hcalm : (readObject kind read here v).Calm)
    (h : (readObject kind read here v).value = some a) :
    ∃ ms, (read here ms).Calm ∧ (read here ms).value = a := by
  cases v with
  | obj ms => exact ⟨ms, hcalm, Option.some.inj h⟩
  | _ => cases h

theorem Check.canonical_readList {here : Location} {v : Json}
    (hcalm : (Check.readList here v).Calm) : ∀ c ∈ (Check.readList here v).value, c.Canonical := by
  unfold Check.readList at hcalm ⊢
  rw [readSection_eq_readEach] at hcalm ⊢
  refine forall_mem_readEach ?_ hcalm
  intro _ _ u _ here c hcalm hc
  obtain ⟨ms, hread, rfl⟩ := readObject_some hcalm hc
  exact Check.canonical_read hread

theorem Action.canonical_readIn {here : Location} {ms : Members}
    (hcalm : (Action.readIn here ms).Calm) :
    ∀ as, (Action.readIn here ms).value = some as → ∀ a ∈ as, a.Canonical := by
  rw [Action.readIn_eq_readMember] at hcalm ⊢
  refine forall_mem_readMember ?_ hcalm
  intro _ _ u _ here a hcalm ha
  obtain ⟨ms, hread, rfl⟩ := readObject_some hcalm ha
  exact Action.canonical_read hread

/-- Lines, choices and branches are read from entries of an object's lists, so all three follow
together by induction on the value. -/
theorem canonical_readItem (v : Json) :
    (∀ here l, (Line.readItem here v).Calm → (Line.readItem here v).value = some l →
      l.Canonical) ∧
    (∀ here c, (Choice.readItem here v).Calm → (Choice.readItem here v).value = some c →
      c.Canonical) ∧
    ∀ here b, (Branch.readItem here v).Calm → (Branch.readItem here v).value = some b →
      b.Canonical := by
  induction v using Json.entryInduction with
  | step v ih =>
    cases v with
    | obj ms =>
      have hlines {here : Location} (hcalm : (Line.readIn here ms).Calm) :
          ∀ ls, (Line.readIn here ms).value = some ls → ∀ l ∈ ls, l.Canonical := by
        rw [Line.readIn_eq_readMember] at hcalm ⊢
        exact forall_mem_readMember (fun items hget u hu => (ih ms _ items rfl hget u hu).1) hcalm
      refine ⟨?_, ?_, ?_⟩
      · intro here l hcalm hl
        obtain ⟨hown, hoptions⟩ := List.forall_mem_append.mp hcalm
        have hwritable := calm_unwritten.mp (List.forall_mem_append.mp hown).2
        cases hl
        refine ⟨hwritable _ (by simp), hwritable _ (by simp), ?_⟩
        change ∀ cs, (Choice.readIn here ms).value = some cs → _
        change (Choice.readIn here ms).Calm at hoptions
        rw [Choice.readIn_eq_readMember] at hoptions ⊢
        exact forall_mem_readMember (fun items hget u hu => (ih ms _ items rfl hget u hu).2.1)
          hoptions
      · intro here c hcalm hc
        unfold Choice.readItem at hcalm hc
        dsimp only at hcalm hc
        split at hc
        · rename_i hid
          rw [if_pos hid] at hcalm
          obtain ⟨hrest, hbranches⟩ := List.forall_mem_append.mp hcalm
          obtain ⟨hrest, hactions⟩ := List.forall_mem_append.mp hrest
          obtain ⟨-, hcalm⟩ := List.forall_mem_append.mp hrest
          cases hc
          refine ⟨Json.display_ne_empty hid, hlines hcalm, Action.canonical_readIn hactions, ?_⟩
          change ∀ bs, (Branch.readIn here ms).value = some bs → _
          change (Branch.readIn here ms).Calm at hbranches
          rw [Branch.readIn_eq_readMember] at hbranches ⊢
          exact forall_mem_readMember (fun items hget u hu => (ih ms _ items rfl hget u hu).2.2)
            hbranches
        · cases hc
      · intro here b hcalm hb
        obtain ⟨hrest, hactions⟩ := List.forall_mem_append.mp hcalm
        obtain ⟨hchecks, hcalm⟩ := List.forall_mem_append.mp hrest
        cases hb
        exact ⟨Check.canonical_readList hchecks, hlines hcalm, Action.canonical_readIn hactions⟩
    | _ => refine ⟨?_, ?_, ?_⟩ <;> rintro here x - ⟨⟩

theorem Line.canonical_readEach {here : Location} {v : Json}
    (hcalm : (readEach Line.readItem here v).Calm) :
    ∀ l ∈ (readEach Line.readItem here v).value, l.Canonical :=
  forall_mem_readEach (fun _ _ u _ => (canonical_readItem u).1) hcalm

theorem Line.canonical_readIn {here : Location} {ms : Members}
    (hcalm : (Line.readIn here ms).Calm) :
    ∀ ls, (Line.readIn here ms).value = some ls → ∀ l ∈ ls, l.Canonical := by
  rw [Line.readIn_eq_readMember] at hcalm ⊢
  exact forall_mem_readMember (fun _ _ u _ => (canonical_readItem u).1) hcalm

theorem Fork.canonical_read {here : Location} {ms : Members} (hcalm : (Fork.read here ms).Calm) :
    (Fork.read here ms).value.Canonical := by
  obtain ⟨hrest, hactions⟩ := List.forall_mem_append.mp hcalm
  obtain ⟨hchecks, hlines⟩ := List.forall_mem_append.mp hrest
  refine ⟨Check.canonical_readList hchecks, ?_, Action.canonical_readIn hactions⟩
  change ∀ l ∈ (Line.readList _ _).value, l.Canonical
  change (Line.readList _ _).Calm at hlines
  rw [Line.readList_eq_readEach] at hlines ⊢
  exact Line.canonical_readEach hlines

theorem Document.canonical_read {v : Json} {defaultId : String} {d : Document}
    (hcalm : (Document.read v defaultId).Calm)
    (h : (Document.read v defaultId).value = some d) : d.Canonical := by
  cases v with
  | obj ms =>
    obtain ⟨hrest, hactions⟩ := List.forall_mem_append.mp hcalm
    obtain ⟨hrest, hforks⟩ := List.forall_mem_append.mp hrest
    obtain ⟨-, hlines⟩ := List.forall_mem_append.mp hrest
    cases h
    refine ⟨Line.canonical_readIn hlines, ?_, Action.canonical_readIn hactions⟩
    change ∀ fs, (Fork.readIn _ ms).value = some fs → _
    change (Fork.readIn _ ms).Calm at hforks
    rw [Fork.readIn_eq_readMember] at hforks ⊢
    refine forall_mem_readMember ?_ hforks
    intro _ _ u _ here f hcalm hf
    obtain ⟨ms, hread, rfl⟩ := readObject_some hcalm hf
    exact Fork.canonical_read hread
  | _ => cases h

/-- The value is as told, and no finding is fatal. -/
structure Noted.Yields (n : Noted α) (a : α) : Prop where
  value : n.value = a
  calm : n.Calm

theorem yields_readAll {read : Location → Json → Noted (Option α)} {write : α → Json} {as : List α}
    (h : ∀ a ∈ as, ∀ here, (read here (write a)).Yields (some a)) (here : Location) (i : Nat) :
    (readAll read here i (as.map write)).Yields as := by
  induction as generalizing i with
  | nil => exact ⟨rfl, nofun⟩
  | cons a rest ih =>
    have hfirst := h a (by simp) (here.item i)
    have hrest := ih (fun b hb => h b (by simp [hb])) (i + 1)
    refine ⟨?_, ?_⟩
    · simp [readAll, hfirst.value, hrest.value]
    · exact List.forall_mem_append.mpr ⟨hfirst.calm, hrest.calm⟩

theorem yields_readMember {name : String} {read : Location → Json → Noted (Option α)}
    {write : α → Json} {as : Option (List α)} {here : Location} {ms : Members}
    (hget : ms.get? name = as.map fun as => .arr (as.map write))
    (h : ∀ as', as = some as' → ∀ a ∈ as', ∀ here, (read here (write a)).Yields (some a)) :
    (readMember name read here ms).Yields as := by
  cases as with
  | none => exact ⟨by simp [readMember, hget], by simp [readMember, hget, Noted.Calm]⟩
  | some as =>
    have hall := yields_readAll (h as rfl) (here.field name) 0
    have hread : readMember name read here ms =
        ⟨some (readAll read (here.field name) 0 (as.map write)).value,
          (readAll read (here.field name) 0 (as.map write)).findings⟩ := by
      simp [readMember, hget, readEach]
    rw [hread]
    exact ⟨congrArg some hall.value, hall.calm⟩

theorem calm_fieldFindings (here : Location) (speaker emotion : Json) :
    ∀ f ∈ Line.fieldFindings here speaker emotion, f.severity ≠ .fatal := by
  intro f hf
  have hdefect : f.defect = .unknownSpeaker speaker ∨ f.defect = .unknownEmotion emotion := by
    unfold Line.fieldFindings at hf
    rcases List.mem_append.mp hf with hf | hf
    · left
      split at hf
      · split at hf <;> simp_all
      · simp_all
    · right
      split at hf
      · simp_all
      · split at hf <;> simp_all
      · simp_all
  rcases hdefect with hd | hd <;> simp [Finding.severity, Defect.severity, hd]

theorem yields_readObject {kind : EntryKind} {read : Location → Members → Noted α} {here : Location}
    {ms : Members} {a : α} (h : (read here ms).Yields a) :
    (readObject kind read here (.obj ms)).Yields (some a) :=
  ⟨congrArg some h.value, h.calm⟩

theorem Check.yields_toJson {c : Check} (h : c.Canonical) (here : Location) :
    (readObject .check Check.read here c.toJson).Yields (some c) := by
  cases c with
  | hasItem item negate =>
    apply yields_readObject
    constructor
    · cases negate <;>
        simp [Check.read, Members.get, Members.get?_cons, itemIdOf, Json.truthy]
    · cases negate <;> simp [Check.read, Members.get, Members.get?_cons, unwritten, Noted.Calm,
        Finding.severity, Defect.severity]
  | unknown type source =>
    obtain ⟨hkind, htype, hwritable⟩ := h
    apply yields_readObject
    unfold Check.read
    split
    · contradiction
    · refine ⟨by rw [htype], List.forall_mem_cons.mpr ⟨(by rintro ⟨⟩), calm_unwritten.mpr ?_⟩⟩
      exact List.forall_mem_singleton.mpr hwritable

theorem Action.readAmount_of_finite {n : Number} (h : n.finite = .ok true) (here : Location) :
    Action.readAmount here (.num n) = ⟨some n, []⟩ := by
  simp [Action.readAmount, h]

theorem Action.yields_toJson {a : Action} (h : a.Canonical) (here : Location) :
    (readObject .action Action.read here a.toJson).Yields (some a) := by
  cases a with
  | giveItem item amount ifMissing =>
    apply yields_readObject
    cases amount with
    | none =>
      constructor
      · cases ifMissing <;> simp [Action.read, Members.get, Members.get?_cons, itemIdOf,
          Json.truthy, Action.readAmount, notFalse]
      · cases ifMissing <;> simp [Action.read, Members.get, Members.get?_cons, Action.readAmount,
          unwritten, shownAmount, Noted.Calm, Finding.severity, Defect.severity]
    | some n =>
      have hn := Action.readAmount_of_finite (h n rfl) here
      constructor
      · cases ifMissing <;> simp [Action.read, Members.get, Members.get?_cons, itemIdOf,
          Json.truthy, hn, notFalse]
      · cases ifMissing <;> simp [Action.read, Members.get, Members.get?_cons, hn,
          unwritten, shownAmount, Noted.Calm, Finding.severity, Defect.severity]
  | unknown type source =>
    obtain ⟨hkind, htype, hwritable⟩ := h
    apply yields_readObject
    unfold Action.read
    split
    · contradiction
    · refine ⟨by rw [htype], List.forall_mem_cons.mpr ⟨(by rintro ⟨⟩), calm_unwritten.mpr ?_⟩⟩
      exact List.forall_mem_singleton.mpr hwritable

theorem Action.yields_readIn {ms : Members} {as : Option (List Action)}
    (hget : ms.get? "actions" = as.map fun as => .arr (as.map Action.toJson))
    (h : ∀ as', as = some as' → ∀ a ∈ as', a.Canonical) (here : Location) :
    (Action.readIn here ms).Yields as := by
  rw [Action.readIn_eq_readMember]
  exact yields_readMember hget fun as' has a ha here => Action.yields_toJson (h as' has a ha) here

structure Line.Written (l : Line) (ms : Members) : Prop where
  speaker : ms.get? "speaker" = some l.speaker
  text : ms.get? "text" = some (.str l.text)
  textKey : ms.get "textKey" = l.textKey
  emotion : ms.get "emotion" = l.emotion
  name : ms.get "name" = l.name
  nameKey : ms.get "nameKey" = l.nameKey
  options : ms.get? "options" = l.options.map fun cs => .arr (cs.map Choice.toJson)
  hide : ms.get "hideSpeakerVisuals" = l.hideSpeakerVisuals

structure Choice.Written (c : Choice) (ms : Members) : Prop where
  id : ms.get? "id" = some (.str c.id)
  text : ms.get? "text" = some (.str c.text)
  textKey : ms.get "textKey" = c.textKey
  lines : ms.get? "lines" = c.lines.map fun ls => .arr (ls.map Line.toJson)
  actions : ms.get? "actions" = c.actions.map fun as => .arr (as.map Action.toJson)
  branches : ms.get? "branches" = c.branches.map fun bs => .arr (bs.map Branch.toJson)

structure Branch.Written (b : Branch) (ms : Members) : Prop where
  checks : ms.get "checks" = .arr (b.checks.map Check.toJson)
  lines : ms.get? "lines" = b.lines.map fun ls => .arr (ls.map Line.toJson)
  actions : ms.get? "actions" = b.actions.map fun as => .arr (as.map Action.toJson)

theorem Line.exists_written (l : Line) : ∃ ms, l.toJson = .obj ms ∧ l.Written ms := by
  obtain ⟨speaker, text, textKey, emotion, name, nameKey, options, hide⟩ := l
  refine ⟨_, Line.toJson.eq_def _, ?_⟩
  cases options <;> constructor <;>
    simp [Members.get, Members.get?_append, Members.get?_cons, Json.get?_optional,
      Choice.listToJson_eq_map]

theorem Choice.exists_written (c : Choice) : ∃ ms, c.toJson = .obj ms ∧ c.Written ms := by
  obtain ⟨id, text, textKey, lines, actions, branches⟩ := c
  refine ⟨_, Choice.toJson.eq_def _, ?_⟩
  cases lines <;> cases actions <;> cases branches <;> constructor <;>
    simp [Members.get, Members.get?_append, Members.get?_cons, Json.get?_optional, Action.section,
      Line.listToJson_eq_map, Branch.listToJson_eq_map]

theorem Branch.exists_written (b : Branch) : ∃ ms, b.toJson = .obj ms ∧ b.Written ms := by
  obtain ⟨checks, lines, actions⟩ := b
  refine ⟨_, Branch.toJson.eq_def _, ?_⟩
  cases lines <;> cases actions <;> constructor <;>
    simp [Members.get, Members.get?_cons, Action.section, Line.listToJson_eq_map]

mutual

theorem Line.Canonical.yields_toJson {l : Line} :
    l.Canonical → ∀ here, (Line.readItem here l.toJson).Yields (some l)
  | .intro speaker emotion options, here => by
    obtain ⟨ms, hms, written⟩ := l.exists_written
    have hoptions : (Choice.readIn here ms).Yields l.options := by
      rw [Choice.readIn_eq_readMember]
      exact yields_readMember written.options fun cs hcs c hc here =>
        (options cs hcs c hc).yields_toJson here
    rw [hms]
    constructor
    · simp only [Line.readItem, written.speaker, written.text, written.textKey, written.emotion,
        written.name, written.nameKey, written.hide, hoptions.value, Option.getD_some,
        Json.display_str]
      cases l
      rfl
    · refine List.forall_mem_append.mpr ⟨List.forall_mem_append.mpr
        ⟨calm_fieldFindings here _ _, calm_unwritten.mpr ?_⟩, hoptions.calm⟩
      have htext : Members.get ms "text" = .str l.text := by simp [Members.get, written.text]
      simp [written.speaker, written.emotion, htext, speaker, emotion]

theorem Choice.Canonical.yields_toJson {c : Choice} :
    c.Canonical → ∀ here, (Choice.readItem here c.toJson).Yields (some c)
  | .intro id lines actions branches, here => by
    obtain ⟨ms, hms, written⟩ := c.exists_written
    have hlines : (Line.readIn here ms).Yields c.lines := by
      rw [Line.readIn_eq_readMember]
      exact yields_readMember written.lines fun ls hls l hl here =>
        (lines ls hls l hl).yields_toJson here
    have hactions := Action.yields_readIn written.actions actions here
    have hbranches : (Branch.readIn here ms).Yields c.branches := by
      rw [Branch.readIn_eq_readMember]
      exact yields_readMember written.branches fun bs hbs b hb here =>
        (branches bs hbs b hb).yields_toJson here
    have hid : Members.get ms "id" = .str c.id := by simp [Members.get, written.id]
    have htruthy : (Members.get ms "id").truthy = true := by simpa [hid, Json.truthy] using id
    rw [hms]
    unfold Choice.readItem
    dsimp only
    rw [if_pos htruthy]
    constructor
    · simp only [hid, written.text, written.textKey, hlines.value, hactions.value,
        hbranches.value, Json.display_str]
      cases c
      rfl
    · refine List.forall_mem_append.mpr ⟨List.forall_mem_append.mpr ⟨List.forall_mem_append.mpr
        ⟨calm_unwritten.mpr ?_, hlines.calm⟩, hactions.calm⟩, hbranches.calm⟩
      simp [Members.get, written.id, written.text]

theorem Branch.Canonical.yields_toJson {b : Branch} :
    b.Canonical → ∀ here, (Branch.readItem here b.toJson).Yields (some b)
  | .intro checks lines actions, here => by
    obtain ⟨ms, hms, written⟩ := b.exists_written
    have hchecks :
        (Check.readList (here.field "checks") (Members.get ms "checks")).Yields b.checks := by
      rw [written.checks, Check.readList, readSection_eq_readEach]
      exact yields_readAll (fun c hc here => Check.yields_toJson (checks c hc) here) _ 0
    have hlines : (Line.readIn here ms).Yields b.lines := by
      rw [Line.readIn_eq_readMember]
      exact yields_readMember written.lines fun ls hls l hl here =>
        (lines ls hls l hl).yields_toJson here
    have hactions := Action.yields_readIn written.actions actions here
    rw [hms]
    constructor
    · simp only [Branch.readItem, hchecks.value, hlines.value, hactions.value]
      cases b
      rfl
    · exact List.forall_mem_append.mpr ⟨List.forall_mem_append.mpr ⟨hchecks.calm, hlines.calm⟩,
        hactions.calm⟩

end

theorem Fork.Canonical.yields_toJson {f : Fork} (h : f.Canonical) (here : Location) :
    (readObject .fork Fork.read here f.toJson).Yields (some f) := by
  have hchecks := yields_readAll (fun c hc here => Check.yields_toJson (h.checks c hc) here)
    (here.field "checks") 0
  have hlines := yields_readAll (fun l hl here => (h.lines l hl).yields_toJson here)
    (here.field "lines") 0
  obtain ⟨ms, hms, hcs, hls, hactions⟩ : ∃ ms, f.toJson = .obj ms ∧
      Members.get ms "checks" = .arr (f.checks.map Check.toJson) ∧
      Members.get ms "lines" = .arr (f.lines.map Line.toJson) ∧
      Members.get? ms "actions" = f.actions.map fun as => .arr (as.map Action.toJson) := by
    refine ⟨_, rfl, ?_, ?_, ?_⟩ <;> cases f.actions <;>
      simp [Members.get, Members.get?_cons, Action.section]
  have hactions := Action.yields_readIn hactions h.actions here
  rw [hms]
  apply yields_readObject
  unfold Fork.read Check.readList
  simp only [Members.get] at hcs hls
  simp only [Members.get, hcs, hls, readSection_eq_readEach, Line.readList_eq_readEach, readEach]
  exact ⟨by rw [hchecks.value, hlines.value, hactions.value],
    List.forall_mem_append.mpr ⟨List.forall_mem_append.mpr ⟨hchecks.calm, hlines.calm⟩,
      hactions.calm⟩⟩

theorem Document.Canonical.yields_toJson {d : Document} (h : d.Canonical) :
    (Document.read d.toJson "").Yields (some d) := by
  obtain ⟨id, lines, forks, actions⟩ := d
  obtain ⟨ms, hms, hid, hls, hfs, has⟩ : ∃ ms,
      Document.toJson ⟨id, lines, forks, actions⟩ = .obj ms ∧
      Members.get ms "id" = .str id ∧
      Members.get? ms "lines" = lines.map (fun ls => .arr (ls.map Line.toJson)) ∧
      Members.get? ms "forks" = forks.map (fun fs => .arr (fs.map Fork.toJson)) ∧
      Members.get? ms "actions" = actions.map fun as => .arr (as.map Action.toJson) := by
    refine ⟨_, rfl, ?_, ?_, ?_, ?_⟩ <;> cases lines <;> cases forks <;> cases actions <;>
      simp [Members.get, Members.get?_cons, Action.section]
  have hlines : (Line.readIn [] ms).Yields lines := by
    rw [Line.readIn_eq_readMember]
    exact yields_readMember hls fun ls hls l hl here => (h.lines ls hls l hl).yields_toJson here
  have hforks : (Fork.readIn [] ms).Yields forks := by
    rw [Fork.readIn_eq_readMember]
    exact yields_readMember hfs fun fs hfs f hf here => (h.forks fs hfs f hf).yields_toJson here
  have hactions := Action.yields_readIn has h.actions []
  have hreadId : Document.readId ms "" = ⟨id, []⟩ := by
    by_cases hempty : id = "" <;>
      simp [Document.readId, hid, Json.orElse, Json.truthy, hempty]
  rw [hms]
  constructor
  · simp only [Document.read, hreadId, hlines.value, hforks.value, hactions.value]
  · simp only [Document.read, hreadId]
    exact List.forall_mem_append.mpr ⟨List.forall_mem_append.mpr ⟨List.forall_mem_append.mpr
      ⟨by simp, hlines.calm⟩, hforks.calm⟩, hactions.calm⟩

theorem Loaded.document_of_ofNoted {n : Noted (Option Document)} {l : Loaded}
    (h : Loaded.ofNoted n = .ok l) : l.document = n.value := by
  rw [(Loaded.ofNoted_eq_ok_iff.mp h).2]

theorem Loaded.ofNoted_of_yields {n : Noted (Option Document)} {d : Document}
    (h : n.Yields (some d)) : ∃ l, Loaded.ofNoted n = .ok l ∧ l.document = some d :=
  ⟨_, Loaded.ofNoted_eq_ok_iff.mpr ⟨h.calm, rfl⟩, h.value⟩

theorem Document.canonical_of_load {v : Json} {defaultId : String} {l : Loaded} {d : Document}
    (hload : Document.load v defaultId = .ok l) (hd : l.document = some d) : d.Canonical := by
  obtain ⟨hcalm, rfl⟩ := Loaded.ofNoted_eq_ok_iff.mp hload
  exact Document.canonical_read hcalm hd

/-- A document that was loaded from any value is loaded again, field by field, from its written
form, whatever reading the value skipped, dropped or made a text. -/
theorem load_toJson_of_load {v : Json} {defaultId : String} {l : Loaded} {d : Document}
    (hload : Document.load v defaultId = .ok l) (hd : l.document = some d) :
    ∃ again e, Document.load d.toJson "" = .ok again ∧ again.document = some e ∧ e = d ∧
      e.toJson = d.toJson := by
  have hcanonical := Document.canonical_of_load hload hd
  obtain ⟨again, hagain, hdoc⟩ := Loaded.ofNoted_of_yields hcanonical.yields_toJson
  exact ⟨again, d, hagain, hdoc, rfl, rfl⟩

/-- A value with junk entries, null sections, an unknown check, an id and texts that are no texts,
and amounts of which one is dropped. -/
def untidy : Json :=
  .obj [("id", .num 7),
    ("lines", .arr [.null, .obj [("text", .null), ("emotion", .str "glad"),
      ("options", .arr [.obj [("id", .bool true), ("lines", .null),
        ("branches", .arr [.obj [("checks", .arr [.obj [("type", .str "moon"), ("phase", .num 3)],
          .str "junk"])]])]])]]),
    ("actions", .arr [
      .obj [("type", .str "giveItem"), ("itemId", .num 4), ("amount", .num 2),
        ("ifMissing", .bool false)],
      .obj [("type", .str "giveItem"), ("amount", .bool true)]])]

def tidied : Document where
  id := "7"
  lines := some [⟨.str "npc", "None", .null, .str "glad", .null, .null,
    some [⟨"True", "", .null, some [], none,
      some [⟨[.unknown "moon" [("type", .str "moon"), ("phase", .num 3)]], none, none⟩]⟩], .null⟩]
  forks := none
  actions := some [.giveItem "4" (some 2) false, .giveItem "" none true]

theorem load_toJson_tidied : ∃ l again e, Document.load untidy "x" = .ok l ∧
    l.document = some tidied ∧ Document.load tidied.toJson "" = .ok again ∧
    again.document = some e ∧ e = tidied ∧ e.toJson = tidied.toJson := by
  have hload : ∃ l, Document.load untidy "x" = .ok l ∧ l.document = some tidied := ⟨_, rfl, rfl⟩
  obtain ⟨l, hl, hd⟩ := hload
  obtain ⟨again, e, h⟩ := load_toJson_of_load hl hd
  exact ⟨l, again, e, hl, hd, h⟩

end Parley
