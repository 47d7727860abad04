import Parley.Proofs.Validation.Diagnosis

/-!
# The findings of every reader

Each reader of a part of a document finds the defects of what it reads, so loading a document finds
every defect of the value once, and nothing else but an id that is no text. The text of a finding
begins with the way through the value to where the defect is.
-/

namespace Parley

theorem mem_unless {holds : Bool} {f g : Finding} :
    f ∈ (if holds then [] else [g]) ↔ f = g ∧ holds = false := by
  cases holds <;> simp

theorem ordered_of_length_le_one {fs : List Finding} (h : fs.length ≤ 1) :
    fs.Pairwise Finding.Precedes := by
  match fs, h with
  | [], _ => exact .nil
  | [f], _ => exact List.pairwise_singleton _ f

theorem length_unless_le_one (holds : Bool) (g : Finding) :
    (if holds then [] else [g]).length ≤ 1 := by
  cases holds <;> simp

theorem length_unwritten_le_one (here : Location) (vs : List Json) :
    (unwritten here vs).length ≤ 1 :=
  length_unless_le_one _ _

/-- Values without a text are found if some value of the object that has to be a text has none. -/
theorem mem_unwritten {kind : EntryKind} {ms : Members} {here : Location} {vs : List Json}
    (h : vs.all Json.isWritable = (Node.worded ⟨.entry kind, ms⟩).all Json.isWritable)
    {f : Finding} : f ∈ unwritten here vs ↔
      f = ⟨here, .unwritable⟩ ∧ Wrong (.part (.entry kind)) (.obj ms) .unwritable := by
  rw [unwritten, mem_unless, h, List.all_eq_false]
  refine and_congr_right fun _ => ?_
  constructor
  · rintro ⟨v, hv, hlong⟩
    exact .unwritable hv (by simpa using hlong)
  · intro hwrong
    cases hwrong with
    | unwritable worded long => exact ⟨_, worded, by simp [long]⟩

/-- Own defects of an object and values without a text make all that is wrong with it. -/
theorem own_unwritten {kind : EntryKind} {ms : Members} {here : Location} {vs : List Json}
    {fs : List Finding}
    (h : vs.all Json.isWritable = (Node.worded ⟨.entry kind, ms⟩).all Json.isWritable)
    (hfs : ∀ f, f ∈ fs ↔ ∃ d, f = ⟨here, d⟩ ∧ d ≠ .unwritable ∧
      Wrong (.part (.entry kind)) (.obj ms) d)
    (hordered : fs.Pairwise Finding.Precedes) (hmild : ∀ f ∈ fs, f.severity ≠ .fatal) :
    (∀ f, f ∈ fs ++ unwritten here vs ↔
      ∃ d, f = ⟨here, d⟩ ∧ Wrong (.part (.entry kind)) (.obj ms) d) ∧
    (fs ++ unwritten here vs).Pairwise Finding.Precedes := by
  refine ⟨fun f => ?_, List.pairwise_append.mpr
    ⟨hordered, ordered_of_length_le_one (length_unwritten_le_one _ _), ?_⟩⟩
  · rw [List.mem_append, hfs, mem_unwritten h]
    constructor
    · rintro (⟨d, rfl, -, hd⟩ | ⟨rfl, hd⟩)
      · exact ⟨d, rfl, hd⟩
      · exact ⟨_, rfl, hd⟩
    · rintro ⟨d, rfl, hd⟩
      by_cases hunwritable : d = .unwritable
      · subst hunwritable
        exact .inr ⟨rfl, hd⟩
      · exact .inl ⟨d, rfl, hunwritable, hd⟩
  · intro f hf g hg
    have hsevere := hmild f hf
    obtain ⟨d, rfl, -⟩ := (hfs f).mp hf
    obtain ⟨rfl, -⟩ := (mem_unwritten h).mp hg
    refine .beside rfl ?_ fun hsame => absurd hsame hsevere
    rintro rfl
    exact hsevere rfl

/-- An object of an unknown type has nothing wrong with it but that, and a type without a text. -/
theorem Diagnosis.of_unknown {kind : EntryKind} {ms : Members} {here : Location} {type : Json}
    {d : Defect} (hlists : Node.lists ⟨.entry kind, ms⟩ = [])
    (hworded : Node.worded ⟨.entry kind, ms⟩ = [type]) (hmild : d.severity ≠ .fatal)
    (hd : Wrong (.part (.entry kind)) (.obj ms) d)
    (honly : ∀ d' ≠ .unwritable, Wrong (.part (.entry kind)) (.obj ms) d' → d' = d) :
    Diagnosis (.part (.entry kind)) here (.obj ms) (⟨here, d⟩ :: unwritten here [type]) := by
  have hunknown (f : Finding) : f ∈ [⟨here, d⟩] ↔
      ∃ d', f = ⟨here, d'⟩ ∧ d' ≠ .unwritable ∧ Wrong (.part (.entry kind)) (.obj ms) d' := by
    rw [List.mem_singleton]
    constructor
    · rintro rfl
      refine ⟨d, rfl, ?_, hd⟩
      rintro rfl
      exact hmild rfl
    · rintro ⟨d', rfl, hne, hd'⟩
      rw [honly d' hne hd']
  obtain ⟨hown, hordered⟩ := own_unwritten (congrArg (List.all · Json.isWritable) hworded.symm)
    hunknown (List.pairwise_singleton _ _) (List.forall_mem_singleton.mpr hmild)
  exact .of_own hlists hown hordered

theorem Check.worded_of_ne {ms : Members} (h : ms.get "type" ≠ .str "hasItem") :
    Node.worded ⟨.entry .check, ms⟩ = [ms.get "type"] := by
  unfold Node.worded
  dsimp only
  split
  · contradiction
  · rfl

theorem Check.diagnosis_hasItem {ms : Members} (htype : ms.get "type" = .str "hasItem")
    (here : Location) : Diagnosis (.part (.entry .check)) here (.obj ms)
      ((if (ms.get "itemId").truthy then [] else [⟨here, .checkWithoutItem⟩]) ++
        unwritten here [ms.get "itemId"]) := by
  have hworded : [ms.get "itemId"].all Json.isWritable =
      (Node.worded ⟨.entry .check, ms⟩).all Json.isWritable := by
    simp [Node.worded, htype]
  have hitem (f : Finding) :
      f ∈ (if (ms.get "itemId").truthy then [] else [⟨here, .checkWithoutItem⟩]) ↔
        ∃ d, f = ⟨here, d⟩ ∧ d ≠ .unwritable ∧ Wrong (.part (.entry .check)) (.obj ms) d := by
    rw [mem_unless]
    constructor
    · rintro ⟨rfl, item⟩
      exact ⟨_, rfl, (by rintro ⟨⟩), .checkWithoutItem htype item⟩
    · rintro ⟨d, rfl, hworded, hd⟩
      cases hd with
      | checkWithoutItem _ item => exact ⟨rfl, item⟩
      | unknownCheck type => exact absurd htype type
      | unwritable => exact absurd rfl hworded
      | notAnObject object => exact absurd rfl (object ms)
  have hmild : ∀ f ∈ (if (ms.get "itemId").truthy then [] else
      [(⟨here, .checkWithoutItem⟩ : Finding)]), f.severity ≠ .fatal := by
    intro f hf
    obtain ⟨rfl, -⟩ := mem_unless.mp hf
    rintro ⟨⟩
  obtain ⟨hown, hordered⟩ := own_unwritten hworded hitem
    (ordered_of_length_le_one (length_unless_le_one _ _)) hmild
  exact .of_own rfl hown hordered

theorem Check.diagnosis_read (ms : Members) (here : Location) :
    Diagnosis (.part (.entry .check)) here (.obj ms) (Check.read here ms).findings := by
  unfold Check.read
  split
  · rename_i htype
    exact Check.diagnosis_hasItem htype here
  · rename_i htype
    refine .of_unknown rfl (Check.worded_of_ne htype) (by rintro ⟨⟩) (.unknownCheck htype) ?_
    intro d hne hd
    cases hd with
    | checkWithoutItem type => exact absurd type htype
    | unknownCheck => rfl
    | unwritable => exact absurd rfl hne
    | notAnObject object => exact absurd rfl (object ms)

theorem Action.mem_readAmount {here : Location} {v : Json} {f : Finding} :
    f ∈ (Action.readAmount here v).findings ↔
      (f = ⟨here, .amountNotNumber v⟩ ∧ v ≠ .null ∧ ∀ n, v ≠ .num n) ∨
      (∃ x, f = ⟨here, .amountNotFinite (.double x)⟩ ∧ v = .num (.double x) ∧
        x.isFinite = false) ∨
      ∃ n, f = ⟨here, .amountTooLarge⟩ ∧ v = .num (.int n) ∧ Double.ofInt? n = none := by
  cases v with
  | num n =>
    cases n with
    | int n => cases h : Double.ofInt? n <;> simp [Action.readAmount, Number.finite, h]
    | double x => cases h : x.isFinite <;> simp [Action.readAmount, Number.finite, h]
  | _ => simp [Action.readAmount]

theorem Action.findings_readAmount (here : Location) (v : Json) :
    (Action.readAmount here v).findings.length ≤ 1 ∧
      ∀ f ∈ (Action.readAmount here v).findings, f.location = here ∧ f.severity ≠ .error ∧
        (f.severity = .fatal → f.defect = .amountTooLarge) := by
  unfold Action.readAmount
  split
  · exact ⟨Nat.zero_le _, nofun⟩
  · split
    · exact ⟨Nat.zero_le _, nofun⟩
    · exact ⟨Nat.le_refl _, List.forall_mem_singleton.mpr ⟨rfl, nofun, nofun⟩⟩
    · exact ⟨Nat.le_refl _, List.forall_mem_singleton.mpr ⟨rfl, nofun, fun _ => rfl⟩⟩
  · exact ⟨Nat.le_refl _, List.forall_mem_singleton.mpr ⟨rfl, nofun, nofun⟩⟩

theorem Action.mem_own {ms : Members} {here : Location} (htype : ms.get "type" = .str "giveItem")
    (f : Finding) :
    f ∈ (if (ms.get "itemId").truthy then [] else [⟨here, .actionWithoutItem⟩]) ++
        unwritten here [ms.get "itemId", shownAmount (ms.get "amount")] ++
        (Action.readAmount here (ms.get "amount")).findings ↔
      ∃ d, f = ⟨here, d⟩ ∧ Wrong (.part (.entry .action)) (.obj ms) d := by
  have hworded : [ms.get "itemId", shownAmount (ms.get "amount")].all Json.isWritable =
      (Node.worded ⟨.entry .action, ms⟩).all Json.isWritable := by
    cases hamount : ms.get "amount" <;> simp [Node.worded, htype, hamount, shownAmount]
  rw [List.mem_append, List.mem_append, mem_unless, mem_unwritten hworded, Action.mem_readAmount]
  constructor
  · rintro ((⟨rfl, hitem⟩ | ⟨rfl, hwrong⟩) | ⟨rfl, hgiven, hnumber⟩ | ⟨x, rfl, hx, hinfinite⟩ |
      ⟨n, rfl, hn, hlarge⟩)
    · exact ⟨_, rfl, .actionWithoutItem htype hitem⟩
    · exact ⟨_, rfl, hwrong⟩
    · exact ⟨_, rfl, .amountNotNumber htype hgiven hnumber⟩
    · exact ⟨_, rfl, .amountNotFinite htype hx hinfinite⟩
    · exact ⟨_, rfl, .amountTooLarge htype hn hlarge⟩
  · rintro ⟨d, rfl, hd⟩
    cases hd with
    | actionWithoutItem _ item => exact .inl (.inl ⟨rfl, item⟩)
    | unwritable worded long => exact .inl (.inr ⟨rfl, .unwritable worded long⟩)
    | unknownAction type => exact absurd htype type
    | amountNotNumber _ given number => exact .inr (.inl ⟨rfl, given, number⟩)
    | amountNotFinite _ amount infinite => exact .inr (.inr (.inl ⟨_, rfl, amount, infinite⟩))
    | amountTooLarge _ amount large => exact .inr (.inr (.inr ⟨_, rfl, amount, large⟩))
    | notAnObject object => exact absurd rfl (object ms)

/-- A missing item comes first, then values without a text, then the amount. -/
theorem Action.ordered_own (here : Location) (item amount : Json) :
    ((if item.truthy then [] else [(⟨here, .actionWithoutItem⟩ : Finding)]) ++
      unwritten here [item, shownAmount amount] ++
        (Action.readAmount here amount).findings).Pairwise Finding.Precedes := by
  obtain ⟨hone, hamount⟩ := Action.findings_readAmount here amount
  refine List.pairwise_append.mpr ⟨List.pairwise_append.mpr
    ⟨ordered_of_length_le_one (length_unless_le_one _ _),
      ordered_of_length_le_one (length_unwritten_le_one _ _), ?_⟩,
    ordered_of_length_le_one hone, ?_⟩
  · intro f hf g hg
    obtain ⟨rfl, -⟩ := mem_unless.mp hf
    obtain ⟨rfl, -⟩ := mem_unless.mp hg
    exact .beside rfl (by rintro ⟨⟩) (by rintro ⟨⟩)
  · intro f hf g hg
    obtain ⟨hplace, hmild, hlarge⟩ := hamount g hg
    rcases List.mem_append.mp hf with hf | hf
    · obtain ⟨rfl, -⟩ := mem_unless.mp hf
      exact .beside hplace.symm (by rintro ⟨⟩) fun hsame => absurd hsame.symm hmild
    · obtain ⟨rfl, -⟩ := mem_unless.mp hf
      exact .beside hplace.symm (by rintro ⟨⟩) fun hsame => hlarge hsame.symm

theorem Action.worded_of_ne {ms : Members} (h : ms.get "type" ≠ .str "giveItem") :
    Node.worded ⟨.entry .action, ms⟩ = [ms.get "type"] := by
  unfold Node.worded
  dsimp only
  split
  · contradiction
  · rfl

theorem Action.diagnosis_read (ms : Members) (here : Location) :
    Diagnosis (.part (.entry .action)) here (.obj ms) (Action.read here ms).findings := by
  unfold Action.read
  split
  · rename_i htype
    exact .of_own rfl (Action.mem_own htype) (Action.ordered_own here _ _)
  · rename_i htype
    refine .of_unknown rfl (Action.worded_of_ne htype) (by rintro ⟨⟩) (.unknownAction htype) ?_
    intro d hne hd
    cases hd with
    | unknownAction => rfl
    | unwritable => exact absurd rfl hne
    | notAnObject object => exact absurd rfl (object ms)
    | actionWithoutItem type | amountNotNumber type | amountNotFinite type
    | amountTooLarge type => exact absurd type htype

section

variable (here : Location) (ms : Members)

theorem Action.covers_readIn :
    Covers here ms ("actions", .action) (Action.readIn here ms).findings := by
  rw [Action.readIn_eq_readMember]
  exact covers_readMember _ ms (fun _ _ u _ => diagnosis_readObject Action.diagnosis_read u) here

theorem Check.covers_readList :
    Covers here ms ("checks", .check)
      (Check.readList (here.field "checks") (ms.get "checks")).findings := by
  rw [Check.readList, readSection_eq_readEach, findings_readEach_get]
  exact covers_readMember _ ms (fun _ _ u _ => diagnosis_readObject Check.diagnosis_read u) here

end

theorem Line.mem_fieldFindings {here : Location} {speaker emotion : Json} {f : Finding} :
    f ∈ Line.fieldFindings here speaker emotion ↔
      (f = ⟨here, .unknownSpeaker speaker⟩ ∧ ∀ s ∈ knownSpeakers, speaker ≠ .str s) ∨
      (f = ⟨here, .unknownEmotion emotion⟩ ∧ emotion ≠ .null ∧
        ∀ s ∈ knownEmotions, emotion ≠ .str s) := by
  have hunlisted (s : String) (known : List String) :
      known.contains s = false ↔ ∀ t ∈ known, Json.str s ≠ .str t := by
    simp only [List.contains_eq_mem, decide_eq_false_iff_not, ne_eq, Json.str.injEq]
    exact ⟨fun h t ht hst => h (hst ▸ ht), fun h hs => h s hs rfl⟩
  unfold Line.fieldFindings
  rw [List.mem_append]
  apply or_congr
  · cases speaker with
    | str s =>
      dsimp only
      rw [mem_unless, hunlisted]
    | _ => simp
  · cases emotion with
    | str s =>
      dsimp only
      rw [mem_unless, hunlisted]
      simp
    | _ => simp

/-- An unknown speaker is an error and an unknown emotion is none. -/
theorem Line.ordered_fieldFindings (here : Location) (speaker emotion : Json) :
    (Line.fieldFindings here speaker emotion).Pairwise Finding.Precedes := by
  unfold Line.fieldFindings
  refine List.pairwise_append.mpr ⟨ordered_of_length_le_one ?_, ordered_of_length_le_one ?_, ?_⟩
  · split
    · exact length_unless_le_one _ _
    · exact Nat.le_refl _
  · split
    · exact Nat.zero_le _
    · exact length_unless_le_one _ _
    · exact Nat.le_refl _
  · intro f hf g hg
    have hspeaker : f = ⟨here, .unknownSpeaker speaker⟩ := by
      split at hf
      · exact (mem_unless.mp hf).1
      · exact List.mem_singleton.mp hf
    have hemotion : g = ⟨here, .unknownEmotion emotion⟩ := by
      split at hg
      · cases hg
      · exact (mem_unless.mp hg).1
      · exact List.mem_singleton.mp hg
    subst hspeaker hemotion
    exact .beside rfl (by rintro ⟨⟩) (by rintro ⟨⟩)

theorem Line.mem_own {here : Location} {ms : Members} (f : Finding) :
    f ∈ Line.fieldFindings here ((Members.get? ms "speaker").getD (.str "npc"))
        (ms.get "emotion") ↔
      ∃ d, f = ⟨here, d⟩ ∧ d ≠ .unwritable ∧ Wrong (.part (.entry .line)) (.obj ms) d := by
  rw [Line.mem_fieldFindings]
  constructor
  · rintro (⟨rfl, hunknown⟩ | ⟨rfl, hgiven, hunknown⟩)
    · cases hspeaker : Members.get? ms "speaker" with
      | none =>
        rw [hspeaker] at hunknown
        exact absurd rfl (hunknown "npc" List.mem_cons_self)
      | some v =>
        rw [hspeaker] at hunknown
        exact ⟨_, rfl, (by rintro ⟨⟩), .unknownSpeaker hspeaker hunknown⟩
    · exact ⟨_, rfl, (by rintro ⟨⟩), .unknownEmotion hgiven hunknown⟩
  · rintro ⟨d, rfl, hworded, hd⟩
    cases hd with
    | unwritable => exact absurd rfl hworded
    | unknownSpeaker given unknown =>
      rw [given]
      exact .inl ⟨rfl, unknown⟩
    | unknownEmotion given unknown => exact .inr ⟨rfl, given, unknown⟩
    | notAnObject object => exact absurd rfl (object ms)

section

variable {here : Location} {ms : Members}

theorem Line.diagnosis_readItem_obj
    (hoptions : Covers here ms ("options", .choice) (Choice.readIn here ms).findings) :
    Diagnosis (.part (.entry .line)) here (.obj ms) (Line.readItem here (.obj ms)).findings := by
  have hworded : [(Members.get? ms "speaker").getD (.str "npc"), ms.get "emotion",
      ms.get "text"].all Json.isWritable =
        (Node.worded ⟨.entry .line, ms⟩).all Json.isWritable := by
    cases hspeaker : Members.get? ms "speaker" <;> simp [Node.worded, Members.get, hspeaker]
  have hmild (f : Finding) (hf : f ∈ Line.fieldFindings here
      ((Members.get? ms "speaker").getD (.str "npc")) (ms.get "emotion")) : f.severity ≠ .fatal := by
    rcases Line.mem_fieldFindings.mp hf with ⟨rfl, -⟩ | ⟨rfl, -⟩ <;> rintro ⟨⟩
  obtain ⟨hown, hordered⟩ := own_unwritten hworded Line.mem_own
    (Line.ordered_fieldFindings here _ _) hmild
  have h := Diagnosis.of_sections (p := .entry .line) rfl hown hordered (.cons hoptions .nil)
  simpa [Line.readItem] using h

theorem Choice.diagnosis_readItem_obj
    (hlines : Covers here ms ("lines", .line) (Line.readIn here ms).findings)
    (hbranches : Covers here ms ("branches", .branch) (Branch.readIn here ms).findings) :
    Diagnosis (.part (.entry .choice)) here (.obj ms) (Choice.readItem here (.obj ms)).findings := by
  unfold Choice.readItem
  cases hid : (ms.get "id").truthy with
  | true =>
    have hlists : Node.lists ⟨.entry .choice, ms⟩ =
        [("lines", .line), ("actions", .action), ("branches", .branch)] := by
      simp [Node.lists, hid]
    have hworded : [ms.get "id", ms.get "text"].all Json.isWritable =
        (Node.worded ⟨.entry .choice, ms⟩).all Json.isWritable := by
      simp [Node.worded, hid]
    have hnone (f : Finding) : f ∈ ([] : List Finding) ↔
        ∃ d, f = ⟨here, d⟩ ∧ d ≠ .unwritable ∧ Wrong (.part (.entry .choice)) (.obj ms) d := by
      refine ⟨nofun, ?_⟩
      rintro ⟨d, rfl, hworded, hd⟩
      cases hd with
      | choiceWithoutId id => rw [hid] at id; cases id
      | unwritable => exact absurd rfl hworded
      | notAnObject object => exact absurd rfl (object ms)
    obtain ⟨hown, hordered⟩ := own_unwritten hworded hnone .nil nofun
    have h := Diagnosis.of_sections hlists hown hordered
      (.cons hlines (.cons (Action.covers_readIn here ms) (.cons hbranches .nil)))
    simpa [hid, List.append_assoc] using h
  | false =>
    have hlists : Node.lists ⟨.entry .choice, ms⟩ = [] := by
      simp [Node.lists, hid]
    simp only [hid, Bool.false_eq_true, if_false]
    refine .of_own hlists (fun f => ?_) (List.pairwise_singleton _ _)
    rw [List.mem_singleton]
    constructor
    · rintro rfl
      exact ⟨_, rfl, .choiceWithoutId hid⟩
    · rintro ⟨d, rfl, hd⟩
      cases hd with
      | choiceWithoutId => rfl
      | unwritable worded => simp [Node.worded, hid] at worded
      | notAnObject object => exact absurd rfl (object ms)

theorem Branch.diagnosis_readItem_obj
    (hlines : Covers here ms ("lines", .line) (Line.readIn here ms).findings) :
    Diagnosis (.part (.entry .branch)) here (.obj ms) (Branch.readItem here (.obj ms)).findings := by
  have hown (f : Finding) : f ∈ ([] : List Finding) ↔
      ∃ d, f = ⟨here, d⟩ ∧ Wrong (.part (.entry .branch)) (.obj ms) d := by
    refine ⟨nofun, ?_⟩
    rintro ⟨d, rfl, hd⟩
    cases hd with
    | unwritable worded => cases worded
    | notAnObject object => exact absurd rfl (object ms)
  have h := Diagnosis.of_sections rfl hown .nil (.cons (Check.covers_readList here ms)
    (.cons hlines (.cons (Action.covers_readIn here ms) .nil)))
  simpa [Branch.readItem, List.append_assoc] using h

end

/-- The readers of lines, choices and branches call one another, so their findings are told by one
induction on the value. -/
theorem diagnosis_readItem (v : Json) :
    (∀ here, Diagnosis (.part (.entry .line)) here v (Line.readItem here v).findings) ∧
    (∀ here, Diagnosis (.part (.entry .choice)) here v (Choice.readItem here v).findings) ∧
    ∀ here, Diagnosis (.part (.entry .branch)) here v (Branch.readItem here v).findings := by
  induction v using Json.entryInduction with
  | step v ih =>
    cases v with
    | obj ms =>
      have hlines (here : Location) :
          Covers here ms ("lines", .line) (Line.readIn here ms).findings := by
        rw [Line.readIn_eq_readMember]
        exact covers_readMember _ ms (fun items hget u hu => (ih ms _ items rfl hget u hu).1) here
      have hoptions (here : Location) :
          Covers here ms ("options", .choice) (Choice.readIn here ms).findings := by
        rw [Choice.readIn_eq_readMember]
        exact covers_readMember _ ms (fun items hget u hu => (ih ms _ items rfl hget u hu).2.1) here
      have hbranches (here : Location) :
          Covers here ms ("branches", .branch) (Branch.readIn here ms).findings := by
        rw [Branch.readIn_eq_readMember]
        exact covers_readMember _ ms (fun items hget u hu => (ih ms _ items rfl hget u hu).2.2) here
      exact ⟨fun here => Line.diagnosis_readItem_obj (hoptions here),
        fun here => Choice.diagnosis_readItem_obj (hlines here) (hbranches here),
        fun here => Branch.diagnosis_readItem_obj (hlines here)⟩
    | _ =>
      exact ⟨diagnosis_notAnObject (by rintro _ ⟨⟩), diagnosis_notAnObject (by rintro _ ⟨⟩),
        diagnosis_notAnObject (by rintro _ ⟨⟩)⟩

section

variable (here : Location) (ms : Members)

theorem Line.covers_readIn : Covers here ms ("lines", .line) (Line.readIn here ms).findings := by
  rw [Line.readIn_eq_readMember]
  exact covers_readMember _ ms (fun _ _ u _ => (diagnosis_readItem u).1) here

theorem Line.covers_readList :
    Covers here ms ("lines", .line)
      (Line.readList (here.field "lines") (ms.get "lines")).findings := by
  rw [Line.readList_eq_readEach, findings_readEach_get, ← Line.readIn_eq_readMember]
  exact Line.covers_readIn here ms

theorem Fork.diagnosis_read :
    Diagnosis (.part (.entry .fork)) here (.obj ms) (Fork.read here ms).findings := by
  have hown (f : Finding) : f ∈ ([] : List Finding) ↔
      ∃ d, f = ⟨here, d⟩ ∧ Wrong (.part (.entry .fork)) (.obj ms) d := by
    refine ⟨nofun, ?_⟩
    rintro ⟨d, rfl, hd⟩
    cases hd with
    | unwritable worded => cases worded
    | notAnObject object => exact absurd rfl (object ms)
  have h := Diagnosis.of_sections rfl hown .nil (.cons (Check.covers_readList here ms)
    (.cons (Line.covers_readList here ms) (.cons (Action.covers_readIn here ms) .nil)))
  simpa [Fork.read, List.append_assoc] using h

theorem Fork.covers_readIn : Covers here ms ("forks", .fork) (Fork.readIn here ms).findings := by
  rw [Fork.readIn_eq_readMember]
  exact covers_readMember _ ms
    (fun _ _ u _ => diagnosis_readObject (fun ms here => Fork.diagnosis_read here ms) u) here

end

theorem Document.diagnosis_read (ms : Members) :
    Diagnosis (.part .document) [] (.obj ms)
      ((Line.readIn [] ms).findings ++ (Fork.readIn [] ms).findings ++
        (Action.readIn [] ms).findings) := by
  have hown (f : Finding) : f ∈ ([] : List Finding) ↔
      ∃ d, f = ⟨[], d⟩ ∧ Wrong (.part .document) (.obj ms) d :=
    ⟨nofun, by rintro ⟨d, rfl, ⟨⟩⟩⟩
  have h := Diagnosis.of_sections rfl hown .nil (.cons (Line.covers_readIn [] ms)
    (.cons (Fork.covers_readIn [] ms) (.cons (Action.covers_readIn [] ms) .nil)))
  simpa [List.append_assoc] using h

end Parley
