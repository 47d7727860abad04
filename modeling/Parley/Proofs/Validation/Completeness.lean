import Parley.Proofs.Validation.Findings

/-!
# Loading tells every defect once

What is told of a value that was loaded is exactly what is wrong with it: errors and warnings are
the defects of the value by their severity, and no place is named twice among the errors or among
the warnings, not even in writing.
-/

namespace Parley

theorem Loaded.findings_of_ofNoted {n : Noted (Option Document)} {l : Loaded}
    (h : Loaded.ofNoted n = .ok l) :
    l.errors = n.findings.filter (·.severity == .error) ∧
      l.warnings = n.findings.filter (·.severity == .warning) ∧
      ∀ f ∈ n.findings, f.severity ≠ .fatal := by
  obtain ⟨hcalm, rfl⟩ := Loaded.ofNoted_eq_ok_iff.mp h
  exact ⟨rfl, rfl, hcalm⟩

theorem Document.mem_readId {ms : Members} {defaultId : String} {f : Finding} :
    f ∈ (Document.readId ms defaultId).findings ↔
      (∀ s, (ms.get "id").orElse (.str defaultId) ≠ .str s) ∧
        f = ⟨[], if ((ms.get "id").orElse (.str defaultId)).isWritable then
          .idNotText ((ms.get "id").orElse (.str defaultId)) else .unwritable⟩ := by
  unfold Document.readId
  generalize (ms.get "id").orElse (.str defaultId) = id
  cases id <;> simp

/-- Unless it is fatal, the only thing that reading an id may find is that it is no text. -/
theorem Document.mem_readId_of_calm {ms : Members} {defaultId : String} {f : Finding}
    (hcalm : (Document.readId ms defaultId).Calm) :
    f ∈ (Document.readId ms defaultId).findings ↔
      f = ⟨[], .idNotText ((ms.get "id").orElse (.str defaultId))⟩ ∧
        ∀ s, (ms.get "id").orElse (.str defaultId) ≠ .str s := by
  rw [Document.mem_readId, and_comm]
  refine and_congr_left fun hid => ?_
  have hwritable : ((ms.get "id").orElse (.str defaultId)).isWritable = true := by
    by_contra hlong
    rw [Bool.not_eq_true] at hlong
    exact hcalm ⟨[], .unwritable⟩ (Document.mem_readId.mpr ⟨hid, by rw [hlong]; rfl⟩) rfl
  rw [if_pos hwritable]

theorem Document.length_readId_le_one (ms : Members) (defaultId : String) :
    (Document.readId ms defaultId).findings.length ≤ 1 := by
  unfold Document.readId
  split
  · exact Nat.zero_le _
  · exact Nat.le_refl _

/-- The document itself, or a place with a defect of it. -/
def Location.Told (v : Json) (l : Location) : Prop :=
  l = [] ∨ ∃ d, Defective (.part .document) v l d

theorem Location.Told.write_inj {v : Json} {l l' : Location} (h : l.Told v) (h' : l'.Told v)
    (hsame : l.write = l'.write) : l = l' := by
  have hempty (m : Location) (d : Defect) (hm : Defective (.part .document) v m d) :
      m.write ≠ "" := by
    obtain ⟨name, m', hname, rfl⟩ := hm.eq_field
    exact Location.write_field_ne_empty hname m'
  rcases h with rfl | ⟨d, hd⟩
  · rcases h' with rfl | ⟨d', hd'⟩
    · rfl
    · exact absurd hsame.symm (hempty l' d' hd')
  · rcases h' with rfl | ⟨d', hd'⟩
    · exact absurd hsame (hempty l d hd)
    · obtain ⟨name, m, -, rfl⟩ := hd.eq_field
      obtain ⟨name', m', -, rfl⟩ := hd'.eq_field
      exact Location.write_field_inj hd.plain hd'.plain hsame

/-- Of findings of one severity, none of them fatal, each names a place of its own. -/
theorem nodup_texts {v : Json} {fs : List Finding} (severity : Severity)
    (hordered : fs.Pairwise Finding.Precedes) (htold : ∀ f ∈ fs, f.location.Told v)
    (hcalm : ∀ f ∈ fs, f.severity ≠ .fatal) :
    ((fs.filter (·.severity == severity)).map (·.location.write)).Nodup := by
  rw [List.Nodup, List.pairwise_map]
  refine (hordered.filter _).imp_of_mem fun {f g} hf hg hprecedes hsame => ?_
  obtain ⟨hf, hfs⟩ := List.mem_filter.mp hf
  obtain ⟨hg, hgs⟩ := List.mem_filter.mp hg
  rw [beq_iff_eq] at hfs hgs
  cases hprecedes with
  | before hbefore => exact hbefore.ne ((htold f hf).write_inj (htold g hg) hsame)
  | beside _ _ hlast =>
    apply hcalm g hg
    rw [Finding.severity, hlast (hfs.trans hgs.symm), Defect.severity]

/-- Errors and warnings about an object that can be loaded are exactly its defects and, if its id is
no text, a warning about that. Each defect is an error or a warning. Its message begins with the
text of the way that leads to what is wrong, and the text tells the way. No two errors and no two
warnings name the same place. -/
theorem Document.findings_iff_defective {ms : Members} {defaultId : String} {l : Loaded}
    (h : Document.load (.obj ms) defaultId = .ok l) :
    (∀ f, f ∈ l.errors ↔
      f.severity = .error ∧ Defective (.part .document) (.obj ms) f.location f.defect) ∧
    (∀ f, f ∈ l.warnings ↔
      (f = ⟨[], .idNotText ((ms.get "id").orElse (.str defaultId))⟩ ∧
        ∀ s, (ms.get "id").orElse (.str defaultId) ≠ .str s) ∨
      (f.severity = .warning ∧ Defective (.part .document) (.obj ms) f.location f.defect)) ∧
    (∀ place d, Defective (.part .document) (.obj ms) place d →
      (d.severity = .error ∨ d.severity = .warning) ∧
      (⟨place, d⟩ : Finding).message = place.write ++ ": " ++ d.message ∧
      (∃ p v, (Json.obj ms).follow place = some v ∧ Wrong p v d) ∧
      ∀ place' d', Defective (.part .document) (.obj ms) place' d' →
        place'.write = place.write → place' = place) ∧
    (l.errors.map (·.location.write)).Nodup ∧ (l.warnings.map (·.location.write)).Nodup := by
  obtain ⟨herrors, hwarnings, hfatal⟩ := Loaded.findings_of_ofNoted h
  have hread : (Document.read (.obj ms) defaultId).findings =
      (Document.readId ms defaultId).findings ++ ((Line.readIn [] ms).findings ++
        (Fork.readIn [] ms).findings ++ (Action.readIn [] ms).findings) := by
    simp [Document.read, List.append_assoc]
  have hdiagnosis := Document.diagnosis_read ms
  rw [hread] at herrors hwarnings hfatal
  generalize (Line.readIn [] ms).findings ++ (Fork.readIn [] ms).findings ++
    (Action.readIn [] ms).findings = fs at herrors hwarnings hfatal hdiagnosis
  have hmem (f : Finding) : f ∈ fs ↔ Defective (.part .document) (.obj ms) f.location f.defect := by
    rw [hdiagnosis.mem_iff]
    constructor
    · rintro ⟨place, d, rfl, hd⟩
      exact hd
    · exact fun hd => ⟨f.location, f.defect, rfl, hd⟩
  have htold : ∀ f ∈ (Document.readId ms defaultId).findings ++ fs,
      f.location.Told (.obj ms) := by
    intro f hf
    rcases List.mem_append.mp hf with hf | hf
    · obtain ⟨-, rfl⟩ := Document.mem_readId.mp hf
      exact .inl rfl
    · exact .inr ⟨f.defect, (hmem f).mp hf⟩
  have hordered : ((Document.readId ms defaultId).findings ++ fs).Pairwise Finding.Precedes := by
    refine List.pairwise_append.mpr ⟨ordered_of_length_le_one
      (Document.length_readId_le_one ms defaultId), hdiagnosis.ordered, ?_⟩
    intro f hf g hg
    obtain ⟨-, rfl⟩ := Document.mem_readId.mp hf
    obtain ⟨name, place, -, hplace⟩ := ((hmem g).mp hg).eq_field
    exact .before (hplace ▸ .outside)
  have hid (f : Finding) := Document.mem_readId_of_calm (f := f) fun g hg =>
    hfatal g (List.mem_append_left _ hg)
  refine ⟨fun f => ?_, fun f => ?_,
    fun place d hd => ⟨?_, ?_, hd.exists_follow, fun place' d' hd' hsame => ?_⟩, ?_, ?_⟩
  · rw [herrors, List.mem_filter, beq_iff_eq, List.mem_append, hmem, and_comm]
    refine and_congr_right fun herror => or_iff_right fun hf => ?_
    obtain ⟨rfl, -⟩ := (hid f).mp hf
    cases herror
  · rw [hwarnings, List.mem_filter, beq_iff_eq, List.mem_append, hmem, hid, or_and_right]
    refine or_congr (and_iff_left_of_imp ?_) And.comm
    rintro ⟨rfl, -⟩
    rfl
  · have hmild := hfatal ⟨place, d⟩ (List.mem_append_right _ ((hmem ⟨place, d⟩).mpr hd))
    rw [Finding.severity] at hmild
    cases hseverity : d.severity with
    | error => exact .inl rfl
    | warning => exact .inr rfl
    | fatal => exact absurd hseverity hmild
  · obtain ⟨name, place, -, rfl⟩ := hd.eq_field
    rfl
  · exact Location.Told.write_inj (.inr ⟨d', hd'⟩) (.inr ⟨d, hd⟩) hsame
  · rw [herrors]
    exact nodup_texts .error hordered htold hfatal
  · rw [hwarnings]
    exact nodup_texts .warning hordered htold hfatal

/-- A document with an id that is no text, a line that is skipped, and defects at every level. -/
def botched : Members :=
  [("id", .num (.int 3)),
    ("lines", .arr [.null, .obj [("speaker", .str "narrator"), ("emotion", .str "bored"),
      ("options", .arr [.obj [("lines", .num (.int 1))], .obj [("id", .str "a"),
        ("branches", .arr [.obj [("checks", .arr [.obj [("type", .str "hasItem")]])]])]])]]),
    ("forks", .str "none"),
    ("actions", .arr [.obj [("type", .str "giveItem"), ("itemId", .str "key"),
      ("amount", .bool true)]])]

theorem findings_botched : ∃ l, Document.load (.obj botched) "gate" = .ok l ∧
    l.errors.map Finding.message =
      ["lines[1]: unknown speaker 'narrator' (expected one of npc, player)",
        "lines[1].options[0]: option has no id and can never be selected",
        "lines[1].options[1].branches[0].checks[0]: hasItem check has no itemId"] ∧
    l.warnings.map Finding.message =
      ["Document id 3 is not a string", "lines[0]: skipping non-object line",
        "lines[1]: unknown emotion 'bored'", "forks: expected a list, got str",
        "actions[0]: amount True is not a number, granting 1"] ∧
    Defective (.part .document) (.obj botched)
      [.field "lines", .item 1, .field "options", .item 0] .choiceWithoutId := by
  obtain ⟨l, hl⟩ : ∃ l, Document.load (.obj botched) "gate" = .ok l := ⟨_, rfl⟩
  obtain ⟨herrors, -⟩ := Document.findings_iff_defective hl
  refine ⟨l, hl, ?_, ?_, ?_⟩
  · cases hl
    rfl
  · cases hl
    rfl
  · refine ((herrors ⟨_, .choiceWithoutId⟩).mp ?_).2
    cases hl
    exact List.mem_cons_of_mem _ List.mem_cons_self

end Parley
