import Parley.Proofs.Validation.Completeness
import Parley.Proofs.Validation.Exposure
import Parley.Proofs.Validation.Verdict

/-!
# Where flaws are told to be

What validation tells of a value that can be loaded: the findings of the reading, and each flaw of
the value. A flaw is told where the way by the numbers of the kept entries leads, which is where it
is exactly if nothing was skipped before an entry on the way.
-/

namespace Parley

theorem Json.display_eq_empty_iff {v : Json} : v.display = "" ↔ v = .str "" := by
  constructor
  · intro h
    cases v with
    | null => exact absurd h (by decide)
    | bool b => cases b <;> exact absurd h (by decide)
    | num n => exact absurd h n.write_ne_empty
    | str s => exact congrArg Json.str h
    | arr items => simp [display, quoted, String.append_eq_empty_iff] at h
    | obj members => simp [display, quoted, String.append_eq_empty_iff] at h
  · rintro rfl
    rfl

theorem Action.value_readAmount_eq_some {here : Location} {v : Json} {n : Number} :
    (Action.readAmount here v).value = some n ↔ v = .num n ∧ n.finite = .ok true := by
  unfold Action.readAmount
  cases v with
  | num m =>
    dsimp only
    constructor
    · intro h
      split at h
      · rename_i hfinite
        cases h
        exact ⟨rfl, hfinite⟩
      · cases h
      · cases h
    · rintro ⟨hm, hfinite⟩
      cases hm
      rw [hfinite]
  | _ => simp

theorem Action.flaw?_ofMembers {ms : Members} {here : Location} {f : Flaw} :
    (Action.ofMembers ms).flaw? here = some f ↔ ∃ n, ms.get "type" = .str "giveItem" ∧
      ms.get "amount" = .num n ∧ n.finite = .ok true ∧ n.ltInt 1 = true ∧
      f = ⟨here, .smallAmount n⟩ := by
  unfold Action.ofMembers Action.read
  split
  · rename_i htype
    simp only [htype, true_and]
    cases hamount : (Action.readAmount [] (ms.get "amount")).value with
    | none =>
      refine iff_of_false (by rintro ⟨⟩) ?_
      rintro ⟨n, hn, hfinite, -⟩
      rw [Action.value_readAmount_eq_some.mpr ⟨hn, hfinite⟩] at hamount
      cases hamount
    | some n =>
      obtain ⟨hn, hfinite⟩ := Action.value_readAmount_eq_some.mp hamount
      change (if n.ltInt 1 = true then some (⟨here, .smallAmount n⟩ : Flaw) else none) = some f ↔ _
      rw [Option.ite_none_right_eq_some, Option.some.injEq]
      constructor
      · rintro ⟨hsmall, rfl⟩
        exact ⟨n, hn, hfinite, hsmall, rfl⟩
      · rintro ⟨m, hm, -, hsmall, rfl⟩
        rw [hn] at hm
        cases hm
        exact ⟨hsmall, rfl⟩
  · rename_i htype
    refine iff_of_false (by rintro ⟨⟩) ?_
    rintro ⟨n, hgive, -⟩
    exact htype hgive

theorem Action.judges (ms : Members) : Judges .action Action.ofMembers Action.flawsAmid ms := by
  intro here before after f
  rw [Action.flawsAmid, Option.mem_toList, Action.flaw?_ofMembers]
  constructor
  · rintro ⟨n, htype, hamount, hfinite, hsmall, rfl⟩
    exact .inl ⟨rfl, .smallAmount htype hamount hfinite hsmall⟩
  · rintro (⟨rfl, hamiss⟩ | ⟨l, m, -, hflawed, -⟩)
    · obtain ⟨location, k⟩ := f
      cases hamiss with
      | smallAmount type amount finite small => exact ⟨_, type, amount, finite, small, rfl⟩
    · cases hflawed with
      | field list => cases list

theorem Check.exposesList (here : Location) (ms : Members) :
    ExposesList here ms ("checks", .check) [] := by
  refine fun f => iff_of_false List.not_mem_nil ?_
  rintro ⟨v, l, m, -, -, hflawed, -⟩
  cases hflawed with
  | entry split kept amiss => cases amiss
  | item split below =>
    cases below with
    | field list => cases list

theorem Action.exposesList (here : Location) (ms : Members) :
    ExposesList here ms ("actions", .action)
      (Action.flaws (here.field "actions") (Action.readIn [] ms).value) := by
  have h := exposesList_section (Action.value_readIn [] ms)
    (fun _ _ _ _ o _ => Action.judges o) here
  rw [← Action.flawsFrom_eq] at h
  exact h

section

variable (ms : Members)

theorem Line.exposesList_of
    (h : ∀ items, ms.get? "lines" = some (.arr items) → ∀ u ∈ items, ∀ o,
      EntryKind.line.kept? u = some o → Judges .line Line.ofMembers Line.flawsAmid o)
    (here : Location) :
    ExposesList here ms ("lines", .line)
      (Line.sectionFlaws (here.field "lines") (Line.readIn [] ms).value) := by
  have h := exposesList_section (Line.value_readIn [] ms) h here
  rw [← Line.flawsFrom_eq] at h
  exact h

theorem Choice.exposesList_of
    (h : ∀ items, ms.get? "options" = some (.arr items) → ∀ u ∈ items, ∀ o,
      EntryKind.choice.kept? u = some o → Judges .choice Choice.ofMembers Choice.flawsAmid o)
    (here : Location) :
    ExposesList here ms ("options", .choice)
      (Choice.flawsFrom (here.field "options") 0 [] ((Choice.readIn [] ms).value.getD [])) := by
  have h := exposesList_section (Choice.value_readIn [] ms) h here
  rw [← Choice.flawsFrom_eq] at h
  exact h

theorem Branch.exposesList_of
    (h : ∀ items, ms.get? "branches" = some (.arr items) → ∀ u ∈ items, ∀ o,
      EntryKind.branch.kept? u = some o → Judges .branch Branch.ofMembers Branch.flawsAmid o)
    (here : Location) :
    ExposesList here ms ("branches", .branch)
      (Branch.flawsFrom (here.field "branches") 0 ((Branch.readIn [] ms).value.getD [])) := by
  have h := exposesList_section (Branch.value_readIn [] ms) h here
  rw [← Branch.flawsFrom_eq] at h
  exact h

variable {ms}

theorem Line.judges_of (h : ∀ here, ExposesList here ms ("options", .choice)
      (Choice.flawsFrom (here.field "options") 0 [] ((Choice.readIn [] ms).value.getD []))) :
    Judges .line Line.ofMembers Line.flawsAmid ms := by
  intro here before after f
  have hbelow := exposes_sections .line rfl (.cons (h here) .nil) f
  rw [Line.flawsAmid, Line.flaws_eq, List.mem_append, List.mem_ite_nil_right, List.mem_singleton,
    ← hbelow, List.flatten_cons, List.flatten_nil, List.append_nil]
  refine or_congr_left ?_
  have htext : ((ms.get? "text").map Json.display).getD "" = "" ↔
      ∀ v, ms.get? "text" = some v → v = .str "" := by
    cases ms.get? "text" <;> simp [Json.display_eq_empty_iff]
  simp only [Line.ofMembers, Bool.and_eq_true, beq_iff_eq, Bool.not_eq_true', htext]
  constructor
  · rintro ⟨⟨hsilent, hkey⟩, rfl⟩
    exact ⟨rfl, .silentLine hsilent hkey⟩
  · rintro ⟨rfl, hamiss⟩
    obtain ⟨location, k⟩ := f
    cases hamiss with
    | silentLine text key => exact ⟨⟨text, key⟩, rfl⟩

theorem isBare_map_keptIn {α : Type} (kind : EntryKind) (hkind : kind ≠ .choice)
    (make : Members → α) (name : String) :
    isBare ((ms.get? name).map fun v => (kind.keptIn v).map make) = true ↔
      objectsOf (ms.get name) = [] := by
  rw [← EntryKind.keptIn_eq_objectsOf hkind]
  unfold Members.get
  cases ms.get? name with
  | none => simp [isBare, EntryKind.keptIn]
  | some v => cases hkept : kind.keptIn v <;> simp [isBare, hkept]

theorem Choice.judges_of (hid : (ms.get "id").truthy = true)
    (hlines : ∀ here, ExposesList here ms ("lines", .line)
      (Line.sectionFlaws (here.field "lines") (Line.readIn [] ms).value))
    (hbranches : ∀ here, ExposesList here ms ("branches", .branch)
      (Branch.flawsFrom (here.field "branches") 0 ((Branch.readIn [] ms).value.getD []))) :
    Judges .choice Choice.ofMembers Choice.flawsAmid ms := by
  intro here before after f
  have hlists : Node.lists ⟨.entry .choice, ms⟩ =
      [("lines", .line), ("actions", .action), ("branches", .branch)] := by
    simp [Node.lists, hid]
  have hbelow := exposes_sections .choice hlists (.cons (hlines here)
    (.cons (Action.exposesList here ms) (.cons (hbranches here) .nil))) f
  rw [← hbelow, Choice.flawsAmid, Choice.flaws_eq]
  simp only [List.append_assoc, List.mem_append, List.mem_ite_nil_right, List.mem_singleton,
    List.flatten_cons, List.flatten_nil, List.append_nil, ← or_assoc]
  refine or_congr_left (or_congr_left (or_congr_left ?_))
  have hseen : ((before.map Choice.ofMembers).map Choice.id).reverse.contains
      (Choice.ofMembers ms).id = true ↔
        ∃ o ∈ before, (o.get "id").display = (ms.get "id").display := by
    simp [Choice.ofMembers]
  have hidle : ((Choice.ofMembers ms).lines.isNone && (Choice.ofMembers ms).actions.isNone &&
      isBare (Choice.ofMembers ms).branches) = true ↔
        ms.get? "lines" = none ∧ ms.get? "actions" = none ∧
          objectsOf (ms.get "branches") = [] := by
    simp only [Choice.ofMembers, Line.value_readIn, Action.value_readIn, Branch.value_readIn,
      Bool.and_eq_true, isBare_map_keptIn .branch (by decide), Option.isNone_iff_eq_none,
      Option.map_eq_none_iff, and_assoc]
  rw [hseen, hidle]
  constructor
  · rintro (⟨hearlier, rfl⟩ | ⟨⟨hlines, hactions, hbranches⟩, rfl⟩)
    · exact ⟨rfl, .duplicateChoice hearlier⟩
    · exact ⟨rfl, .idleChoice hlines hactions hbranches⟩
  · rintro ⟨rfl, hamiss⟩
    obtain ⟨location, k⟩ := f
    cases hamiss with
    | duplicateChoice earlier => exact .inl ⟨earlier, rfl⟩
    | idleChoice lines actions branches => exact .inr ⟨⟨lines, actions, branches⟩, rfl⟩

theorem isEmpty_value_readList_checks (here : Location) (ms : Members) :
    (Check.readList here (ms.get "checks")).value.isEmpty = true ↔
      objectsOf (ms.get "checks") = [] := by
  rw [Check.value_readList, EntryKind.keptIn_eq_objectsOf (by decide), List.isEmpty_iff,
    List.map_eq_nil_iff]

theorem not_isEmpty_map {α β : Type} (g : α → β) (as : List α) :
    (!(as.map g).isEmpty) = true ↔ as ≠ [] := by
  cases as <;> simp

theorem Branch.judges_of (hlines : ∀ here, ExposesList here ms ("lines", .line)
      (Line.sectionFlaws (here.field "lines") (Line.readIn [] ms).value)) :
    Judges .branch Branch.ofMembers Branch.flawsAmid ms := by
  intro here before after f
  have hbelow := exposes_sections .branch rfl (.cons (Check.exposesList here ms)
    (.cons (hlines here) (.cons (Action.exposesList here ms) .nil))) f
  rw [← hbelow, Branch.flawsAmid, Branch.flaws_eq, List.mem_append, List.mem_ite_nil_right,
    List.mem_singleton, Bool.and_eq_true, not_isEmpty_map, or_comm]
  simp only [List.flatten_cons, List.flatten_nil, List.append_nil, List.nil_append]
  refine or_congr_left ?_
  rw [Branch.ofMembers, isEmpty_value_readList_checks]
  constructor
  · rintro ⟨⟨hchecks, hlater⟩, rfl⟩
    exact ⟨rfl, .shadowingBranch hchecks hlater⟩
  · rintro ⟨rfl, hamiss⟩
    obtain ⟨location, k⟩ := f
    cases hamiss with
    | shadowingBranch checks later => exact ⟨⟨checks, later⟩, rfl⟩

end

/-- Lines, choices and branches stand below one another, so their flaws are told by one induction on
the value. -/
theorem judges_item (v : Json) :
    (∀ ms, EntryKind.line.kept? v = some ms → Judges .line Line.ofMembers Line.flawsAmid ms) ∧
    (∀ ms, EntryKind.choice.kept? v = some ms →
      Judges .choice Choice.ofMembers Choice.flawsAmid ms) ∧
    ∀ ms, EntryKind.branch.kept? v = some ms →
      Judges .branch Branch.ofMembers Branch.flawsAmid ms := by
  induction v using Json.entryInduction with
  | step v ih =>
    have hlines (ms : Members) (hv : v = .obj ms) (here : Location) :=
      Line.exposesList_of ms
        (fun items hget u hu => (ih ms _ items hv hget u hu).1) here
    have hoptions (ms : Members) (hv : v = .obj ms) (here : Location) :=
      Choice.exposesList_of ms
        (fun items hget u hu => (ih ms _ items hv hget u hu).2.1) here
    have hbranches (ms : Members) (hv : v = .obj ms) (here : Location) :=
      Branch.exposesList_of ms
        (fun items hget u hu => (ih ms _ items hv hget u hu).2.2) here
    refine ⟨fun ms hms => ?_, fun ms hms => ?_, fun ms hms => ?_⟩
    · exact Line.judges_of (hoptions ms (EntryKind.eq_obj_of_kept? hms))
    · have hv := EntryKind.eq_obj_of_kept? hms
      have hid : (ms.get "id").truthy = true := by
        by_contra hid
        rw [Bool.not_eq_true] at hid
        simp [hv, EntryKind.kept?, hid] at hms
      exact Choice.judges_of hid (hlines ms hv) (hbranches ms hv)
    · exact Branch.judges_of (hlines ms (EntryKind.eq_obj_of_kept? hms))

theorem Line.exposesList (here : Location) (ms : Members) :
    ExposesList here ms ("lines", .line)
      (Line.sectionFlaws (here.field "lines") (Line.readIn [] ms).value) :=
  Line.exposesList_of ms (fun _ _ u _ => (judges_item u).1) here

theorem Fork.judges (ms : Members) : Judges .fork Fork.ofMembers Fork.flawsAmid ms := by
  intro here before after f
  have hbelow := exposes_sections .fork rfl (.cons (Check.exposesList here ms)
    (.cons (Line.exposesList here ms) (.cons (Action.exposesList here ms) .nil))) f
  have hlines : Line.sectionFlaws (here.field "lines") (Line.readIn [] ms).value =
      Line.flawsFrom (here.field "lines") 0 (Fork.ofMembers ms).lines := by
    rw [Line.sectionFlaws, Line.value_readIn, getD_map_keptIn, Fork.ofMembers, Fork.read]
    dsimp only
    rw [Line.value_readList]
  rw [← hbelow, Fork.flawsAmid, List.mem_append, List.mem_ite_nil_right, List.mem_singleton,
    Bool.and_eq_true, not_isEmpty_map, or_comm]
  simp only [List.flatten_cons, List.flatten_nil, List.append_nil, List.nil_append, hlines]
  refine or_congr_left ?_
  rw [Fork.ofMembers, Fork.read, isEmpty_value_readList_checks]
  constructor
  · rintro ⟨⟨hchecks, hlater⟩, rfl⟩
    exact ⟨rfl, .shadowingFork hchecks hlater⟩
  · rintro ⟨rfl, hamiss⟩
    obtain ⟨location, k⟩ := f
    cases hamiss with
    | shadowingFork checks later => exact ⟨⟨checks, later⟩, rfl⟩

theorem Fork.exposesList (here : Location) (ms : Members) :
    ExposesList here ms ("forks", .fork)
      (Fork.flawsFrom (here.field "forks") 0 ((Fork.readIn [] ms).value.getD [])) := by
  have h := exposesList_section (Fork.value_readIn [] ms) (fun _ _ _ _ o _ => Fork.judges o) here
  rw [← Fork.flawsFrom_eq] at h
  exact h

theorem Document.flaws_eq (d : Document) :
    d.flaws = (if d.hasAnyLines then [] else [⟨[], .noLines⟩]) ++
      Line.sectionFlaws [.field "lines"] d.lines ++
      Action.flaws [.field "actions"] d.actions ++
      Fork.flawsFrom [.field "forks"] 0 (d.forks.getD []) ++
      if (d.forks.getD []).getLast?.any (·.checks.isEmpty) && !isBare d.lines then
        [⟨[.field "lines"], .unreachableBase⟩] else [] := by
  unfold Document.flaws
  dsimp only
  cases (d.forks.getD []).getLast? <;> rfl

theorem Fork.any_getLast?_readIn (ms : Members) :
    ((Fork.readIn [] ms).value.getD []).getLast?.any (·.checks.isEmpty) = true ↔
      ∃ fork, (objectsOf (ms.get "forks")).getLast? = some fork ∧
        objectsOf (fork.get "checks") = [] := by
  rw [Fork.value_readIn, getD_map_keptIn, EntryKind.keptIn_eq_objectsOf (by decide),
    List.getLast?_map, Option.any_map, Option.any_eq_true]
  refine exists_congr fun fork => and_congr_right fun _ => ?_
  rw [Fork.ofMembers, Fork.read, isEmpty_value_readList_checks]

/-- The flaws of a document that is read are those of the value, each told by the numbers of the
entries that are kept. -/
theorem Document.mem_flaws_read {ms : Members} {defaultId : String} {d : Document}
    (h : (Document.read (.obj ms) defaultId).value = some d) (f : Flaw) :
    f ∈ d.flaws ↔ ∃ place, Flawed (.part .document) (.obj ms) place f.kind ∧
      Renumbered (.part .document) (.obj ms) place f.location := by
  have hbelow := mem_flaws_sections (.cons (Line.exposesList [] ms)
    (.cons (Fork.exposesList [] ms) (.cons (Action.exposesList [] ms) .nil))) f
  have hlines := Document.hasAnyLines_read ms defaultId h
  cases h
  have hsplit : f ∈ Document.flaws ⟨(Document.readId ms defaultId).value, (Line.readIn [] ms).value,
      (Fork.readIn [] ms).value, (Action.readIn [] ms).value⟩ ↔
      ((¬ HasLine ms ∧ ∀ fork ∈ objectsOf (ms.get "forks"), ¬ HasLine fork) ∧
        f = ⟨[], .noLines⟩) ∨
      ((∃ fork, (objectsOf (ms.get "forks")).getLast? = some fork ∧
        objectsOf (fork.get "checks") = []) ∧ HasLine ms ∧
        f = ⟨[.field "lines"], .unreachableBase⟩) ∨
      ∃ list ∈ Node.lists ⟨.document, ms⟩, ∃ v l m, ms.get? list.1 = some v ∧
        f.location = [] ++ .field list.1 :: m ∧ Flawed (.list list.2) v l f.kind ∧
        Renumbered (.list list.2) v l m := by
    have hbase : (!isBare (Line.readIn [] ms).value) = true ↔ HasLine ms := by
      rw [Line.value_readIn, Bool.not_eq_true', ← Bool.not_eq_true,
        isBare_map_keptIn .line (by decide), HasLine]
    rw [Document.flaws_eq, Node.lists, ← hbelow, List.mem_append, List.mem_append, List.mem_append,
      List.mem_append, List.mem_ite_nil_left, List.mem_ite_nil_right, Bool.and_eq_true, hlines,
      Fork.any_getLast?_readIn, hbase]
    simp only [List.flatten_cons, List.flatten_nil, List.append_nil, List.mem_append,
      List.mem_singleton, not_or, not_exists, not_and, or_assoc, and_assoc]
    constructor
    · rintro (hf | hf | hf | hf | hf)
      · exact .inl hf
      · exact .inr (.inr (.inl hf))
      · exact .inr (.inr (.inr (.inr hf)))
      · exact .inr (.inr (.inr (.inl hf)))
      · exact .inr (.inl hf)
    · rintro (hf | hf | hf | hf | hf)
      · exact .inl hf
      · exact .inr (.inr (.inr (.inr hf)))
      · exact .inr (.inl hf)
      · exact .inr (.inr (.inr (.inl hf)))
      · exact .inr (.inr (.inl hf))
  rw [hsplit]
  constructor
  · rintro (⟨⟨hnone, hforks⟩, rfl⟩ | ⟨⟨fork, hlast, hchecks⟩, hline, rfl⟩ |
      ⟨list, hlist, v, l, m, hget, hlocation, hflawed, hrenumbered⟩)
    · exact ⟨[], .noLines hnone hforks, .here⟩
    · have hflawed := Flawed.unreachableBase hlast hchecks hline
      obtain ⟨m, hm⟩ := hflawed.exists_renumbered
      cases hm with
      | field list given below =>
        cases below
        exact ⟨_, hflawed, .field list given .here⟩
    · exact ⟨_, .field hlist hget hflawed, hlocation ▸ .field hlist hget hrenumbered⟩
  · rintro ⟨place, hflawed, hrenumbered⟩
    obtain ⟨location, k⟩ := f
    cases hflawed with
    | noLines lines forks =>
      obtain rfl := hrenumbered.right_unique .here
      exact .inl ⟨⟨lines, forks⟩, rfl⟩
    | unreachableBase last checks lines =>
      cases hrenumbered with
      | field list given below =>
        cases below
        exact .inr (.inl ⟨⟨_, last, checks⟩, lines, rfl⟩)
    | @field _ _ name kind v l _ list given below =>
      obtain ⟨m, hm⟩ := below.exists_renumbered
      obtain rfl := hrenumbered.right_unique (.field list given hm)
      exact .inr (.inr ⟨(name, kind), list, v, l, m, given, rfl, below, hm⟩)

theorem Validation.mem_ofLoaded {l : Loaded} {d : Document} (h : l.document = some d) (i : Issue) :
    i ∈ (Validation.ofLoaded l).errors ∨ i ∈ (Validation.ofLoaded l).warnings ↔
      (∃ f ∈ l.errors, i = Issue.ofFinding .error f) ∨
      (∃ f ∈ l.warnings, i = Issue.ofFinding .warning f) ∨
      ∃ f ∈ d.flaws, i = Issue.ofFlaw f := by
  have hseverity : i.severity = .error ∨ i.severity = .warning := by
    cases i.severity
    · exact .inl rfl
    · exact .inr rfl
  simp only [Validation.ofLoaded, h, List.mem_append, List.mem_map, List.mem_filter, beq_iff_eq,
    eq_comm (b := i)]
  constructor
  · rintro ((hf | ⟨hf, -⟩) | (hf | ⟨hf, -⟩))
    · exact .inl hf
    · exact .inr (.inr hf)
    · exact .inr (.inl hf)
    · exact .inr (.inr hf)
  · rintro (hf | hf | hf)
    · exact .inl (.inl hf)
    · exact .inr (.inl hf)
    · rcases hseverity with herror | hwarning
      · exact .inl (.inr ⟨hf, herror⟩)
      · exact .inr (.inr ⟨hf, hwarning⟩)

/-- Validating an object that can be loaded reports what the reading found and, besides, the flaws of
the object. The place that a flaw is reported at is that of its entry by the numbers of the entries
that are kept, and it is reported for no other entry. It is the way that leads to the entry, which is
then an entry that something is amiss with, exactly if nothing is skipped before an entry on the
way. -/
theorem Validation.issues_iff_flawed {ms : Members} {defaultId : String} {l : Loaded}
    (h : Document.load (.obj ms) defaultId = .ok l) :
    ∃ r, Validation.ofValue (.obj ms) defaultId = .ok r ∧
      (∀ i, i ∈ r.errors ∨ i ∈ r.warnings ↔
        (∃ f ∈ l.errors, i = Issue.ofFinding .error f) ∨
        (∃ f ∈ l.warnings, i = Issue.ofFinding .warning f) ∨
        ∃ place told k, Flawed (.part .document) (.obj ms) place k ∧
          Renumbered (.part .document) (.obj ms) place told ∧ i = Issue.ofFlaw ⟨told, k⟩) ∧
      ∀ place k, Flawed (.part .document) (.obj ms) place k →
        (k ≠ .noLines → k ≠ .unreachableBase → ∃ kind before o after,
          (Json.obj ms).follow place = some (.obj o) ∧ Amiss before kind o after k) ∧
        ∃ told, Renumbered (.part .document) (.obj ms) place told ∧
          (∀ place', Renumbered (.part .document) (.obj ms) place' told → place' = place) ∧
          (told.write = place.write ↔ Unskipped (.part .document) (.obj ms) place) := by
  obtain ⟨hdocument, -⟩ := Loaded.of_ofNoted h
  obtain ⟨d, hd⟩ : ∃ d, (Document.read (.obj ms) defaultId).value = some d := ⟨_, rfl⟩
  refine ⟨Validation.ofLoaded l, ?_, fun i => ?_, fun place k hflawed => ⟨hflawed.exists_follow, ?_⟩⟩
  · rw [Validation.ofValue, h]
    rfl
  · rw [Validation.mem_ofLoaded (hdocument.trans hd)]
    refine or_congr_right (or_congr_right ?_)
    constructor
    · rintro ⟨f, hf, rfl⟩
      obtain ⟨place, hflawed, hrenumbered⟩ := (Document.mem_flaws_read hd f).mp hf
      exact ⟨place, f.location, f.kind, hflawed, hrenumbered, rfl⟩
    · rintro ⟨place, told, k, hflawed, hrenumbered, rfl⟩
      exact ⟨⟨told, k⟩, (Document.mem_flaws_read hd ⟨told, k⟩).mpr ⟨place, hflawed, hrenumbered⟩,
        rfl⟩
  · obtain ⟨told, htold⟩ := hflawed.exists_renumbered
    exact ⟨told, htold, fun place' h' => h'.left_unique htold,
      htold.write_eq_iff.trans htold.eq_iff_unskipped⟩

/-- A line of a text and one without, after an entry that is no line. -/
def muddled : Members :=
  [("lines", .arr [.null, .obj [("text", .str "Hello")], .obj [("options", .arr [
    .obj [("id", .str "a")], .obj [("id", .str "a"), ("lines", .arr [])]])]])]

theorem issues_muddled : ∃ r, Validation.ofValue (.obj muddled) "gate" = .ok r ∧
    (⟨.warning, "lines[1]", FlawKind.silentLine.message, none⟩ : Issue) ∈ r.warnings ∧
    (Json.obj muddled).follow [.field "lines", .item 1] = some (.obj [("text", .str "Hello")]) ∧
    Flawed (.part .document) (.obj muddled) [.field "lines", .item 2] .silentLine ∧
    ¬ Unskipped (.part .document) (.obj muddled) [.field "lines", .item 2] := by
  obtain ⟨l, hl⟩ : ∃ l, Document.load (.obj muddled) "gate" = .ok l := ⟨_, rfl⟩
  obtain ⟨r, hr, -, hplaces⟩ := Validation.issues_iff_flawed hl
  have hflawed : Flawed (.part .document) (.obj muddled) [.field "lines", .item 2] .silentLine := by
    refine .field List.mem_cons_self rfl (.entry (show _ = [.null, _] ++ _ :: [] from rfl) rfl
      (.silentLine ?_ rfl))
    rintro v ⟨⟩
  obtain ⟨-, told, htold, -, hwrite⟩ := hplaces _ _ hflawed
  have hlines : Renumbered (.part .document) (.obj muddled) [.field "lines", .item 2]
      [.field "lines", .item 1] :=
    .field List.mem_cons_self rfl (.item (show _ = [.null, _] ++ _ :: [] from rfl) rfl .here)
  obtain rfl := htold.right_unique hlines
  refine ⟨r, hr, ?_, rfl, hflawed, fun h => absurd (hwrite.mpr h) (by decide)⟩
  cases hr
  decide

/-- Not every flaw of a document is told at the entry that it is about. -/
theorem not_located_muddled : ¬ ∀ (ms : Members) (defaultId : String) (l : Loaded) (d : Document),
    Document.load (.obj ms) defaultId = .ok l → l.document = some d →
    ∀ f ∈ d.flaws, f.kind ≠ .noLines → f.kind ≠ .unreachableBase →
      ∃ kind before o after, (Json.obj ms).follow f.location = some (.obj o) ∧
        Amiss before kind o after f.kind := by
  intro h
  obtain ⟨l, hl⟩ : ∃ l, Document.load (.obj muddled) "gate" = .ok l := ⟨_, rfl⟩
  obtain ⟨d, hd⟩ : ∃ d, l.document = some d := by
    cases hl
    exact ⟨_, rfl⟩
  have hf : (⟨[.field "lines", .item 1], .silentLine⟩ : Flaw) ∈ d.flaws := by
    cases hl
    cases hd
    exact List.mem_cons_self
  obtain ⟨kind, before, o, after, hfollow, hamiss⟩ :=
    h muddled "gate" l d hl hd _ hf (by rintro ⟨⟩) (by rintro ⟨⟩)
  cases hfollow
  cases hamiss with
  | silentLine text key =>
    exact absurd (Json.str.inj (text (.str "Hello") rfl)) (by decide)

end Parley
