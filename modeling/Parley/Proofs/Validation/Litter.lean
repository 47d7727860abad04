import Parley.Proofs.Validation.Completeness
import Parley.Proofs.Validation.Making
import Parley.Proofs.Validation.Renumbering
import Parley.Proofs.Validation.Verdict

/-!
# Entries that are no objects

An entry that is no object is skipped with a warning. So a value with any number of such entries put
anywhere into its lists is read as the same document, with the same number of errors and one more
warning for each of them, unless it lies below a choice that is skipped itself. The entries after it
have other indices then, so what is compared is readings at two places.
-/

namespace Parley

def Part.lists : Part → List (String × EntryKind)
  | .entry .choice => [("lines", .line), ("actions", .action), ("branches", .branch)]
  | p => Node.lists ⟨p, []⟩

/-- The second value is the first with entries put into its lists that are no objects. The number is
that of the entries that lie where the value is read. -/
inductive Littered : Place → Nat → Json → Json → Prop where
  | same {p : Place} {v : Json} : Littered p 0 v v
  | trans {p : Place} {m n : Nat} {u v w : Json} (first : Littered p m u v)
      (second : Littered p n v w) : Littered p (m + n) u w
  | junk {kind : EntryKind} {before after : List Json} {j : Json} (object : ∀ ms, j ≠ .obj ms) :
      Littered (.list kind) 1 (.arr (before ++ after)) (.arr (before ++ j :: after))
  | item {kind : EntryKind} {before after : List Json} {v w : Json} {n : Nat}
      (below : Littered (.part (.entry kind)) n v w) :
      Littered (.list kind) n (.arr (before ++ v :: after)) (.arr (before ++ w :: after))
  | field {p : Part} {ms : Members} {name : String} {kind : EntryKind} {v w : Json} {n : Nat}
      (list : (name, kind) ∈ Node.lists ⟨p, ms⟩) (given : ms.get? name = some v)
      (below : Littered (.list kind) n v w) : Littered (.part p) n (.obj ms) (.obj (ms.put name w))
  | unread {p : Part} {ms : Members} {name : String} {kind : EntryKind} {v w : Json} {n : Nat}
      (list : (name, kind) ∈ p.lists) (skipped : (name, kind) ∉ Node.lists ⟨p, ms⟩)
      (given : ms.get? name = some v) (below : Littered (.list kind) n v w) :
      Littered (.part p) 0 (.obj ms) (.obj (ms.put name w))

def Severity.count (s : Severity) (fs : List Finding) : Nat := fs.countP (·.severity == s)

@[simp] theorem Severity.count_append (s : Severity) (fs gs : List Finding) :
    s.count (fs ++ gs) = s.count fs + s.count gs :=
  List.countP_append

/-- Findings of another reading are as many of each severity, but for some more warnings. -/
def MoreWarnings (n : Nat) (fs gs : List Finding) : Prop :=
  ∀ s : Severity, s.count gs = s.count fs + if s = .warning then n else 0

/-- Another reading has the same value, and as many findings of each severity, but for some more
warnings. -/
structure Louder {α : Type} (n : Nat) (r r' : Noted α) : Prop where
  value : r'.value = r.value
  findings : MoreWarnings n r.findings r'.findings

section

variable {m n : Nat} {fs gs fs' gs' : List Finding}

theorem MoreWarnings.same (fs : List Finding) : MoreWarnings 0 fs fs := by
  intro s
  simp

theorem MoreWarnings.trans {hs : List Finding} (h : MoreWarnings m fs gs)
    (h' : MoreWarnings n gs hs) : MoreWarnings (m + n) fs hs := by
  intro s
  rw [h' s, h s]
  split <;> omega

theorem MoreWarnings.append (h : MoreWarnings m fs gs) (h' : MoreWarnings n fs' gs') :
    MoreWarnings (m + n) (fs ++ fs') (gs ++ gs') := by
  intro s
  rw [Severity.count_append, Severity.count_append, h s, h' s]
  split <;> omega

end

def Finding.below (here : Location) (f : Finding) : Finding :=
  ⟨f.location.drop here.length, f.defect⟩

section

variable {p : Place} {v : Json} {here there : Location} {fs gs : List Finding}

theorem Diagnosis.nodup_below (h : Diagnosis p here v fs) :
    (fs.map (Finding.below here)).Nodup := by
  rw [List.Nodup, List.pairwise_map]
  refine h.ordered.imp_of_mem fun {f g} hf hg hordered hsame => ?_
  obtain ⟨l, d, rfl, -⟩ := (h.mem_iff f).mp hf
  obtain ⟨l', d', rfl, -⟩ := (h.mem_iff g).mp hg
  simp only [Finding.below, List.drop_left, Finding.mk.injEq] at hsame
  obtain ⟨rfl, rfl⟩ := hsame
  exact Finding.Precedes.irrefl _ hordered

theorem Diagnosis.mem_below_iff (h : Diagnosis p here v fs) (f : Finding) :
    f ∈ fs.map (Finding.below here) ↔ Defective p v f.location f.defect := by
  rw [List.mem_map]
  constructor
  · rintro ⟨g, hg, rfl⟩
    obtain ⟨l, d, rfl, hd⟩ := (h.mem_iff g).mp hg
    simpa [Finding.below] using hd
  · intro hd
    exact ⟨⟨here ++ f.location, f.defect⟩, (h.mem_iff _).mpr ⟨_, _, rfl, hd⟩,
      by simp [Finding.below]⟩

theorem Severity.count_map_below (s : Severity) (here : Location) (fs : List Finding) :
    s.count (fs.map (Finding.below here)) = s.count fs := by
  simp [Severity.count, List.countP_map, Function.comp_def, Finding.below, Finding.severity]

/-- How many findings of each severity there are in a value does not depend on where it stands. -/
theorem Diagnosis.moreWarnings (h : Diagnosis p here v fs) (h' : Diagnosis p there v gs) :
    MoreWarnings 0 fs gs := by
  have hperm : (fs.map (Finding.below here)).Perm (gs.map (Finding.below there)) := by
    rw [List.perm_ext_iff_of_nodup h.nodup_below h'.nodup_below]
    intro f
    rw [h.mem_below_iff, h'.mem_below_iff]
  intro s
  have hcount := hperm.countP_eq (·.severity == s)
  change s.count _ = s.count _ at hcount
  rw [Severity.count_map_below, Severity.count_map_below] at hcount
  simp [hcount]

end

namespace EntryKind

def Entry : EntryKind → Type
  | .line => Line
  | .choice => Choice
  | .fork => Fork
  | .branch => Branch
  | .check => Check
  | .action => Action

def read : (kind : EntryKind) → Location → Json → Noted (Option kind.Entry)
  | .line => Line.readItem
  | .choice => Choice.readItem
  | .fork => readObject .fork Fork.read
  | .branch => Branch.readItem
  | .check => readObject .check Check.read
  | .action => readObject .action Action.read

theorem diagnosis_read (kind : EntryKind) (v : Json) (here : Location) :
    Diagnosis (.part (.entry kind)) here v (kind.read here v).findings := by
  cases kind with
  | line => exact (diagnosis_readItem v).1 here
  | choice => exact (diagnosis_readItem v).2.1 here
  | branch => exact (diagnosis_readItem v).2.2 here
  | fork => exact diagnosis_readObject (fun ms here => Fork.diagnosis_read here ms) v here
  | check => exact diagnosis_readObject Check.diagnosis_read v here
  | action => exact diagnosis_readObject Action.diagnosis_read v here

theorem value_read (kind : EntryKind) (v : Json) (here there : Location) :
    (kind.read there v).value = (kind.read here v).value := by
  cases kind with
  | line => exact ((makes_readItem v).1 there).trans ((makes_readItem v).1 here).symm
  | choice => exact ((makes_readItem v).2.1 there).trans ((makes_readItem v).2.1 here).symm
  | branch => exact ((makes_readItem v).2.2 there).trans ((makes_readItem v).2.2 here).symm
  | fork => exact (Fork.makes_read v there).trans (Fork.makes_read v here).symm
  | check => exact (Check.makes_read v there).trans (Check.makes_read v here).symm
  | action => exact (Action.makes_read v there).trans (Action.makes_read v here).symm

theorem louder_read_same (kind : EntryKind) (v : Json) (here there : Location) :
    Louder 0 (kind.read here v) (kind.read there v) :=
  ⟨kind.value_read v here there,
    (kind.diagnosis_read v here).moreWarnings (kind.diagnosis_read v there)⟩

theorem read_junk (kind : EntryKind) {j : Json} (h : ∀ ms, j ≠ .obj ms) (here : Location) :
    kind.read here j = ⟨none, [⟨here, .notAnObject kind⟩]⟩ := by
  cases j with
  | obj ms => exact absurd rfl (h ms)
  | _ => cases kind <;> rfl

end EntryKind

section

variable {kind : EntryKind}

theorem readAll_append {α : Type} (read : Location → Json → Noted (Option α)) (here : Location)
    (i : Nat) (xs ys : List Json) :
    readAll read here i (xs ++ ys) =
      ⟨(readAll read here i xs).value ++ (readAll read here (i + xs.length) ys).value,
        (readAll read here i xs).findings ++ (readAll read here (i + xs.length) ys).findings⟩ := by
  induction xs generalizing i with
  | nil => rfl
  | cons x xs ih =>
    have hlength : i + 1 + xs.length = i + (xs.length + 1) := by omega
    simp only [List.cons_append, readAll, ih (i + 1), List.length_cons, hlength, List.append_assoc]

/-- Entries put one after another, read as louder lists each. -/
theorem Louder.append {α : Type} {m n : Nat} {r s r' s' : Noted (List α)} (h : Louder m r s)
    (h' : Louder n r' s') :
    Louder (m + n) ⟨r.value ++ r'.value, r.findings ++ r'.findings⟩
      ⟨s.value ++ s'.value, s.findings ++ s'.findings⟩ :=
  ⟨by rw [h.value, h'.value], h.findings.append h'.findings⟩

theorem louder_readAll_same (items : List Json) (here there : Location) (i j : Nat) :
    Louder 0 (readAll kind.read here i items) (readAll kind.read there j items) := by
  induction items generalizing i j with
  | nil => exact ⟨rfl, .same []⟩
  | cons v rest ih =>
    have hfirst := kind.louder_read_same v (here.item i) (there.item j)
    have hothers := ih (i + 1) (j + 1)
    exact ⟨by simp only [readAll, hfirst.value, hothers.value],
      hfirst.findings.append hothers.findings⟩

/-- Between the same entries, entries that are read louder make a louder list. -/
theorem louder_readAll_between {n : Nat} {xs ys : List Json} (before after : List Json)
    (h : ∀ here there i j,
      Louder n (readAll kind.read here i xs) (readAll kind.read there j ys))
    (here there : Location) (i j : Nat) :
    Louder n (readAll kind.read here i (before ++ (xs ++ after)))
      (readAll kind.read there j (before ++ (ys ++ after))) := by
  have hsides := (louder_readAll_same before here there i j).append
    ((h here there (i + before.length) (j + before.length)).append
      (louder_readAll_same after here there (i + before.length + xs.length)
        (j + before.length + ys.length)))
  rw [Nat.add_zero, Nat.zero_add] at hsides
  simpa only [readAll_append] using hsides

theorem louder_readAll_junk {j : Json} (h : ∀ ms, j ≠ .obj ms) (here there : Location)
    (i k : Nat) : Louder 1 (readAll kind.read here i []) (readAll kind.read there k [j]) := by
  simp only [readAll, kind.read_junk h]
  refine ⟨rfl, fun s => ?_⟩
  cases s <;> rfl

theorem louder_readAll_item {n : Nat} {v w : Json}
    (h : ∀ here there, Louder n (kind.read here v) (kind.read there w)) (here there : Location)
    (i j : Nat) : Louder n (readAll kind.read here i [v]) (readAll kind.read there j [w]) := by
  have hfirst := h (here.item i) (there.item j)
  refine ⟨by simp only [readAll, hfirst.value], ?_⟩
  simpa only [readAll, List.append_nil] using hfirst.findings

theorem louder_readEach_same (kind : EntryKind) (v : Json) (here there : Location) :
    Louder 0 (readEach kind.read here v) (readEach kind.read there v) := by
  cases v with
  | arr items => exact louder_readAll_same items here there 0 0
  | _ => exact ⟨rfl, fun s => by cases s <;> rfl⟩

variable {ms : Members} {name : String} {v w : Json} {n : Nat}

theorem louder_readMember_put (given : ms.get? name = some v)
    (h : ∀ here there, Louder n (readEach kind.read here v) (readEach kind.read there w))
    (here there : Location) :
    Louder n (readMember name kind.read here ms) (readMember name kind.read there (ms.put name w)) := by
  have hsection := h (here.field name) (there.field name)
  unfold readMember
  rw [given, Members.get?_put, if_pos rfl]
  exact ⟨congrArg some hsection.value, hsection.findings⟩

theorem louder_readMember_same {ms' : Members} (hget : ms'.get? name = ms.get? name)
    (here there : Location) :
    Louder 0 (readMember name kind.read here ms) (readMember name kind.read there ms') := by
  unfold readMember
  rw [hget]
  cases ms.get? name with
  | none => exact ⟨rfl, .same []⟩
  | some v =>
    have hsection := louder_readEach_same kind v (here.field name) (there.field name)
    exact ⟨congrArg some hsection.value, hsection.findings⟩

theorem value_readEach_get {α : Type} (read : Location → Json → Noted (Option α)) (name : String)
    (here : Location) (ms : Members) :
    (readEach read (here.field name) (ms.get name)).value =
      (readMember name read here ms).value.getD [] := by
  unfold readMember Members.get
  cases ms.get? name <;> rfl

theorem Louder.readEach_get {ms' : Members} {here there : Location}
    (h : Louder n (readMember name kind.read here ms) (readMember name kind.read there ms')) :
    Louder n (readEach kind.read (here.field name) (ms.get name))
      (readEach kind.read (there.field name) (ms'.get name)) := by
  refine ⟨?_, ?_⟩
  · rw [value_readEach_get, value_readEach_get, h.value]
  · rw [findings_readEach_get, findings_readEach_get]
    exact h.findings

end

section

variable {ms ms' : Members} {here there : Location} {a b c n : Nat}

def SameBut (names : List String) (ms ms' : Members) : Prop :=
  ∀ name ∉ names, ms'.get? name = ms.get? name

theorem SameBut.get {names : List String} (h : SameBut names ms ms') (name : String)
    (hname : name ∉ names) : ms'.get name = ms.get name := by
  rw [Members.get, Members.get, h name hname]

theorem moreWarnings_moved (here there : Location) (d : Defect) :
    MoreWarnings 0 [⟨here, d⟩] [⟨there, d⟩] := by
  intro s
  simp [Severity.count, Finding.severity]

theorem moreWarnings_unless (here there : Location) (holds : Bool) (d : Defect) :
    MoreWarnings 0 (if holds then [] else [⟨here, d⟩]) (if holds then [] else [⟨there, d⟩]) := by
  cases holds with
  | true => exact .same []
  | false => exact moreWarnings_moved here there d

theorem moreWarnings_unwritten (here there : Location) (vs : List Json) :
    MoreWarnings 0 (unwritten here vs) (unwritten there vs) :=
  moreWarnings_unless here there _ .unwritable

theorem Line.moreWarnings_fieldFindings (here there : Location) (speaker emotion : Json) :
    MoreWarnings 0 (Line.fieldFindings here speaker emotion)
      (Line.fieldFindings there speaker emotion) := by
  unfold Line.fieldFindings
  refine MoreWarnings.append (m := 0) (n := 0) ?_ ?_
  · cases speaker with
    | str s => exact moreWarnings_unless _ _ _ _
    | _ => exact moreWarnings_moved _ _ _
  · cases emotion with
    | null => exact .same []
    | str s => exact moreWarnings_unless _ _ _ _
    | _ => exact moreWarnings_moved _ _ _

theorem Line.louder_readItem_obj (hown : SameBut ["options"] ms ms')
    (hoptions : Louder n (readMember "options" EntryKind.choice.read here ms)
      (readMember "options" EntryKind.choice.read there ms')) :
    Louder n (Line.readItem here (.obj ms)) (Line.readItem there (.obj ms')) := by
  have hspeaker := hown "speaker" (by decide)
  have htext := hown "text" (by decide)
  have hemotion := hown.get "emotion" (by decide)
  refine ⟨?_, ?_⟩
  · have htextKey := hown.get "textKey" (by decide)
    have hname := hown.get "name" (by decide)
    have hnameKey := hown.get "nameKey" (by decide)
    have hvisuals := hown.get "hideSpeakerVisuals" (by decide)
    simp only [Line.readItem, Choice.readIn_eq_readMember, hspeaker, htext, hemotion, htextKey,
      hname, hnameKey, hvisuals]
    exact congrArg (fun options => some (Line.mk _ _ _ _ _ _ options _)) hoptions.value
  · have hworded := hown.get "text" (by decide)
    simp only [Line.readItem, Choice.readIn_eq_readMember, hspeaker, hemotion, hworded]
    have hfindings := ((Line.moreWarnings_fieldFindings here there
      ((Members.get? ms "speaker").getD (.str "npc")) (ms.get "emotion")).append
      (moreWarnings_unwritten here there [(Members.get? ms "speaker").getD (.str "npc"),
        ms.get "emotion", ms.get "text"])).append hoptions.findings
    rwa [Nat.zero_add] at hfindings

theorem Choice.louder_readItem_obj (hown : SameBut ["lines", "actions", "branches"] ms ms')
    (hid : (ms.get "id").truthy = true)
    (hlines : Louder a (readMember "lines" EntryKind.line.read here ms)
      (readMember "lines" EntryKind.line.read there ms'))
    (hactions : Louder b (readMember "actions" EntryKind.action.read here ms)
      (readMember "actions" EntryKind.action.read there ms'))
    (hbranches : Louder c (readMember "branches" EntryKind.branch.read here ms)
      (readMember "branches" EntryKind.branch.read there ms')) :
    Louder (a + b + c) (Choice.readItem here (.obj ms)) (Choice.readItem there (.obj ms')) := by
  have hid' := hown.get "id" (by decide)
  have htext := hown "text" (by decide)
  have hworded := hown.get "text" (by decide)
  have htextKey := hown.get "textKey" (by decide)
  simp only [Choice.readItem, Line.readIn_eq_readMember, Action.readIn_eq_readMember,
    Branch.readIn_eq_readMember, hid', hid, if_true, htext, hworded, htextKey]
  refine ⟨?_, ?_⟩
  · exact congrArg some (congr (congr (congrArg (Choice.mk _ _ _) hlines.value) hactions.value)
      hbranches.value)
  · have hfindings := (((moreWarnings_unwritten here there [ms.get "id", ms.get "text"]).append
      hlines.findings).append hactions.findings).append hbranches.findings
    rwa [Nat.zero_add] at hfindings

theorem Choice.louder_readItem_skipped (hown : SameBut ["lines", "actions", "branches"] ms ms')
    (hid : (ms.get "id").truthy = false) :
    Louder 0 (Choice.readItem here (.obj ms)) (Choice.readItem there (.obj ms')) := by
  have hid' := hown.get "id" (by decide)
  simp only [Choice.readItem, hid', hid, Bool.false_eq_true, if_false]
  exact ⟨rfl, fun s => by cases s <;> rfl⟩

theorem Branch.louder_readItem_obj
    (hchecks : Louder a (readMember "checks" EntryKind.check.read here ms)
      (readMember "checks" EntryKind.check.read there ms'))
    (hlines : Louder b (readMember "lines" EntryKind.line.read here ms)
      (readMember "lines" EntryKind.line.read there ms'))
    (hactions : Louder c (readMember "actions" EntryKind.action.read here ms)
      (readMember "actions" EntryKind.action.read there ms')) :
    Louder (a + b + c) (Branch.readItem here (.obj ms)) (Branch.readItem there (.obj ms')) := by
  have hsection := hchecks.readEach_get
  simp only [Branch.readItem, Check.readList, readSection_eq_readEach, Line.readIn_eq_readMember,
    Action.readIn_eq_readMember]
  refine ⟨?_, (hsection.findings.append hlines.findings).append hactions.findings⟩
  exact congrArg some (congr (congr (congrArg Branch.mk hsection.value) hlines.value) hactions.value)

theorem Fork.louder_read
    (hchecks : Louder a (readMember "checks" EntryKind.check.read here ms)
      (readMember "checks" EntryKind.check.read there ms'))
    (hlines : Louder b (readMember "lines" EntryKind.line.read here ms)
      (readMember "lines" EntryKind.line.read there ms'))
    (hactions : Louder c (readMember "actions" EntryKind.action.read here ms)
      (readMember "actions" EntryKind.action.read there ms')) :
    Louder (a + b + c) (readObject .fork Fork.read here (.obj ms))
      (readObject .fork Fork.read there (.obj ms')) := by
  have hsection := hchecks.readEach_get
  have hplayed := hlines.readEach_get
  simp only [readObject, Fork.read, Check.readList, readSection_eq_readEach,
    Line.readList_eq_readEach, Action.readIn_eq_readMember]
  refine ⟨?_, (hsection.findings.append hplayed.findings).append hactions.findings⟩
  exact congrArg some (congr (congr (congrArg Fork.mk hsection.value) hplayed.value) hactions.value)

theorem Document.louder_read_obj (hown : SameBut ["lines", "forks", "actions"] ms ms')
    (hlines : Louder a (readMember "lines" EntryKind.line.read [] ms)
      (readMember "lines" EntryKind.line.read [] ms'))
    (hforks : Louder b (readMember "forks" EntryKind.fork.read [] ms)
      (readMember "forks" EntryKind.fork.read [] ms'))
    (hactions : Louder c (readMember "actions" EntryKind.action.read [] ms)
      (readMember "actions" EntryKind.action.read [] ms')) (defaultId : String) :
    Louder (a + b + c) (Document.read (.obj ms) defaultId)
      (Document.read (.obj ms') defaultId) := by
  have hid : Document.readId ms' defaultId = Document.readId ms defaultId := by
    rw [Document.readId, hown.get "id" (by decide), Document.readId]
  simp only [Document.read, Line.readIn_eq_readMember, Fork.readIn_eq_readMember,
    Action.readIn_eq_readMember, hid]
  refine ⟨?_, ?_⟩
  · exact congrArg some (congr (congr (congrArg (Document.mk _) hlines.value) hforks.value)
      hactions.value)
  · have hfindings := (((MoreWarnings.same (Document.readId ms defaultId).findings).append
    hlines.findings).append hforks.findings).append hactions.findings
    rwa [Nat.zero_add] at hfindings

theorem sameBut_put {names : List String} {name : String} (h : name ∈ names) (ms : Members)
    (w : Json) : SameBut names ms (ms.put name w) := by
  intro other hother
  rw [Members.get?_put, if_neg]
  rintro rfl
  exact hother h

end

/-- Readings of two values as the same are one louder than the other by some warnings, wherever the
values stand. -/
def Echoes (n : Nat) (v w : Json) : Place → Prop
  | .part .document => ∀ defaultId, Louder n (Document.read v defaultId) (Document.read w defaultId)
  | .part (.entry kind) => ∀ here there, Louder n (kind.read here v) (kind.read there w)
  | .list kind => ∀ here there, Louder n (readEach kind.read here v) (readEach kind.read there w)

theorem Louder.trans {α : Type} {m n : Nat} {r r' r'' : Noted α} (h : Louder m r r')
    (h' : Louder n r' r'') : Louder (m + n) r r'' :=
  ⟨h'.value.trans h.value, h.findings.trans h'.findings⟩

theorem echoes_same (p : Place) (v : Json) : Echoes 0 v v p := by
  cases p with
  | list kind => exact louder_readEach_same kind v
  | part p =>
    cases p with
    | document => exact fun defaultId => ⟨rfl, .same _⟩
    | entry kind => exact kind.louder_read_same v

theorem Echoes.trans {m n : Nat} {u v w : Json} {p : Place} (h : Echoes m u v p)
    (h' : Echoes n v w p) : Echoes (m + n) u w p := by
  cases p with
  | list kind => exact fun here there => (h here here).trans (h' here there)
  | part p =>
    cases p with
    | document => exact fun defaultId => (h defaultId).trans (h' defaultId)
    | entry kind => exact fun here there => (h here here).trans (h' here there)

theorem echoes_junk (kind : EntryKind) (before after : List Json) {j : Json}
    (h : ∀ ms, j ≠ .obj ms) :
    Echoes 1 (.arr (before ++ after)) (.arr (before ++ j :: after)) (.list kind) :=
  fun here there => louder_readAll_between before after (louder_readAll_junk h) here there 0 0

theorem Echoes.item {kind : EntryKind} {n : Nat} {v w : Json} (h : Echoes n v w (.part (.entry kind)))
    (before after : List Json) :
    Echoes n (.arr (before ++ v :: after)) (.arr (before ++ w :: after)) (.list kind) :=
  fun here there => louder_readAll_between before after (louder_readAll_item h) here there 0 0

section

variable {ms : Members} {name : String} {kind : EntryKind} {v w : Json} {n : Nat}

theorem Part.exists_lists (p : Part) : ∃ ms, p.lists = Node.lists ⟨p, ms⟩ := by
  cases p with
  | document => exact ⟨[], rfl⟩
  | entry kind =>
    cases kind with
    | choice => exact ⟨[("id", .bool true)], rfl⟩
    | _ => exact ⟨[], rfl⟩

theorem louder_section {p : Part} (list : (name, kind) ∈ p.lists) (given : ms.get? name = some v)
    (h : Echoes n v w (.list kind)) {other : String} {kind' : EntryKind}
    (list' : (other, kind') ∈ p.lists) (here there : Location) :
    Louder (if other = name then n else 0) (readMember other kind'.read here ms)
      (readMember other kind'.read there (ms.put name w)) := by
  split
  · rename_i hname
    subst hname
    obtain ⟨o, ho⟩ := p.exists_lists
    rw [ho] at list list'
    obtain rfl := Node.kind_unique list list'
    exact louder_readMember_put given h here there
  · rename_i hname
    exact louder_readMember_same (by rw [Members.get?_put, if_neg hname]) here there

theorem share_of_three {x y z : String} (hxy : x ≠ y) (hxz : x ≠ z) (hyz : y ≠ z)
    (h : name ∈ [x, y, z]) :
    (if x = name then n else 0) + (if y = name then n else 0) + (if z = name then n else 0) = n := by
  simp only [List.mem_cons, List.mem_nil_iff, or_false] at h
  rcases h with rfl | rfl | rfl
  · simp [hxy.symm, hxz.symm]
  · simp [hxy, hyz.symm]
  · simp [hxz, hyz]

theorem Part.mem_lists {p : Part} (h : (name, kind) ∈ Node.lists ⟨p, ms⟩) :
    (name, kind) ∈ p.lists := by
  cases p with
  | document => exact h
  | entry part =>
    cases part with
    | choice =>
      unfold Node.lists at h
      dsimp only at h
      split at h
      · exact h
      · cases h
    | _ => exact h

theorem Echoes.field {p : Part} (list : (name, kind) ∈ Node.lists ⟨p, ms⟩)
    (given : ms.get? name = some v) (h : Echoes n v w (.list kind)) :
    Echoes n (.obj ms) (.obj (ms.put name w)) (.part p) := by
  have hlist := Part.mem_lists list
  have hname : name ∈ p.lists.map (·.1) := List.mem_map.mpr ⟨_, hlist, rfl⟩
  have hown := sameBut_put hname ms w
  have hsection (other : String) (kind' : EntryKind) (list' : (other, kind') ∈ p.lists)
      (here there : Location) := louder_section hlist given h list' here there
  cases p with
  | document =>
    intro defaultId
    have hread := Document.louder_read_obj hown (hsection "lines" .line (by decide) [] [])
      (hsection "forks" .fork (by decide) [] []) (hsection "actions" .action (by decide) [] [])
      defaultId
    rwa [share_of_three (by decide) (by decide) (by decide) hname] at hread
  | entry part =>
    intro here there
    cases part with
    | line =>
      have hread := Line.louder_readItem_obj hown (hsection "options" .choice (by decide) here there)
      rwa [if_pos (List.mem_singleton.mp hname).symm] at hread
    | choice =>
      have hid : (ms.get "id").truthy = true := by
        by_contra hid
        simp [Node.lists, hid] at list
      have hread := Choice.louder_readItem_obj hown hid
        (hsection "lines" .line (by decide) here there)
        (hsection "actions" .action (by decide) here there)
        (hsection "branches" .branch (by decide) here there)
      rwa [share_of_three (by decide) (by decide) (by decide) hname] at hread
    | fork =>
      have hread := Fork.louder_read (hsection "checks" .check (by decide) here there)
        (hsection "lines" .line (by decide) here there)
        (hsection "actions" .action (by decide) here there)
      rwa [share_of_three (by decide) (by decide) (by decide) hname] at hread
    | branch =>
      have hread := Branch.louder_readItem_obj (hsection "checks" .check (by decide) here there)
        (hsection "lines" .line (by decide) here there)
        (hsection "actions" .action (by decide) here there)
      rwa [share_of_three (by decide) (by decide) (by decide) hname] at hread
    | check => cases list
    | action => cases list

theorem echoes_unread {p : Part} (list : (name, kind) ∈ p.lists)
    (skipped : (name, kind) ∉ Node.lists ⟨p, ms⟩) (w : Json) :
    Echoes 0 (.obj ms) (.obj (ms.put name w)) (.part p) := by
  cases p with
  | document => exact absurd list skipped
  | entry part =>
    cases part with
    | choice =>
      have hid : (ms.get "id").truthy = false := by
        by_contra hid
        rw [Bool.not_eq_false] at hid
        rw [Node.lists, hid] at skipped
        exact skipped list
      have hname : name ∈ (Part.entry .choice).lists.map (·.1) := List.mem_map.mpr ⟨_, list, rfl⟩
      exact fun here there => Choice.louder_readItem_skipped (sameBut_put hname ms w) hid
    | _ => exact absurd list skipped

end

theorem Littered.echoes {p : Place} {n : Nat} {v w : Json} (h : Littered p n v w) :
    Echoes n v w p := by
  induction h with
  | same => exact echoes_same _ _
  | trans _ _ hfirst hsecond => exact hfirst.trans hsecond
  | junk object => exact echoes_junk _ _ _ object
  | item _ ih => exact ih.item _ _
  | field list given _ ih => exact ih.field list given
  | unread list skipped => exact echoes_unread list skipped _

/-- A value that can be loaded can be loaded with junk in its lists. It is the same document, with
as many errors, and one more warning for each entry of junk where the value is read. -/
theorem Document.load_littered {v w : Json} {defaultId : String} {l : Loaded} {n : Nat}
    (h : Document.load v defaultId = .ok l) (hlittered : Littered (.part .document) n v w) :
    ∃ l', Document.load w defaultId = .ok l' ∧ l'.document = l.document ∧
      l'.errors.length = l.errors.length ∧ l'.warnings.length = l.warnings.length + n := by
  obtain ⟨hvalue, hfindings⟩ := hlittered.echoes defaultId
  obtain ⟨herrors, hwarnings, hfatal⟩ := Loaded.findings_of_ofNoted h
  obtain ⟨hdocument, -⟩ := Loaded.of_ofNoted h
  have hcalm : (Document.read w defaultId).Calm := by
    have hnone : Severity.fatal.count (Document.read v defaultId).findings = 0 :=
      List.countP_eq_zero.mpr (by simpa using hfatal)
    have hsame := hfindings .fatal
    rw [hnone] at hsame
    simpa [Severity.count, Noted.Calm] using hsame
  refine ⟨_, Loaded.ofNoted_eq_ok_iff.mpr ⟨hcalm, rfl⟩, ?_, ?_, ?_⟩
  · rw [hdocument]
    exact hvalue
  · rw [herrors, ← List.countP_eq_length_filter, ← List.countP_eq_length_filter]
    exact hfindings .error
  · rw [hwarnings, ← List.countP_eq_length_filter, ← List.countP_eq_length_filter]
    exact hfindings .warning

/-- A document of a line with two choices, the first of which has no id and is skipped, with entries
put before the lines, before the lines of the choice that is skipped, and before the checks of a
branch of the other. -/
def stall (lines skipped checks : List Json) : Json :=
  .obj [("lines", .arr (lines ++ [.obj [("options", .arr [
    .obj [("lines", .arr skipped)],
    .obj [("id", .str "a"), ("branches", .arr [.obj [("checks", .arr checks)]])]])]]))]

theorem load_littered_stall : ∃ l l', Document.load (stall [] [] []) "gate" = .ok l ∧
    Littered (.part .document) 2 (stall [] [] []) (stall [.null] [.null] [.null]) ∧
    Document.load (stall [.null] [.null] [.null]) "gate" = .ok l' ∧ l'.document = l.document ∧
    l'.errors.length = l.errors.length ∧ l'.warnings.length = l.warnings.length + 2 := by
  have hjunk (kind : EntryKind) (items : List Json) :
      Littered (.list kind) 1 (.arr items) (.arr (.null :: items)) :=
    @Littered.junk kind [] items .null (by rintro _ ⟨⟩)
  have hdocument {items items' : List Json} {n : Nat}
      (h : Littered (.list .line) n (.arr items) (.arr items')) :
      Littered (.part .document) n (.obj [("lines", .arr items)]) (.obj [("lines", .arr items')]) :=
    @Littered.field .document _ "lines" .line _ _ _ List.mem_cons_self rfl h
  have hlines : Littered (.part .document) 1 (stall [] [] []) (stall [.null] [] []) :=
    hdocument (hjunk .line _)
  have hskipped : Littered (.part .document) 0 (stall [.null] [] []) (stall [.null] [.null] []) :=
    hdocument (@Littered.item .line [.null] [] _ _ _
      (@Littered.field _ _ "options" .choice _ _ _ List.mem_cons_self rfl
        (@Littered.item .choice [] _ _ _ _
          (@Littered.unread _ _ "lines" .line _ _ _ List.mem_cons_self (by decide) rfl
            (hjunk .line [])))))
  have hchecks : Littered (.part .document) 1 (stall [.null] [.null] [])
      (stall [.null] [.null] [.null]) :=
    hdocument (@Littered.item .line [.null] [] _ _ _
      (@Littered.field _ _ "options" .choice _ _ _ List.mem_cons_self rfl
        (@Littered.item .choice [_] [] _ _ _
          (@Littered.field _ _ "branches" .branch _ _ _ (by decide) rfl
            (@Littered.item .branch [] [] _ _ _
              (@Littered.field _ _ "checks" .check _ _ _ List.mem_cons_self rfl
                (hjunk .check [])))))))
  have hlittered := (hlines.trans hskipped).trans hchecks
  obtain ⟨l, hl⟩ : ∃ l, Document.load (stall [] [] []) "gate" = .ok l := ⟨_, rfl⟩
  obtain ⟨l', hl', hdocument, herrors, hwarnings⟩ := Document.load_littered hl hlittered
  exact ⟨l, l', hl, hlittered, hl', hdocument, herrors, hwarnings⟩

end Parley
