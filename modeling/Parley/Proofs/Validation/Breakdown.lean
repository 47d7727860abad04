import Parley.Proofs.Double
import Parley.Proofs.Json.Writable
import Parley.Proofs.Validation.Completeness
import Parley.Proofs.Validation.Verdict

/-!
# What loading breaks down on

Whatever is wrong with a value, a text or a file becomes an error or a warning, except for what is
listed here: on that, and on nothing else, loading has no result. Validation has none on the same, or
if a row of its report cannot be written.
-/

namespace Parley

/-- What the loading of a value breaks down on: an id without a text, or the first fatal defect in the
order of reading, of two in one place the value without a text before the amount. -/
inductive ValueFault (v : Json) : Fault → Prop where
  | id {ms : Members} (object : v = .obj ms) (long : (ms.get "id").isWritable = false) :
      ValueFault v .integerTooLong
  | entry {place : Location} {d : Defect} {fault : Fault}
      (id : ∀ ms, v = .obj ms → (Members.get ms "id").isWritable = true)
      (defective : Defective (.part .document) v place d) (ends : d.fault? = some fault)
      (first : ∀ place' d', Defective (.part .document) v place' d' → d'.severity = .fatal →
        ¬ place'.Before place ∧ (place' = place → d = .amountTooLarge → d' = .amountTooLarge)) :
      ValueFault v fault

/-- What the loading of a text breaks down on: an integer of too many digits, too many containers
within one another, or what the loading of the value does. -/
inductive TextFault (text : String) : Fault → Prop where
  | digits {count : Nat} (h : Json.read text = .error (.tooManyDigits count)) :
      TextFault text (.tooManyDigits count)
  | depth {container : Json.Container} (h : Json.read text = .error (.tooDeep container)) :
      TextFault text (.tooDeep container)
  | value {v : Json} {fault : Fault} (h : Json.read text = .ok v) (below : ValueFault v fault) :
      TextFault text fault

/-- What the loading of a file breaks down on: a path that no file can have, bytes that are no text,
or what the loading of the text does. -/
inductive FileFault (t : FileTree) (p : FilePath) : Fault → Prop where
  | path {fault : Fault} (h : checkPathText p.toString = .error fault) : FileFault t p fault
  | bytes {bytes : List UInt8} {e : Text.Undecodable} (path : checkPathText p.toString = .ok ())
      (given : t.readBytes p = .ok bytes) (h : Text.decodeUtf8 bytes = .error e) :
      FileFault t p (.undecodable e)
  | text {text : String} {fault : Fault} (h : t.readText p = .ok text)
      (below : TextFault text fault) : FileFault t p fault

theorem Defect.severity_eq_fatal_iff {d : Defect} :
    d.severity = .fatal ↔ d = .unwritable ∨ d = .amountTooLarge := by
  cases d <;> simp [Defect.severity]

theorem Defect.severity_of_fault? {d : Defect} {fault : Fault} (h : d.fault? = some fault) :
    d.severity = .fatal := by
  by_contra hmild
  rw [Defect.fault?_eq_none_iff.mpr hmild] at h
  cases h

/-- The other finding is not read before this one, nor is it a value without a text where this one is
the amount. -/
def Finding.Leads (f g : Finding) : Prop :=
  ¬ g.location.Before f.location ∧
    (g.location = f.location → f.defect = .amountTooLarge → g.defect = .amountTooLarge)

namespace Finding

variable {f g : Finding}

theorem Leads.refl (f : Finding) : f.Leads f := ⟨fun hbefore => hbefore.ne rfl, fun _ hd => hd⟩

theorem Precedes.leads (h : f.Precedes g) : f.Leads g := by
  cases h with
  | before hbefore => exact ⟨hbefore.asymm, fun hsame => absurd hsame.symm hbefore.ne⟩
  | beside hplace hearly =>
    exact ⟨fun hbefore => hbefore.ne hplace.symm, fun _ hd => absurd hd hearly⟩

/-- Of two fatal findings that could both be the first, neither is the amount. -/
theorem Precedes.fault?_eq (h : f.Precedes g) (hleads : g.Leads f) (hf : f.severity = .fatal)
    (hg : g.severity = .fatal) : f.defect.fault? = g.defect.fault? := by
  cases h with
  | before hbefore => exact absurd hbefore hleads.1
  | beside hplace hearly =>
    have hlate : g.defect ≠ .amountTooLarge := fun hd => hearly (hleads.2 hplace hd)
    rw [(Defect.severity_eq_fatal_iff.mp hf).resolve_right hearly,
      (Defect.severity_eq_fatal_iff.mp hg).resolve_right hlate]

theorem findSome?_eq_some_iff_of_ordered {fs : List Finding} (h : fs.Pairwise Precedes)
    {fault : Fault} :
    fs.findSome? (·.defect.fault?) = some fault ↔
      ∃ f ∈ fs, f.defect.fault? = some fault ∧ ∀ g ∈ fs, g.severity = .fatal → f.Leads g := by
  induction fs with
  | nil => simp
  | cons a rest ih =>
    obtain ⟨hahead, hrest⟩ := List.pairwise_cons.mp h
    rw [List.findSome?_cons]
    cases ha : a.defect.fault? with
    | none =>
      have hmild : a.severity ≠ .fatal := Defect.fault?_eq_none_iff.mp ha
      simp [ih hrest, hmild, ha]
    | some fault' =>
      have hfatal : a.severity = .fatal := Defect.severity_of_fault? ha
      constructor
      · intro hfault
        refine ⟨a, List.mem_cons_self, ha.trans hfault, List.forall_mem_cons.mpr ⟨?_, ?_⟩⟩
        · exact fun _ => .refl a
        · exact fun g hg _ => (hahead g hg).leads
      · rintro ⟨f, hmem, hf, hleads⟩
        rcases List.mem_cons.mp hmem with rfl | hmem
        · exact ha.symm.trans hf
        · have hsame := (hahead f hmem).fault?_eq (hleads a List.mem_cons_self hfatal) hfatal
            (Defect.severity_of_fault? hf)
          exact (ha.symm.trans hsame).trans hf

end Finding

theorem Loaded.ofNoted_eq_error_iff {n : Noted (Option Document)} {fault : Fault} :
    Loaded.ofNoted n = .error fault ↔ n.findings.findSome? (·.defect.fault?) = some fault := by
  unfold Loaded.ofNoted Noted.unlessFatal
  cases n.findings.findSome? (·.defect.fault?) <;> simp [Except.map]

/-- The first fatal finding is that of the first fatal defect. -/
theorem Diagnosis.findSome?_eq_some_iff {v : Json} {fs : List Finding}
    (h : Diagnosis (.part .document) [] v fs) {fault : Fault} :
    fs.findSome? (·.defect.fault?) = some fault ↔
      ∃ place d, Defective (.part .document) v place d ∧ d.fault? = some fault ∧
        ∀ place' d', Defective (.part .document) v place' d' → d'.severity = .fatal →
          Finding.Leads ⟨place, d⟩ ⟨place', d'⟩ := by
  rw [Finding.findSome?_eq_some_iff_of_ordered h.ordered]
  constructor
  · rintro ⟨f, hf, hfault, hleads⟩
    obtain ⟨place, d, rfl, hd⟩ := (h.mem_iff f).mp hf
    exact ⟨place, d, hd, hfault, fun place' d' hd' hfatal =>
      hleads _ ((h.mem_iff _).mpr ⟨place', d', rfl, hd'⟩) hfatal⟩
  · rintro ⟨place, d, hd, hfault, hleads⟩
    refine ⟨_, (h.mem_iff _).mpr ⟨place, d, rfl, hd⟩, hfault, fun g hg hfatal => ?_⟩
    obtain ⟨place', d', rfl, hd'⟩ := (h.mem_iff g).mp hg
    exact hleads place' d' hd' hfatal

theorem Document.findSome?_readId (ms : Members) (defaultId : String) :
    (Document.readId ms defaultId).findings.findSome? (·.defect.fault?) =
      if (ms.get "id").isWritable then none else some .integerTooLong := by
  cases hid : (ms.get "id").isWritable with
  | false =>
    have hgiven : (ms.get "id").orElse (.str defaultId) = ms.get "id" := by
      rw [Json.orElse, if_pos (Json.truthy_of_not_writable hid)]
    unfold Document.readId
    rw [hgiven]
    generalize ms.get "id" = id at hid
    cases id with
    | str s => cases hid
    | _ =>
      simp only [hid, Bool.false_eq_true, if_false]
      rfl
  | true =>
    have hwritable : ((ms.get "id").orElse (.str defaultId)).isWritable = true := by
      unfold Json.orElse
      split
      · exact hid
      · rfl
    unfold Document.readId
    generalize (ms.get "id").orElse (.str defaultId) = id at hwritable
    cases id with
    | str s => rfl
    | _ =>
      simp only [if_pos hwritable]
      rfl

theorem Document.load_eq_error_iff {v : Json} {defaultId : String} {fault : Fault} :
    Document.load v defaultId = .error fault ↔ ValueFault v fault := by
  rw [Document.load, Loaded.ofNoted_eq_error_iff]
  cases v with
  | obj ms =>
    have hread : (Document.read (.obj ms) defaultId).findings =
        (Document.readId ms defaultId).findings ++ ((Line.readIn [] ms).findings ++
          (Fork.readIn [] ms).findings ++ (Action.readIn [] ms).findings) := by
      simp [Document.read, List.append_assoc]
    rw [hread, List.findSome?_append, Document.findSome?_readId]
    cases hid : (Members.get ms "id").isWritable with
    | false =>
      simp only [Bool.false_eq_true, if_false, Option.some_or, Option.some.injEq]
      constructor
      · rintro rfl
        exact .id rfl hid
      · intro h
        cases h with
        | id => rfl
        | entry id =>
          rw [id ms rfl] at hid
          cases hid
    | true =>
      rw [if_pos rfl, Option.none_or, (Document.diagnosis_read ms).findSome?_eq_some_iff]
      constructor
      · rintro ⟨place, d, hd, hfault, hfirst⟩
        refine .entry ?_ hd hfault hfirst
        rintro _ ⟨⟩
        exact hid
      · intro h
        cases h with
        | id object long =>
          cases object
          rw [hid] at long
          cases long
        | entry _ hd hfault hfirst => exact ⟨_, _, hd, hfault, hfirst⟩
  | _ =>
    refine iff_of_false (by rintro ⟨⟩) ?_
    intro h
    cases h with
    | id object => cases object
    | entry _ hd => cases hd with | here hwrong => cases hwrong

theorem Document.mild_of_load {v : Json} {defaultId : String} {l : Loaded} {place : Location}
    {d : Defect} (h : Document.load v defaultId = .ok l)
    (hd : Defective (.part .document) v place d) : d.severity ≠ .fatal := by
  obtain ⟨hcalm, -⟩ := Loaded.ofNoted_eq_ok_iff.mp h
  cases v with
  | obj ms =>
    have hfound := ((Document.diagnosis_read ms).mem_iff ⟨place, d⟩).mpr ⟨place, d, rfl, hd⟩
    refine hcalm ⟨place, d⟩ ?_
    simp only [Document.read, List.append_assoc]
    rw [List.append_assoc] at hfound
    exact List.mem_append_right _ hfound
  | _ => cases hd with | here hwrong => cases hwrong

/-- An integer without a double is that of an action, and as large as such an integer is. -/
theorem Defective.exists_amount {v : Json} {place : Location}
    (h : Defective (.part .document) v place .amountTooLarge) :
    ∃ (ms : Members) (n : Int), v.follow place = some (.obj ms) ∧ ms.get "type" = .str "giveItem" ∧
      ms.get "amount" = .num (.int n) ∧ twoTo 1024 ≤ n.natAbs + twoTo 970 := by
  obtain ⟨q, u, hfollow, hwrong⟩ := h.exists_follow
  cases hwrong with
  | amountTooLarge type amount large =>
    exact ⟨_, _, hfollow, type, amount, (Double.ofInt?_eq_none_iff _).mp large⟩

/-- A value without a text is one that an object gives for a text, with an integer of too many
digits. -/
theorem Defective.exists_unwritable {v : Json} {place : Location}
    (h : Defective (.part .document) v place .unwritable) :
    ∃ (kind : EntryKind) (ms : Members) (u : Json) (n : Int), v.follow place = some (.obj ms) ∧
      u ∈ Node.worded ⟨.entry kind, ms⟩ ∧ u.Holds (.int n) ∧
      10 ^ Text.digitLimit ≤ n.natAbs := by
  obtain ⟨q, u, hfollow, hwrong⟩ := h.exists_follow
  cases hwrong with
  | unwritable worded long =>
    obtain ⟨n, hn, hlarge⟩ := (Json.isWritable_eq_false_iff _).mp long
    exact ⟨_, _, _, n, hfollow, worded, hn, hlarge⟩

theorem Json.Holds.of_follow {v u : Json} {place : Location} {n : Number} (hn : u.Holds n)
    (h : v.follow place = some u) : v.Holds n := by
  induction place generalizing v with
  | nil =>
    cases v <;> cases h <;> exact hn
  | cons s place ih =>
    cases s with
    | field name =>
      cases v with
      | obj ms =>
        rw [Json.follow] at h
        cases hget : Members.get? ms name with
        | none =>
          rw [hget] at h
          cases h
        | some w =>
          rw [hget] at h
          exact .of_get? hget (ih h)
      | _ => cases h
    | item i =>
      cases v with
      | arr items =>
        rw [Json.follow] at h
        cases hget : items[i]? with
        | none =>
          rw [hget] at h
          cases h
        | some w =>
          rw [hget] at h
          exact .item (List.mem_of_getElem? hget) (ih h)
      | _ => cases h

theorem Node.exists_get_of_worded {n : Node} {u : Json} (h : u ∈ n.worded) :
    ∃ name, u = n.members.get name := by
  obtain ⟨part, ms⟩ := n
  have hone {name : String} {us : List Json} (h : u ∈ ms.get name :: us)
      (hrest : u ∈ us → ∃ name, u = ms.get name) : ∃ name, u = ms.get name := by
    rcases List.mem_cons.mp h with rfl | h
    · exact ⟨name, rfl⟩
    · exact hrest h
  cases part with
  | document => cases h
  | entry kind =>
    cases kind with
    | line => exact hone h fun h => hone h fun h => hone h nofun
    | choice =>
      unfold worded at h
      dsimp only at h
      split at h
      · exact hone h fun h => hone h nofun
      · cases h
    | check =>
      unfold worded at h
      dsimp only at h
      split at h
      · exact hone h nofun
      · exact hone h nofun
    | action =>
      unfold worded at h
      dsimp only at h
      split at h
      · refine hone h fun h => ?_
        split at h
        · cases h
        · exact hone h nofun
      · exact hone h nofun
    | fork | branch => cases h

theorem TextFault.ne_integerTooLong {text : String} {fault : Fault} (h : TextFault text fault) :
    fault ≠ .integerTooLong := by
  cases h with
  | digits | depth => exact nofun
  | @value v _ hread below =>
    have hwritable := Json.isWritable_of_read hread
    rintro rfl
    suffices hlong : v.isWritable = false by
      rw [hwritable] at hlong
      cases hlong
    rw [Json.isWritable_eq_false_iff]
    cases below with
    | id object long =>
      obtain ⟨n, hn, hlarge⟩ := (Json.isWritable_eq_false_iff _).mp long
      exact ⟨n, object ▸ hn.of_get, hlarge⟩
    | entry _ defective ends =>
      obtain rfl := Defect.eq_unwritable_of_fault? ends
      obtain ⟨kind, ms, u, n, hfollow, hu, hn, hlarge⟩ := defective.exists_unwritable
      obtain ⟨name, rfl⟩ := Node.exists_get_of_worded hu
      exact ⟨n, hn.of_get.of_follow hfollow, hlarge⟩

theorem Validation.ofValue_eq_error_iff {v : Json} {defaultId : String} {fault : Fault} :
    Validation.ofValue v defaultId = .error fault ↔ ValueFault v fault := by
  rw [← @Document.load_eq_error_iff v defaultId, Validation.ofValue]
  cases Document.load v defaultId <;> simp [Except.map]

section

variable {α : Type} {text : String} {fault : Fault}

/-- What goes on with the value that is read of a text, and has a result for a malformed text, breaks
down on what it does for values and on what else keeps a text from being read. -/
theorem textFault_of_read {onValue : Json → Except Fault α} {onMalformed : Json.Malformed → α}
    (h : ∀ v, onValue v = .error fault ↔ ValueFault v fault) :
    (match Json.read text with
      | .ok v => onValue v
      | .error (.malformed e) => .ok (onMalformed e)
      | .error e => .error (.ofReadError e)) = .error fault ↔ TextFault text fault := by
  constructor
  · intro hfault
    cases hread : Json.read text with
    | ok v =>
      rw [hread] at hfault
      exact .value hread ((h v).mp hfault)
    | error e =>
      rw [hread] at hfault
      cases e with
      | malformed e => cases hfault
      | tooManyDigits count =>
        cases hfault
        exact .digits hread
      | tooDeep container =>
        cases hfault
        exact .depth hread
  · intro hfault
    cases hfault with
    | digits hread => rw [hread]; rfl
    | depth hread => rw [hread]; rfl
    | value hread below =>
      rw [hread]
      exact (h _).mpr below

theorem Document.loadText_eq_error_iff {defaultId : String} :
    Document.loadText text defaultId = .error fault ↔ TextFault text fault :=
  textFault_of_read fun _ => Document.load_eq_error_iff

theorem Validation.ofText_eq_error_iff {defaultId : String} :
    Validation.ofText text defaultId = .error fault ↔ TextFault text fault :=
  textFault_of_read fun _ => Validation.ofValue_eq_error_iff

end

theorem FileTree.readText_eq_error_iff {t : FileTree} {p : FilePath} {fault : Fault} :
    t.readText p = .error fault ↔ checkPathText p.toString = .error fault ∨
      checkPathText p.toString = .ok () ∧
        ((∃ e, t.readBytes p = .error e ∧ fault = .unreadable e) ∨
          ∃ bytes e, t.readBytes p = .ok bytes ∧ Text.decodeUtf8 bytes = .error e ∧
            fault = .undecodable e) := by
  unfold FileTree.readText
  cases checkPathText p.toString with
  | error e => simp [bind, Except.bind]
  | ok u =>
    cases t.readBytes p with
    | error e => simp [bind, Except.bind, eq_comm]
    | ok bytes => cases hdecode : Text.decodeUtf8 bytes <;> simp [bind, Except.bind, hdecode, eq_comm]

theorem checkPathText_ne_unreadable {path : String} {e : AccessError} :
    checkPathText path ≠ .error (.unreadable e) := by
  unfold checkPathText
  split
  · simp
  · split <;> simp

/-- A file breaks down before it has a text, but not because it cannot be read, or on its text. -/
theorem fileFault_iff {t : FileTree} {p : FilePath} {fault : Fault} :
    FileFault t p fault ↔ (t.readText p = .error fault ∧ ∀ e, fault ≠ .unreadable e) ∨
      ∃ text, t.readText p = .ok text ∧ TextFault text fault := by
  constructor
  · intro h
    cases h with
    | path hpath =>
      refine .inl ⟨FileTree.readText_eq_error_iff.mpr (.inl hpath), ?_⟩
      rintro e rfl
      exact checkPathText_ne_unreadable hpath
    | bytes hpath hbytes hdecode =>
      exact .inl ⟨FileTree.readText_eq_error_iff.mpr
        (.inr ⟨hpath, .inr ⟨_, _, hbytes, hdecode, rfl⟩⟩), by rintro e ⟨⟩⟩
    | text htext below => exact .inr ⟨_, htext, below⟩
  · rintro (⟨hread, hother⟩ | ⟨text, htext, below⟩)
    · rcases FileTree.readText_eq_error_iff.mp hread with
        hpath | ⟨hpath, ⟨e, -, rfl⟩ | ⟨bytes, e, hbytes, hdecode, rfl⟩⟩
      · exact .path hpath
      · exact absurd rfl (hother e)
      · exact .bytes hpath hbytes hdecode
    · exact .text htext below

section

variable {α : Type} {t : FileTree} {p : FilePath} {fault : Fault}

/-- What goes on with the text of a file, and has a result for a file that cannot be read, breaks
down on what it does for texts and on what else keeps a file from being read. -/
theorem fileFault_of_readText {onText : String → Except Fault α} {onUnreadable : AccessError → α}
    (h : ∀ text, onText text = .error fault ↔ TextFault text fault) :
    (match t.readText p with
      | .error (.unreadable e) => (.ok (onUnreadable e) : Except Fault α)
      | .error e => .error e
      | .ok text => onText text) = .error fault ↔ FileFault t p fault := by
  rw [fileFault_iff]
  cases hread : t.readText p with
  | ok text => simp [h]
  | error e =>
    by_cases hfault : e = fault
    · subst hfault
      cases e <;> simp
    · cases e <;> simp [hfault]

theorem Document.loadFile_eq_error_iff :
    Document.loadFile t p = .error fault ↔ FileFault t p fault :=
  fileFault_of_readText fun _ => textFault_of_read fun _ => Document.load_eq_error_iff

theorem Validation.ofFile_eq_error_iff :
    Validation.ofFile t p = .error fault ↔
      (∃ e, t.pathExists p = .error e ∧ fault = .unreadable e) ∨
        t.pathExists p = .ok true ∧ FileFault t p fault := by
  unfold Validation.ofFile
  cases t.pathExists p with
  | error e => simp [eq_comm]
  | ok there =>
    cases there with
    | false => simp
    | true =>
      simp only [reduceCtorEq, false_and, exists_false, true_and, false_or]
      exact fileFault_of_readText fun _ => Validation.ofText_eq_error_iff

end

/-- What was loaded is a document, or an error tells why there is none. -/
def Loaded.Accounted (l : Loaded) : Prop := l.document = none → l.errors ≠ []

/-- What was validated is a document, or an error tells why there is none. -/
def Validation.Accounted (r : Validation) : Prop := r.document = none → r.errors ≠ []

theorem Document.accounted_load {v : Json} {defaultId : String} {l : Loaded}
    (h : Document.load v defaultId = .ok l) : l.Accounted := by
  obtain ⟨herrors, -⟩ := Loaded.findings_of_ofNoted h
  obtain ⟨hdocument, -⟩ := Loaded.of_ofNoted h
  intro hnone
  cases v with
  | obj ms =>
    rw [hdocument] at hnone
    cases hnone
  | _ => exact herrors ▸ List.cons_ne_nil _ _

theorem Validation.accounted_ofLoaded {l : Loaded} (h : l.Accounted) :
    (Validation.ofLoaded l).Accounted := by
  intro hnone
  have herrors := h hnone
  intro hempty
  obtain ⟨hmapped, -⟩ := List.append_eq_nil_iff.mp hempty
  exact herrors (List.map_eq_nil_iff.mp hmapped)

theorem Validation.accounted_ofValue {v : Json} {defaultId : String} {r : Validation}
    (h : Validation.ofValue v defaultId = .ok r) : r.Accounted := by
  obtain ⟨l, hload, rfl⟩ := Validation.exists_load h
  exact Validation.accounted_ofLoaded (Document.accounted_load hload)

section

variable {α : Type} {P : α → Prop} {a : α}

/-- What holds of the results for values and for malformed texts holds of those for texts. -/
theorem of_read {text : String} {onValue : Json → Except Fault α}
    {onMalformed : Json.Malformed → α}
    (h : (match Json.read text with
      | .ok v => onValue v
      | .error (.malformed e) => .ok (onMalformed e)
      | .error e => .error (.ofReadError e)) = .ok a)
    (hvalue : ∀ v a, onValue v = .ok a → P a) (hmalformed : ∀ e, P (onMalformed e)) : P a := by
  cases hread : Json.read text with
  | ok v =>
    rw [hread] at h
    exact hvalue v a h
  | error e =>
    rw [hread] at h
    cases e with
    | malformed e =>
      cases h
      exact hmalformed e
    | _ => cases h

/-- What holds of the results for texts and for files that cannot be read holds of those for
files. -/
theorem of_readText {t : FileTree} {p : FilePath} {onText : String → Except Fault α}
    {onUnreadable : AccessError → α}
    (h : (match t.readText p with
      | .error (.unreadable e) => (.ok (onUnreadable e) : Except Fault α)
      | .error e => .error e
      | .ok text => onText text) = .ok a)
    (htext : ∀ text a, onText text = .ok a → P a) (hunreadable : ∀ e, P (onUnreadable e)) :
    P a := by
  cases hread : t.readText p with
  | ok text =>
    rw [hread] at h
    exact htext text a h
  | error e =>
    rw [hread] at h
    cases e with
    | unreadable e =>
      cases h
      exact hunreadable e
    | _ => cases h

end

theorem Loaded.accounted_failed (d : Defect) : (Loaded.failed d).Accounted :=
  fun _ => List.cons_ne_nil _ _

theorem Validation.accounted_failed (location message : String) (suggestion : Option String) :
    (Validation.failed location message suggestion).Accounted :=
  fun _ => List.cons_ne_nil _ _

theorem Document.accounted_loadText {text defaultId : String} {l : Loaded}
    (h : Document.loadText text defaultId = .ok l) : l.Accounted :=
  of_read h (fun _ _ => Document.accounted_load) fun _ => Loaded.accounted_failed _

theorem Validation.accounted_ofText {text defaultId : String} {r : Validation}
    (h : Validation.ofText text defaultId = .ok r) : r.Accounted :=
  of_read h (fun _ _ => Validation.accounted_ofValue) fun _ => Validation.accounted_failed _ _ _

theorem Document.accounted_loadFile {t : FileTree} {p : FilePath} {l : Loaded}
    (h : Document.loadFile t p = .ok l) : l.Accounted :=
  of_readText h
    (fun _ _ htext => of_read htext (fun _ _ => Document.accounted_load)
      fun _ => Loaded.accounted_failed _)
    fun _ => Loaded.accounted_failed _

theorem Validation.accounted_ofFile {t : FileTree} {p : FilePath} {r : Validation}
    (h : Validation.ofFile t p = .ok r) : r.Accounted := by
  unfold Validation.ofFile at h
  cases hthere : t.pathExists p with
  | error e =>
    rw [hthere] at h
    cases h
  | ok there =>
    rw [hthere] at h
    cases there with
    | false =>
      cases h
      exact Validation.accounted_failed _ _ _
    | true =>
      exact of_readText h (fun _ _ => Validation.accounted_ofText)
        fun _ => Validation.accounted_failed _ _ _

theorem Validator.eq_ok_of_report {w : Validator} {r : Except Fault Validation} {v : Validation}
    (h : (w.report r).2 = .ok v) : r = .ok v := by
  unfold report at h
  split at h
  · split at h
    · cases h
    · exact h
  · exact h

theorem Validator.accounted_validate {w : Validator} {t : FileTree} {r : Validation}
    (h : (w.validate t).2 = .ok r) : r.Accounted := by
  have hvalidation := eq_ok_of_report h
  cases hfile : w.file with
  | none =>
    rw [hfile] at hvalidation
    cases hvalidation
    exact Validation.accounted_failed _ _ _
  | some p =>
    rw [hfile] at hvalidation
    exact Validation.accounted_ofFile hvalidation

namespace Validator

/-- A validator that is not quiet has come to a validation, and its stream refuses a row of the
report; the fault is that of the first refusal. -/
def Unreported (w : Validator) (r : Except Fault Validation) (fault : Fault) : Prop :=
  ∃ v s, r = .ok v ∧ w.stream = some s ∧ (v.report w.title).findSome? s.refusal? = some fault

variable {w : Validator} {r : Except Fault Validation} {fault : Fault}

theorem report_eq_error_iff :
    (w.report r).2 = .error fault ↔ r = .error fault ∨ w.Unreported r fault := by
  unfold report Unreported
  cases r with
  | error e => simp
  | ok v =>
    cases hstream : w.stream with
    | none => simp
    | some s =>
      have hwrite := s.write_snd (v.report w.title)
      cases hresult : s.write (v.report w.title) with
      | mk rows refusal =>
        rw [hresult] at hwrite
        subst hwrite
        cases hrefusal : (v.report w.title).findSome? s.refusal? <;> simp [hresult, hrefusal]

theorem Unreported.exists_row (h : w.Unreported r fault) : w.stream = some .bytes ∧
    ∃ v row e, r = .ok v ∧ row ∈ v.report w.title ∧ Text.unwritable? row = some e ∧
      fault = .unwritable e := by
  obtain ⟨v, s, hr, hstream, hfault⟩ := h
  obtain ⟨row, hrow, hrefusal⟩ := List.exists_of_findSome?_eq_some hfault
  cases s with
  | characters => cases hrefusal
  | bytes =>
    obtain ⟨e, he, rfl⟩ := Option.map_eq_some_iff.mp hrefusal
    exact ⟨hstream, v, row, e, hr, hrow, he, rfl⟩

end Validator

/-- Loading has no result exactly on what is listed for values, texts and files, and validating has
none on the same: of values that is an integer so large that the nearest double is infinite in an
action that gives it, and an integer of too many digits in what is to be a text, which no text leads
to. A validator for a file also breaks down on a path with too long a name, and one that writes bytes
on a report with a surrogate. In all other cases there is a document, or an error that tells why there
is none. -/
theorem Validation.fault_iff (v : Json) (text defaultId : String) (t : FileTree) (p : FilePath)
    (w : Validator) (stream : Option Terminal.Stream) :
    (∀ fault,
      (Document.load v defaultId = .error fault ↔ ValueFault v fault) ∧
      ((w.validateValue v defaultId).2 = .error fault ↔
        ValueFault v fault ∨ w.Unreported (Validation.ofValue v defaultId) fault)) ∧
    (∀ fault,
      (Document.loadText text defaultId = .error fault ↔ TextFault text fault) ∧
      ((w.validateText text defaultId).2 = .error fault ↔
        TextFault text fault ∨ w.Unreported (Validation.ofText text defaultId) fault)) ∧
    (∀ fault,
      (Document.loadFile t p = .error fault ↔ FileFault t p fault) ∧
      ((Validator.validate ⟨some p, stream⟩ t).2 = .error fault ↔
        (∃ e, t.pathExists p = .error e ∧ fault = .unreadable e) ∨
          t.pathExists p = .ok true ∧ FileFault t p fault ∨
          Validator.Unreported ⟨some p, stream⟩ (Validation.ofFile t p) fault)) ∧
    (∀ place, Defective (.part .document) v place .amountTooLarge →
      ∃ (ms : Members) (n : Int), v.follow place = some (.obj ms) ∧
        ms.get "type" = .str "giveItem" ∧ ms.get "amount" = .num (.int n) ∧
        twoTo 1024 ≤ n.natAbs + twoTo 970) ∧
    (∀ place, Defective (.part .document) v place .unwritable →
      ∃ (kind : EntryKind) (ms : Members) (u : Json) (n : Int), v.follow place = some (.obj ms) ∧
        u ∈ Node.worded ⟨.entry kind, ms⟩ ∧ u.Holds (.int n) ∧
        10 ^ Text.digitLimit ≤ n.natAbs) ∧
    (∀ fault, TextFault text fault → fault ≠ .integerTooLong) ∧
    (∀ r fault, w.Unreported r fault → w.stream = some .bytes ∧
      ∃ u row e, r = .ok u ∧ row ∈ u.report w.title ∧ Text.unwritable? row = some e ∧
        fault = .unwritable e) ∧
    (∀ l : Loaded, (Document.load v defaultId = .ok l ∨ Document.loadText text defaultId = .ok l ∨
      Document.loadFile t p = .ok l) → l.Accounted) ∧
    ∀ r : Validation, ((w.validateValue v defaultId).2 = .ok r ∨
      (w.validateText text defaultId).2 = .ok r ∨ (w.validate t).2 = .ok r) → r.Accounted := by
  refine ⟨fun fault => ⟨Document.load_eq_error_iff, ?_⟩,
    fun fault => ⟨Document.loadText_eq_error_iff, ?_⟩,
    fun fault => ⟨Document.loadFile_eq_error_iff, ?_⟩, fun place => Defective.exists_amount,
    fun place => Defective.exists_unwritable, fun fault => TextFault.ne_integerTooLong,
    fun r fault => Validator.Unreported.exists_row, ?_, ?_⟩
  · rw [← @Validation.ofValue_eq_error_iff v defaultId]
    exact Validator.report_eq_error_iff
  · rw [← @Validation.ofText_eq_error_iff text fault defaultId]
    exact Validator.report_eq_error_iff
  · rw [← or_assoc, ← Validation.ofFile_eq_error_iff]
    exact Validator.report_eq_error_iff
  · rintro l (h | h | h)
    · exact Document.accounted_load h
    · exact Document.accounted_loadText h
    · exact Document.accounted_loadFile h
  · rintro r (h | h | h)
    · exact Validation.accounted_ofValue (Validator.eq_ok_of_report h)
    · exact Validation.accounted_ofText (Validator.eq_ok_of_report h)
    · exact Validator.accounted_validate h

/-- A document that gives as many keys. -/
def lavish (n : Int) : Members :=
  [("actions", .arr [.obj [("type", .str "giveItem"), ("itemId", .str "key"),
    ("amount", .num (.int n))]])]

theorem defective_lavish {n : Int} (h : Double.ofInt? n = none) :
    ∃ place, Defective (.part .document) (.obj (lavish n)) place .amountTooLarge := by
  have hlist : ("actions", .action) ∈ Node.lists ⟨.document, lavish n⟩ :=
    List.mem_cons_of_mem _ (List.mem_cons_of_mem _ List.mem_cons_self)
  exact ⟨_, .field hlist rfl (.item List.getElem?_cons_zero (.here (.amountTooLarge rfl rfl h)))⟩

/-- Neither every value nor every file has a result. -/
theorem not_loaded_lavish :
    (¬ ∀ v defaultId, ∃ l, Document.load v defaultId = .ok l) ∧
    ¬ ∀ t p, ∃ l, Document.loadFile t p = .ok l := by
  constructor
  · intro h
    obtain ⟨n, hn⟩ : ∃ n : Int, Double.ofInt? n = none :=
      ⟨(twoTo 1024 : Nat), (Double.ofInt?_eq_none_iff _).mpr
        (by rw [Int.natAbs_natCast]; exact Nat.le_add_right _ _)⟩
    obtain ⟨l, hl⟩ := h (.obj (lavish n)) "gate"
    obtain ⟨place, hd⟩ := defective_lavish hn
    exact Document.mild_of_load hl hd rfl
  · intro h
    obtain ⟨l, hl⟩ := h ⟨[(["gate.json"], .file [0xff])]⟩ ⟨"", ["gate.json"]⟩
    have hfault : FileFault ⟨[(["gate.json"], .file [0xff])]⟩ ⟨"", ["gate.json"]⟩
        (.undecodable ⟨.invalidStart, 0, 0xff, 1⟩) :=
      @FileFault.bytes _ _ [0xff] _ (by decide) (by decide +kernel) (by decide)
    rw [Document.loadFile_eq_error_iff.mpr hfault] at hl
    cases hl

end Parley
