import Mathlib.Data.List.Forall2
import Parley.Proofs.Files.Directory
import Parley.Proofs.Repository

/-!
# Which files a repository reads

An id names a file of the repository's directory. It may be made of letters and digits of ASCII,
underscores and hyphens only, but one line feed at its end is let through. No other id gets as far as
the files, and of the files none is read or listed that has not the name of such an id.
-/

namespace Parley

/-- A letter or digit of ASCII, an underscore or a hyphen. -/
def IdChar (c : Char) : Prop :=
  ('A' ≤ c ∧ c ≤ 'Z') ∨ ('a' ≤ c ∧ c ≤ 'z') ∨ ('0' ≤ c ∧ c ≤ '9') ∨ c = '_' ∨ c = '-'

/-- An id that is safe to name a file with. -/
structure SafeId (id : String) : Prop where
  nonempty : id ≠ ""
  chars : ∀ c ∈ id.toList, IdChar c

/-- An id that a repository looks for: a safe one, or one with a line feed after it. -/
def AdmittedId (id : String) : Prop := SafeId id ∨ ∃ safe, SafeId safe ∧ id = safe ++ "\n"

theorem isSafeChar_iff {c : Char} : isSafeChar c = true ↔ IdChar c := by
  simp [isSafeChar, IdChar, Text.isAlphanum_iff, or_assoc]

theorem not_idChar_lineFeed : ¬IdChar '\n' := by
  rw [← isSafeChar_iff]
  decide

theorem IdChar.ascii {c : Char} (h : IdChar c) : c.toNat < 0x80 := by
  have hsafe := isSafeChar_iff.mpr h
  simp only [isSafeChar, Bool.or_eq_true, beq_iff_eq] at hsafe
  obtain (halphanum | rfl) | rfl := hsafe
  · exact (Text.toNat_of_isAlphanum halphanum).2
  · decide
  · decide

theorem safeId_iff {id : String} :
    SafeId id ↔ (!id.toList.isEmpty && id.toList.all isSafeChar) = true := by
  simp only [Bool.and_eq_true, Bool.not_eq_true', List.isEmpty_eq_false_iff, List.all_eq_true,
    isSafeChar_iff, ne_eq, String.toList_eq_nil_iff]
  exact ⟨fun h => ⟨h.nonempty, h.chars⟩, fun h => ⟨h.1, h.2⟩⟩

theorem SafeId.no_lineFeed {id : String} (h : SafeId id) : '\n' ∉ id.toList :=
  fun hmem => not_idChar_lineFeed (h.chars _ hmem)

theorem isSafeId_iff {id : String} : isSafeId id = true ↔ AdmittedId id := by
  rw [isSafeId]
  by_cases hlast : id.toList.getLast? = some '\n'
  · obtain ⟨cs, hcs⟩ := List.getLast?_eq_some_iff.mp hlast
    have hid : id = String.ofList cs ++ "\n" := by
      rw [← String.toList_inj, hcs, String.toList_append, String.toList_ofList]
      rfl
    have hsafe : SafeId (String.ofList cs) ↔ (!cs.isEmpty && cs.all isSafeChar) = true := by
      rw [safeId_iff, String.toList_ofList]
    simp only [hcs, List.getLast?_concat, beq_self_eq_true, if_true, List.dropLast_concat]
    rw [← hsafe]
    constructor
    · exact fun h => .inr ⟨_, h, hid⟩
    · rintro (h | ⟨safe, h, hsame⟩)
      · exact absurd (by simp [hcs]) h.no_lineFeed
      · rw [hid, String.append_left_inj] at hsame
        rwa [hsame]
  · have hno : (id.toList.getLast? == some '\n') = false := by simpa using hlast
    simp only [hno, Bool.false_eq_true, if_false]
    rw [← safeId_iff]
    refine ⟨.inl, ?_⟩
    rintro (h | ⟨safe, -, rfl⟩)
    · exact h
    · simp at hlast

namespace AdmittedId

variable {id : String}

theorem ne_empty (h : AdmittedId id) : id ≠ "" := by
  obtain h | ⟨safe, h, rfl⟩ := h
  · exact h.nonempty
  · simp [String.append_eq_empty_iff]

theorem idChar_or_eq (h : AdmittedId id) : ∀ c ∈ id.toList, IdChar c ∨ c = '\n' := by
  intro c hc
  obtain h | ⟨safe, h, rfl⟩ := h
  · exact .inl (h.chars c hc)
  · rw [String.toList_append, List.mem_append] at hc
    exact hc.imp (h.chars c) List.eq_of_mem_singleton

theorem ascii (h : AdmittedId id) : Text.IsAscii id.toList := by
  intro c hc
  obtain hc | rfl := h.idChar_or_eq c hc
  · exact hc.ascii
  · decide

theorem not_mem (h : AdmittedId id) {c : Char} (hc : isSafeChar c = false) (hne : c ≠ '\n') :
    c ∉ id.toList := by
  intro hmem
  obtain hsafe | heq := h.idChar_or_eq c hmem
  · rw [← isSafeChar_iff, hc] at hsafe
    cases hsafe
  · exact hne heq

theorem plain (h : AdmittedId id) : PlainName (Repository.fileName id) := by
  rw [Repository.fileName]
  refine ⟨?_, ?_, ?_⟩
  · rw [String.toList_append]
    exact h.ascii.append (by decide)
  · rw [String.toList_append, List.mem_append, not_or]
    exact ⟨h.not_mem (by decide) (by decide), by decide⟩
  · simp

end AdmittedId

theorem FilePath.stemOf_of_extension {name : String} {cs : List Char}
    (h : name.toList = cs ++ ".json".toList) (hcs : cs ≠ []) : stemOf name = String.ofList cs := by
  have hreverse : name.toList.reverse = "nosj".toList ++ '.' :: cs.reverse := by
    simp [h]
  have hextension : name.toList.reverse.takeWhile (· != '.') = "nosj".toList := by
    rw [hreverse]
    simp
  have hbefore : name.toList.take (name.toList.length - "nosj".toList.length - 1) = cs := by
    simp [h]
  have hempty : cs.isEmpty = false := by simpa using hcs
  have hlength : ("nosj".toList.length == name.toList.length) = false := by
    simp [h]
  rw [stemOf, hextension, hbefore, hempty, hlength]
  rfl

theorem isDocumentFile_and_stemOf_iff {id name : String} (h : AdmittedId id) :
    Repository.isDocumentFile name = true ∧ FilePath.stemOf name = id ↔
      name = Repository.fileName id := by
  constructor
  · rintro ⟨hdocument, hstem⟩
    obtain ⟨cs, hcs⟩ := List.isSuffixOf_iff_suffix.mp hdocument
    by_cases hempty : cs = []
    · -- A name without more than the extension is its own stem, and no id.
      have hname : name = ".json" := by
        rw [← String.toList_inj, ← hcs, hempty, List.nil_append]
      have hno : isSafeId id = false := by
        rw [← hstem, hname]
        decide
      rw [← isSafeId_iff, hno] at h
      cases h
    · rw [FilePath.stemOf_of_extension hcs.symm hempty] at hstem
      rw [← String.toList_inj, ← hcs, Repository.fileName, String.toList_append, ← hstem]
      simp
  · rintro rfl
    have hname : (Repository.fileName id).toList = id.toList ++ ".json".toList :=
      String.toList_append
    refine ⟨List.isSuffixOf_iff_suffix.mpr ⟨_, hname.symm⟩, ?_⟩
    have hne : id.toList ≠ [] := by simpa using h.ne_empty
    rw [FilePath.stemOf_of_extension hname hne, String.ofList_toList]

theorem mem_sortedTexts {texts : List String} {s : String} : s ∈ sortedTexts texts ↔ s ∈ texts :=
  List.mem_mergeSort

namespace Repository

variable {r : Repository} {t : FileTree} {id : String}

theorem pathFor_eq_some_iff {path : FilePath} :
    r.pathFor id = some path ↔ AdmittedId id ∧ path = r.root.child (fileName id) := by
  rw [pathFor]
  split
  · rename_i hsafe
    simp [← isSafeId_iff, hsafe, eq_comm]
  · rename_i hsafe
    simp [← isSafeId_iff, hsafe]

theorem fetch_of_not_admitted (h : ¬AdmittedId id) :
    r.fetch t id = (.ok none, [.rejected (.str id)]) := by
  have hnone : r.pathFor id = none := by
    rw [Option.eq_none_iff_forall_ne_some]
    exact fun path hpath => h (pathFor_eq_some_iff.mp hpath).1
  rw [fetch, hnone]

theorem mem_availableIds_iff {ids : List String} (h : r.availableIds t = .ok ids) :
    id ∈ ids ↔ AdmittedId id ∧ t.Holds r.root (fileName id) := by
  have hlisted : id ∈ sortedTexts ((((t.names r.root).filter isDocumentFile).map
      FilePath.stemOf).filter isSafeId) ↔ AdmittedId id ∧ t.Holds r.root (fileName id) := by
    rw [mem_sortedTexts, List.mem_filter, isSafeId_iff, and_comm]
    refine and_congr_right fun hid => ?_
    rw [← FileTree.mem_names_iff hid.plain, List.mem_map]
    constructor
    · rintro ⟨name, hname, hstem⟩
      obtain ⟨hname, hdocument⟩ := List.mem_filter.mp hname
      rwa [← (isDocumentFile_and_stemOf_iff hid).mp ⟨hdocument, hstem⟩]
    · intro hname
      obtain ⟨hdocument, hstem⟩ := (isDocumentFile_and_stemOf_iff hid).mpr rfl
      exact ⟨_, List.mem_filter.mpr ⟨hname, hdocument⟩, hstem⟩
  rw [availableIds] at h
  split at h
  · cases h
  · rename_i hexists
    cases h
    simp only [List.not_mem_nil, false_iff, not_and]
    exact fun _ hholds => hholds.pathExists_ne_false hexists
  · cases h
    exact hlisted

theorem availableIds_eq_error_iff {fault : Fault} : r.availableIds t = .error fault ↔
    ∃ e, t.pathExists r.root = .error e ∧ fault = .unreadable e := by
  rw [availableIds]
  split <;> rename_i hexists <;> simp [hexists, eq_comm]

end Repository

/-- Two trees have the same under the path of every admitted id. -/
def FileTree.AgreeAt (root : FilePath) (t t' : FileTree) : Prop :=
  ∀ id, AdmittedId id →
    t.find (root.child (Repository.fileName id)) = t'.find (root.child (Repository.fileName id))

/-- The same is asked, or the files become such as agree. -/
inductive Occasion.AgreeAt (root : FilePath) : Occasion → Occasion → Prop
  | asks (id : String) : AgreeAt root (.asks id) (.asks id)
  | changes {t t' : FileTree} (h : t.AgreeAt root t') : AgreeAt root (.changes t) (.changes t')

section Agreement

variable {t t' : FileTree} {p : FilePath}

theorem FileTree.pathExists_congr (h : t.find p = t'.find p) : t.pathExists p = t'.pathExists p := by
  rw [pathExists, pathExists, h]

theorem Document.loadFile_congr (h : t.find p = t'.find p) : loadFile t p = loadFile t' p := by
  have hbytes : t.readBytes p = t'.readBytes p := by
    rw [FileTree.readBytes, FileTree.readBytes, h]
  rw [loadFile, loadFile, FileTree.readText, FileTree.readText, hbytes]

theorem Repository.fetch_congr {r : Repository} (h : t.AgreeAt r.root t') (id : String) :
    r.fetch t id = r.fetch t' id := by
  rw [fetch, fetch]
  split
  · rfl
  · rename_i path hpath
    obtain ⟨hid, rfl⟩ := pathFor_eq_some_iff.mp hpath
    rw [FileTree.pathExists_congr (h id hid), Document.loadFile_congr (h id hid)]

theorem Repository.load_congr {r : Repository} (h : t.AgreeAt r.root t') (id : String) :
    r.load t id = r.load t' id := by
  rw [load, load, fetch_congr h]

namespace Archive

variable {a b : Archive} {root : FilePath}

/-- Two archives have loaded the same, and their files agree. -/
structure AgreeAt (root : FilePath) (a b : Archive) : Prop where
  repository : a.repository = b.repository
  root_eq : a.repository.root = root
  files : a.files.AgreeAt root b.files

theorem AgreeAt.load (h : AgreeAt root a b) (id : String) :
    a.repository.load a.files id = b.repository.load b.files id := by
  rw [← h.repository]
  exact Repository.load_congr (h.root_eq ▸ h.files) id

theorem AgreeAt.after {o o' : Occasion} (h : AgreeAt root a b) (ho : Occasion.AgreeAt root o o') :
    AgreeAt root (a.after o) (b.after o') := by
  cases ho with
  | asks id =>
    refine ⟨congrArg (·.2.2) (h.load id), ?_, h.files⟩
    exact (Repository.root_load _ _ id).trans h.root_eq
  | changes hfiles => exact ⟨h.repository, h.root_eq, hfiles⟩

theorem AgreeAt.run {history history' : List Occasion} (h : AgreeAt root a b)
    (hhistory : List.Forall₂ (Occasion.AgreeAt root) history history') :
    AgreeAt root (a.run history) (b.run history') := by
  induction hhistory generalizing a b with
  | nil => exact h
  | cons ho _ ih => exact ih (h.after ho)

end Archive

end Agreement

namespace Archive

variable {a : Archive} {id : String}

theorem lookup_run_of_not_admitted (h : ¬AdmittedId id)
    (hkept : a.repository.cache.lookup id = none) (history : List Occasion) :
    (a.run history).repository.cache.lookup id = none := by
  induction history generalizing a with
  | nil => exact hkept
  | cons o history ih =>
    apply ih
    rw [Option.eq_none_iff_forall_ne_some]
    intro d hd
    obtain hd | ⟨-, hanswer⟩ := lookup_after_iff.mp hd
    · rw [hkept] at hd
      cases hd
    · rw [answer, (Repository.load_of_not_cached hkept).1,
        Repository.fetch_of_not_admitted h] at hanswer
      cases hanswer

/-- After any history, the ids with a path are the admitted ones, and the path is that of their file.
Any other id is rejected, whatever files there are. Files that agree under the paths of the admitted
ids, all along the history, make for the same answers. The ids that are listed are the admitted ones
whose file is an entry of the directory, which is what a look for the file tells as well; and there
is no list only where the directory itself cannot be looked for. -/
theorem only_admitted_after_run (root : FilePath) (files : FileTree) (history : List Occasion)
    (id : String) :
    let a := (new root files).run history
    let path := root.child (Repository.fileName id)
    (∀ p, a.repository.pathFor id = some p ↔ AdmittedId id ∧ p = path) ∧
    (¬AdmittedId id → ∀ files',
      a.repository.load files' id = (.ok none, [.rejected (.str id)], a.repository)) ∧
    (∀ files' history', files.AgreeAt root files' →
      List.Forall₂ (Occasion.AgreeAt root) history history' →
      let b := (new root files').run history'
      b.repository.load b.files id = a.repository.load a.files id) ∧
    (∀ ids, a.repository.availableIds a.files = .ok ids →
      (id ∈ ids ↔ AdmittedId id ∧ a.files.Holds root (Repository.fileName id))) ∧
    (∀ fault, a.repository.availableIds a.files = .error fault ↔
      ∃ e, a.files.pathExists root = .error e ∧ fault = .unreadable e) ∧
    (AdmittedId id → ∀ b, a.files.pathExists path = .ok b →
      (b = true ↔ a.files.Holds root (Repository.fileName id))) := by
  intro a path
  have hroot : a.repository.root = root := root_run _ history
  refine ⟨fun p => ?_, fun hid files' => ?_, fun files' history' hfiles hhistory => ?_,
    fun ids hids => ?_, fun fault => ?_, fun hid b hb => FileTree.pathExists_child hid.plain hb⟩
  · rw [Repository.pathFor_eq_some_iff, hroot]
  · have hkept : a.repository.cache.lookup id = none := lookup_run_of_not_admitted hid rfl history
    rw [Repository.load, hkept, Repository.fetch_of_not_admitted hid]
  · have hagree : AgreeAt root (new root files) (new root files') := ⟨rfl, rfl, hfiles⟩
    exact ((hagree.run hhistory).load id).symm
  · rw [Repository.mem_availableIds_iff hids, hroot]
  · rw [Repository.availableIds_eq_error_iff, hroot]

/-- A line feed after a safe id is let through. -/
theorem not_only_safe_lineFeed :
    ¬∀ (root : FilePath) (id : String),
      ((Repository.ofRoot root).pathFor id).isSome ↔ SafeId id := by
  intro h
  have hpath : ((Repository.ofRoot ⟨"", ["d"]⟩).pathFor "fisher\n").isSome = true := by decide
  exact ((h ⟨"", ["d"]⟩ "fisher\n").mp hpath).no_lineFeed (by decide)

end Archive

end Parley
