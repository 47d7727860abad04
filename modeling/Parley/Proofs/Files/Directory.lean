import Mathlib.Data.List.Infix
import Parley.Files.Tree
import Parley.Proofs.Text.Ascii

/-!
# Entries of a directory

A directory can be listed, and an entry can be looked for by its path. For a plain name both tell the
same, wherever the look is answered at all: the path of an entry may be too long for that where the
path of the directory is not.
-/

namespace Parley

open Text

/-- A name of ASCII that is neither short nor has a zero in it. -/
structure PlainName (name : String) : Prop where
  ascii : IsAscii name.toList
  no_zero : '\x00' ∉ name.toList
  /-- As many characters as the mark of a text has bytes. -/
  long : 4 ≤ name.toList.length

namespace PlainName

variable {name : String}

theorem ne_of_short (h : PlainName name) {s : String} (hs : s.toList.length < 4) : name ≠ s := by
  rintro rfl
  exact absurd h.long (by omega)

theorem enter (h : PlainName name) (place : List String) :
    FileTree.enter place name =
      if FileTree.nameLimit < name.toList.length then .error .nameTooLong
      else .ok (place ++ [name]) := by
  have hdots : (name == "..") = false := beq_eq_false_iff_ne.mpr (h.ne_of_short (by decide))
  simp [FileTree.enter, toBytes?_of_ascii h.ascii, asciiBytes, hdots]
  rw [← asciiBytes, ofBytes_of_ascii h.ascii]

end PlainName

namespace FilePath

/-- A path as it is written before the name of an entry. -/
def opening (p : FilePath) : String := p.root ++ "/".intercalate p.names

/-- What stands between a path and the name of an entry. -/
def separator (p : FilePath) : String := if p.names = [] then "" else "/"

theorem opening_child (p : FilePath) (name : String) :
    (p.child name).opening = p.opening ++ (p.separator ++ name) := by
  simp only [opening, separator, child]
  split
  · rename_i hnames
    simp [hnames]
  · rename_i hnames
    rw [String.intercalate_append_of_ne_nil hnames (by simp), String.intercalate_singleton]
    simp [String.append_assoc]

end FilePath

namespace FileTree

variable {t : FileTree} {p : FilePath} {name : String} {place : List String}

def checkText (text : String) : Except AccessProblem Unit :=
  match toBytes? text with
  | none => .error .missing
  | some bytes => checkLength bytes

theorem checkText_toString (p : FilePath) : checkText p.toString = checkText p.opening := by
  change checkText (if p.opening == "" then "." else p.opening) = _
  split
  · rename_i hempty
    rw [eq_of_beq hempty]
    decide +kernel
  · rfl

theorem placeOf_eq (t : FileTree) (p : FilePath) :
    t.placeOf p = (checkText p.opening).bind fun _ => t.walk (origin p) p.names := by
  rw [placeOf, ← checkText_toString, checkText]
  cases toBytes? p.toString with
  | none => rfl
  | some bytes =>
    dsimp only
    cases checkLength bytes <;> rfl

theorem checkLength_eq_ok_iff {bytes : List UInt8} :
    checkLength bytes = .ok () ↔ 0 ∉ bytes ∧ bytes.length ≤ pathLimit := by
  rw [checkLength]
  split
  · simp_all
  · split <;> simp_all

theorem checkLength_of_no_zero {bytes : List UInt8} (h : 0 ∉ bytes) :
    checkLength bytes = .ok () ∨ checkLength bytes = .error .nameTooLong := by
  have hno : bytes.contains 0 = false := by simpa using h
  rw [checkLength, hno]
  by_cases hlong : pathLimit < bytes.length <;> simp [hlong]

/-- What is written after a directory, before and with the name of an entry, is plain too. -/
theorem plain_separator_append (p : FilePath) (h : PlainName name) :
    PlainName (p.separator ++ name) := by
  rw [FilePath.separator]
  split
  · rwa [String.empty_append]
  · refine ⟨?_, ?_, ?_⟩
    · rw [String.toList_append]
      exact IsAscii.append (by decide) h.ascii
    · rw [String.toList_append, List.mem_append, not_or]
      exact ⟨by decide, h.no_zero⟩
    · rw [String.toList_append, List.length_append]
      exact Nat.le_add_left_of_le h.long

/-- The path of an entry has a text that may be looked for only if that of the directory may be, and
is too long at worst if it may. -/
theorem checkText_child (p : FilePath) (h : PlainName name) :
    (checkText (p.child name).opening = .ok () → checkText p.opening = .ok ()) ∧
      (checkText p.opening = .ok () → checkText (p.child name).opening = .ok () ∨
        checkText (p.child name).opening = .error .nameTooLong) := by
  obtain ⟨hascii, hzero, hlong⟩ := plain_separator_append p h
  rw [← zero_mem_asciiBytes_iff hascii] at hzero
  rw [← length_asciiBytes] at hlong
  rw [FilePath.opening_child]
  obtain ⟨hbefore, hwhole⟩ | ⟨bytes, mark, hmark, hfew, hbefore, hwhole⟩ :=
    toBytes?_append_ascii p.opening hascii
  · simp [checkText, hbefore, hwhole]
  · simp only [checkText, hbefore, hwhole]
    constructor
    · simp only [checkLength_eq_ok_iff, List.mem_append, not_or, List.length_append]
      rintro ⟨⟨hbytes, -⟩, hlimit⟩
      exact ⟨⟨hbytes, hmark⟩, by omega⟩
    · rw [checkLength_eq_ok_iff, List.mem_append, not_or]
      rintro ⟨⟨hbytes, -⟩, -⟩
      refine checkLength_of_no_zero ?_
      rw [List.mem_append, not_or]
      exact ⟨hbytes, hzero⟩

theorem walk_append (t : FileTree) (place names rest : List String) :
    t.walk place (names ++ rest) = (t.walk place names).bind fun place => t.walk place rest := by
  fun_induction t.walk place names with
  | case1 => rfl
  | case2 _ _ _ hat => simp [walk, hat, Except.bind]
  | case3 _ _ _ _ hat => simp [walk, hat, Except.bind]
  | case4 _ _ _ hat _ henter => simp [walk, hat, henter, Except.bind]
  | case5 _ _ _ hat _ henter ih => simp [walk, hat, henter, ih]

theorem placeOf_child_eq (t : FileTree) (p : FilePath) (name : String) :
    t.placeOf (p.child name) = (checkText (p.child name).opening).bind fun _ =>
      (t.walk (origin p) p.names).bind fun place => t.walk place [name] := by
  rw [placeOf_eq]
  exact congrArg _ (funext fun _ => walk_append t _ p.names [name])

theorem exists_directory_of_placeOf_child (h : PlainName name)
    (hplace : t.placeOf (p.child name) = .ok place) :
    ∃ directory, t.placeOf p = .ok directory ∧ t.at? directory = some .directory ∧
      place = directory ++ [name] := by
  rw [placeOf_child_eq] at hplace
  cases hcheck : checkText (p.child name).opening with
  | error e => simp [hcheck, Except.bind] at hplace
  | ok u =>
    rw [placeOf_eq, (checkText_child p h).1 hcheck]
    cases hwalk : t.walk (origin p) p.names with
    | error e => simp [hcheck, hwalk, Except.bind] at hplace
    | ok directory =>
      simp only [hcheck, hwalk, Except.bind, walk, h.enter] at hplace
      refine ⟨directory, rfl, ?_⟩
      split at hplace
      · cases hplace
      · cases hplace
      · rename_i hat
        refine ⟨hat, ?_⟩
        by_cases hlimit : nameLimit < name.toList.length
        · simp [hlimit] at hplace
        · simpa [hlimit, eq_comm] using hplace

theorem placeOf_child (h : PlainName name) (hplace : t.placeOf p = .ok place)
    (hat : t.at? place = some .directory) :
    t.placeOf (p.child name) = .ok (place ++ [name]) ∨
      t.placeOf (p.child name) = .error .nameTooLong := by
  rw [placeOf_eq] at hplace
  cases hparent : checkText p.opening with
  | error e => simp [hparent, Except.bind] at hplace
  | ok u =>
    have hwalk : t.walk (origin p) p.names = .ok place := by
      simpa [hparent, Except.bind] using hplace
    rw [placeOf_child_eq, hwalk]
    obtain hcheck | hcheck := (checkText_child p h).2 hparent
    · simp only [hcheck, Except.bind, walk, hat, h.enter]
      by_cases hlimit : nameLimit < name.toList.length <;> simp [hlimit]
    · exact .inr (by rw [hcheck]; rfl)

theorem find_eq_ok_iff {e : FileEntry} :
    t.find p = .ok e ↔ ∃ place, t.placeOf p = .ok place ∧ t.at? place = some e := by
  rw [find]
  cases t.placeOf p with
  | error e => simp
  | ok place =>
    cases hat : t.at? place <;> simp [hat]

theorem pathExists_eq_ok_iff {b : Bool} : t.pathExists p = .ok b ↔
    t.find p ≠ .error .nameTooLong ∧ (b = true ↔ ∃ e, t.find p = .ok e) := by
  rw [pathExists]
  cases t.find p with
  | ok e => cases b <;> simp
  | error e => cases e <;> cases b <;> simp

/-- Something stands in the directory of a path, under a name. -/
def Holds (t : FileTree) (p : FilePath) (name : String) : Prop :=
  ∃ place, t.placeOf p = .ok place ∧ t.at? place = some .directory ∧
    (t.at? (place ++ [name])).isSome

theorem Holds.of_find {e : FileEntry} (h : PlainName name) (hfind : t.find (p.child name) = .ok e) :
    t.Holds p name := by
  obtain ⟨place, hplace, hat⟩ := find_eq_ok_iff.mp hfind
  obtain ⟨directory, hparent, hdirectory, rfl⟩ := exists_directory_of_placeOf_child h hplace
  exact ⟨directory, hparent, hdirectory, by simp [hat]⟩

theorem Holds.find (h : PlainName name) (hholds : t.Holds p name)
    (hshort : t.find (p.child name) ≠ .error .nameTooLong) :
    ∃ e, t.find (p.child name) = .ok e := by
  obtain ⟨place, hplace, hdirectory, hat⟩ := hholds
  obtain ⟨e, hat⟩ := Option.isSome_iff_exists.mp hat
  obtain hchild | hchild := placeOf_child h hplace hdirectory
  · exact ⟨e, find_eq_ok_iff.mpr ⟨_, hchild, hat⟩⟩
  · exact absurd (by rw [FileTree.find, hchild]) hshort

theorem Holds.pathExists_ne_false (h : t.Holds p name) : t.pathExists p ≠ .ok false := by
  intro hexists
  obtain ⟨place, hplace, hat, -⟩ := h
  have hfind := find_eq_ok_iff.mpr ⟨place, hplace, hat⟩
  cases (pathExists_eq_ok_iff.mp hexists).2.mpr ⟨_, hfind⟩

/-- Where a look for an entry is answered, it tells whether the directory has it. -/
theorem pathExists_child {b : Bool} (h : PlainName name)
    (hexists : t.pathExists (p.child name) = .ok b) : b = true ↔ t.Holds p name := by
  obtain ⟨hshort, hfind⟩ := pathExists_eq_ok_iff.mp hexists
  exact hfind.trans ⟨fun ⟨_, hfind⟩ => .of_find h hfind, fun hholds => hholds.find h hshort⟩

theorem isSome_at?_iff (hno : isAncestor place = false) :
    (t.at? place).isSome ↔ ∃ e ∈ t.entries, place <+: e.1 := by
  rw [at?, hno]
  simp only [Bool.false_eq_true, if_false]
  cases hlookup : t.entries.lookup place with
  | some e =>
    obtain ⟨before, after, hentries, -⟩ := List.lookup_eq_some_iff.mp hlookup
    simp only [Option.isSome_some, true_iff]
    exact ⟨(place, e), by simp [hentries], List.prefix_rfl⟩
  | none => simp

theorem head?_drop_eq_some_iff {names : List String} :
    (if place.isPrefixOf names then (names.drop place.length).head? else none) = some name ↔
      place ++ [name] <+: names := by
  constructor
  · intro h
    split at h
    · rename_i hprefix
      obtain ⟨rest, rfl⟩ := List.isPrefixOf_iff_prefix.mp hprefix
      rw [List.drop_left] at h
      obtain ⟨tail, rfl⟩ := List.head?_eq_some_iff.mp h
      exact ⟨tail, by simp⟩
    · cases h
  · rintro ⟨tail, rfl⟩
    simp

theorem mem_names_iff (h : PlainName name) : name ∈ t.names p ↔ t.Holds p name := by
  have hdots : name ≠ ".." := h.ne_of_short (by decide)
  have hslash : name ≠ "/" := h.ne_of_short (by decide)
  rw [names, Holds]
  cases t.placeOf p with
  | error e => simp
  | ok place =>
    have hno : isAncestor (place ++ [name]) = false := by
      simp only [isAncestor, List.all_append]
      simp [hdots, List.append_eq_singleton_iff, hslash]
    simp only [Except.ok.injEq, exists_eq_left', isSome_at?_iff hno]
    split
    · rename_i hat
      simp only [List.not_mem_nil, false_iff]
      rintro ⟨hdirectory, -⟩
      simp [hdirectory] at hat
    · rename_i hat
      have hdirectory : t.at? place = some .directory := by simpa using hat
      simp only [hdirectory, true_and, List.mem_filter, List.mem_eraseDups, List.mem_filterMap,
        head?_drop_eq_some_iff]
      simp [hdots, hslash]

end FileTree
end Parley
