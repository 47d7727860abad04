import Mathlib.Data.List.TakeWhile
import Parley.Proofs.Text.Carries
import Parley.Text.Bytes

/-!
# ASCII texts

A text of ASCII has its characters as code points, and each of them is one byte, in names of files as
well as elsewhere. So such a text, its code points and its bytes can be told from one another.
-/

namespace Parley.Text

def IsAscii (cs : List Char) : Prop := ∀ c ∈ cs, c.toNat < 0x80

instance : DecidablePred IsAscii := fun cs => List.decidableBAll _ cs

def asciiBytes (cs : List Char) : List UInt8 := cs.map fun c => UInt8.ofNat c.toNat

variable {c : Char} {cs : List Char}

theorem IsAscii.append {ds : List Char} (h : IsAscii cs) (h' : IsAscii ds) : IsAscii (cs ++ ds) :=
  List.forall_mem_append.mpr ⟨h, h'⟩

theorem IsAscii.of_cons (h : IsAscii (c :: cs)) : c.toNat < 0x80 ∧ IsAscii cs :=
  List.forall_mem_cons.mp h

theorem asciiBytes_append (as bs : List Char) :
    asciiBytes (as ++ bs) = asciiBytes as ++ asciiBytes bs :=
  List.map_append

theorem length_asciiBytes (cs : List Char) : (asciiBytes cs).length = cs.length := List.length_map _

theorem isAlphanum_iff : c.isAlphanum = true ↔
    ('A' ≤ c ∧ c ≤ 'Z') ∨ ('a' ≤ c ∧ c ≤ 'z') ∨ ('0' ≤ c ∧ c ≤ '9') := by
  change ((decide ('A' ≤ c ∧ c ≤ 'Z') || (decide ('a' ≤ c) && decide (c ≤ 'z'))) ||
    (decide ('0' ≤ c) && decide (c ≤ '9'))) = true ↔ _
  simp only [Bool.or_eq_true, Bool.and_eq_true, decide_eq_true_eq, or_assoc]

/-- A letter or digit is ASCII, and neither a blank nor a control character. -/
theorem toNat_of_isAlphanum (h : c.isAlphanum = true) : 0x20 < c.toNat ∧ c.toNat < 0x80 := by
  have hle {a b : Char} (h : a ≤ b) : a.toNat ≤ b.toNat :=
    UInt32.le_iff_toNat_le.mp (Char.le_def.mp h)
  obtain ⟨hlow, hhigh⟩ | ⟨hlow, hhigh⟩ | ⟨hlow, hhigh⟩ := isAlphanum_iff.mp h
  · exact ⟨Nat.lt_of_lt_of_le (by decide) (hle hlow), Nat.lt_of_le_of_lt (hle hhigh) (by decide)⟩
  · exact ⟨Nat.lt_of_lt_of_le (by decide) (hle hlow), Nat.lt_of_le_of_lt (hle hhigh) (by decide)⟩
  · exact ⟨Nat.lt_of_lt_of_le (by decide) (hle hlow), Nat.lt_of_le_of_lt (hle hhigh) (by decide)⟩

theorem ne_selfMark_of_ascii (h : c.toNat < 0x80) : c ≠ selfMark := by
  rintro rfl
  exact absurd h (by decide)

theorem isStandIn_of_ascii (h : c.toNat < 0x80) : isStandIn c = false := by
  have hzero : c.toNat - standInOffset = 0 := by
    simp only [standInOffset]
    omega
  rw [isStandIn, hzero]
  rfl

theorem code_of_ascii (h : c.toNat < 0x80) : codePoints.code c = c.toNat := by
  simp [codePoints.code, isStandIn_of_ascii h]

theorem code_selfMark : codePoints.code selfMark = selfMark.toNat := by
  have hno : isStandIn selfMark = false := by decide +kernel
  rw [codePoints.code, hno]
  rfl

theorem isReserved_of_ascii (h : c.toNat < 0x80) : isReserved c = false := by
  simp [isReserved, ne_selfMark_of_ascii h, isStandIn_of_ascii h]

theorem toNat_asciiByte (h : c.toNat < 0x80) : (UInt8.ofNat c.toNat).toNat = c.toNat := by
  rw [UInt8.toNat_ofNat', Nat.mod_eq_of_lt (by omega)]

theorem utf8EncodeChar_of_ascii (h : c.toNat < 0x80) :
    String.utf8EncodeChar c = [UInt8.ofNat c.toNat] := by
  have hv : c.val.toNat ≤ 0x7f := Nat.le_of_lt_succ h
  simp only [String.utf8EncodeChar, hv, if_true]
  rfl

theorem bytesOfCode_of_ascii (h : c.toNat < 0x80) :
    bytesOfCode c.toNat = [UInt8.ofNat c.toNat] := by
  have hno : isByteSurrogate c.toNat = false := by
    simp only [isByteSurrogate, Bool.and_eq_false_iff, decide_eq_false_iff_not]
    omega
  rw [bytesOfCode, hno, Char.ofNat_toNat, utf8EncodeChar_of_ascii h]
  rfl

theorem any_isReserved_of_ascii (h : IsAscii cs) : cs.any isReserved = false := by
  rw [List.any_eq_false]
  intro c hc
  simp [isReserved_of_ascii (h c hc)]

theorem codePoints_of_ascii (h : IsAscii cs) : codePoints cs = cs.map Char.toNat :=
  codePoints_of_unreserved (any_isReserved_of_ascii h)

theorem ofCodePoints_of_ascii (h : IsAscii cs) : ofCodePoints (cs.map Char.toNat) = cs :=
  ofCodePoints_of_unreserved (any_isReserved_of_ascii h)

theorem not_isSurrogate_of_ascii (h : IsAscii cs) :
    ∀ n ∈ codePoints cs, isSurrogate n = false := by
  rw [codePoints_of_ascii h]
  intro n hn
  obtain ⟨c, -, rfl⟩ := List.mem_map.mp hn
  exact isSurrogate_toNat c

/-- A code that gives each character its one byte gives a text its bytes. -/
theorem flatMap_codePoints_of_ascii {f : Nat → List UInt8} (h : IsAscii cs)
    (hf : ∀ c : Char, c.toNat < 0x80 → f c.toNat = [UInt8.ofNat c.toNat]) :
    (codePoints cs).flatMap f = asciiBytes cs := by
  rw [codePoints_of_ascii h, asciiBytes]
  induction cs with
  | nil => rfl
  | cons c rest ih =>
    obtain ⟨hc, hrest⟩ := h.of_cons
    rw [List.map_cons, List.flatMap_cons, hf c hc, ih hrest]
    rfl

theorem encodeUtf8_of_ascii (h : IsAscii cs) :
    encodeUtf8 (String.ofList cs) = .ok (asciiBytes cs) := by
  have hnone : unwritable? (String.ofList cs) = none := by
    refine firstRefused?_eq_none fun n hn => not_isSurrogate_of_ascii h n ?_
    rwa [String.toList_ofList] at hn
  rw [encodeUtf8, hnone, String.toList_ofList]
  refine congrArg Except.ok (flatMap_codePoints_of_ascii h fun c hc => ?_)
  rw [Char.ofNat_toNat, utf8EncodeChar_of_ascii hc]

theorem toBytes?_of_ascii {text : String} (h : IsAscii text.toList) :
    toBytes? text = some (asciiBytes text.toList) := by
  have hnone : byteless? text = none := by
    refine firstRefused?_eq_none fun n hn => ?_
    simp [isByteless, not_isSurrogate_of_ascii h n hn]
  rw [toBytes?, hnone, flatMap_codePoints_of_ascii h fun c hc => bytesOfCode_of_ascii hc]
  rfl

theorem decodeFrom_of_ascii (h : IsAscii cs) (position : Nat) (acc : List Char) :
    decodeFrom position acc (asciiBytes cs) = .ok (acc.reverse ++ cs) := by
  induction cs generalizing position acc with
  | nil => simp [asciiBytes, decodeFrom]
  | cons c rest ih =>
    obtain ⟨hc, hrest⟩ := h.of_cons
    have hbyte : UInt8.ofNat c.toNat < 0x80 := by
      rw [UInt8.lt_iff_toNat_lt, toNat_asciiByte hc]
      exact hc
    rw [asciiBytes, List.map_cons, decodeFrom.eq_def]
    simp only [hbyte, if_true, toNat_asciiByte hc, Char.ofNat_toNat]
    exact (ih hrest _ _).trans (by simp)

theorem ofBytes_of_ascii {text : String} (h : IsAscii text.toList) :
    ofBytes (asciiBytes text.toList) = text := by
  have hdecode := decodeFrom_of_ascii h 0 []
  rw [ofBytes, decodeMending_of_ok hdecode, List.reverse_nil, List.nil_append,
    ofCodePoints_of_ascii h, String.ofList_toList]

theorem zero_mem_asciiBytes_iff (h : IsAscii cs) : 0 ∈ asciiBytes cs ↔ '\x00' ∈ cs := by
  rw [asciiBytes, List.mem_map]
  constructor
  · rintro ⟨c, hc, hzero⟩
    have hnat : c.toNat = 0 := by rw [← toNat_asciiByte (h c hc), hzero]; rfl
    rw [← Char.ofNat_toNat c, hnat] at hc
    exact hc
  · exact fun hc => ⟨_, hc, rfl⟩

/-- What follows a text leaves its code points alone, but for a mark at its end, which is then a mark
of what follows. -/
theorem codePoints_append_ascii (as : List Char) {bs : List Char} (h : IsAscii bs) :
    ∃ ns mark, (mark = [] ∨ mark = [selfMark.toNat]) ∧ codePoints as = ns ++ mark ∧
      codePoints (as ++ bs) = ns ++ codePoints bs := by
  fun_induction codePoints as with
  | case1 => exact ⟨[], [], .inl rfl, rfl, rfl⟩
  | case2 c =>
    cases bs with
    | nil => exact ⟨[codePoints.code c], [], .inl rfl, rfl, rfl⟩
    | cons b bs =>
      by_cases hc : c = selfMark
      · subst hc
        obtain ⟨hb, -⟩ := h.of_cons
        refine ⟨[], _, .inr rfl, congrArg (fun n => [n]) code_selfMark, ?_⟩
        rw [List.singleton_append, codePoints_selfMark, List.nil_append,
          codePoints_cons (ne_selfMark_of_ascii hb), code_of_ascii hb]
      · exact ⟨[codePoints.code c], [], .inl rfl, rfl, codePoints_cons hc (b :: bs)⟩
  | case3 c d rest hc ih =>
    obtain ⟨ns, mark, hmark, hns, happend⟩ := ih
    obtain rfl : c = selfMark := by simpa using hc
    refine ⟨d.toNat :: ns, mark, hmark, by rw [hns, List.cons_append], ?_⟩
    rw [List.cons_append, List.cons_append, codePoints_selfMark, happend, List.cons_append]
  | case4 c d rest hc ih =>
    obtain ⟨ns, mark, hmark, hns, happend⟩ := ih
    have hne : c ≠ selfMark := by simpa using hc
    refine ⟨codePoints.code c :: ns, mark, hmark, by rw [hns, List.cons_append], ?_⟩
    rw [List.cons_append, codePoints_cons hne, happend, List.cons_append]

theorem firstRefused?_eq_none_iff {refused : Nat → Bool} {codes : List Nat} :
    firstRefused? refused codes = none ↔ ∀ n ∈ codes, refused n = false := by
  refine ⟨fun h => ?_, firstRefused?_eq_none⟩
  have hall : codes.takeWhile (!refused ·) = codes := by
    rw [firstRefused?] at h
    split at h
    · rename_i hdrop
      exact (List.takeWhile_prefix _).eq_of_length_le (List.drop_eq_nil_iff.mp hdrop)
    · cases h
  simpa using List.takeWhile_eq_self_iff.mp hall

theorem toBytes?_eq_some_iff {text : String} {bytes : List UInt8} :
    toBytes? text = some bytes ↔ (∀ n ∈ codePoints text.toList, isByteless n = false) ∧
      (codePoints text.toList).flatMap bytesOfCode = bytes := by
  rw [toBytes?, ← firstRefused?_eq_none_iff, ← byteless?]
  cases byteless? text <;> simp

/-- A text with ASCII after it has bytes exactly if the text has. They are those of both, but the few
bytes of a mark may be missing between them. -/
theorem toBytes?_append_ascii (before : String) {after : String} (h : IsAscii after.toList) :
    (toBytes? before = none ∧ toBytes? (before ++ after) = none) ∨
      ∃ bytes mark, 0 ∉ mark ∧ mark.length ≤ 4 ∧ toBytes? before = some (bytes ++ mark) ∧
        toBytes? (before ++ after) = some (bytes ++ asciiBytes after.toList) := by
  obtain ⟨ns, mark, hmark, hns, happend⟩ := codePoints_append_ascii before.toList h
  have hbytes := flatMap_codePoints_of_ascii h fun c hc => bytesOfCode_of_ascii hc
  have hafter : ∀ n ∈ codePoints after.toList, isByteless n = false := fun n hn => by
    simp [isByteless, not_isSurrogate_of_ascii h n hn]
  have hfew : (∀ n ∈ mark, isByteless n = false) ∧ 0 ∉ mark.flatMap bytesOfCode ∧
      (mark.flatMap bytesOfCode).length ≤ 4 := by
    obtain rfl | rfl := hmark
    · exact ⟨List.forall_mem_nil _, List.not_mem_nil, Nat.zero_le 4⟩
    · rw [List.forall_mem_singleton]
      decide +kernel
  by_cases hall : ∀ n ∈ ns, isByteless n = false
  · refine .inr ⟨ns.flatMap bytesOfCode, mark.flatMap bytesOfCode, hfew.2.1, hfew.2.2, ?_, ?_⟩
    · rw [toBytes?_eq_some_iff, hns, List.flatMap_append]
      exact ⟨List.forall_mem_append.mpr ⟨hall, hfew.1⟩, rfl⟩
    · rw [toBytes?_eq_some_iff, String.toList_append, happend, List.flatMap_append, hbytes]
      exact ⟨List.forall_mem_append.mpr ⟨hall, hafter⟩, rfl⟩
  · have hnone {text : String} {others : List Nat} (htext : codePoints text.toList = ns ++ others) :
        toBytes? text = none := by
      rw [Option.eq_none_iff_forall_ne_some]
      intro bytes hsome
      obtain ⟨hok, -⟩ := toBytes?_eq_some_iff.mp hsome
      rw [htext] at hok
      exact hall (List.forall_mem_append.mp hok).1
    exact .inl ⟨hnone hns, hnone (by rw [String.toList_append, happend])⟩

end Parley.Text
