import Parley.Proofs.Text.Ascii
import Parley.Web.Percent

/-!
# Quoted bytes are read back

Whatever is quoted for an address is ASCII that may stand there, and the bytes are those that were
quoted, as long as the percent sign does not stand for itself.
-/

namespace Parley.Web.Percent

open Text

variable {b : UInt8} {allowed : List Char} {stays : UInt8 → Bool}

theorem decodeUnless_cons_of_ne (h : b ≠ percentByte) (rest : List UInt8) :
    decodeUnless stays (b :: rest) = b :: decodeUnless stays rest := by
  have hb : (b == percentByte) = false := by simpa using h
  match rest with
  | [] => rfl
  | [_] => rfl
  | _ :: _ :: _ =>
    rw [decodeUnless]
    simp only [hb]

theorem decode_append_of_no_percent {bytes : List UInt8} (h : percentByte ∉ bytes)
    (rest : List UInt8) : decode (bytes ++ rest) = bytes ++ decode rest := by
  induction bytes with
  | nil => rfl
  | cons b bytes ih =>
    simp only [List.mem_cons, not_or] at h
    have hrest := ih h.2
    rw [decode] at hrest ⊢
    rw [List.cons_append, decodeUnless_cons_of_ne (Ne.symm h.1), hrest, List.cons_append]

theorem hexByte?_digit {n : Nat} (h : n < 16) :
    hexByte? (UInt8.ofNat (digit n).toNat) = some n := by
  revert h
  revert n
  decide

theorem isPlain_digit {n : Nat} (h : n < 16) : isPlain (digit n) = true := by
  revert h
  revert n
  decide

theorem not_isPlain_percent : isPlain '%' = false := by decide

theorem ofByte_digits (b : UInt8) : b.toNat / 16 < 16 ∧ b.toNat % 16 < 16 ∧
    UInt8.ofNat (16 * (b.toNat / 16) + b.toNat % 16) = b := by
  have hlt : b.toNat < 256 := b.toNat_lt
  refine ⟨by omega, by omega, ?_⟩
  rw [Nat.div_add_mod, UInt8.ofNat_toNat]

theorem toNat_ofNat_byte (b : UInt8) : (Char.ofNat b.toNat).toNat = b.toNat := by
  have hlt : b.toNat < 256 := b.toNat_lt
  refine toNat_ofNat (Nat.lt_trans hlt (by decide)) ?_
  simp only [isSurrogate, Bool.and_eq_false_iff, decide_eq_false_iff_not]
  omega

theorem decode_ofByte_append (b : UInt8) (rest : List UInt8) :
    decode (asciiBytes (ofByte b) ++ rest) = b :: decode rest := by
  obtain ⟨hhigh, hlow, hb⟩ := ofByte_digits b
  have hbytes : asciiBytes (ofByte b) ++ rest = percentByte ::
      UInt8.ofNat (digit (b.toNat / 16)).toNat :: UInt8.ofNat (digit (b.toNat % 16)).toNat :: rest :=
    rfl
  rw [hbytes, decode, decodeUnless]
  simp only [beq_self_eq_true, hexByte?_digit hhigh, hexByte?_digit hlow, hb]
  rfl

theorem decode_quoteByte_append (hallowed : '%' ∉ allowed) (b : UInt8) (rest : List UInt8) :
    decode (asciiBytes (quoteByte allowed b) ++ rest) = b :: decode rest := by
  rw [quoteByte]
  split
  · rename_i hplain
    have hbyte : UInt8.ofNat (Char.ofNat b.toNat).toNat = b := by
      rw [toNat_ofNat_byte, UInt8.ofNat_toNat]
    have hne : b ≠ percentByte := by
      rintro rfl
      have hpercent : Char.ofNat percentByte.toNat = '%' := rfl
      simp [hpercent, not_isPlain_percent, hallowed] at hplain
    rw [asciiBytes, List.map_singleton, hbyte]
    exact decodeUnless_cons_of_ne hne rest
  · exact decode_ofByte_append b rest

theorem decode_quoted_append (hallowed : '%' ∉ allowed) (bytes rest : List UInt8) :
    decode (asciiBytes (bytes.flatMap (quoteByte allowed)) ++ rest) = bytes ++ decode rest := by
  induction bytes with
  | nil => rfl
  | cons b bytes ih =>
    have happend : asciiBytes ((b :: bytes).flatMap (quoteByte allowed)) ++ rest =
        asciiBytes (quoteByte allowed b) ++
          (asciiBytes (bytes.flatMap (quoteByte allowed)) ++ rest) := by
      simp [asciiBytes]
    rw [happend, decode_quoteByte_append hallowed, ih, List.cons_append]

theorem quote_of_ascii {text : List Char} (h : IsAscii text) :
    quote allowed text = .ok ((asciiBytes text).flatMap (quoteByte allowed)) := by
  rw [quote, encodeUtf8_of_ascii h]
  rfl

/-- A quoted text has plain characters, percent signs and what was allowed. -/
theorem mem_quoted {c : Char} {bytes : List UInt8}
    (h : c ∈ bytes.flatMap (quoteByte allowed)) : isPlain c = true ∨ c = '%' ∨ c ∈ allowed := by
  obtain ⟨b, -, hc⟩ := List.mem_flatMap.mp h
  rw [quoteByte] at hc
  split at hc
  · rename_i hplain
    obtain rfl := List.mem_singleton.mp hc
    rw [Bool.or_eq_true, List.contains_eq_mem, decide_eq_true_eq] at hplain
    exact hplain.imp_right .inr
  · obtain ⟨hhigh, hlow, -⟩ := ofByte_digits b
    simp only [ofByte, List.mem_cons, List.not_mem_nil, or_false] at hc
    obtain rfl | rfl | rfl := hc
    · exact .inr (.inl rfl)
    · exact .inl (isPlain_digit hhigh)
    · exact .inl (isPlain_digit hlow)

end Parley.Web.Percent
