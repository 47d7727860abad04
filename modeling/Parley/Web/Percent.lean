import Parley.Json.Reader
import Parley.Text.Bytes

/-!
# Bytes after percent signs

A text in an address may have a byte in hexadecimal after a percent sign. Text is quoted by writing so
the bytes of all characters that may not stand in the address, and such bytes are read back.
-/

namespace Parley.Web.Percent

/-- The value of a hexadecimal digit that is given as a byte. -/
def hexByte? (b : UInt8) : Option Nat := Json.Reader.hexDigit? (Char.ofNat b.toNat)

def percentByte : UInt8 := 0x25

/-- Replaces percent signs, each with the two digits after it, by bytes, unless the byte is to stay as
it is written. A percent sign without two digits stands for itself. -/
def decodeUnless (stays : UInt8 → Bool) : List UInt8 → List UInt8
  | b :: high :: low :: rest =>
    match b == percentByte, hexByte? high, hexByte? low with
    | true, some m, some n =>
      let byte := UInt8.ofNat (16 * m + n)
      (if stays byte then [b, high, low] else [byte]) ++ decodeUnless stays rest
    | _, _, _ => b :: decodeUnless stays (high :: low :: rest)
  | b :: rest => b :: decodeUnless stays rest
  | [] => []

/-- Replaces percent signs, each with the two digits after it, by bytes. -/
def decode (bytes : List UInt8) : List UInt8 := decodeUnless (fun _ => false) bytes

theorem decodeUnless_of_no_percent {stays : UInt8 → Bool} {bytes : List UInt8}
    (h : percentByte ∉ bytes) : decodeUnless stays bytes = bytes := by
  induction bytes with
  | nil => rfl
  | cons b rest ih =>
    simp only [List.mem_cons, not_or] at h
    have hb : (b == percentByte) = false := by
      simpa using fun e => h.1 e.symm
    cases rest with
    | nil => rfl
    | cons high others =>
      cases others with
      | nil => rfl
      | cons low others =>
        rw [decodeUnless]
        simp only [hb]
        rw [ih h.2]

def digit (n : Nat) : Char := (Nat.digitChar n).toUpper

/-- A byte in hexadecimal after a percent sign. -/
def ofByte (b : UInt8) : List Char := ['%', digit (b.toNat / 16), digit (b.toNat % 16)]

/-- Whether a character stands for itself wherever text is quoted. -/
def isPlain (c : Char) : Bool := c.isAlphanum || "_.-~".toList.contains c

/-- A byte as it stands in quoted text, where certain characters may stand for themselves. -/
def quoteByte (allowed : List Char) (b : UInt8) : List Char :=
  let c := Char.ofNat b.toNat
  if isPlain c || allowed.contains c then [c] else ofByte b

def quote (allowed : List Char) (text : List Char) : Except Text.Unwritable (List Char) :=
  (Text.encodeUtf8 (String.ofList text)).map (·.flatMap (quoteByte allowed))

/-- The code points of bytes, with those that are no character in hexadecimal. -/
def mend (bytes : List UInt8) : List Nat := (bytes.flatMap ofByte).map Char.toNat

/-- The text of ASCII text that is quoted. Characters that are to stay remain quoted, and so do bytes
that are no character. -/
def unquote (stays : UInt8 → Bool) (text : List Char) : List Char :=
  Text.ofCodePoints (Text.decodeMending mend
    (decodeUnless stays (text.map fun c => UInt8.ofNat c.toNat)))

end Parley.Web.Percent
