import Parley.Text.Surrogate
import Parley.Text.Utf8

/-!
# Encodings of Unicode

Bytes are decoded as units of one, two or four bytes. Which of these the bytes of a JSON text are can
be told from the bytes themselves: from a byte order mark, or else from where zero bytes stand, as
the first two characters of a JSON text are ASCII.
-/

namespace Parley.Text

inductive ByteOrder where
  | bigEndian
  | littleEndian
deriving DecidableEq, Repr

inductive Encoding where
  | utf8
  | utf16 (order : ByteOrder)
  | utf32 (order : ByteOrder)
deriving DecidableEq, Repr

/-- The number that bytes spell, the greatest first. -/
def ofBigEndian (bytes : List UInt8) : Nat := bytes.foldl (fun n b => n * 256 + b.toNat) 0

def ByteOrder.number (order : ByteOrder) (bytes : List UInt8) : Nat :=
  match order with
  | .bigEndian => ofBigEndian bytes
  | .littleEndian => ofBigEndian bytes.reverse

/-- The numbers of two bytes each. A single byte may not be left. -/
def units16 (order : ByteOrder) : List UInt8 → Option (List Nat)
  | [] => some []
  | a :: b :: rest => (units16 order rest).map (order.number [a, b] :: ·)
  | [_] => none

def codes32 (order : ByteOrder) : List UInt8 → Option (List Nat)
  | [] => some []
  | a :: b :: c :: d :: rest =>
    let code := order.number [a, b, c, d]
    if code < codePointLimit then (codes32 order rest).map (code :: ·) else none
  | _ => none

namespace Encoding

/-- The code points of bytes, if they are in the encoding. -/
def decode? (e : Encoding) (bytes : List UInt8) : Option (List Nat) :=
  match e with
  | .utf8 => match decodeFrom 0 [] bytes with
    | .ok cs => some (cs.map Char.toNat)
    | .error _ => none
  | .utf16 order => (units16 order bytes).map joinPairs
  | .utf32 order => codes32 order bytes

/-- The byte order marks. The longer ones stand before those that they start with. -/
def marks : List (List UInt8 × Encoding) :=
  [([0x00, 0x00, 0xFE, 0xFF], .utf32 .bigEndian), ([0xFF, 0xFE, 0x00, 0x00], .utf32 .littleEndian),
    ([0xFE, 0xFF], .utf16 .bigEndian), ([0xFF, 0xFE], .utf16 .littleEndian),
    ([0xEF, 0xBB, 0xBF], .utf8)]

/-- The encoding of a JSON text without a byte order mark. -/
def ofZeros : List UInt8 → Encoding
  | [a, b] =>
    if a == 0 then .utf16 .bigEndian
    else if b == 0 then .utf16 .littleEndian
    else .utf8
  | a :: b :: c :: d :: _ =>
    if a == 0 then if b == 0 then .utf32 .bigEndian else .utf16 .bigEndian
    else if b == 0 then
      if c == 0 && d == 0 then .utf32 .littleEndian else .utf16 .littleEndian
    else .utf8
  | _ => .utf8

end Encoding

/-- The code points of a JSON text in the encoding that its bytes show, without a byte order
mark. -/
def decodeJson? (bytes : List UInt8) : Option (List Nat) :=
  match Encoding.marks.find? fun m => m.1.isPrefixOf bytes with
  | some (mark, e) => e.decode? (bytes.drop mark.length)
  | none => (Encoding.ofZeros bytes).decode? bytes

end Parley.Text
