import Parley.Text.Utf8
import Parley.Text.Writable

/-!
# Bytes as texts

The name of a file is made of bytes, which need not be a text. A byte that is part of no character is
shown as a surrogate of its own, so that all bytes are a text, and that text has these bytes. Other
surrogates have no bytes.
-/

namespace Parley.Text

def encodeUtf8 (text : String) : Except Unwritable (List UInt8) :=
  match unwritable? text with
  | some e => .error e
  | none => .ok ((codePoints text.toList).flatMap fun n => String.utf8EncodeChar (Char.ofNat n))

def byteOffset : Nat := 0xDC00

def isByteSurrogate (n : Nat) : Bool := 0xDC80 ≤ n && n < 0xDD00

def isByteless (n : Nat) : Bool := isSurrogate n && !isByteSurrogate n

def byteless? (text : String) : Option Unwritable :=
  firstRefused? isByteless (codePoints text.toList)

def bytesOfCode (n : Nat) : List UInt8 :=
  if isByteSurrogate n then [UInt8.ofNat (n - byteOffset)]
  else String.utf8EncodeChar (Char.ofNat n)

def toBytes? (text : String) : Option (List UInt8) :=
  if (byteless? text).isSome then none else some ((codePoints text.toList).flatMap bytesOfCode)

def ofBytes (bytes : List UInt8) : String :=
  String.ofList (ofCodePoints (decodeMending (·.map fun b => b.toNat + byteOffset) bytes))

end Parley.Text
