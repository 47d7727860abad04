/-!
# Decoding UTF-8

Bytes become characters one sequence at a time. A sequence that is no character is reported with
the bytes that cannot belong together and the reason; surrogates and overlong forms are refused at
the second byte, where they first show.
-/

namespace Parley.Text

/-- Why bytes are no character. -/
inductive Utf8Problem where
  | invalidStart
  | invalidContinuation
  | unexpectedEnd
deriving DecidableEq, Repr

/-- A sequence that is no character: the place of its first byte, that byte, and how many bytes
are refused. -/
structure Undecodable where
  problem : Utf8Problem
  position : Nat
  byte : UInt8
  count : Nat
deriving DecidableEq, Repr

def Utf8Problem.message : Utf8Problem → String
  | .invalidStart => "invalid start byte"
  | .invalidContinuation => "invalid continuation byte"
  | .unexpectedEnd => "unexpected end of data"

/-- The two lower-case hexadecimal digits of a byte. -/
def byteHex (b : UInt8) : String :=
  String.ofList [Nat.digitChar (b.toNat / 16), Nat.digitChar (b.toNat % 16)]

def Undecodable.message (e : Undecodable) : String :=
  let bytes :=
    if e.count = 1 then "byte 0x" ++ byteHex e.byte ++ " in position " ++ toString e.position
    else "bytes in position " ++ toString e.position ++ "-" ++ toString (e.position + e.count - 1)
  "'utf-8' codec can't decode " ++ bytes ++ ": " ++ e.problem.message

def isContinuation (b : UInt8) : Bool := 0x80 ≤ b && b < 0xC0

/-- The second byte after a first byte of a longer sequence: neither overlong, nor a surrogate, nor
beyond the last code point. -/
def isSecond (first second : UInt8) : Bool :=
  isContinuation second &&
    !(first == 0xE0 && second < 0xA0) && !(first == 0xED && 0xA0 ≤ second) &&
    !(first == 0xF0 && second < 0x90) && !(first == 0xF4 && 0x90 ≤ second)

/-- The six bits of a continuation byte after the bits of those before. -/
def continued (bits : Nat) (b : UInt8) : Nat := bits * 64 + (b.toNat - 0x80)

/-- Decodes bytes from a place on, after the characters in `acc`, which is reversed. -/
def decodeFrom (position : Nat) (acc : List Char) : List UInt8 → Except Undecodable (List Char)
  | [] => .ok acc.reverse
  | b :: rest =>
    let refuse := fun problem count => Except.error (Undecodable.mk problem position b count)
    if b < 0x80 then decodeFrom (position + 1) (Char.ofNat b.toNat :: acc) rest
    else if b < 0xC2 || 0xF5 ≤ b then refuse .invalidStart 1
    else if b < 0xE0 then
      match rest with
      | [] => refuse .unexpectedEnd 1
      | c :: rest =>
        if isContinuation c then
          decodeFrom (position + 2) (Char.ofNat (continued (b.toNat - 0xC0) c) :: acc) rest
        else refuse .invalidContinuation 1
    else if b < 0xF0 then
      match rest with
      | [] => refuse .unexpectedEnd 1
      | c :: rest =>
        if !isSecond b c then refuse .invalidContinuation 1
        else match rest with
          | [] => refuse .unexpectedEnd 2
          | d :: rest =>
            if isContinuation d then
              let code := continued (continued (b.toNat - 0xE0) c) d
              decodeFrom (position + 3) (Char.ofNat code :: acc) rest
            else refuse .invalidContinuation 2
    else
      match rest with
      | [] => refuse .unexpectedEnd 1
      | c :: rest =>
        if !isSecond b c then refuse .invalidContinuation 1
        else match rest with
          | [] => refuse .unexpectedEnd 2
          | d :: rest =>
            if !isContinuation d then refuse .invalidContinuation 2
            else match rest with
              | [] => refuse .unexpectedEnd 3
              | e :: rest =>
                if isContinuation e then
                  let code := continued (continued (continued (b.toNat - 0xF0) c) d) e
                  decodeFrom (position + 4) (Char.ofNat code :: acc) rest
                else refuse .invalidContinuation 3

def decodeUtf8 (bytes : List UInt8) : Except Undecodable String :=
  (decodeFrom 0 [] bytes).map String.ofList

/-- The code points of bytes, with others in the place of bytes that are no character. -/
def decodeMending (mend : List UInt8 → List Nat) : List UInt8 → List Nat
  | [] => []
  | b :: rest => match decodeFrom 0 [] (b :: rest) with
    | .ok cs => cs.map Char.toNat
    | .error e =>
      let valid := match decodeFrom 0 [] ((b :: rest).take e.position) with
        | .ok cs => cs.map Char.toNat
        | .error _ => []
      valid ++ mend (((b :: rest).drop e.position).take e.count) ++
        decodeMending mend (rest.drop (e.position + e.count - 1))
termination_by bytes => bytes.length
decreasing_by
  simp only [List.length_drop, List.length_cons]
  omega

theorem decodeMending_of_ok {mend : List UInt8 → List Nat} {bytes : List UInt8} {cs : List Char}
    (h : decodeFrom 0 [] bytes = .ok cs) : decodeMending mend bytes = cs.map Char.toNat := by
  cases bytes with
  | nil =>
    obtain rfl : [] = cs := by simpa [decodeFrom] using h
    simp [decodeMending]
  | cons b rest =>
    rw [decodeMending]
    simp [h]

/-- The code point that stands for bytes that are no character. -/
def replacementCode : Nat := 0xFFFD

/-- The code points of bytes, with a replacement for every sequence that is no character. -/
def decodeReplacing (bytes : List UInt8) : List Nat := decodeMending (fun _ => [replacementCode]) bytes

/-- Every line end, be it a carriage return, a line feed or both in this order, as one line feed. -/
def normalizeLineEnds : List Char → List Char
  | [] => []
  | '\r' :: '\n' :: rest => '\n' :: normalizeLineEnds rest
  | c :: rest => (if c == '\r' then '\n' else c) :: normalizeLineEnds rest

end Parley.Text
