import Parley.Text.Quoted

/-!
# Punycode

A text of any characters is written in ASCII: first its ASCII characters as they are, then a hyphen,
then a number for each other character, in the order of their codes. The number tells how far the
place and the code of the character are from those of the one before. Numbers are written in digits of
base thirty-six, the least first; a digit below a threshold ends a number, and the thresholds follow
the size of the numbers so far.
-/

namespace Parley.Text.Punycode

/-- Why a text is not read. -/
inductive Problem where
  /-- A number does not end. -/
  | incomplete
  /-- A character is no digit. -/
  | noDigit (code : Nat)
  /-- A code is beyond the last code point. -/
  | tooLarge (code : Nat)
deriving DecidableEq, Repr

def Problem.message : Problem → String
  | .incomplete => "incomplete punicode string"
  | .noDigit code => "Invalid extended code point '" ++ String.ofList (carry code) ++ "'"
  | .tooLarge code => "Invalid character U+" ++ String.ofList (hex 1 code)

/-- The hyphen after the ASCII characters. -/
def delimiter : Nat := '-'.toNat

def firstCode : Nat := 0x80

def isAscii (n : Nat) : Bool := n < firstCode

def capital (n : Nat) : Nat := if 'a'.toNat ≤ n && n ≤ 'z'.toNat then n - 0x20 else n

/-- The digit of a value: a letter, or after all letters a decimal digit. -/
def digitCode (value : Nat) : Nat := if value < 26 then 'a'.toNat + value else '0'.toNat + (value - 26)

def digitValue? (n : Nat) : Option Nat :=
  if 'A'.toNat ≤ n && n ≤ 'Z'.toNat then some (n - 'A'.toNat)
  else if '0'.toNat ≤ n && n ≤ '9'.toNat then some (n - '0'.toNat + 26)
  else none

def threshold (place bias : Nat) : Nat := max 1 (min 26 (36 * (place + 1) - bias))

theorem threshold_pos (place bias : Nat) : 1 ≤ threshold place bias := Nat.le_max_left 1 _

/-- Divides a number until it is small, and counts thirty-six for each time. -/
def scaleDown (n count : Nat) : Nat × Nat :=
  if 455 < n then scaleDown (n / 35) (count + 36) else (n, count)
termination_by n
decreasing_by exact Nat.div_lt_self (by omega) (by omega)

/-- The bias after a number, when so many characters are there. -/
def adapt (number : Nat) (first : Bool) (count : Nat) : Nat :=
  let n := if first then number / 700 else number / 2
  let (n, scaled) := scaleDown (n + n / count) 0
  scaled + 36 * n / (n + 38)

def writeNumber (bias place n : Nat) : List Nat :=
  let t := threshold place bias
  if n < t then [digitCode n]
  else digitCode (t + (n - t) % (36 - t)) :: writeNumber bias (place + 1) ((n - t) / (36 - t))
termination_by n
decreasing_by
  have h₁ := threshold_pos place bias
  have h₂ := Nat.div_le_self (n - threshold place bias) (36 - threshold place bias)
  omega

/-- What has been written: the digits, last number first, the bias, and how many characters are there;
and the number that has begun. -/
structure Written where
  numbers : List (List Nat)
  bias : Nat
  count : Nat
  number : Nat

def Written.pass (basic code : Nat) (w : Written) (n : Nat) : Written :=
  if n < code then { w with number := w.number + 1 }
  else if n == code then
    ⟨writeNumber w.bias 0 w.number :: w.numbers,
      adapt w.number (w.count == basic) (w.count + 1), w.count + 1, 0⟩
  else w

/-- Writes the characters of codes in order; `next` is the code after the last that was written. -/
def writeCodes (ns : List Nat) (basic : Nat) : List Nat → Nat → Written → Written
  | [], _, w => w
  | code :: rest, next, w =>
    let w := { w with number := w.number + (code - next) * (w.count + 1) }
    let w := ns.foldl (Written.pass basic code) w
    writeCodes ns basic rest (code + 1) { w with number := w.number + 1 }

def encode (ns : List Nat) : List Nat :=
  let basic := ns.filter isAscii
  let codes := ((ns.filter (!isAscii ·)).mergeSort (· ≤ ·)).eraseDups
  let w := writeCodes ns basic.length codes firstCode ⟨[], 72, basic.length, 0⟩
  basic ++ (if basic.isEmpty then [] else [delimiter]) ++ w.numbers.reverse.flatten

/-- Reads a number: its digits are worth `weight` and more, and `sum` has been read. -/
def readNumber (bias : Nat) : Nat → Nat → Nat → List Nat → Except Problem (Nat × List Nat)
  | _, _, _, [] => .error .incomplete
  | place, weight, sum, n :: rest => match digitValue? n with
    | none => .error (.noDigit n)
    | some d =>
      let t := threshold place bias
      if d < t then .ok (sum + d * weight, rest)
      else readNumber bias (place + 1) (weight * (36 - t)) (sum + d * weight) rest

theorem length_of_readNumber {bias place weight sum m : Nat} {ns left : List Nat}
    (h : readNumber bias place weight sum ns = .ok (m, left)) : left.length < ns.length := by
  induction ns generalizing place weight sum with
  | nil => simp [readNumber] at h
  | cons n rest ih =>
    simp only [readNumber] at h
    split at h
    · simp at h
    · split at h
      · simp only [Except.ok.injEq, Prod.mk.injEq] at h
        simp [← h.2]
      · have := ih h
        simp only [List.length_cons]
        omega

/-- Reads numbers and inserts their characters: `code` and `place` are those after the last that was
inserted. -/
def readCodes (first : Bool) (bias code place : Nat) (text : List Nat) (digits : List Nat) :
    Except Problem (List Nat) :=
  if digits.isEmpty then .ok text
  else match _h : readNumber bias 0 1 0 digits with
    | .error e => .error e
    | .ok (number, left) =>
      let size := text.length + 1
      let code := code + (place + number) / size
      let place := (place + number) % size
      if codePointLimit ≤ code then .error (.tooLarge code)
      else readCodes false (adapt number first size) code (place + 1)
        (text.take place ++ code :: text.drop place) left
termination_by digits.length
decreasing_by exact length_of_readNumber ‹_›

/-- The text of what is written in ASCII. Letters of digits may be small or capital. -/
def decode (ns : List Nat) : Except Problem (List Nat) :=
  let digits := (ns.reverse.takeWhile (· != delimiter)).reverse
  let basic := ns.take (ns.length - digits.length - 1)
  readCodes true 72 firstCode 0 basic (digits.map capital)

example : encode [0xFC] = "tda".toList.map Char.toNat := by decide +kernel

end Parley.Text.Punycode
