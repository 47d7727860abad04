/-!
# Tables written as text

A large table of numbers is written as a text: hexadecimal numbers with blanks between them, and a
semicolon after each row.
-/

namespace Parley.Text

def tableDigit? (c : Char) : Option Nat :=
  if c.isDigit then some (c.toNat - '0'.toNat)
  else if 'A' ≤ c && c ≤ 'F' then some (c.toNat - 'A'.toNat + 10)
  else none

/-- A table that has been read in part: the rows, the numbers of the row that has begun, both last
first, and the number that has begun. -/
structure TablePart where
  rows : List (List Nat)
  row : List Nat
  number : Option Nat

namespace TablePart

def endNumber (t : TablePart) : TablePart :=
  match t.number with
  | some n => { t with row := n :: t.row, number := none }
  | none => t

def read (t : TablePart) (c : Char) : TablePart :=
  match tableDigit? c with
  | some d => { t with number := some (t.number.getD 0 * 16 + d) }
  | none =>
    let t := t.endNumber
    if c == ';' then ⟨t.row.reverse :: t.rows, [], none⟩ else t

end TablePart

def readTable (text : String) : List (List Nat) :=
  (text.toList.foldl TablePart.read ⟨[], [], none⟩).rows.reverse

example : readTable "1F 2; A;" = [[31, 2], [10]] := by decide +kernel

end Parley.Text
