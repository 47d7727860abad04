import Parley.Fault
import Parley.Json.Display
import Parley.Terminal.Style
import Parley.Terminal.Wrap
import Parley.Text.Split

/-!
# Boxes around text

A box has a title row with the speaker, a row for each row of the text, and a bottom row, all of one
width. Rows are broken at the inner width that the terminal leaves, but at no less than twenty
code points.
-/

namespace Parley.Terminal

def usualWidth : Number := 60

def leastWidth : Int := 20

/-- What a box takes of a terminal's width besides its text. -/
def boxMargin : Int := 8

/-- The width of a terminal that does not tell its own. -/
def usualColumns : Int := 80

/-- The width of a terminal. One that is not told and one that is not positive are unknown. -/
def columnsOf (told : Option Int) : Int :=
  match told with
  | some columns => if 0 < columns then columns else usualColumns
  | none => usualColumns

def innerWidth (maxWidth columns : Int) : Nat :=
  (max leastWidth (min maxWidth (columns - boxMargin))).toNat

/-- Whether the inner width is `maxWidth` itself, neither raised nor lowered. -/
def isInnerWidth (maxWidth : Double) (columns : Int) : Bool :=
  maxWidth.gtInt leastWidth && !maxWidth.gtInt (columns - boxMargin)

/-- The rows of a text, paragraph by paragraph: an empty one is an empty row, and one of
blanks alone is none. -/
def textRows (width : Nat) (ns : List Nat) : List (List Nat) :=
  (Text.pieces '\n'.toNat ns).flatMap fun p => if p.isEmpty then [[]] else wrap width p

/-- Whether every chunk of a text fits a row, so that none is cut. -/
def isUncut (width : Nat) (ns : List Nat) : Bool :=
  (Text.pieces '\n'.toNat ns).all fun p =>
    (chunks (normalizeBlanks p)).all fun chunk => chunk.length ≤ width

/-- The rows of a text in a terminal, given the greatest width. Rows of a width that is not an
integer hold what the integer below it holds, but a chunk cannot be cut there. -/
def rowsWithin (maxWidth : Number) (columns : Int) (ns : List Nat) :
    Except Fault (List (List Nat)) :=
  match maxWidth with
  | .int n => .ok (textRows (innerWidth n columns) ns)
  | .double x =>
    if isInnerWidth x columns then do
      let width := innerWidth (← (Number.double x).floor) columns
      if isUncut width ns then return textRows width ns
      else throw (.noInteger (Json.num (.double x)).kind)
    else .ok (textRows (innerWidth (if x.gtInt leastWidth then columns else leastWidth) columns) ns)

/-- The number of code points or entries of a value. -/
def lengthOf : Json → Except Fault Nat
  | .str s => .ok (Text.length s.toList)
  | .arr items => .ok items.length
  | .obj ms => .ok ms.length
  | v => .error (.noLength v.kind)

/-- The width of a box around rows, which leaves room for the speaker. -/
def boxWidth (rows : List (List Nat)) (speakerLength : Nat) : Nat :=
  let width := match rows with
    | [] => leastWidth.toNat
    | _ => (rows.map List.length).foldl max 0
  max width (speakerLength + 2)

def padRight {α : Type} (width : Nat) (filler : α) (row : List α) : List α :=
  row ++ List.replicate (width - row.length) filler

theorem length_padRight {α : Type} {width : Nat} {row : List α} (filler : α)
    (h : row.length ≤ width) : (padRight width filler row).length = width := by
  simp [padRight, h]

def rule (width : Nat) : String := String.ofList (List.replicate width '─')

def contentRow (color : String) (width : Nat) (row : List Nat) : String :=
  "  " ++ color ++ "│" ++ Style.reset ++ " " ++
    String.ofList (Text.ofCodePoints (padRight width space row)) ++ " " ++ color ++ "│" ++ Style.reset

def boxRows (rows : List (List Nat)) (speaker color : String) (speakerLength : Nat) :
    List String :=
  let width := boxWidth rows speakerLength
  ["  " ++ color ++ "╭─ " ++ speaker ++ " " ++ rule (width - speakerLength - 1) ++ "╮" ++
      Style.reset] ++
    rows.map (contentRow color width) ++
    ["  " ++ color ++ "╰" ++ rule (width + 2) ++ "╯" ++ Style.reset]

/-- A box with a text and its speaker, after an empty row. A speaker that is no text needs one of its
own. -/
def box (text : String) (speaker : Json) (color : String) (maxWidth : Number) (columns : Int) :
    Except Fault String := do
  let n ← lengthOf speaker
  let rows ← rowsWithin maxWidth columns (Text.codePoints text.toList)
  if speaker.isWritable then
    return "\n" ++ "\n".intercalate (boxRows rows speaker.display color n)
  else throw .integerTooLong

end Parley.Terminal
