import Parley.Text.Blank
import Parley.Text.Digit

/-!
# Integers written in text

An integer may have blanks around it, a sign, digits of any script, and single underscores between
digits. More than 4300 digits are refused before anything that follows them is looked at.
-/

namespace Parley.Text

/-- The greatest number of digits of an integer in text. -/
def digitLimit : Nat := 4300

/-- Why a text is no integer. -/
inductive IntegerError where
  | invalid
  | tooManyDigits (count : Nat)
deriving DecidableEq, Repr

def digitRun : List Char → List (Option Nat) × List Char
  | [] => ([], [])
  | c :: rest =>
    if c == '_' then
      let (run, after) := digitRun rest
      (none :: run, after)
    else match decimalDigit? c with
      | some d =>
        let (run, after) := digitRun rest
        (some d :: run, after)
      | none => ([], c :: rest)

/-- Whether underscores in a run only stand singly between digits. -/
def wellSpaced : List (Option Nat) → Bool
  | [] => false
  | [d] => d.isSome
  | none :: _ => false
  | some _ :: none :: rest => wellSpaced rest
  | some _ :: some d :: rest => wellSpaced (some d :: rest)

def ofDigits (ds : List Nat) : Nat := ds.foldl (fun n d => n * 10 + d) 0

def readInteger (s : String) : Except IntegerError Int :=
  let cs := s.toList.dropWhile isMargin
  let (negative, cs) := match cs with
    | '-' :: rest => (true, rest)
    | '+' :: rest => (false, rest)
    | _ => (false, cs)
  let (run, after) := digitRun cs
  let ds := run.filterMap id
  if !wellSpaced run then .error .invalid
  else if digitLimit < ds.length then .error (.tooManyDigits ds.length)
  else if after.all isMargin then
    let n : Int := ofDigits ds
    .ok (if negative then -n else n)
  else .error .invalid

end Parley.Text
