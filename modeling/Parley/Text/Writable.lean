import Parley.Text.Quoted

/-!
# Writable texts

A text can be written as bytes unless it holds a surrogate. What cannot be written is reported as the
first run of surrogates in the text. Where it may hold them, they are written by their codes.
-/

namespace Parley.Text

/-- Surrogates in a row: the place of the first, its code, and their number. -/
structure Unwritable where
  position : Nat
  code : Nat
  count : Nat
deriving DecidableEq, Repr

def Unwritable.message (e : Unwritable) : String :=
  let characters :=
    if e.count = 1 then
      "character '\\u" ++ String.ofList (hex 4 e.code) ++ "' in position " ++ toString e.position
    else
      "characters in position " ++ toString e.position ++ "-" ++
        toString (e.position + e.count - 1)
  "'utf-8' codec can't encode " ++ characters ++ ": surrogates not allowed"

/-- The first code point of a class of surrogates, with the surrogates that follow it. -/
def firstRefused? (refused : Nat → Bool) (codes : List Nat) : Option Unwritable :=
  let before := codes.takeWhile (!refused ·)
  match codes.drop before.length with
  | [] => none
  | code :: rest => some ⟨before.length, code, (rest.takeWhile isSurrogate).length + 1⟩

def unwritable? (text : String) : Option Unwritable :=
  firstRefused? isSurrogate (codePoints text.toList)

theorem firstRefused?_eq_none {refused : Nat → Bool} {codes : List Nat}
    (h : ∀ n ∈ codes, refused n = false) : firstRefused? refused codes = none := by
  have ht : codes.takeWhile (!refused ·) = codes := by
    induction codes with
    | nil => rfl
    | cons n rest ih =>
      simp [h n List.mem_cons_self, ih fun m hm => h m (List.mem_cons_of_mem n hm)]
  simp [firstRefused?, ht]

/-- A text with the code of each surrogate after a backslash. -/
def escapeSurrogates (text : String) : String :=
  String.ofList ((codePoints text.toList).flatMap fun n =>
    if isSurrogate n then '\\' :: 'u' :: hex 4 n else carry n)

end Parley.Text
