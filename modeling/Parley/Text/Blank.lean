/-!
# Blank characters

Three classes of blanks: all the white space of Unicode 14, the blanks around an integer, and the
six ASCII blanks at which text is broken into rows.
-/

namespace Parley.Text

/-- White space of any script, with the four information separators of ASCII. -/
def isBlank (c : Char) : Bool :=
  let n := c.toNat
  (0x09 ≤ n && n ≤ 0x0D) || (0x1C ≤ n && n ≤ 0x20) || n == 0x85 || n == 0xA0 || n == 0x1680 ||
    (0x2000 ≤ n && n ≤ 0x200A) || n == 0x2028 || n == 0x2029 || n == 0x202F || n == 0x205F ||
    n == 0x3000

/-- The ASCII blanks: tab, line feed, vertical tab, form feed, carriage return, space. -/
def isBreakingBlank (c : Char) : Bool :=
  let n := c.toNat
  (0x09 ≤ n && n ≤ 0x0D) || n == 0x20

/-- Blanks allowed before and after an integer: all but the information separators. -/
def isMargin (c : Char) : Bool :=
  isBlank c && !(0x1C ≤ c.toNat && c.toNat ≤ 0x1F)

theorem isBlank_of_isBreakingBlank {c : Char} (h : isBreakingBlank c) : isBlank c := by
  simp only [isBreakingBlank, isBlank, Bool.or_eq_true, Bool.and_eq_true, decide_eq_true_eq,
    beq_iff_eq] at h ⊢
  omega

/-- Drops characters of a class from both ends. -/
def trim (drop : Char → Bool) (cs : List Char) : List Char :=
  ((cs.dropWhile drop).reverse.dropWhile drop).reverse

/-- The text without white space at its ends. -/
def strip (s : String) : String := String.ofList (trim isBlank s.toList)

end Parley.Text
