import Parley.Text.Printable
import Parley.Text.Surrogate

/-!
# Quoted text

A quoted text stands between apostrophes, or between quotation marks when it holds an apostrophe
and no quotation mark. The mark in use and the backslash are escaped, and so is every character
that is not printable, by its short name or its code in hexadecimal.
-/

namespace Parley.Text

/-- The lower-case hexadecimal digits of a number, filled with zeros to a width. -/
def hex (width n : Nat) : List Char :=
  let ds := Nat.toDigits 16 n
  List.replicate (width - ds.length) '0' ++ ds

/-- What stands for a code point between two marks. -/
def escape (mark : Char) (code : Nat) : List Char :=
  let c := Char.ofNat code
  if isPrintable code then if c == mark || c == '\\' then ['\\', c] else [c]
  else if c == '\n' then ['\\', 'n']
  else if c == '\r' then ['\\', 'r']
  else if c == '\t' then ['\\', 't']
  else if code < 0x100 then '\\' :: 'x' :: hex 2 code
  else if code < 0x10000 then '\\' :: 'u' :: hex 4 code
  else '\\' :: 'U' :: hex 8 code

def markFor (cs : List Char) : Char :=
  if cs.contains '\'' && !cs.contains '"' then '"' else '\''

def quoted (s : String) : String :=
  let cs := s.toList
  let mark := markFor cs
  String.ofList (mark :: (codePoints cs).flatMap (escape mark) ++ [mark])

end Parley.Text
