/-!
# Tables of character ranges

A character class is a table of closed ranges in increasing order; membership is found by halving.
-/

namespace Parley.Text

/-- Whether a code point lies in one of the ranges with index from `lo` to before `hi`. -/
def inRangesBetween (table : Array (Nat × Nat)) (code lo hi : Nat) : Bool :=
  if _h : lo < hi then
    let mid := (lo + hi) / 2
    match table[mid]? with
    | none => false
    | some (first, last) =>
      if code < first then inRangesBetween table code lo mid
      else if last < code then inRangesBetween table code (mid + 1) hi
      else true
  else false
termination_by hi - lo

def inRanges (table : Array (Nat × Nat)) (code : Nat) : Bool :=
  inRangesBetween table code 0 table.size

end Parley.Text
