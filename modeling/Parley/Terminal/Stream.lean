import Parley.Fault

/-!
# Streams

Rows are written to a stream one after another. A stream of characters takes every row. A stream of
bytes refuses a row that holds a surrogate, and what would follow it is not written.
-/

namespace Parley.Terminal

inductive Stream where
  | characters
  | bytes
deriving DecidableEq, Repr

namespace Stream

def refusal? : Stream → String → Option Fault
  | .characters, _ => none
  | .bytes, row => (Text.unwritable? row).map .unwritable

/-- Writes rows up to the first that is refused: what is written, and why no more is. -/
def write (s : Stream) : List String → List String × Option Fault
  | [] => ([], none)
  | row :: rest => match s.refusal? row with
    | some fault => ([], some fault)
    | none =>
      let (written, fault) := s.write rest
      (row :: written, fault)

theorem write_snd (s : Stream) (rows : List String) :
    (s.write rows).2 = rows.findSome? s.refusal? := by
  induction rows with
  | nil => rfl
  | cons row rest ih => cases h : s.refusal? row <;> simp [write, h, ih]

end Stream
end Parley.Terminal
