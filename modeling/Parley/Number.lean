import Parley.Decimal.Shortest
import Parley.Text.Integer

/-!
# Numbers

A number is an unbounded integer or a `Double`; the two stay apart when written, and are compared
by exact value.
-/

namespace Parley

inductive Number where
  | int (n : Int)
  | double (x : Double)
deriving DecidableEq, Repr, Inhabited

namespace Number

instance (n : Nat) : OfNat Number n := ⟨.int n⟩

/-- The written form: decimal digits, or the shortest decimal that reads back. -/
def write : Number → String
  | .int n => toString n
  | .double x => Decimal.write x

theorem write_ne_empty (n : Number) : n.write ≠ "" := by
  cases n with
  | int n =>
    change toString n ≠ ""
    cases n with
    | ofNat n => exact Nat.repr_ne_empty
    | negSucc n => simp [toString, Int.repr, String.append_eq_empty_iff]
  | double x => exact Decimal.write_ne_empty x

/-- Whether the number can be written at all: an integer has to be as short as one that is read. -/
def isWritable : Number → Bool
  | .int n => (Nat.toDigits 10 n.natAbs).length ≤ Text.digitLimit
  | .double _ => true

/-- Equality of values, across the two kinds. -/
def same : Number → Number → Bool
  | .int m, .int n => m == n
  | .int m, .double x => x.eqInt m
  | .double x, .int n => x.eqInt n
  | .double x, .double y => x.same y

def isZero : Number → Bool
  | .int n => n == 0
  | .double x => x.isZero

def ltInt : Number → Int → Bool
  | .int m, n => m < n
  | .double x, n => x.ltInt n

end Number
end Parley
