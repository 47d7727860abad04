import Parley.Power

/-!
# Binary64 numbers as exact values

A `Double` is a sign, a mantissa and a power of two, or an infinity, or not a number. Every
operation works on the exact rational value and rounds once, to the nearest representable number
with ties to the even mantissa, so all results can be computed and reasoned about in integers.
-/

namespace Parley

/-- A finite `Double` stands for `± mantissa * 2 ^ exponent`. Values built by `Double.ofRatio`
are canonical: the mantissa is below `2 ^ 53` and, unless the exponent is the least one, at
least `2 ^ 52`. -/
inductive Double where
  | finite (negative : Bool) (mantissa : Nat) (exponent : Int)
  | infinite (negative : Bool)
  | nan
deriving DecidableEq, Repr, Inhabited

namespace Double

def leastExponent : Int := -1074

def greatestExponent : Int := 971

def zero : Double := .finite false 0 leastExponent

def isFinite : Double → Bool
  | .finite .. => true
  | _ => false

def isZero : Double → Bool
  | .finite _ m _ => m == 0
  | _ => false

/-- The quotient rounded to the nearest integer, a tie going to the even one. -/
def roundQuotient (num den : Nat) : Nat :=
  let q := num / den
  let twice := 2 * (num % den)
  if twice > den || (twice == den && q % 2 == 1) then q + 1 else q

theorem roundQuotient_bounds (num : Nat) {den : Nat} (h : 0 < den) :
    2 * num ≤ 2 * (roundQuotient num den * den) + den ∧
      2 * (roundQuotient num den * den) ≤ 2 * num + den := by
  have hdiv : den * (num / den) + num % den = num := Nat.div_add_mod num den
  have hmod : num % den < den := Nat.mod_lt num h
  have hcomm : num / den * den = den * (num / den) := Nat.mul_comm ..
  dsimp only [roundQuotient]
  split
  · rename_i hup
    have hge : den ≤ 2 * (num % den) := by
      simp only [Bool.or_eq_true, decide_eq_true_eq, Bool.and_eq_true, beq_iff_eq] at hup
      omega
    rw [Nat.add_mul, Nat.one_mul]
    omega
  · rename_i hdown
    have hle : 2 * (num % den) ≤ den := by
      simp only [Bool.or_eq_true, decide_eq_true_eq, not_or] at hdown
      omega
    omega

/-- `num / den` scaled by `2 ^ -e`, as a quotient of natural numbers. -/
def scaled (num den : Nat) (e : Int) : Nat × Nat :=
  if 0 ≤ e then (num, den * twoTo e.toNat) else (num * twoTo (-e).toNat, den)

/-- The exponent at which the positive quotient `num / den` has a mantissa of 53 bits, but not
below the least one. -/
def exponentOf (num den : Nat) : Int :=
  let guess : Int := (Nat.log2 num : Int) - (Nat.log2 den : Int) - 53
  let scaledGuess := scaled num den guess
  let fit := if scaledGuess.1 / scaledGuess.2 < twoTo 53 then guess else guess + 1
  max fit leastExponent

/-- The number nearest to `± num / den`, for a positive `den`. -/
def ofRatio (negative : Bool) (num den : Nat) : Double :=
  if num = 0 then .finite negative 0 leastExponent
  else
    let e := exponentOf num den
    let s := scaled num den e
    let m := roundQuotient s.1 s.2
    let (m, e) := if m = twoTo 53 then (twoTo 52, e + 1) else (m, e)
    if greatestExponent < e then .infinite negative else .finite negative m e

/-- The number nearest to an integer; infinite beyond the range. -/
def ofInt (n : Int) : Double := ofRatio (n < 0) n.natAbs 1

/-- The number nearest to an integer, or nothing if that is beyond the range. -/
def ofInt? (n : Int) : Option Double :=
  let x := ofInt n
  if x.isFinite then some x else none

/-- The number nearest to `± digits * 10 ^ exponent`. Far outside the range the answer is known
without computing the power of ten. -/
def ofDecimal (negative : Bool) (digits : Nat) (exponent : Int) : Double :=
  let places : Int := (Nat.toDigits 10 digits).length
  if digits = 0 then .finite negative 0 leastExponent
  else if 400 < places + exponent then .infinite negative
  else if places + exponent < -400 then .finite negative 0 leastExponent
  else if 0 ≤ exponent then ofRatio negative (digits * tenTo exponent.toNat) 1
  else ofRatio negative digits (tenTo (-exponent).toNat)

/-- A finite number as a signed numerator over a power of two. -/
def toRatio (negative : Bool) (mantissa : Nat) (exponent : Int) : Int × Nat :=
  let m : Int := if negative then -(mantissa : Int) else mantissa
  if 0 ≤ exponent then (m * twoTo exponent.toNat, 1) else (m, twoTo (-exponent).toNat)

/-- The number nearest to a signed numerator over a positive denominator. -/
def ofSigned (r : Int × Nat) : Double := ofRatio (r.1 < 0) r.1.natAbs r.2

/-- The largest integer not above the number; nothing for an infinity or not a number. -/
def floor? : Double → Option Int
  | .finite s m e => let r := toRatio s m e; some (r.1 / (r.2 : Int))
  | _ => none

/-- The integer part of the number; nothing for an infinity or not a number. -/
def truncate? : Double → Option Int
  | .finite s m e => let r := toRatio s m e; some (r.1.tdiv (r.2 : Int))
  | _ => none

/-- Adds, with one rounding; opposite infinities have no sum. -/
def add : Double → Double → Double
  | .nan, _ | _, .nan => .nan
  | .infinite s, .infinite t => if s = t then .infinite s else .nan
  | .infinite s, _ => .infinite s
  | _, .infinite s => .infinite s
  | .finite s m e, .finite t n f =>
    let a := toRatio s m e
    let b := toRatio t n f
    if a.1 = 0 ∧ b.1 = 0 then .finite (s && t) 0 leastExponent
    else ofSigned (a.1 * b.2 + b.1 * a.2, a.2 * b.2)

def half : Double → Double
  | .finite s m e => let r := toRatio s m e; ofRatio s r.1.natAbs (r.2 * 2)
  | x => x

/-- Whether the number is below an integer. Not a number is below nothing. -/
def ltInt : Double → Int → Bool
  | .nan, _ => false
  | .infinite s, _ => s
  | .finite s m e, n => let r := toRatio s m e; r.1 < n * r.2

/-- Whether the number is above an integer. Not a number is above nothing. -/
def gtInt : Double → Int → Bool
  | .nan, _ => false
  | .infinite s, _ => !s
  | .finite s m e, n => let r := toRatio s m e; n * r.2 < r.1

def eqInt : Double → Int → Bool
  | .finite s m e, n => let r := toRatio s m e; r.1 == n * r.2
  | _, _ => false

/-- Equality of values: the two zeros are the same. Not a number is the same as itself, because a
value is always found equal to itself. -/
def same : Double → Double → Bool
  | .finite s m e, .finite t n f =>
    let a := toRatio s m e
    let b := toRatio t n f
    a.1 * b.2 == b.1 * a.2
  | x, y => x == y

end Double
end Parley
