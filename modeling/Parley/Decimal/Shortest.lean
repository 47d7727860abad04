import Parley.Double

/-!
# The fewest digits that read back

`Shortest.digits` gives, for a positive number `m * 2 ^ e`, the decimal with the fewest digits
among all that round to it, and of those the nearest. On each decimal grid only the two
neighbours of the number can be the nearest, so seventeen grids are tried from coarse to fine.
-/

namespace Parley.Decimal

/-- A positive decimal `digits * 10 ^ exponent`. -/
structure Scientific where
  digits : Nat
  exponent : Int
deriving DecidableEq, Repr

namespace Shortest

/-- The rational numbers that round to a number, as numerators over one denominator: its two
ends, whether they belong to it, and the number itself. -/
structure Interval where
  low : Nat
  value : Nat
  high : Nat
  closed : Bool
  den : Nat
deriving Repr

/-- The numbers that round to `m * 2 ^ e`: half a unit on both sides, a quarter below a power of
two (except at the least exponent), and the ends if the mantissa is even. -/
def interval (m : Nat) (e : Int) : Interval :=
  let below := if m = twoTo 52 ∧ e ≠ Double.leastExponent then 1 else 2
  let up := twoTo e.toNat
  ⟨(4 * m - below) * up, 4 * m * up, (4 * m + 2) * up, m % 2 == 0, 4 * twoTo (-e).toNat⟩

/-- `n * 10 ^ k` over the denominator `den`, as a quotient. -/
def atScale (n : Nat) (k : Int) (den : Nat) : Nat × Nat :=
  (n * tenTo k.toNat * den, tenTo (-k).toNat)

/-- Whether the decimal `n * 10 ^ k` rounds to the number. -/
def Interval.contains (i : Interval) (n : Nat) (k : Int) : Bool :=
  let s := atScale n k i.den
  if i.closed then i.low * s.2 ≤ s.1 && s.1 ≤ i.high * s.2
  else i.low * s.2 < s.1 && s.1 < i.high * s.2

/-- The distance between the decimal `n * 10 ^ k` and the number, up to a factor that depends on
`k` only. -/
def Interval.distance (i : Interval) (n : Nat) (k : Int) : Nat :=
  let s := atScale n k i.den
  (s.1 - i.value * s.2) + (i.value * s.2 - s.1)

/-- The point of the grid `10 ^ k` next below the number. -/
def Interval.floorAt (i : Interval) (k : Int) : Nat :=
  i.value * tenTo (-k).toNat / (i.den * tenTo k.toNat)

/-- The nearer neighbour on the grid `10 ^ k` that rounds to the number; an exact tie goes to the
even digit. -/
def Interval.onGrid (i : Interval) (k : Int) : Option Scientific :=
  let a := i.floorAt k
  match i.contains a k, i.contains (a + 1) k with
  | false, false => none
  | true, false => some ⟨a, k⟩
  | false, true => some ⟨a + 1, k⟩
  | true, true =>
    let da := i.distance a k
    let db := i.distance (a + 1) k
    if da < db ∨ (da = db ∧ a % 2 = 0) then some ⟨a, k⟩ else some ⟨a + 1, k⟩

/-- The place of the first digit: the least `p` with value below `10 ^ p`, searched upwards from
the place that the binary exponent suggests. -/
def Interval.place (i : Interval) : Int :=
  let guess : Int := ((Nat.log2 i.value : Int) - (Nat.log2 i.den : Int) - 1) * 30103 / 100000
  climb 6 guess
where
  /-- Steps up while the value is not below the power of ten. -/
  climb : Nat → Int → Int
  | 0, p => p
  | fuel + 1, p =>
    if i.value * tenTo (-p).toNat < i.den * tenTo p.toNat then p else climb fuel (p + 1)

/-- The first grid, from `n` digits on, with a decimal that rounds to the number. -/
def Interval.search (i : Interval) (place : Int) : Nat → Nat → Option Scientific
  | 0, _ => none
  | fuel + 1, n => (i.onGrid (place - n)) <|> i.search place fuel (n + 1)

/-- The shortest decimal that reads back as the positive number `m * 2 ^ e`. -/
def digits (m : Nat) (e : Int) : Scientific :=
  let i := interval m e
  (i.search i.place 17 1).getD ⟨m, 0⟩

end Shortest

/-- How numbers are written: positional notation serves the exponents from `leastPositional` up
to but not including `positionalEnd`, and an exponent has at least `exponentDigits` digits. -/
structure NumberStyle where
  leastPositional : Int
  positionalEnd : Int
  exponentDigits : Nat

/-- Positional notation from `0.0001` to below ten to the sixteenth, else an exponent of two digits
or more. -/
def NumberStyle.plain : NumberStyle := ⟨-4, 16, 2⟩

def padZeros (width : Nat) (text : String) : String :=
  String.ofList (List.replicate (width - text.length) '0') ++ text

/-- The text of a positive decimal. A positional text always has a point. -/
def NumberStyle.write (style : NumberStyle) (x : Scientific) : String :=
  let ds := Nat.toDigits 10 x.digits
  let kept := (ds.reverse.dropWhile (· == '0')).reverse
  let kept := if kept.isEmpty then ['0'] else kept
  let point : Int := ds.length + x.exponent
  if style.leastPositional ≤ point - 1 ∧ point - 1 < style.positionalEnd then
    if point ≤ 0 then
      "0." ++ String.ofList (List.replicate (-point).toNat '0' ++ kept)
    else
      let whole := kept.take point.toNat
      let whole := whole ++ List.replicate (point.toNat - whole.length) '0'
      let part := kept.drop point.toNat
      String.ofList whole ++ "." ++ String.ofList (if part.isEmpty then ['0'] else part)
  else
    let mantissa := match kept with
      | [] => "0"
      | [d] => String.ofList [d]
      | d :: rest => String.ofList (d :: '.' :: rest)
    let e := point - 1
    mantissa ++ (if e < 0 then "e-" else "e+") ++ padZeros style.exponentDigits (toString e.natAbs)

theorem append_append_ne_empty {t : String} (h : t ≠ "") (s u : String) : s ++ t ++ u ≠ "" := by
  intro hempty
  rw [String.append_eq_empty_iff, String.append_eq_empty_iff] at hempty
  exact h hempty.1.2

theorem NumberStyle.write_ne_empty (style : NumberStyle) (x : Scientific) : style.write x ≠ "" := by
  unfold NumberStyle.write
  dsimp only
  split
  · split
    · intro hempty
      rw [String.append_eq_empty_iff] at hempty
      exact absurd hempty.1 (by decide)
    · exact append_append_ne_empty (by decide) _ _
  · refine append_append_ne_empty ?_ _ _
    split <;> decide

/-- The text of a number: the shortest decimal that reads back. -/
def write : Double → String
  | .nan => "nan"
  | .infinite s => if s then "-inf" else "inf"
  | .finite s m e =>
    (if s then "-" else "") ++ (if m = 0 then "0.0" else NumberStyle.plain.write (Shortest.digits m e))

theorem write_ne_empty (x : Double) : write x ≠ "" := by
  cases x with
  | nan => decide
  | infinite s => cases s <;> decide
  | finite s m e =>
    unfold write
    by_cases hm : m = 0 <;> simp [hm, String.append_eq_empty_iff, NumberStyle.write_ne_empty]

end Parley.Decimal
