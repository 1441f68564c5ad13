/-!
Shortest decimal text of a binary double. A finite double stands for all the reals that round
to it; among the decimals in that interval we take one with the fewest significant digits and,
of those, the one nearest to the double. All comparisons are exact, on natural numbers.

The result is a digit string `d₁d₂…dₙ` and a point position `p`, read as `0.d₁d₂…dₙ × 10^p`.
-/

namespace Courier.Decimal

/-- A decimal in scientific form: `0.digits × 10^point`, digits without trailing zeros. -/
structure Scientific where
  digits : List Char
  point : Int
  deriving Repr, BEq

/-- A finite double, split into sign, integer mantissa and binary exponent. -/
inductive Binary where
  | finite (negative : Bool) (mantissa : Nat) (exponent : Int) (narrowBelow : Bool)
  | infinite (negative : Bool)
  | notANumber

/-- Splits the bits of a double. `narrowBelow` marks a power of two above the smallest normal
exponent, whose lower neighbour is half as far away as its upper one. -/
def Binary.ofFloat (x : Float) : Binary :=
  let bits : Nat := x.toBits.toNat
  let negative : Bool := bits / Nat.pow 2 63 % 2 == 1
  let field : Nat := bits / Nat.pow 2 52 % Nat.pow 2 11
  let fraction : Nat := bits % Nat.pow 2 52
  if field == 2047 then
    if fraction == 0 then .infinite negative else .notANumber
  else if field == 0 then .finite negative fraction (-1074) false
  else .finite negative (fraction + Nat.pow 2 52) ((field : Int) - 1075) (fraction == 0 && field > 1)

def digitCount (n : Nat) : Nat :=
  (Nat.toDigits 10 n).length

/-- A positive double's rounding interval as numerators over one power of two:
`value`, `below` and `above` are four times the double and its two midpoints. -/
structure Interval where
  value : Nat
  below : Nat
  above : Nat
  denominator : Nat
  closed : Bool

/-- The interval of reals that round to `mantissa · 2^exponent`; its ends belong to it when
the mantissa is even, as reading a decimal rounds halves to even. -/
def Interval.ofBinary (mantissa : Nat) (exponent : Int) (narrowBelow : Bool) : Interval :=
  let shift := exponent - 2
  let scale := Nat.pow 2 shift.toNat
  let denominator := Nat.pow 2 (-shift).toNat
  { value := 4 * mantissa * scale
    below := (if narrowBelow then 4 * mantissa - 1 else 4 * mantissa - 2) * scale
    above := (4 * mantissa + 2) * scale
    denominator
    closed := mantissa % 2 == 0 }

def Interval.compareGrid (i : Interval) (c : Nat) (k : Int) (x : Nat) : Ordering :=
  compare (c * Nat.pow 10 k.toNat * i.denominator) (x * Nat.pow 10 (-k).toNat)

def Interval.holds (i : Interval) (c : Nat) (k : Int) : Bool :=
  let lowOk := match i.compareGrid c k i.below with
    | .gt => true
    | .eq => i.closed
    | .lt => false
  let highOk := match i.compareGrid c k i.above with
    | .lt => true
    | .eq => i.closed
    | .gt => false
  lowOk && highOk

def Interval.gridFloor (i : Interval) (k : Int) : Nat :=
  i.value * Nat.pow 10 (-k).toNat / (i.denominator * Nat.pow 10 k.toNat)

def Interval.leadExponent (i : Interval) : Int :=
  let guess : Int := (digitCount i.value : Int) - (digitCount i.denominator : Int)
  match i.compareGrid 1 guess i.value with
  | .gt => guess - 1
  | _ => guess

/-- Of two grid neighbours in the interval, the nearer to the value; a tie goes to the even. -/
def Interval.nearer (i : Interval) (c : Nat) (k : Int) : Nat :=
  match i.compareGrid (2 * c + 1) k (2 * i.value) with
  | .lt => c + 1
  | .gt => c
  | .eq => if c % 2 == 0 then c else c + 1

/-- The first grid, from one significant digit up to `fuel` more, holding a point of the
interval; on it the chosen neighbour and the grid exponent. -/
def Interval.search (i : Interval) (lead : Int) : Nat → Nat → Nat × Int
  | n, 0 => (i.gridFloor (lead - n + 1), lead - n + 1)
  | n, fuel + 1 =>
    let k := lead - n + 1
    let c := i.gridFloor k
    match i.holds c k, i.holds (c + 1) k with
    | true, true => (i.nearer c k, k)
    | true, false => (c, k)
    | false, true => (c + 1, k)
    | false, false => i.search lead (n + 1) fuel

def dropTrailingZeros (c : Nat) (k : Int) : Nat → Nat × Int
  | 0 => (c, k)
  | fuel + 1 =>
    if c ≠ 0 ∧ c % 10 = 0 then dropTrailingZeros (c / 10) (k + 1) fuel else (c, k)

/-- The shortest nearest decimal of a positive double `mantissa · 2^exponent`. -/
def shortest (mantissa : Nat) (exponent : Int) (narrowBelow : Bool) : Scientific :=
  let i := Interval.ofBinary mantissa exponent narrowBelow
  let (c, k) := i.search i.leadExponent 1 17
  let (c, k) := dropTrailingZeros c k (digitCount c)
  let digits := Nat.toDigits 10 c
  { digits, point := k + digits.length }

end Courier.Decimal
