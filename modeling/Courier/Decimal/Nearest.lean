import Courier.Decimal.Shortest

namespace Courier.Decimal

/-- The double nearest to `mantissa × 10^exponent`, with a sign, ties to even. Decimals far
beyond the range of doubles are settled by their size alone, infinite above about `10^310` and
zero below about `10^-330`, so no huge power of ten is formed. -/
def nearestDouble (negative : Bool) (mantissa : Nat) (exponent : Int) : Float :=
  let size : Int := (digitCount mantissa : Int) + exponent
  let magnitude : Float :=
    if mantissa = 0 then 0
    else if size > 310 then 1 / 0
    else if size < -330 then 0
    else if exponent < 0 then Float.ofScientific mantissa true (-exponent).toNat
    else Float.ofScientific mantissa false exponent.toNat
  if negative then -magnitude else magnitude

/-- The integer a finite double equals, if it has no fraction. -/
def wholeValue? (x : Float) : Option Int :=
  match Binary.ofFloat x with
  | .finite negative mantissa exponent _ =>
    let magnitude : Option Nat :=
      if exponent ≥ 0 then some (mantissa * Nat.pow 2 exponent.toNat)
      else if mantissa % Nat.pow 2 (-exponent).toNat == 0 then
        some (mantissa / Nat.pow 2 (-exponent).toNat)
      else none
    magnitude.map fun m => if negative then -(m : Int) else m
  | _ => none

def notANumber : Float := 0 / 0

def infinity : Float := 1 / 0

end Courier.Decimal
