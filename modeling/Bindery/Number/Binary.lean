/-!
# Binary floating point, exactly

A finite binary64 number is `± significand · 2 ^ exponent` with a significand below `2 ^ 53`, in
the one form that has the largest significand the exponent range allows. Every operation computes
the exact result as a ratio of natural numbers and rounds once, to the nearest number and on a tie
to the even significand (`ofRatio`).
-/

namespace Bindery

/-- A finite binary64 number. -/
structure Binary64 where
  negative : Bool
  significand : Nat
  exponent : Int
deriving DecidableEq, Repr, Inhabited

namespace Binary64

/-- The least exponent, that of the subnormal numbers. -/
def minExponent : Int := -1074

/-- The greatest exponent. -/
def maxExponent : Int := 971

/-- Zero, with its sign. -/
def zero (negative : Bool) : Binary64 := ⟨negative, 0, minExponent⟩

/-- The quotient rounded to the nearest natural number, a tie to the even one. -/
def roundDiv (num den : Nat) : Nat :=
  let q := num / den
  let r := num % den
  if 2 * r > den || (2 * r == den && q % 2 == 1) then q + 1 else q

/-- The number nearest to `± num / den`; none if it lies beyond the greatest one. -/
def ofRatio (negative : Bool) (num den : Nat) : Option Binary64 :=
  if num = 0 then some (zero negative)
  else
    let guess : Int := (num.log2 : Int) - (den.log2 : Int) - 52
    let floorAt (e : Int) : Nat := (num <<< (-e).toNat) / (den <<< e.toNat)
    let fitted := if floorAt guess < 1 <<< 52 then guess - 1 else guess
    let e := max fitted minExponent
    let q := roundDiv (num <<< (-e).toNat) (den <<< e.toNat)
    let (q, e) := if q = 1 <<< 53 then (1 <<< 52, e + 1) else (q, e)
    if q = 0 then some (zero negative)
    else if e > maxExponent then none
    else some ⟨negative, q, e⟩

/-- The number nearest to an integer. -/
def ofInt (i : Int) : Option Binary64 := ofRatio (i < 0) i.natAbs 1

/-- The number nearest to `± digits · 10 ^ power`; none if it lies beyond the greatest one. A
power far outside the range is settled without computing it. -/
def ofDecimal (negative : Bool) (digits : Nat) (power : Int) : Option Binary64 :=
  if digits = 0 then some (zero negative)
  else
    let magnitude : Int := ((Nat.toDigits 10 digits).length : Int) + power
    if magnitude > 310 then none
    else if magnitude < -330 then some (zero negative)
    else ofRatio negative (digits * Nat.pow 10 power.toNat) (Nat.pow 10 (-power).toNat)

/-- The significand with its sign. -/
def signed (x : Binary64) : Int := if x.negative then -(x.significand : Int) else x.significand

/-- The sum, rounded once; none if it lies beyond the greatest number. A sum of exactly zero is
positive. -/
def add (x y : Binary64) : Option Binary64 :=
  let e := min x.exponent y.exponent
  let sum := x.signed <<< (x.exponent - e).toNat + y.signed <<< (y.exponent - e).toNat
  ofRatio (sum < 0) (sum.natAbs <<< e.toNat) (1 <<< (-e).toNat)

/-- The product, rounded once; none if it lies beyond the greatest number. -/
def mul (x y : Binary64) : Option Binary64 :=
  let e := x.exponent + y.exponent
  ofRatio (x.negative != y.negative) ((x.significand * y.significand) <<< e.toNat)
    (1 <<< (-e).toNat)

/-- The quotient by a number other than zero, rounded once; none if it lies beyond the greatest
number. -/
def div (x y : Binary64) : Option Binary64 :=
  let e := x.exponent - y.exponent
  ofRatio (x.negative != y.negative) (x.significand <<< e.toNat)
    (y.significand <<< (-e).toNat)

/-- The greatest power of ten that is a finite number. -/
def maxPower : Nat := 308

/-- The number nearest to a power of ten up to the greatest. -/
def powerOfTen (n : Nat) : Option Binary64 := ofRatio false (Nat.pow 10 n) 1

/-- A number multiplied with, or divided by, the number nearest to a power of ten. A power below the
range is taken in steps, each of them rounded; after three steps nothing but zero is left. -/
def scale (x : Binary64) (power : Int) : Option Binary64 :=
  let rec go : (steps : Nat) → Binary64 → Int → Option Binary64
    | 0, x, _ => some (zero x.negative)
    | steps + 1, x, power =>
      if x.significand = 0 then some x
      else if power.natAbs ≤ maxPower then do
        let factor ← powerOfTen power.natAbs
        if 0 ≤ power then x.mul factor else x.div factor
      else if 0 < power then none
      else do
        let factor ← powerOfTen maxPower
        go steps (← x.div factor) (power + maxPower)
  go 4 x power

/-- The integer a number is, if it is one. -/
def toInt? (x : Binary64) : Option Int :=
  if 0 ≤ x.exponent then some (x.signed <<< x.exponent.toNat)
  else
    let den := 1 <<< (-x.exponent).toNat
    if x.significand % den = 0 then some (x.signed / (den : Int)) else none

end Binary64

end Bindery
