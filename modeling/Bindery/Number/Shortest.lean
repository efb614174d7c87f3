import Bindery.Number.Binary

/-!
# The shortest decimal of a number

The fewest digits that read back as the number, and of those the nearest. The reals that round to
`m · 2 ^ e` form an interval, ends included when `m` is even; for each count of digits from one to
seventeen the two decimals around the number are tested against it, in exact arithmetic.
-/

namespace Bindery
namespace Binary64

/-- How many decimal digits a natural number has. -/
def digitCount (n : Nat) : Nat := (Nat.toDigits 10 n).length

/-- The power of the leading decimal digit of `num / den`, both positive. -/
def leadingPower (num den : Nat) : Int :=
  if den ≤ num then (digitCount (num / den) : Int) - 1
  else
    let k := digitCount (den / num) - 1
    if num * Nat.pow 10 k = den then -(k : Int) else -(k : Int) - 1

/-- The interval of reals that round to the number and the number itself, in quarters of the
unit of its last place. -/
def quarters (x : Binary64) : Nat × Nat × Nat :=
  let v := 4 * x.significand
  let low := if x.significand = 1 <<< 52 && x.exponent > minExponent then v - 1 else v - 2
  (low, v, v + 2)

/-- The decimal of `n` digits that reads back as the positive number `x` and is nearest to it, as
digits and power; none if there is none. -/
def candidate (x : Binary64) (n : Nat) : Option (Nat × Int) :=
  let e := x.exponent - 2
  let up := 1 <<< e.toNat
  let down := 1 <<< (-e).toNat
  let (low, v, high) := x.quarters
  let p := leadingPower (v * up) down - (n : Int) + 1
  -- `c · 10 ^ p` against `q · 2 ^ e`, both multiplied out to natural numbers
  let left := Nat.pow 10 p.toNat * down
  let right := up * Nat.pow 10 (-p).toNat
  let even := x.significand % 2 == 0
  let inside (c : Nat) : Bool :=
    let here := c * left
    if even then low * right ≤ here && here ≤ high * right
    else low * right < here && here < high * right
  let c := (v * right) / left
  let below := inside c
  let above := inside (c + 1)
  let belowGap := v * right - c * left
  let aboveGap := (c + 1) * left - v * right
  if below && above then
    if belowGap < aboveGap || (belowGap == aboveGap && c % 2 == 0) then some (c, p)
    else some (c + 1, p)
  else if below then some (c, p)
  else if above then some (c + 1, p)
  else none

/-- Drop trailing zeros of the digits, at most `steps` of them. -/
def trimZeros : (steps : Nat) → Nat → Int → Nat × Int
  | 0, d, p => (d, p)
  | steps + 1, d, p => if d % 10 = 0 && d ≠ 0 then trimZeros steps (d / 10) (p + 1) else (d, p)

/-- The shortest decimal of a positive number: its digits, without trailing zeros, and the power
of ten of the last digit. -/
def shortest (x : Binary64) : Nat × Int :=
  match (List.range 17).findSome? (fun n => candidate x (n + 1)) with
  | some (d, p) => trimZeros 17 d p
  | none => (x.significand, x.exponent)

/-- How a decimal is laid out: from which power on, and below which, the scientific form is
taken. -/
structure Layout where
  /-- The least power of the leading digit written positionally. -/
  positionalFrom : Int
  /-- The first power of the leading digit no longer written positionally. -/
  positionalBelow : Int

/-- Numbers from `0.00001` up to below `10 ^ 16` are written out; all others are scientific. -/
def layout : Layout := ⟨-5, 16⟩

/-- The text of a number: always with a point or an exponent, and a positive exponent with its
sign. -/
def toText (x : Binary64) : String :=
  let sign := if x.negative then "-" else ""
  if x.significand = 0 then sign ++ "0.0"
  else
    let (d, p) := x.shortest
    let digits := Nat.toDigits 10 d
    let lead := (digits.length : Int) - 1 + p
    let body :=
      if layout.positionalFrom ≤ lead && lead < layout.positionalBelow then
        if 0 ≤ p then digits ++ List.replicate p.toNat '0' ++ ['.', '0']
        else if 0 ≤ lead then
          digits.take (lead.toNat + 1) ++ '.' :: digits.drop (lead.toNat + 1)
        else '0' :: '.' :: List.replicate (-lead - 1).toNat '0' ++ digits
      else
        let mantissa := match digits with
          | [c] => [c]
          | c :: rest => c :: '.' :: rest
          | [] => []
        let mark := if lead < 0 then ['e', '-'] else ['e', '+']
        mantissa ++ mark ++ Nat.toDigits 10 lead.natAbs
    sign ++ String.ofList body

end Binary64

end Bindery
