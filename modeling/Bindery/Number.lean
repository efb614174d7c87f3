import Bindery.Number.Shortest

/-!
# Numbers

A number is an integer or a binary64 fraction. Sums are taken in binary64 and an integral result
of moderate size becomes an integer again, so that it prints without a fraction.
-/

namespace Bindery

/-- A number of the value language. -/
inductive Number where
  | int (value : Int)
  | float (value : Binary64)
deriving DecidableEq, Repr, Inhabited

namespace Number

/-- The least magnitude that an integral sum no longer turns into an integer at: `2 ^ 63`. -/
def integerBound : Nat := 0x8000000000000000

/-- A binary64 number, as an integer if it is one of magnitude below `integerBound`. -/
def ofBinary (x : Binary64) : Number :=
  match x.toInt? with
  | some i => if i.natAbs < integerBound then .int i else .float x
  | none => .float x

/-- The nearest binary64 number; none for an integer out of range. -/
def toBinary : Number → Option Binary64
  | .int i => Binary64.ofInt i
  | .float x => some x

/-- The sum; none if it is too large. -/
def add (a b : Number) : Option Number := do
  let x ← a.toBinary
  let y ← b.toBinary
  let sum ← x.add y
  return ofBinary sum

/-- The text of a number. -/
def toText : Number → String
  | .int i => if i < 0 then String.ofList ('-' :: Nat.toDigits 10 i.natAbs)
      else String.ofList (Nat.toDigits 10 i.natAbs)
  | .float x => x.toText

/-- An index: a non-negative integer below `2 ^ 64`. -/
def toIndex? : Number → Option Nat
  | .int (.ofNat n) => if n < 0x10000000000000000 then some n else none
  | _ => none

/-- Split digits at their end: the leading run of ASCII digits and the rest. -/
def spanDigits (s : List Char) : List Char × List Char := s.span Char.isDigit

/-- The value of a run of decimal digits. -/
def digitsValue (s : List Char) : Nat :=
  s.foldl (fun n c => 10 * n + (c.toNat - '0'.toNat)) 0

/-- The exponent part of a decimal: nothing, or a mark, an optional sign and digits. -/
def readExponent (s : List Char) : Option Int :=
  match s with
  | [] => some 0
  | mark :: rest =>
    if mark = 'e' || mark = 'E' then
      let (negative, rest) := match rest with
        | '-' :: r => (true, r)
        | '+' :: r => (false, r)
        | r => (false, r)
      if rest.isEmpty || !rest.all Char.isDigit then none
      else
        let n : Int := digitsValue rest
        some (if negative then -n else n)
    else none

/-- The binary64 number nearest to an unsigned decimal: digits with an optional point and an
optional exponent. The outer option tells whether the text is a decimal, the inner one whether
the number is in range. -/
def readDecimal (negative : Bool) (s : List Char) : Option (Option Binary64) :=
  let (whole, rest) := spanDigits s
  let (fraction, rest) := match rest with
    | '.' :: r => spanDigits r
    | r => ([], r)
  if whole.isEmpty && fraction.isEmpty then none
  else do
    let power ← readExponent rest
    return Binary64.ofDecimal negative (digitsValue (whole ++ fraction))
      (power - fraction.length)

end Number

end Bindery
