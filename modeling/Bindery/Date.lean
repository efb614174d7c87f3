import Bindery.Text.Classes
import Bindery.Text.Reading

/-!
# Dates in file names

A file name may start with its date, as in `2024-06-15-launch.md`. It is read by its bytes: the
numbers of a date are words of 16 and 8 bits.
-/

namespace Bindery

open Text

/-- A date of the Gregorian calendar. -/
structure Date where
  year : Nat
  month : Nat
  day : Nat
deriving DecidableEq, Repr

namespace Date

/-- Whether a year has a 29th of February. -/
def isLeapYear (year : Nat) : Bool := year % 4 = 0 && (year % 100 ≠ 0 || year % 400 = 0)

/-- The number of days of a month; zero for a number that is no month. -/
def daysInMonth (year month : Nat) : Nat :=
  match month with
  | 1 | 3 | 5 | 7 | 8 | 10 | 12 => 31
  | 4 | 6 | 9 | 11 => 30
  | 2 => if isLeapYear year then 29 else 28
  | _ => 0

/-- Why a date does not exist. -/
inductive Invalid where
  | month (month : Nat)
  | day (day : Nat)
deriving DecidableEq, Repr

namespace Invalid

/-- The text of the error. -/
def message : Invalid → String
  | .month m => s!"month is invalid: {m}"
  | .day d => s!"day is invalid: {d}"

end Invalid

/-- Check that a date exists. -/
def validate (d : Date) : Except Invalid Unit :=
  if d.month < 1 || 12 < d.month then .error (.month d.month)
  else if d.day = 0 || daysInMonth d.year d.month < d.day then .error (.day d.day)
  else .ok ()

/-! ## Dates as they are written -/

/-- The digit zero. -/
def zero : UInt8 := '0'.toUInt8

/-- The hyphen between the parts of a date, and behind it in a file name. -/
def hyphen : UInt8 := '-'.toUInt8

/-- A number with one more digit. -/
def appendDigit {w : Nat} (n : BitVec w) (b : UInt8) : Reading (BitVec w) := do
  -- a byte below the digit zero wraps around, to a number above nine
  let digit := b - zero
  guard (digit ≤ 9)
  let tens ← mul n 10
  add tens (digit.toBitVec.setWidth w)

/-- The number that so many digits stand for. -/
def number (w count : Nat) (bytes : List UInt8) : Reading (BitVec w) := do
  guard (bytes.length = count)
  bytes.foldlM appendDigit 0

/-- The date that bytes of the form `YYYY-MM-DD` stand for. -/
def ofBytes (bytes : List UInt8) : Reading Date := do
  guard (bytes.length = 10)
  guard ((← byteAt bytes 4) = hyphen)
  guard ((← byteAt bytes 7) = hyphen)
  let year ← number 16 4 (← bytesBetween bytes 0 4)
  let month ← number 8 2 (← bytesBetween bytes 5 7)
  let day ← number 8 2 (← bytesBetween bytes 8 10)
  let date : Date := ⟨year.toNat, month.toNat, day.toNat⟩
  match date.validate with
  | .ok () => return date
  | .error _ => failure

/-- The date that a text of the form `YYYY-MM-DD` stands for. -/
def parse? (text : String) : Option Date := (ofBytes (encode text.toList)).value?

/-! ## Dates in file names -/

/-- Whether a character ends the name of a folder in a path. -/
def isSeparator (c : Char) : Bool := c = '/' || c = '\\'

/-- The byte of a path at which its last name begins. The characters in front of the byte `stop` are
still to be looked at, the last one first. -/
def nameStart (stop : Nat) : List Char → Nat
  | [] => 0
  | c :: rest => if isSeparator c then stop else nameStart (stop - c.utf8Size) rest

/-- The date, as written, that the last name of a path begins with and a hyphen follows. -/
def readFileName (path : List Char) : Reading (List Char) := do
  let name ← dropBytes (nameStart (byteLength path) path.reverse) path
  let (date, _) ← (cutBytes? 10 name).getM
  guard ((encode name)[10]? = some hyphen)
  let _ ← ofBytes (encode date)
  return date

/-- The date that a file name of the form `YYYY-MM-DD-rest` starts with, as written. -/
def ofFileName? (path : String) : Option String :=
  (readFileName path.toList).value?.map String.ofList

end Date
end Bindery
