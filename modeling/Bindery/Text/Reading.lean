/-!
# Reading by bytes

What is read off the bytes of a text may be nothing, and an operation on the way may have no result
at all: a sum that does not fit its word, a byte behind the last one, a cut inside a character. Such
a fault is kept apart from a reading of nothing.
-/

namespace Bindery.Text

/-- Why an operation has no result. -/
inductive Fault where
  /-- A number does not fit its word. -/
  | overflow
  /-- There is no such byte. -/
  | noByte
  /-- A text is cut where no character ends. -/
  | noBoundary
deriving DecidableEq, Repr

/-- What is read: something, nothing, or a fault on the way. -/
abbrev Reading (α : Type) := OptionT (Except Fault) α

/-- Something that was read without a fault. -/
def Reading.value? {α : Type} (reading : Reading α) : Option α :=
  match reading.run with
  | .ok value? => value?
  | .error _ => none

/-! ## Words -/

/-- The sum of two words, if it is a word. -/
def add {w : Nat} (a b : BitVec w) : Except Fault (BitVec w) :=
  if a.uaddOverflow b then .error .overflow else .ok (a + b)

/-- The product of two words, if it is a word. -/
def mul {w : Nat} (a b : BitVec w) : Except Fault (BitVec w) :=
  if a.umulOverflow b then .error .overflow else .ok (a * b)

/-! ## Bytes -/

/-- The bytes of characters. -/
def encode (s : List Char) : List UInt8 := s.flatMap String.utf8EncodeChar

/-- The byte at a position. -/
def byteAt (bytes : List UInt8) (i : Nat) : Except Fault UInt8 :=
  match bytes[i]? with
  | some b => .ok b
  | none => .error .noByte

/-- The bytes between two positions. -/
def bytesBetween (bytes : List UInt8) (start stop : Nat) : Except Fault (List UInt8) :=
  if start ≤ stop ∧ stop ≤ bytes.length then .ok ((bytes.take stop).drop start)
  else .error .noByte

/-! ## Characters cut at a byte -/

/-- What stands in front of a byte and what follows from there on; none if a character goes on over
that byte, or if there are not as many bytes. -/
def cutBytes? : (n : Nat) → List Char → Option (List Char × List Char)
  | 0, s => some ([], s)
  | _ + 1, [] => none
  | n + 1, c :: rest =>
    if n + 1 < c.utf8Size then none
    else (cutBytes? (n + 1 - c.utf8Size) rest).map fun (front, back) => (c :: front, back)

/-- What follows from a byte on, where a character has to begin. -/
def dropBytes (n : Nat) (s : List Char) : Except Fault (List Char) :=
  match cutBytes? n s with
  | some (_, back) => .ok back
  | none => .error .noBoundary

end Bindery.Text
