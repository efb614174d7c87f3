/-!
# Text from bytes

Bytes are a text if they are well-formed UTF-8. Where they are not, each longest start of a
sequence that no sequence goes on from is shown as one replacement character.
-/

namespace Bindery.Text

/-- The character that stands for bytes that are no text. -/
def replacement : Char := '\uFFFD'

/-- The text of well-formed bytes. -/
def ofBytes? (bytes : List UInt8) : Option String :=
  String.fromUTF8? ⟨bytes.toArray⟩

/-- The bytes of a text. -/
def toBytes (s : String) : List UInt8 := s.toUTF8.toList

/-- For the first byte of a sequence of several bytes: how many follow, and between which bounds
the second one lies. -/
def sequenceOf (b : UInt8) : Option (Nat × UInt8 × UInt8) :=
  if 0xC2 ≤ b && b ≤ 0xDF then some (1, 0x80, 0xBF)
  else if b = 0xE0 then some (2, 0xA0, 0xBF)
  else if b = 0xED then some (2, 0x80, 0x9F)
  else if 0xE1 ≤ b && b ≤ 0xEF then some (2, 0x80, 0xBF)
  else if b = 0xF0 then some (3, 0x90, 0xBF)
  else if 0xF1 ≤ b && b ≤ 0xF3 then some (3, 0x80, 0xBF)
  else if b = 0xF4 then some (3, 0x80, 0x8F)
  else none

/-- What has been read of a sequence: its value so far, how many bytes are missing, and the bounds
of the next one. -/
structure Pending where
  value : Nat
  missing : Nat
  low : UInt8
  high : UInt8

/-- The characters of bytes, while a sequence is pending. -/
def lossyFrom (pending : Option Pending) : List UInt8 → List Char
  | [] => if pending.isSome then [replacement] else []
  | b :: rest =>
    let begin_ (_ : Unit) : List Char :=
      if b < 0x80 then Char.ofNat b.toNat :: lossyFrom none rest
      else
        match sequenceOf b with
        | some (missing, low, high) =>
          let value := b.toNat % (1 <<< (6 - missing))
          lossyFrom (some ⟨value, missing, low, high⟩) rest
        | none => replacement :: lossyFrom none rest
    match pending with
    | none => begin_ ()
    | some p =>
      if p.low ≤ b && b ≤ p.high then
        let value := p.value * 64 + b.toNat % 64
        if p.missing = 1 then Char.ofNat value :: lossyFrom none rest
        else lossyFrom (some ⟨value, p.missing - 1, 0x80, 0xBF⟩) rest
      else replacement :: begin_ ()

/-- The text that bytes are shown as. -/
def ofBytesLossy (bytes : List UInt8) : String := String.ofList (lossyFrom none bytes)

end Bindery.Text
