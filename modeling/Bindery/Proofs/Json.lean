import Bindery.Value.Json
import Mathlib.Tactic.Lemma

/-!
# String literals of JSON

Most characters can be written in a JSON string in several ways: as they are, by an escape of two
characters, by their code, or as a pair of codes (`Writes`). A literal is read as the characters
that its parts write, whichever way it takes (`readString_of_isBody`), and quoting a text is one way
to write it (`isBody_escapeChar`).
-/

namespace Bindery
namespace Json

/-- A hexadecimal digit of a value, in lower or upper case. -/
def IsHexDigit (c : Char) (n : Nat) : Prop :=
  "0123456789abcdef".toList[n]? = some c ∨ "0123456789ABCDEF".toList[n]? = some c

/-- The four hexadecimal digits of a code. -/
inductive IsHex4 : List Char → Nat → Prop where
  | mk {a b c d : Char} {p q r s : Nat} (ha : IsHexDigit a p) (hb : IsHexDigit b q)
      (hc : IsHexDigit c r) (hd : IsHexDigit d s) :
      IsHex4 [a, b, c, d] (((p * 16 + q) * 16 + r) * 16 + s)

/-- The letters of the escapes of two characters, each with the character it stands for. -/
def shortEscapes : List (Char × Char) :=
  [('"', '"'), ('\\', '\\'), ('/', '/'), ('b', '\x08'), ('f', '\x0c'), ('n', '\n'), ('r', '\r'),
    ('t', '\t')]

/-- The ways to write a character in a JSON string. A code is never half of a surrogate pair, since
a character is none. -/
inductive Writes : List Char → Char → Prop where
  | plain {c : Char} (hquote : c ≠ '"') (hescape : c ≠ '\\') (hcontrol : 0x20 ≤ c.toNat) :
      Writes [c] c
  | short {letter c : Char} (h : (letter, c) ∈ shortEscapes) : Writes ['\\', letter] c
  | code {digits : List Char} {c : Char} (h : IsHex4 digits c.toNat) :
      Writes ('\\' :: 'u' :: digits) c
  | pair {high low : List Char} {m n : Nat} {c : Char} (hhigh : IsHex4 high m) (hlow : IsHex4 low n)
      (hm : 0xD800 ≤ m ∧ m < 0xDC00) (hn : 0xDC00 ≤ n ∧ n < 0xE000)
      (hc : c.toNat = 0x10000 + (m - 0xD800) * 0x400 + (n - 0xDC00)) :
      Writes ('\\' :: 'u' :: high ++ '\\' :: 'u' :: low) c

/-- What stands between the quotes of a JSON string, and the characters of its value. -/
inductive IsBody : List Char → List Char → Prop where
  | nil : IsBody [] []
  | cons {written body value : List Char} {c : Char} (hc : Writes written c)
      (h : IsBody body value) : IsBody (written ++ body) (c :: value)

/-! ## Hexadecimal digits -/

/-- A hexadecimal digit stands for a number below sixteen. -/
lemma IsHexDigit.lt {c : Char} {n : Nat} (h : IsHexDigit c n) : n < 16 := by
  rcases h with h | h <;> exact (List.getElem?_eq_some_iff.1 h).1

/-- What holds of the digits in both cases holds of a digit. -/
lemma IsHexDigit.eq_of_forall {α : Type} {f : Char → α} {g : Nat → α} {c : Char} {n : Nat}
    (hlower : ∀ n < 16, "0123456789abcdef".toList[n]?.map f = some (g n))
    (hupper : ∀ n < 16, "0123456789ABCDEF".toList[n]?.map f = some (g n))
    (h : IsHexDigit c n) : f c = g n := by
  have hlt := h.lt
  rcases h with h | h
  · have hvalue := hlower n hlt
    rw [h] at hvalue
    exact Option.some.inj hvalue
  · have hvalue := hupper n hlt
    rw [h] at hvalue
    exact Option.some.inj hvalue

lemma hexValue_of_isHexDigit {c : Char} {n : Nat} (h : IsHexDigit c n) :
    Text.hexValue c = some n :=
  h.eq_of_forall (f := Text.hexValue) (g := some) (by decide) (by decide)

lemma utf8Size_of_isHexDigit {c : Char} {n : Nat} (h : IsHexDigit c n) : c.utf8Size = 1 :=
  h.eq_of_forall (f := Char.utf8Size) (g := fun _ => 1) (by decide) (by decide)

/-- Every number below sixteen has a digit. -/
lemma isHexDigit_hexDigit {n : Nat} (h : n < 16) : IsHexDigit (Text.hexDigit n) n := by
  have hall : ∀ n < 16, "0123456789abcdef".toList[n]? = some (Text.hexDigit n) := by decide
  exact .inl (hall n h)

/-- Four digits are read as the code that they are. -/
lemma IsHex4.exists_hex4 {digits : List Char} {n : Nat} (h : IsHex4 digits n) :
    ∃ a b c d, digits = [a, b, c, d] ∧ hex4 a b c d = some n := by
  cases h with
  | mk ha hb hc hd =>
    refine ⟨_, _, _, _, rfl, ?_⟩
    simp [hex4, hexValue_of_isHexDigit ha, hexValue_of_isHexDigit hb, hexValue_of_isHexDigit hc,
      hexValue_of_isHexDigit hd]

/-- No character is half of a surrogate pair. -/
lemma not_surrogate (c : Char) : ¬ (0xD800 ≤ c.toNat ∧ c.toNat < 0xE000) := by
  have hvalid := c.valid
  rw [UInt32.isValidChar, Nat.isValidChar] at hvalid
  change c.toNat < 0xD800 ∨ 0xDFFF < c.toNat ∧ c.toNat < 0x110000 at hvalid
  omega

/-! ## Reading what is written -/

section

variable {written rest out body value after : List Char} {c : Char}

/-- What writes a character is read back as that character. -/
lemma readString_writes (h : Writes written c) (hrest : readString rest = some (out, after)) :
    readString (written ++ rest) = some (c :: out, after) := by
  cases h with
  | plain hquote hescape hcontrol =>
    rw [List.singleton_append, readString.eq_def]
    split <;> simp_all
  | short h =>
    simp only [shortEscapes, List.mem_cons, Prod.mk.injEq, List.not_mem_nil, or_false] at h
    rcases h with ⟨rfl, rfl⟩ | ⟨rfl, rfl⟩ | ⟨rfl, rfl⟩ | ⟨rfl, rfl⟩ | ⟨rfl, rfl⟩ | ⟨rfl, rfl⟩ |
      ⟨rfl, rfl⟩ | ⟨rfl, rfl⟩ <;> simp [readString, hrest]
  | code h =>
    obtain ⟨d₁, d₂, d₃, d₄, rfl, hcode⟩ := h.exists_hex4
    have hnone := not_surrogate c
    have hpair : ¬ (0xD800 ≤ c.toNat && c.toNat < 0xDC00) = true := by
      simp only [Bool.and_eq_true, decide_eq_true_eq]
      omega
    simp only [List.cons_append, List.nil_append, readString, hcode]
    rw [if_neg hpair, hrest, Option.map_some, Char.ofNat_toNat]
  | pair hhigh hlow hm hn hc =>
    obtain ⟨h₁, h₂, h₃, h₄, rfl, hcode⟩ := hhigh.exists_hex4
    obtain ⟨l₁, l₂, l₃, l₄, rfl, hlast⟩ := hlow.exists_hex4
    simp only [List.cons_append, List.nil_append, readString, hcode]
    rw [if_pos (by simpa using hm)]
    simp only [hlast]
    rw [if_pos (by simpa using hn), hrest, Option.map_some, ← hc, Char.ofNat_toNat]

/-- A string is read up to its closing quote, as the characters of its value. -/
lemma readString_of_isBody (h : IsBody body value) (after : List Char) :
    readString (body ++ '"' :: after) = some (value, after) := by
  induction h with
  | nil => rw [List.nil_append, readString]
  | cons hc h ih =>
    rw [List.append_assoc]
    exact readString_writes hc ih

/-! ## Quoted text -/

/-- A character is quoted in one of the ways to write it. -/
lemma writes_escapeChar (c : Char) : Writes (escapeChar c) c := by
  unfold escapeChar
  split
  · exact .short (by decide)
  · exact .short (by decide)
  · exact .short (by decide)
  · exact .short (by decide)
  · exact .short (by decide)
  · exact .short (by decide)
  · exact .short (by decide)
  · rename_i hquote hescape _ _ _ _ _
    split
    · rename_i hcontrol
      -- a control character is written by its code, which has two digits at most
      have hzero : IsHexDigit '0' 0 := .inl rfl
      have hcode := IsHex4.mk hzero hzero (isHexDigit_hexDigit (n := c.toNat / 16) (by omega))
        (isHexDigit_hexDigit (n := c.toNat % 16) (by omega))
      rw [show ((0 * 16 + 0) * 16 + c.toNat / 16) * 16 + c.toNat % 16 = c.toNat by omega] at hcode
      exact .code hcode
    · exact .plain hquote hescape (by omega)

/-- A text with every character escaped is the body of a string with that value. -/
lemma isBody_escapeChar (text : List Char) : IsBody (text.flatMap escapeChar) text := by
  induction text with
  | nil => exact .nil
  | cons c text ih => exact .cons (writes_escapeChar c) ih

end

end Json
end Bindery
