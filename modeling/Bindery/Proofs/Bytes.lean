import Bindery.Text.Classes
import Bindery.Text.Reading
import Mathlib.Algebra.Group.Nat.Defs
import Mathlib.Tactic.SplitIfs

/-!
# Bytes of characters

The bytes of a text are those of its characters, one after the other. A cut at a byte gives back the
text in two parts (`cutBytes?_eq_some_iff`), and a byte below 128 is a character of its own
(`getElem?_encode_eq_iff`). What a reading of bytes comes to is said by the values that are read,
which also says that there is no fault on the way (`Reads`).
-/

namespace Bindery
namespace Text

/-! ## Counting bytes -/

/-- Counting may begin at any number. -/
lemma foldl_utf8Size (n : Nat) (s : List Char) :
    s.foldl (fun n c => n + c.utf8Size) n = n + byteLength s := by
  induction s generalizing n with
  | nil => rfl
  | cons c s ih =>
    rw [byteLength, List.foldl_cons, List.foldl_cons, ih, ih (0 + c.utf8Size)]
    omega

lemma byteLength_cons (c : Char) (s : List Char) :
    byteLength (c :: s) = c.utf8Size + byteLength s := by
  rw [byteLength, List.foldl_cons, foldl_utf8Size, Nat.zero_add]

/-- The bytes of two texts add up. -/
lemma byteLength_append (s t : List Char) :
    byteLength (s ++ t) = byteLength s + byteLength t := by
  rw [byteLength, List.foldl_append, foldl_utf8Size]
  rfl

/-- Only the empty text has no bytes. -/
lemma byteLength_eq_zero_iff {s : List Char} : byteLength s = 0 ↔ s = [] := by
  cases s with
  | nil => simp [byteLength]
  | cons c s =>
    have hpos := c.utf8Size_pos
    rw [byteLength_cons]
    simp only [reduceCtorEq, iff_false]
    omega

/-- A text has as many bytes as are counted. -/
lemma length_encode (s : List Char) : (encode s).length = byteLength s := by
  induction s with
  | nil => rfl
  | cons c s ih =>
    rw [byteLength_cons, ← ih, encode, List.flatMap_cons, List.length_append,
      String.length_utf8EncodeChar]
    rfl

/-! ## Cutting at a byte -/

/-- A cut at a byte gives the two parts that meet there. -/
lemma cutBytes?_eq_some_iff {n : Nat} {s front back : List Char} :
    cutBytes? n s = some (front, back) ↔ s = front ++ back ∧ byteLength front = n := by
  fun_induction cutBytes? n s generalizing front with
  | case1 s =>
    rw [byteLength_eq_zero_iff, Option.some.injEq, Prod.mk.injEq]
    constructor
    · rintro ⟨rfl, rfl⟩
      exact ⟨rfl, rfl⟩
    · rintro ⟨rfl, rfl⟩
      exact ⟨rfl, rfl⟩
  | case2 n =>
    simp only [reduceCtorEq, false_iff, not_and, List.nil_eq, List.append_eq_nil_iff]
    rintro ⟨rfl, rfl⟩ hlength
    cases hlength
  | case3 n c rest hlt =>
    simp only [reduceCtorEq, false_iff, not_and]
    intro hs hlength
    cases front with
    | nil => cases hlength
    | cons d front =>
      rw [List.cons_append, List.cons.injEq] at hs
      rw [byteLength_cons, ← hs.1] at hlength
      omega
  | case4 n c rest hle ih =>
    rw [Option.map_eq_some_iff]
    constructor
    · rintro ⟨⟨front', back'⟩, hcut, heq⟩
      cases heq
      obtain ⟨rfl, hlength⟩ := ih.1 hcut
      refine ⟨rfl, ?_⟩
      rw [byteLength_cons, hlength]
      omega
    · rintro ⟨hs, hlength⟩
      cases front with
      | nil => cases hlength
      | cons d front =>
        rw [List.cons_append, List.cons.injEq] at hs
        obtain ⟨rfl, rfl⟩ := hs
        rw [byteLength_cons] at hlength
        exact ⟨(front, back), ih.2 ⟨rfl, by omega⟩, rfl⟩

lemma dropBytes_append (s t : List Char) : dropBytes (byteLength s) (s ++ t) = .ok t := by
  have hcut : cutBytes? (byteLength s) (s ++ t) = some (s, t) := cutBytes?_eq_some_iff.2 ⟨rfl, rfl⟩
  rw [dropBytes, hcut]

/-! ## Bytes at their positions -/

lemma byteAt_append (front back : List UInt8) (b : UInt8) :
    byteAt (front ++ b :: back) front.length = .ok b := by
  simp [byteAt]

/-- At every position below its length a list falls into a front, a byte and a back. -/
lemma exists_split {bytes : List UInt8} {n : Nat} (h : n < bytes.length) :
    ∃ front b back, bytes = front ++ b :: back ∧ front.length = n := by
  refine ⟨bytes.take n, bytes[n], bytes.drop (n + 1), ?_, ?_⟩
  · rw [← List.drop_eq_getElem_cons h, List.take_append_drop]
  · rw [List.length_take]
    omega

/-- The middle of three parts is read between the lengths in front of it and behind it. -/
lemma bytesBetween_append (front middle back : List UInt8) :
    bytesBetween (front ++ (middle ++ back)) front.length (front.length + middle.length)
      = .ok middle := by
  have hbounds : front.length ≤ front.length + middle.length ∧
      front.length + middle.length ≤ (front ++ (middle ++ back)).length := by
    simp only [List.length_append]
    omega
  rw [bytesBetween, if_pos hbounds]
  simp [List.take_append]

/-! ## Characters of one byte -/

lemma encode_append (s t : List Char) : encode (s ++ t) = encode s ++ encode t :=
  List.flatMap_append

/-- No two texts have the same bytes. -/
lemma encode_injective : Function.Injective encode := by
  intro s t h
  have hbytes : s.utf8Encode = t.utf8Encode := congrArg List.toByteArray h
  rw [← String.toByteArray_ofList, ← String.toByteArray_ofList, String.toByteArray_inj] at hbytes
  exact String.ofList_inj.1 hbytes

/-- A character below code point 128 is one byte, its own number. -/
lemma utf8EncodeChar_of_lt {c : Char} (h : c.toNat < 128) :
    String.utf8EncodeChar c = [c.toUInt8] := by
  have hc : c.val.toNat ≤ 0x7f := by
    have hval : c.val.toNat = c.toNat := rfl
    omega
  rw [String.utf8EncodeChar, if_pos hc]
  rfl

/-- A character begins with a byte below 128 only if it is the character of that byte. -/
lemma head?_utf8EncodeChar_eq_iff {c d : Char} (h : c.toNat < 128) :
    (String.utf8EncodeChar d).head? = some c.toUInt8 ↔ d = c := by
  constructor
  · intro hhead
    have hd : d.val.toNat = d.toNat := rfl
    have hc : c.toUInt8 = UInt8.ofNat c.toNat := rfl
    rw [String.utf8EncodeChar, hc] at hhead
    rw [← Char.toNat_inj]
    split_ifs at hhead
    all_goals
      rw [List.head?_cons, Option.some.injEq, ← UInt8.toNat_inj, UInt8.toNat_ofNat',
        UInt8.toNat_ofNat'] at hhead
      omega
  · rintro rfl
    rw [utf8EncodeChar_of_lt h]
    rfl

/-- A byte below 128 is a character of its own. -/
lemma getElem?_encode_eq_iff {c : Char} (h : c.toNat < 128) (s t : List Char) :
    (encode (s ++ t))[byteLength s]? = some c.toUInt8 ↔ ∃ rest, t = c :: rest := by
  rw [encode_append, List.getElem?_append_right (Nat.le_of_eq (length_encode s)),
    length_encode, Nat.sub_self]
  cases t with
  | nil => simp [encode]
  | cons d t =>
    obtain ⟨b, bytes, hd⟩ := List.exists_cons_of_ne_nil (String.utf8EncodeChar_ne_nil (c := d))
    have hhead := head?_utf8EncodeChar_eq_iff (d := d) h
    rw [hd, List.head?_cons] at hhead
    rw [encode, List.flatMap_cons, hd, List.cons_append, List.getElem?_cons_zero, hhead]
    simp

/-! ## Words that do not overflow -/

variable {w : Nat}

lemma exists_word {v : Nat} (h : v < 2 ^ w) : ∃ n : BitVec w, n.toNat = v :=
  ⟨BitVec.ofNat w v, by rw [BitVec.toNat_ofNat, Nat.mod_eq_of_lt h]⟩

/-- A sum that fits is computed without a fault. -/
lemma add_eq_ok {a b : BitVec w} (h : a.toNat + b.toNat < 2 ^ w) :
    add a b = .ok (a + b) := by
  rw [add, BitVec.uaddOverflow, if_neg (by simpa using h)]

/-- A product that fits is computed without a fault. -/
lemma mul_eq_ok {a b : BitVec w} (h : a.toNat * b.toNat < 2 ^ w) :
    mul a b = .ok (a * b) := by
  rw [mul, BitVec.umulOverflow, if_neg (by simpa using h)]

/-! ## Readings without a fault -/

/-- A reading comes without a fault to the values with a property, and to nothing if there are
none. -/
def Reads {α : Type} (reading : Reading α) (P : α → Prop) : Prop :=
  ∃ value?, reading.run = .ok value? ∧ ∀ a, value? = some a ↔ P a

namespace Reads

variable {α β : Type} {x : Reading α} {f : α → Reading β} {P P' : α → Prop} {Q : α → β → Prop}

/-- A reading without a fault runs to what it reads. -/
lemma run_eq (h : Reads x P) : x.run = .ok x.value? := by
  obtain ⟨value?, hrun, -⟩ := h
  rw [Reading.value?, hrun]

/-- It reads exactly the values that it is said to read. -/
lemma value?_eq_some_iff (h : Reads x P) {a : α} : x.value? = some a ↔ P a := by
  obtain ⟨value?, hrun, hvalue⟩ := h
  rw [Reading.value?, hrun]
  exact hvalue a

lemma congr (h : Reads x P) (hP : ∀ a, P a ↔ P' a) : Reads x P' := by
  obtain ⟨value?, hrun, hvalue⟩ := h
  exact ⟨value?, hrun, fun a => (hvalue a).trans (hP a)⟩

lemma of_pure (a : α) : Reads (pure a) (fun b => b = a) :=
  ⟨some a, rfl, fun b => by rw [Option.some.injEq, eq_comm]⟩

lemma of_failure : Reads (failure : Reading α) (fun _ => False) :=
  ⟨none, rfl, fun b => by simp⟩

/-- A check is passed exactly if it holds. -/
lemma of_guard (p : Prop) [Decidable p] : Reads (guard p : Reading Unit) (fun _ => p) := by
  by_cases hp : p
  · have hguard : (guard p : Reading Unit) = pure () := if_pos hp
    rw [hguard]
    exact (of_pure ()).congr fun _ => by simp [hp]
  · have hguard : (guard p : Reading Unit) = failure := if_neg hp
    rw [hguard]
    exact of_failure.congr fun _ => by simp [hp]

lemma of_getM (value? : Option α) :
    Reads (value?.getM : Reading α) (fun a => value? = some a) := by
  cases value? with
  | none => exact of_failure.congr fun _ => by simp
  | some b => exact (of_pure b).congr fun _ => by rw [Option.some.injEq, eq_comm]

/-- The steps of a reading one after the other: the second need only be free of faults for what the
first comes to. -/
lemma of_bind (hx : Reads x P) (hf : ∀ a, P a → Reads (f a) (Q a)) :
    Reads (x >>= f) (fun b => ∃ a, P a ∧ Q a b) := by
  obtain ⟨value?, hrun, hvalue⟩ := hx
  cases value? with
  | none =>
    refine ⟨none, ?_, fun b => ?_⟩
    · rw [OptionT.run_bind, hrun]
      rfl
    · simp only [reduceCtorEq, false_iff, not_exists, not_and]
      intro a ha
      cases (hvalue a).2 ha
  | some a =>
    obtain ⟨value?', hrun', hvalue'⟩ := hf a ((hvalue a).1 rfl)
    refine ⟨value?', ?_, fun b => ?_⟩
    · rw [OptionT.run_bind, hrun]
      exact hrun'
    · rw [hvalue' b]
      constructor
      · exact fun hb => ⟨a, (hvalue a).1 rfl, hb⟩
      · rintro ⟨a', ha', hb⟩
        cases (hvalue a').2 ha'
        exact hb

/-- A test in front of a reading. -/
lemma guard_bind {p : Prop} [Decidable p] {next : Unit → Reading β} {R : β → Prop}
    (h : p → Reads (next ()) R) : Reads (guard p >>= next) (fun b => p ∧ R b) :=
  ((of_guard p).of_bind fun _ hp => h hp).congr fun _ => by simp

/-- A computation without a fault reads its result. -/
lemma of_ok {y : Except Fault α} {a : α} (hy : y = .ok a) :
    Reads (liftM y : Reading α) (fun b => b = a) := by
  rw [hy]
  exact of_pure a

/-- A step that has a result in front of a reading. -/
lemma ok_bind {y : Except Fault α} {a : α} {R : β → Prop} (hy : y = .ok a) (h : Reads (f a) R) :
    Reads (liftM y >>= f) R :=
  ((of_ok hy).of_bind fun _ ha => ha ▸ h).congr fun _ => by simp

/-- A sum that fits its word is read. -/
lemma of_add {a b : BitVec w} (h : a.toNat + b.toNat < 2 ^ w) :
    Reads (liftM (add a b)) fun c => c.toNat = a.toNat + b.toNat := by
  refine (of_ok (add_eq_ok h)).congr fun c => ?_
  rw [← BitVec.toNat_inj, BitVec.toNat_add, Nat.mod_eq_of_lt h]

end Reads

end Text
end Bindery
