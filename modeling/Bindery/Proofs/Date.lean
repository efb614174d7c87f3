import Bindery.Date
import Bindery.Proofs.Bytes
import Mathlib.Data.List.Induction
import Mathlib.Data.List.TakeWhile
import Mathlib.Tactic.IntervalCases

/-!
# Dates in file names

A file name has a date if it begins with one of the Gregorian calendar in the form `YYYY-MM-DD` and
a hyphen follows (`ofFileName?_eq_some_iff`). The calendar is that of the standard library. The
bytes of a name are read in words of 8 and 16 bits and the name is cut at byte positions; all of
this goes without a fault, which every lemma about a reading says along with what is read.
-/

namespace Bindery
namespace Date

open Text
open Std.Time

/-! ## Digits -/

variable {w : Nat}

/-- The last digits of a number, as many as are asked for. -/
def lastDigits : (count n : Nat) → List Char
  | 0, _ => []
  | count + 1, n => lastDigits count (n / 10) ++ [Nat.digitChar (n % 10)]

/-- The byte of a digit. -/
def digitByte (d : Nat) : UInt8 := zero + UInt8.ofNat d

lemma encode_digitChar {d : Nat} (h : d < 10) : encode [Nat.digitChar d] = [digitByte d] := by
  decide +revert

lemma toNat_digitByte_sub {d : Nat} (h : d < 10) : (digitByte d - zero).toNat = d := by
  decide +revert

/-- A byte is a digit exactly if it is no more than nine above zero, also where the difference
wraps. -/
lemma sub_zero_le_iff {b : UInt8} : b - zero ≤ 9 ↔ ∃ d < 10, b = digitByte d := by
  rw [UInt8.le_iff_toNat_le]
  constructor
  · intro h
    refine ⟨(b - zero).toNat, Nat.lt_succ_of_le h, ?_⟩
    rw [digitByte, UInt8.ofNat_toNat, UInt8.add_comm, UInt8.sub_add_cancel]
  · rintro ⟨d, hd, rfl⟩
    rw [toNat_digitByte_sub hd]
    exact Nat.le_of_lt_succ hd

/-- One more digit is read without a fault as long as the number fits its word with any digit. -/
lemma reads_appendDigit (hw : 4 ≤ w) {n : BitVec w} (h : n.toNat * 10 + 9 < 2 ^ w) (b : UInt8) :
    Reads (appendDigit n b) fun m => ∃ d < 10, b = digitByte d ∧ m.toNat = n.toNat * 10 + d := by
  have hpow : 2 ^ 4 ≤ 2 ^ w := Nat.pow_le_pow_right (by decide) hw
  have hten : (10 : BitVec w).toNat = 10 :=
    (BitVec.toNat_ofNat 10 w).trans (Nat.mod_eq_of_lt (by omega))
  have htens : (n * 10).toNat = n.toNat * 10 := by
    rw [BitVec.toNat_mul, hten, Nat.mod_eq_of_lt (by omega)]
  have hread : Reads (appendDigit n b) fun m =>
      b - zero ≤ 9 ∧ m.toNat = n.toNat * 10 + (b - zero).toNat := by
    refine Reads.guard_bind fun hb => Reads.ok_bind (mul_eq_ok (by rw [hten]; omega)) ?_
    -- the digit is at most nine, so that the sum fits the word as well
    have hnine : (b - zero).toNat ≤ 9 := UInt8.le_iff_toNat_le.1 hb
    have hdigit : ((b - zero).toBitVec.setWidth w).toNat = (b - zero).toNat := by
      rw [BitVec.toNat_setWidth, UInt8.toNat_toBitVec, Nat.mod_eq_of_lt (by omega)]
    rw [← htens, ← hdigit]
    exact Reads.of_add (by rw [htens, hdigit]; omega)
  refine hread.congr fun m => ⟨?_, ?_⟩
  · rintro ⟨hb, hm⟩
    obtain ⟨d, hd, rfl⟩ := sub_zero_le_iff.1 hb
    exact ⟨d, hd, rfl, by rw [hm, toNat_digitByte_sub hd]⟩
  · rintro ⟨d, hd, rfl, hm⟩
    exact ⟨sub_zero_le_iff.2 ⟨d, hd, rfl⟩, by rw [hm, toNat_digitByte_sub hd]⟩

lemma encode_lastDigits (count n : Nat) : encode (lastDigits (count + 1) n)
    = encode (lastDigits count (n / 10)) ++ [digitByte (n % 10)] := by
  rw [lastDigits, encode_append, encode_digitChar (Nat.mod_lt n (by decide))]

/-- Each of the digits takes one byte. -/
lemma length_encode_lastDigits (count n : Nat) :
    (encode (lastDigits count n)).length = count := by
  induction count generalizing n with
  | zero => rfl
  | succ count ih => rw [encode_lastDigits, List.length_append, ih]; rfl

/-- Digits are read to the number they stand for, without a fault as long as the word holds any
number of as many digits. -/
lemma reads_digits (hw : 4 ≤ w) (bytes : List UInt8) (h : 10 ^ bytes.length ≤ 2 ^ w) :
    Reads (bytes.foldlM appendDigit (0 : BitVec w)) fun n =>
      n.toNat < 10 ^ bytes.length ∧ bytes = encode (lastDigits bytes.length n.toNat) := by
  induction bytes using List.reverseRecOn with
  | nil =>
    refine (Reads.of_pure (0 : BitVec w)).congr fun n => ?_
    simp [lastDigits, encode, ← BitVec.toNat_inj]
  | append_singleton bytes b ih =>
    have hstep : (bytes ++ [b]).foldlM appendDigit (0 : BitVec w)
        = bytes.foldlM appendDigit 0 >>= fun n => appendDigit n b := by
      rw [List.foldlM_append]
      simp only [List.foldlM_cons, List.foldlM_nil, bind_pure]
    rw [List.length_append, List.length_singleton, Nat.pow_succ] at h ⊢
    have hread := (ih (by omega)).of_bind fun n hn => reads_appendDigit (n := n) hw (by omega) b
    rw [hstep]
    refine hread.congr fun m => ⟨?_, ?_⟩
    · rintro ⟨n, ⟨hn, hbytes⟩, d, hd, rfl, hm⟩
      have hdiv : m.toNat / 10 = n.toNat := by omega
      have hmod : m.toNat % 10 = d := by omega
      rw [encode_lastDigits, hdiv, hmod, ← hbytes]
      exact ⟨by omega, rfl⟩
    · rintro ⟨hm, hbytes⟩
      rw [encode_lastDigits] at hbytes
      obtain ⟨hfront, hb⟩ := List.append_inj hbytes (length_encode_lastDigits _ _).symm
      obtain ⟨n, hn⟩ := exists_word (w := w) (v := m.toNat / 10) (by omega)
      refine ⟨n, ?_, m.toNat % 10, Nat.mod_lt _ (by decide), List.singleton_inj.1 hb, ?_⟩
      · rw [hn]
        exact ⟨by omega, hfront⟩
      · rw [hn]
        omega

/-- A number is read from exactly the texts that write it in so many digits, if it fits a word. -/
lemma reads_number (hw : 4 ≤ w) {count : Nat} (h : 10 ^ count ≤ 2 ^ w) (bytes : List UInt8) :
    Reads (number w count bytes) fun n =>
      n.toNat < 10 ^ count ∧ bytes = encode (lastDigits count n.toNat) := by
  have hread : Reads (number w count bytes) fun n => bytes.length = count ∧
      n.toNat < 10 ^ count ∧ bytes = encode (lastDigits count n.toNat) := by
    refine Reads.guard_bind fun hlength => ?_
    subst hlength
    exact reads_digits hw bytes h
  refine hread.congr fun n => and_iff_right_of_imp ?_
  rintro ⟨-, hbytes⟩
  rw [hbytes, length_encode_lastDigits]

/-- A number is read in front of what its value is needed for. -/
lemma number_bind {β : Type} {next : BitVec w → Reading β} {R : Nat → β → Prop} (hw : 4 ≤ w)
    {count : Nat} (h : 10 ^ count ≤ 2 ^ w) (bytes : List UInt8)
    (hnext : ∀ n, Reads (next n) (R n.toNat)) :
    Reads (number w count bytes >>= next) fun b =>
      ∃ v, (v < 10 ^ count ∧ bytes = encode (lastDigits count v)) ∧ R v b := by
  refine ((reads_number hw h bytes).of_bind fun n _ => hnext n).congr fun b => ⟨?_, ?_⟩
  · rintro ⟨n, hn, hb⟩
    exact ⟨n.toNat, hn, hb⟩
  · rintro ⟨v, hv, hb⟩
    obtain ⟨n, rfl⟩ := exists_word (Nat.lt_of_lt_of_le hv.1 h)
    exact ⟨n, hv, hb⟩

/-! ## The calendar -/

/-- A date is one of the Gregorian calendar, as the standard library has it. -/
def InCalendar (date : Date) : Prop :=
  ∃ day : PlainDate,
    day.year.toInt = date.year ∧ day.month.val = date.month ∧ day.day.val = date.day

/-- A date is valid if its month is one of the year and its day one of the month. -/
lemma validate_eq_ok_iff {date : Date} : date.validate = .ok () ↔
    (1 ≤ date.month ∧ date.month ≤ 12) ∧ 1 ≤ date.day ∧
      date.day ≤ daysInMonth date.year date.month := by
  unfold validate
  split_ifs with hmonth hday
  · simp only [Bool.or_eq_true, decide_eq_true_eq] at hmonth
    simp only [false_iff]
    omega
  · simp only [Bool.or_eq_true, decide_eq_true_eq] at hday
    simp only [false_iff]
    omega
  · simp only [Bool.or_eq_true, decide_eq_true_eq, not_or] at hmonth hday
    simp only [true_iff]
    omega

lemma isLeap_eq {year : Year.Offset} {y : Nat} (h : year.toInt = y) :
    year.isLeap = isLeapYear y := by
  -- the years of the library may be negative; from zero on, both ways to divide are the same
  have hmod (k : Nat) : (y : Int).tmod k = 0 ↔ y % k = 0 := by
    rw [Int.tmod_eq_emod_of_nonneg (Int.natCast_nonneg y)]
    omega
  have h4 : (y : Int).tmod 4 = 0 ↔ y % 4 = 0 := hmod 4
  have h100 : (y : Int).tmod 100 = 0 ↔ y % 100 = 0 := hmod 100
  have h400 : (y : Int).tmod 400 = 0 ↔ y % 400 = 0 := hmod 400
  rw [Year.Offset.isLeap, isLeapYear, h]
  simp only [ne_eq, h4, h100, h400, Bool.decide_and, Bool.decide_or]

/-- A month has as many days as in the calendar of the library. -/
lemma days_eq (year : Nat) {m : Nat} (hm : 1 ≤ (m : Int) ∧ (m : Int) ≤ 12) :
    (Month.Ordinal.days (isLeapYear year) ⟨m, hm⟩).val = daysInMonth year m := by
  have hlow : 1 ≤ m := by omega
  have hhigh : m ≤ 12 := by omega
  unfold daysInMonth
  generalize isLeapYear year = leap
  interval_cases m <;> cases leap <;> rfl

/-- Whether a day exists is known from the days of its month. -/
lemma valid_iff {year : Year.Offset} {y m d : Nat} (hy : year.toInt = y)
    (hm : 1 ≤ (m : Int) ∧ (m : Int) ≤ 12) (hd : 1 ≤ (d : Int) ∧ (d : Int) ≤ 31) :
    year.Valid ⟨m, hm⟩ ⟨d, hd⟩ ↔ d ≤ daysInMonth y m := by
  have hle : year.Valid ⟨m, hm⟩ ⟨d, hd⟩ ↔
      (d : Int) ≤ (Month.Ordinal.days year.isLeap ⟨m, hm⟩).val := Iff.rfl
  rw [hle, isLeap_eq hy, days_eq y hm, Int.ofNat_le]

/-- A date exists if it is one of the calendar. -/
lemma validate_iff_inCalendar {date : Date} : date.validate = .ok () ↔ date.InCalendar := by
  rw [validate_eq_ok_iff]
  constructor
  · rintro ⟨hmonth, hlow, hhigh⟩
    have hm : (1 : Int) ≤ date.month ∧ (date.month : Int) ≤ 12 := by omega
    have hlast := (Month.Ordinal.days (isLeapYear date.year) ⟨date.month, hm⟩).property.2
    rw [days_eq date.year hm] at hlast
    have hd : (1 : Int) ≤ date.day ∧ (date.day : Int) ≤ 31 := by omega
    exact ⟨⟨.ofNat date.year, ⟨date.month, hm⟩, ⟨date.day, hd⟩, (valid_iff rfl hm hd).2 hhigh⟩,
      rfl, rfl, rfl⟩
  · rintro ⟨⟨year, ⟨month, hm⟩, ⟨day, hd⟩, hvalid⟩, hyear, rfl, rfl⟩
    have hhigh := (valid_iff hyear hm hd).1 hvalid
    exact ⟨by omega, by omega, hhigh⟩

/-- Month and day have two digits at most. -/
lemma InCalendar.lt {date : Date} (h : date.InCalendar) :
    date.month < 10 ^ 2 ∧ date.day < 10 ^ 2 := by
  obtain ⟨⟨year, ⟨month, hm⟩, ⟨day, hd⟩, -⟩, -, rfl, rfl⟩ := h
  exact ⟨by omega, by omega⟩

/-! ## Dates as they are written -/

/-- A date as `YYYY-MM-DD`. -/
def written (date : Date) : List Char :=
  lastDigits 4 date.year ++ '-' :: (lastDigits 2 date.month ++ '-' :: lastDigits 2 date.day)

lemma encode_hyphen (s t : List Char) : encode (s ++ '-' :: t) = encode s ++ hyphen :: encode t :=
  encode_append s ('-' :: t)

lemma length_encode_written (date : Date) : (encode date.written).length = 10 := by
  rw [written, encode_hyphen, encode_hyphen]
  simp only [List.length_append, List.length_cons, length_encode_lastDigits]

/-- A date is written as its three parts with hyphens between them. -/
lemma encode_written_iff {date : Date} {y m d : List UInt8} {b c : UInt8} (hy : y.length = 4)
    (hm : m.length = 2) : y ++ b :: (m ++ c :: d) = encode date.written ↔
      y = encode (lastDigits 4 date.year) ∧ b = hyphen ∧ m = encode (lastDigits 2 date.month) ∧
        c = hyphen ∧ d = encode (lastDigits 2 date.day) := by
  rw [written, encode_hyphen, encode_hyphen]
  constructor
  · intro h
    obtain ⟨rfl, hrest⟩ := List.append_inj h (by rw [hy, length_encode_lastDigits])
    rw [List.cons.injEq] at hrest
    obtain ⟨rfl, hd⟩ := List.append_inj hrest.2 (by rw [hm, length_encode_lastDigits])
    rw [List.cons.injEq] at hd
    exact ⟨rfl, hrest.1, rfl, hd⟩
  · rintro ⟨rfl, rfl, rfl, rfl, rfl⟩
    rfl

/-- The parts of a date are read from where they stand. -/
lemma reads_parts {bytes y m d : List UInt8} {b c : UInt8}
    (hbytes : bytes = y ++ b :: (m ++ c :: d)) (hy : y.length = 4) (hm : m.length = 2)
    (hd : d.length = 2) : Reads (ofBytes bytes) fun date => bytes.length = 10 ∧ b = hyphen ∧
      c = hyphen ∧ ∃ year, (year < 10 ^ 4 ∧ y = encode (lastDigits 4 year)) ∧
      ∃ month, (month < 10 ^ 2 ∧ m = encode (lastDigits 2 month)) ∧
      ∃ day, (day < 10 ^ 2 ∧ d = encode (lastDigits 2 day)) ∧
      InCalendar ⟨year, month, day⟩ ∧ date = ⟨year, month, day⟩ := by
  have hb : byteAt bytes 4 = .ok b := by
    simpa [hbytes, hy] using byteAt_append y (m ++ c :: d) b
  have hc : byteAt bytes 7 = .ok c := by
    simpa [hbytes, hy, hm] using byteAt_append (y ++ b :: m) d c
  have hyear : bytesBetween bytes 0 4 = .ok y := by
    simpa [hbytes, hy] using bytesBetween_append [] y (b :: (m ++ c :: d))
  have hmonth : bytesBetween bytes 5 7 = .ok m := by
    simpa [hbytes, hy, hm] using bytesBetween_append (y ++ [b]) m (c :: d)
  have hday : bytesBetween bytes 8 10 = .ok d := by
    simpa [hbytes, hy, hm, hd] using bytesBetween_append (y ++ b :: (m ++ [c])) d []
  refine Reads.guard_bind fun _ => ?_
  refine Reads.ok_bind hb (Reads.guard_bind fun _ => ?_)
  refine Reads.ok_bind hc (Reads.guard_bind fun _ => ?_)
  refine Reads.ok_bind hyear (number_bind (by decide) (by decide) y fun year => ?_)
  refine Reads.ok_bind hmonth (number_bind (by decide) (by decide) m fun month => ?_)
  refine Reads.ok_bind hday (number_bind (by decide) (by decide) d fun day => ?_)
  dsimp only
  cases hvalid : validate ⟨year.toNat, month.toNat, day.toNat⟩ with
  | ok =>
    have hcalendar := validate_iff_inCalendar.1 hvalid
    exact (Reads.of_pure _).congr fun _ => (and_iff_right hcalendar).symm
  | error e =>
    refine Reads.of_failure.congr fun _ => ⟨False.elim, fun h => ?_⟩
    rw [validate_iff_inCalendar.2 h.1] at hvalid
    cases hvalid

/-- Any bytes are read without a fault, to the date of the calendar that they write. -/
lemma reads_ofBytes (bytes : List UInt8) : Reads (ofBytes bytes) fun date =>
    date.InCalendar ∧ date.year ≤ 9999 ∧ bytes = encode date.written := by
  by_cases hlength : bytes.length = 10
  · -- ten bytes are four, two and two with a byte between them
    obtain ⟨y, b, rest, hbytes, hy⟩ := exists_split (show 4 < bytes.length by omega)
    have hrest : rest.length = 5 := by
      rw [hbytes, List.length_append, List.length_cons] at hlength
      omega
    obtain ⟨m, c, d, rfl, hm⟩ := exists_split (show 2 < rest.length by omega)
    have hd : d.length = 2 := by
      rw [List.length_append, List.length_cons] at hrest
      omega
    refine (reads_parts hbytes hy hm hd).congr fun date => ?_
    rw [hbytes, encode_written_iff hy hm]
    constructor
    · rintro ⟨-, hb, hc, year, ⟨hlt, hyear⟩, month, ⟨-, hmonth⟩, day, ⟨-, hday⟩, hcalendar, rfl⟩
      exact ⟨hcalendar, Nat.le_of_lt_succ hlt, hyear, hb, hmonth, hc, hday⟩
    · rintro ⟨hcalendar, hle, hyear, hb, hmonth, hc, hday⟩
      exact ⟨hbytes ▸ hlength, hb, hc, date.year, ⟨Nat.lt_succ_of_le hle, hyear⟩, date.month,
        ⟨hcalendar.lt.1, hmonth⟩, date.day, ⟨hcalendar.lt.2, hday⟩, hcalendar, rfl⟩
  · have hread : Reads (ofBytes bytes) fun _ => bytes.length = 10 ∧ False :=
      Reads.guard_bind fun h => absurd h hlength
    refine hread.congr fun date => ⟨fun h => h.2.elim, ?_⟩
    rintro ⟨-, -, rfl⟩
    exact absurd (length_encode_written date) hlength

/-- The date that a text stands for is the one that it writes. -/
theorem parse?_eq_some_iff {text : String} {date : Date} : parse? text = some date ↔
    date.InCalendar ∧ date.year ≤ 9999 ∧ text.toList = date.written := by
  rw [parse?, (reads_ofBytes _).value?_eq_some_iff, encode_injective.eq_iff]

/-! ## The last name of a path -/

/-- A name is what follows the last separator of a path. -/
def IsLastName (path name : List Char) : Prop :=
  (∀ c ∈ name, c ≠ '/' ∧ c ≠ '\\') ∧
    (path = name ∨ ∃ folder c, (c = '/' ∨ c = '\\') ∧ path = folder ++ c :: name)

lemma isSeparator_iff {c : Char} : isSeparator c = true ↔ c = '/' ∨ c = '\\' := by
  rw [isSeparator, Bool.or_eq_true, decide_eq_true_eq, decide_eq_true_eq]

lemma isSeparator_eq_false_iff {c : Char} : isSeparator c = false ↔ c ≠ '/' ∧ c ≠ '\\' := by
  rw [← Bool.not_eq_true, isSeparator_iff, not_or]

variable {path name : List Char}

/-- The last name is the longest text at the end that holds no separator. -/
lemma IsLastName.eq (h : IsLastName path name) :
    name = (path.reverse.takeWhile fun c => !isSeparator c).reverse := by
  obtain ⟨hname, hpath⟩ := h
  have hkept : ∀ c ∈ name.reverse, (!isSeparator c) = true := by
    intro c hc
    rw [isSeparator_eq_false_iff.2 (hname c (List.mem_reverse.1 hc))]
    rfl
  rcases hpath with rfl | ⟨folder, c, hc, rfl⟩
  · rw [List.takeWhile_eq_self_iff.2 hkept, List.reverse_reverse]
  · rw [List.reverse_append, List.reverse_cons, List.append_assoc,
      List.takeWhile_append_of_pos hkept, List.singleton_append,
      List.takeWhile_cons_of_neg (by simp [isSeparator_iff.2 hc]), List.append_nil,
      List.reverse_reverse]

/-- A path has one last name. -/
lemma IsLastName.unique {other : List Char} (h : IsLastName path name)
    (hother : IsLastName path other) : name = other :=
  h.eq.trans hother.eq.symm

/-- The last name is found, and it begins where a character does. -/
lemma exists_nameStart (path : List Char) : ∃ folder name, path = folder ++ name ∧
    nameStart (byteLength path) path.reverse = byteLength folder ∧ IsLastName path name := by
  induction path using List.reverseRecOn with
  | nil => exact ⟨[], [], rfl, rfl, fun _ h => absurd h List.not_mem_nil, .inl rfl⟩
  | append_singleton path c ih =>
    obtain ⟨folder, name, hpath, hstart, hname, hlast⟩ := ih
    rw [List.reverse_append, List.reverse_singleton, List.singleton_append, nameStart]
    -- behind a separator the name is empty, and any other character goes on with it
    cases hc : isSeparator c with
    | true =>
      exact ⟨path ++ [c], [], (List.append_nil _).symm, if_pos rfl,
        fun _ h => absurd h List.not_mem_nil, .inr ⟨path, c, isSeparator_iff.1 hc, rfl⟩⟩
    | false =>
      have hbytes : byteLength (path ++ [c]) - c.utf8Size = byteLength path := by
        rw [byteLength_append, byteLength_cons]
        simp [byteLength]
      refine ⟨folder, name ++ [c], by rw [hpath, List.append_assoc], ?_, ?_, ?_⟩
      · rw [if_neg Bool.false_ne_true, hbytes, hstart]
      · intro d hd
        rcases List.mem_append.1 hd with hd | hd
        · exact hname d hd
        · rw [List.mem_singleton.1 hd]
          exact isSeparator_eq_false_iff.1 hc
      · rcases hlast with rfl | ⟨front, d, hd, hfront⟩
        · exact .inl rfl
        · refine .inr ⟨front, d, hd, ?_⟩
          rw [hfront, List.append_assoc, List.cons_append]

/-! ## Dates in file names -/

/-- A text is a date of the calendar as it is written, in a year of four digits. -/
def IsWritten (s : List Char) : Prop :=
  ∃ date : Date, date.InCalendar ∧ date.year ≤ 9999 ∧ s = date.written

/-- Any path is read without a fault, to the date that its last name begins with. -/
lemma reads_readFileName (path : List Char) : Reads (readFileName path) fun date =>
    ∃ rest, IsLastName path (date ++ '-' :: rest) ∧ IsWritten date := by
  obtain ⟨folder, name, hpath, hstart, hname⟩ := exists_nameStart path
  have hdrop : dropBytes (nameStart (byteLength path) path.reverse) path = .ok name := by
    rw [hstart, hpath, dropBytes_append]
  have hread : Reads (readFileName path) fun date => ∃ cut : List Char × List Char,
      cutBytes? 10 name = some cut ∧ (encode name)[10]? = some hyphen ∧
      ∃ found : Date, (found.InCalendar ∧ found.year ≤ 9999 ∧
        encode cut.1 = encode found.written) ∧ date = cut.1 := by
    refine Reads.ok_bind hdrop ((Reads.of_getM _).of_bind fun ⟨front, back⟩ _ => ?_)
    refine Reads.guard_bind fun _ => (reads_ofBytes _).of_bind fun _ _ => Reads.of_pure front
  refine hread.congr fun date => ?_
  -- a hyphen at the byte behind the cut is the character that the rest begins with
  constructor
  · rintro ⟨⟨front, back⟩, hcut, hhyphen, found, ⟨hcalendar, hyear, hbytes⟩, rfl⟩
    obtain ⟨rfl, hten⟩ := cutBytes?_eq_some_iff.1 hcut
    rw [← hten] at hhyphen
    obtain ⟨rest, rfl⟩ := (getElem?_encode_eq_iff (c := '-') (by decide) _ _).1 hhyphen
    exact ⟨rest, hname, found, hcalendar, hyear, encode_injective hbytes⟩
  · rintro ⟨rest, hlast, found, hcalendar, hyear, rfl⟩
    have hten : byteLength found.written = 10 := by
      rw [← length_encode, length_encode_written]
    rw [hname.unique hlast]
    refine ⟨(found.written, '-' :: rest), cutBytes?_eq_some_iff.2 ⟨rfl, hten⟩, ?_, found,
      ⟨hcalendar, hyear, rfl⟩, rfl⟩
    rw [← hten]
    exact (getElem?_encode_eq_iff (c := '-') (by decide) _ _).2 ⟨rest, rfl⟩

/-- The date in a file name is what the last name of the path begins with, up to a hyphen, if that
is a date of the Gregorian calendar from the year 0000 to 9999 in the form `YYYY-MM-DD`. It is found
without a fault in any path, and a date is read without a fault of any bytes. -/
theorem ofFileName?_eq_some_iff (path : String) :
    (∀ date : String, ofFileName? path = some date ↔
      ∃ rest, IsLastName path.toList (date.toList ++ '-' :: rest) ∧ IsWritten date.toList) ∧
    (readFileName path.toList).run = .ok ((ofFileName? path).map String.toList) ∧
    ∀ bytes, ∃ date?, (ofBytes bytes).run = .ok date? := by
  have hread := reads_readFileName path.toList
  refine ⟨fun date => ?_, ?_, fun bytes => ⟨_, (reads_ofBytes bytes).run_eq⟩⟩
  · rw [← hread.value?_eq_some_iff, ofFileName?, Option.map_eq_some_iff]
    constructor
    · rintro ⟨s, hs, rfl⟩
      rw [hs, String.toList_ofList]
    · exact fun h => ⟨_, h, String.ofList_toList⟩
  · have hid : String.toList ∘ String.ofList = id := funext fun _ => String.toList_ofList
    rw [hread.run_eq, ofFileName?, Option.map_map, hid, Option.map_id_apply]

example : ofFileName? "posts\\2024-02-29-é.md" = some "2024-02-29" := by decide

example : ofFileName? "2023-02-29-leap.md" = none := by decide

example : ofFileName? "202é-06-15-x.md" = none := by decide

end Date
end Bindery
