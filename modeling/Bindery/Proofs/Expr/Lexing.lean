import Bindery.Expr.Token
import Bindery.Proofs.Bytes
import Bindery.Proofs.Json

/-!
# Tokens of code put together

Code that is written one part after the other is cut into the tokens of its parts
(`Lexes.append`), as long as no number or name goes on across the seam (`Separates`). The places of
tokens only matter to messages, so the facts here are about tokens without them (`Lexes`).
-/

namespace Bindery
namespace Expr

/-- The tokens of code wherever it stands, without their places. -/
def Lexes (code : List Char) (tokens : List Token) : Prop :=
  ∀ offset, ∃ placed, lexFrom offset code = .ok placed ∧ placed.map Placed.token = tokens

/-- A text in front of which a number or a name ends. -/
def Separates (s : List Char) : Prop :=
  ∀ c ∈ s.head?, isNumberChar c = false ∧ isNameChar c = false

/-! ## Characters that a token goes on with -/

/-- What is taken ends at the seam if the second text does not begin with more of it. -/
lemma takeWhile_append_of_head {p : Char → Bool} (s : List Char) {t : List Char}
    (h : ∀ c ∈ t.head?, p c = false) : (s ++ t).takeWhile p = s.takeWhile p := by
  induction s with
  | nil =>
    cases t with
    | nil => rfl
    | cons c t => exact List.takeWhile_cons_of_neg (by simp [h c (by simp)])
  | cons c s ih =>
    rw [List.cons_append, List.takeWhile_cons, List.takeWhile_cons, ih]

/-- What is dropped ends at the seam if the second text does not begin with more of it. -/
lemma dropWhile_append_of_head {p : Char → Bool} (s : List Char) {t : List Char}
    (h : ∀ c ∈ t.head?, p c = false) : (s ++ t).dropWhile p = s.dropWhile p ++ t := by
  induction s with
  | nil =>
    cases t with
    | nil => rfl
    | cons c t => exact List.dropWhile_cons_of_neg (by simp [h c (by simp)])
  | cons c s ih =>
    rw [List.cons_append, List.dropWhile_cons, List.dropWhile_cons, ih]
    split <;> rfl

/-! ## String literals -/

section

variable {quote : Char} {start offset next : Nat} {rest out after : List Char}

/-- The quote ends the literal. -/
lemma stringBody_close :
    stringBody quote start offset (quote :: rest) = .ok ([], offset + 1, rest) := by
  rw [stringBody.eq_def]
  simp

/-- A plain character stands for itself. -/
lemma stringBody_plain {c : Char} (hquote : c ≠ quote) (hescape : c ≠ '\\')
    (h : stringBody quote start (offset + c.utf8Size) rest = .ok (out, next, after)) :
    stringBody quote start offset (c :: rest) = .ok (c :: out, next, after) := by
  rw [stringBody.eq_def]
  simp [hquote, hescape, h]

/-- A character behind a backslash stands for what it escapes. -/
lemma stringBody_escape {c : Char} (hquote : '\\' ≠ quote) (hu : c ≠ 'u')
    (h : stringBody quote start (offset + 1 + c.utf8Size) rest = .ok (out, next, after)) :
    stringBody quote start offset ('\\' :: c :: rest) = .ok (unescape c :: out, next, after) := by
  rw [stringBody.eq_def]
  simp [hquote, hu, h]

/-- Four hexadecimal digits behind an escape stand for the character of that number. -/
lemma stringBody_unicode {h1 h2 h3 h4 : Char} {code : Nat} (hquote : '\\' ≠ quote)
    (hcode : Json.hex4 h1 h2 h3 h4 = some code)
    (hhigh : ¬(0xD800 ≤ code && code < 0xDC00) = true)
    (hlow : ¬(0xDC00 ≤ code && code < 0xE000) = true)
    (h : stringBody quote start (offset + 6) rest = .ok (out, next, after)) :
    stringBody quote start offset ('\\' :: 'u' :: h1 :: h2 :: h3 :: h4 :: rest)
      = .ok (Char.ofNat code :: out, next, after) := by
  rw [stringBody.eq_def]
  simp only [if_neg hquote, hcode, if_neg hhigh, if_neg hlow, h, if_true]

/-- Two escapes of surrogates stand for one character. -/
lemma stringBody_pair {h1 h2 h3 h4 l1 l2 l3 l4 : Char} {high low : Nat} (hquote : '\\' ≠ quote)
    (hhigh : Json.hex4 h1 h2 h3 h4 = some high) (hpair : (0xD800 ≤ high && high < 0xDC00) = true)
    (hlow : Json.hex4 l1 l2 l3 l4 = some low) (hlast : (0xDC00 ≤ low && low < 0xE000) = true)
    (h : stringBody quote start (offset + 12) rest = .ok (out, next, after)) :
    stringBody quote start offset ('\\' :: 'u' :: h1 :: h2 :: h3 :: h4
        :: '\\' :: 'u' :: l1 :: l2 :: l3 :: l4 :: rest)
      = .ok (Char.ofNat (0x10000 + (high - 0xD800) * 0x400 + (low - 0xDC00)) :: out, next,
        after) := by
  rw [stringBody.eq_def]
  simp only [if_neg hquote, hhigh, if_pos hpair, hlow, if_pos hlast, h, if_true]

end

/-- A string literal that is closed does not depend on where it stands and what follows it. -/
lemma stringBody_append {quote : Char} {start offset : Nat} {s : List Char}
    {out after : List Char} {next : Nat}
    (h : stringBody quote start offset s = .ok (out, next, after)) (start' offset' : Nat)
    (t : List Char) :
    ∃ next', stringBody quote start' offset' (s ++ t) = .ok (out, next', after ++ t) := by
  fun_induction stringBody quote start offset s generalizing out next after offset' with
  | case2 offset rest =>
    simp only [Except.ok.injEq, Prod.mk.injEq] at h
    obtain ⟨rfl, -, rfl⟩ := h
    exact ⟨offset' + 1, stringBody_close⟩
  | case7 offset h1 h2 h3 h4 high hhigh hpair l1 l2 l3 l4 rest low hlow hlast out' after' hbody =>
    rename_i hne ih
    simp only [Except.ok.injEq, Prod.mk.injEq] at h
    obtain ⟨rfl, rfl⟩ := h
    obtain ⟨next', hnext⟩ := ih hbody (offset' + 12)
    exact ⟨next', stringBody_pair hne hhigh hpair hlow hlast hnext⟩
  | case12 offset h1 h2 h3 h4 rest code hcode hhigh hlow out' after' hbody hne ih =>
    simp only [Except.ok.injEq, Prod.mk.injEq] at h
    obtain ⟨rfl, rfl⟩ := h
    obtain ⟨next', hnext⟩ := ih hbody (offset' + 6)
    exact ⟨next', stringBody_unicode hne hcode hhigh hlow hnext⟩
  | case15 offset c rest hu4 hu out' after' hbody hne ih =>
    simp only [Except.ok.injEq, Prod.mk.injEq] at h
    obtain ⟨rfl, rfl⟩ := h
    obtain ⟨next', hnext⟩ := ih hbody (offset' + 1 + c.utf8Size)
    exact ⟨next', stringBody_escape hne hu hnext⟩
  | case17 offset c rest hquote hescape out' after' hbody ih =>
    simp only [Except.ok.injEq, Prod.mk.injEq] at h
    obtain ⟨rfl, rfl⟩ := h
    obtain ⟨next', hnext⟩ := ih hbody (offset' + c.utf8Size)
    exact ⟨next', stringBody_plain hquote hescape hnext⟩
  | _ => simp at h

/-! ## Code in parts -/

lemma Separates.number {t : List Char} (h : Separates t) : ∀ c ∈ t.head?, isNumberChar c = false :=
  fun c hc => (h c hc).1

lemma Separates.name {t : List Char} (h : Separates t) : ∀ c ∈ t.head?, isNameChar c = false :=
  fun c hc => (h c hc).2

/-- Code that is cut into tokens is cut into the same ones wherever it stands, and so is what
follows it. -/
lemma lexFrom_append {offset : Nat} {s t : List Char} {placed : List Placed} {tokens : List Token}
    (h : lexFrom offset s = .ok placed) (hsep : Separates t) (ht : Lexes t tokens) (offset' : Nat) :
    ∃ placed', lexFrom offset' (s ++ t) = .ok placed' ∧
      placed'.map Placed.token = placed.map Placed.token ++ tokens := by
  fun_induction lexFrom offset s generalizing placed offset' with
  | case1 offset =>
    simp only [Except.ok.injEq] at h
    subst h
    simpa using ht offset'
  | case2 offset c rest hblank ih =>
    obtain ⟨placed', hlex, htokens⟩ := ih h (offset' + c.utf8Size)
    exact ⟨placed', by rw [List.cons_append, lexFrom, if_pos hblank, hlex], htokens⟩
  | case5 offset c rest hblank hquote text next after hbody placed₁ hlex ih =>
    simp only [Except.ok.injEq] at h
    subst h
    obtain ⟨next', hbody'⟩ := stringBody_append hbody offset' (offset' + 1) t
    obtain ⟨placed', hlex', htokens⟩ := ih hlex next'
    refine ⟨⟨.str (String.ofList text), offset'⟩ :: placed', ?_, by simp [htokens]⟩
    rw [List.cons_append, lexFrom, if_neg hblank, if_pos hquote]
    split
    · rename_i heq
      rw [hbody'] at heq
      simp at heq
    · rename_i heq
      rw [hbody'] at heq
      simp only [Except.ok.injEq, Prod.mk.injEq] at heq
      obtain ⟨rfl, rfl, rfl⟩ := heq
      rw [hlex']
  | case8 offset c rest hblank hquote hdigit text number hnumber placed₁ hlex =>
    rename_i ih
    simp only [Except.ok.injEq] at h
    subst h
    obtain ⟨placed', hlex', htokens⟩ := ih hlex (offset' + Text.byteLength text)
    refine ⟨⟨.num number, offset'⟩ :: placed', ?_, by simp [htokens]⟩
    rw [List.cons_append, lexFrom, if_neg hblank, if_neg hquote, if_pos hdigit,
      takeWhile_append_of_head rest hsep.number, dropWhile_append_of_head rest hsep.number]
    simp only [text] at hnumber hlex'
    simp only [hnumber, hlex']
  | case10 offset c rest hblank hquote hdigit hname text placed₁ hlex =>
    rename_i ih
    simp only [Except.ok.injEq] at h
    subst h
    obtain ⟨placed', hlex', htokens⟩ := ih hlex (offset' + Text.byteLength text)
    refine ⟨⟨.name (String.ofList text), offset'⟩ :: placed', ?_, by simp [htokens]⟩
    rw [List.cons_append, lexFrom, if_neg hblank, if_neg hquote, if_neg hdigit, if_pos hname,
      takeWhile_append_of_head rest hsep.name, dropWhile_append_of_head rest hsep.name]
    simp only [text] at hlex' ⊢
    simp only [hlex']
  | case13 offset c rest hblank hquote hdigit hname mark hmark placed₁ hlex ih =>
    simp only [Except.ok.injEq] at h
    subst h
    obtain ⟨placed', hlex', htokens⟩ := ih hlex (offset' + 1)
    refine ⟨⟨.mark mark, offset'⟩ :: placed', ?_, by simp [htokens]⟩
    rw [List.cons_append, lexFrom, if_neg hblank, if_neg hquote, if_neg hdigit, if_neg hname,
      hmark]
    simp only [hlex']
  | _ => simp at h

lemma lexes_nil : Lexes [] [] := fun _ => ⟨[], by rw [lexFrom], rfl⟩

lemma separates_nil : Separates [] := by simp [Separates]

/-- Code that is cut into tokens somewhere is cut into the same ones everywhere. -/
lemma lexes_of_lexFrom {offset : Nat} {s : List Char} {placed : List Placed}
    (h : lexFrom offset s = .ok placed) : Lexes s (placed.map Placed.token) := by
  intro offset'
  have happend := lexFrom_append h separates_nil lexes_nil offset'
  simpa using happend

/-- The tokens of code put together are those of its parts. -/
lemma Lexes.append {s t : List Char} {us vs : List Token} (hs : Lexes s us) (hsep : Separates t)
    (ht : Lexes t vs) : Lexes (s ++ t) (us ++ vs) := by
  intro offset
  obtain ⟨placed, hlex, rfl⟩ := hs offset
  exact lexFrom_append hlex hsep ht offset

/-! ## Quoted text -/

/-- Four hexadecimal digits are four bytes. -/
lemma byteLength_of_isHex4 {digits : List Char} {n : Nat} (h : Json.IsHex4 digits n) :
    Text.byteLength digits = 4 := by
  cases h with
  | mk ha hb hc hd =>
    rw [Text.byteLength_cons, Text.byteLength_cons, Text.byteLength_cons, Text.byteLength_cons,
      Json.utf8Size_of_isHexDigit ha, Json.utf8Size_of_isHexDigit hb,
      Json.utf8Size_of_isHexDigit hc, Json.utf8Size_of_isHexDigit hd]
    rfl

/-- An escape by code takes six bytes. -/
lemma byteLength_escape {digits : List Char} (h : Text.byteLength digits = 4) :
    Text.byteLength ('\\' :: 'u' :: digits) = 6 := by
  rw [Text.byteLength_cons, Text.byteLength_cons, h]
  rfl

/-- The escapes of JSON are escapes of expressions, with the same meaning. -/
lemma unescape_of_mem_shortEscapes :
    ∀ escape ∈ Json.shortEscapes, escape.1 ≠ 'u' ∧ unescape escape.1 = escape.2 := by
  decide

section

variable {start offset next : Nat} {written rest out body value after : List Char} {c : Char}

/-- Each way to write a character in a JSON string is read as the character. -/
lemma stringBody_writes (h : Json.Writes written c)
    (hrest : stringBody '"' start (offset + Text.byteLength written) rest
      = .ok (out, next, after)) :
    stringBody '"' start offset (written ++ rest) = .ok (c :: out, next, after) := by
  have hquote : '\\' ≠ '"' := by decide
  cases h with
  | plain hc hescape hcontrol =>
    rw [Text.byteLength_cons] at hrest
    exact stringBody_plain hc hescape hrest
  | @short letter _ h =>
    obtain ⟨hu, hletter⟩ := unescape_of_mem_shortEscapes _ h
    have hlength : Text.byteLength ['\\', letter] = 1 + letter.utf8Size := by
      rw [Text.byteLength_cons, Text.byteLength_cons]
      rfl
    rw [hlength, ← Nat.add_assoc] at hrest
    have hread := stringBody_escape hquote hu hrest
    rwa [hletter] at hread
  | code h =>
    have hdigits := byteLength_of_isHex4 h
    obtain ⟨d₁, d₂, d₃, d₄, rfl, hcode⟩ := h.exists_hex4
    have hnone := Json.not_surrogate c
    rw [byteLength_escape hdigits] at hrest
    have hread := stringBody_unicode hquote hcode (by simp; omega) (by simp; omega) hrest
    rwa [Char.ofNat_toNat] at hread
  | pair hhigh hlow hm hn hc =>
    have hdigits := byteLength_of_isHex4 hhigh
    have hothers := byteLength_of_isHex4 hlow
    obtain ⟨h₁, h₂, h₃, h₄, rfl, hcode⟩ := hhigh.exists_hex4
    obtain ⟨l₁, l₂, l₃, l₄, rfl, hlast⟩ := hlow.exists_hex4
    rw [Text.byteLength_append, byteLength_escape hdigits, byteLength_escape hothers] at hrest
    have hread := stringBody_pair hquote hcode (by simpa using hm) hlast (by simpa using hn) hrest
    rwa [← hc, Char.ofNat_toNat] at hread

/-- A string literal of JSON is read up to its closing quote, as the characters of its value. -/
lemma stringBody_of_isBody (h : Json.IsBody body value) (start offset : Nat) (after : List Char) :
    stringBody '"' start offset (body ++ '"' :: after)
      = .ok (value, offset + Text.byteLength body + 1, after) := by
  induction h generalizing offset with
  | nil => exact stringBody_close
  | @cons written body value c hc h ih =>
    rw [List.append_assoc, Text.byteLength_append, ← Nat.add_assoc]
    exact stringBody_writes hc (ih (offset + Text.byteLength written))

end

lemma toList_quote (text : String) :
    (Json.quote text).toList = '"' :: (text.toList.flatMap Json.escapeChar ++ ['"']) := by
  simp [Json.quote, Json.quoteChars]

/-- A string literal of JSON is a token on its own, whatever follows it. -/
lemma lexFrom_of_isBody {body value : List Char} (h : Json.IsBody body value) (offset : Nat)
    (after : List Char) :
    lexFrom offset ('"' :: (body ++ '"' :: after))
      = (lexFrom (offset + Text.byteLength body + 2) after).map
          (⟨.str (String.ofList value), offset⟩ :: ·) := by
  have hbody := stringBody_of_isBody h offset (offset + 1) after
  rw [lexFrom, if_neg (by decide), if_pos (by decide)]
  split
  · rename_i e heq
    rw [hbody] at heq
    cases heq
  · rename_i text next rest heq
    rw [hbody] at heq
    simp only [Except.ok.injEq, Prod.mk.injEq] at heq
    obtain ⟨rfl, rfl, rfl⟩ := heq
    rw [show offset + 1 + Text.byteLength body + 1 = offset + Text.byteLength body + 2 by omega]
    cases lexFrom (offset + Text.byteLength body + 2) after <;> rfl

/-- Quoted text is a single token that stands for the text. -/
lemma lexes_quote (text : String) : Lexes (Json.quote text).toList [.str text] := by
  intro offset
  have hlex := lexFrom_of_isBody (Json.isBody_escapeChar text.toList) offset []
  rw [lexFrom, String.ofList_toList] at hlex
  rw [toList_quote, hlex]
  exact ⟨_, rfl, rfl⟩

/-- What is quoted can be read off any text that starts with it. -/
lemma quote_append_inj {a b : String} {s t : List Char}
    (h : (Json.quote a).toList ++ s = (Json.quote b).toList ++ t) : a = b ∧ s = t := by
  have ha := Json.readString_of_isBody (Json.isBody_escapeChar a.toList) s
  have hb := Json.readString_of_isBody (Json.isBody_escapeChar b.toList) t
  have hbodies : a.toList.flatMap Json.escapeChar ++ '"' :: s
      = b.toList.flatMap Json.escapeChar ++ '"' :: t := by
    simpa [toList_quote] using h
  rw [hbodies, hb] at ha
  simp only [Option.some.injEq, Prod.mk.injEq, String.toList_inj] at ha
  exact ⟨ha.1.symm, ha.2.symm⟩

/-- A string literal of JSON, in whichever way its characters are written, is a token that stands
for the value of the literal, the same that is read off JSON. Reading goes on right behind the
closing quote, whatever stands there. In particular quoted text is a token that stands for the
text. -/
theorem lexFrom_literal :
    (∀ body value, Json.IsBody body value → ∀ offset after,
      lexFrom offset ('"' :: (body ++ '"' :: after))
          = (lexFrom (offset + Text.byteLength body + 2) after).map
              (⟨.str (String.ofList value), offset⟩ :: ·) ∧
        Json.readString (body ++ '"' :: after) = some (value, after)) ∧
    ∀ text offset after,
      lexFrom offset ((Json.quote text).toList ++ after)
        = (lexFrom (offset + Text.byteLength (Json.quote text).toList) after).map
            (⟨.str text, offset⟩ :: ·) := by
  constructor
  · intro body value h offset after
    exact ⟨lexFrom_of_isBody h offset after, Json.readString_of_isBody h after⟩
  · intro text offset after
    have hlex := lexFrom_of_isBody (Json.isBody_escapeChar text.toList) offset after
    have hlength (body : List Char) :
        Text.byteLength ('"' :: (body ++ ['"'])) = Text.byteLength body + 2 := by
      have hclose : Text.byteLength ['"'] = 1 := rfl
      have hopen : '"'.utf8Size = 1 := rfl
      rw [Text.byteLength_cons, Text.byteLength_append, hclose, hopen]
      omega
    rw [String.ofList_toList] at hlex
    rw [toList_quote, hlength, List.cons_append, List.append_assoc, ← Nat.add_assoc]
    exact hlex

/-- A character beyond U+FFFF, written by a pair of codes with digits in both cases, and an escaped
backslash in front of the closing quote, with another literal right behind it. -/
theorem lexFrom_literal_pair :
    Json.IsBody ['\\', 'u', 'D', '8', '3', 'd', '\\', 'u', 'd', 'E', '0', '0', '\\', '\\']
        ['😀', '\\'] ∧
      lexFrom 0 ['"', '\\', 'u', 'D', '8', '3', 'd', '\\', 'u', 'd', 'E', '0', '0', '\\', '\\',
          '"', '"', '"']
        = .ok [⟨.str "😀\\", 0⟩, ⟨.str "", 16⟩] := by
  have hhigh : Json.IsHex4 ['D', '8', '3', 'd'] 0xD83D :=
    .mk (p := 13) (q := 8) (r := 3) (s := 13) (.inr rfl) (.inl rfl) (.inl rfl) (.inl rfl)
  have hlow : Json.IsHex4 ['d', 'E', '0', '0'] 0xDE00 :=
    .mk (p := 13) (q := 14) (r := 0) (s := 0) (.inl rfl) (.inr rfl) (.inl rfl) (.inl rfl)
  have hpair := Json.Writes.pair (c := '😀') hhigh hlow (by decide) (by decide) (by decide)
  have hescape : Json.Writes ['\\', '\\'] '\\' := .short (by decide)
  have hbody := Json.IsBody.cons hpair (.cons hescape .nil)
  have hnext := (lexFrom_literal.1 _ _ .nil 16 []).1
  rw [lexFrom] at hnext
  refine ⟨hbody, (lexFrom_literal.1 _ _ hbody 0 ['"', '"']).1.trans ?_⟩
  exact congrArg (Except.map _) hnext

/-! ## Punctuation -/

lemma Mark.ofChar?_char (mark : Mark) : Mark.ofChar? mark.char = some mark := by
  cases mark <;> rfl

/-- The character of a mark starts no other kind of token. -/
lemma Mark.char_class (mark : Mark) :
    Text.isBlank mark.char = false ∧ (mark.char = '"' || mark.char = '\'') = false ∧
      mark.char.isDigit = false ∧ isNameStart mark.char = false := by
  cases mark <;> decide

/-- A mark is a token whatever follows it. -/
lemma Lexes.mark (mark : Mark) {rest : List Char} {tokens : List Token} (h : Lexes rest tokens) :
    Lexes (mark.char :: rest) (.mark mark :: tokens) := by
  obtain ⟨hblank, hquote, hdigit, hname⟩ := mark.char_class
  intro offset
  obtain ⟨placed, hlex, htokens⟩ := h (offset + 1)
  refine ⟨⟨.mark mark, offset⟩ :: placed, ?_, by simp [htokens]⟩
  rw [lexFrom, if_neg (by simp [hblank]), if_neg (by simp [hquote]), if_neg (by simp [hdigit]),
    if_neg (by simp [hname]), mark.ofChar?_char]
  simp only [hlex]

/-- Blanks are no tokens. -/
lemma Lexes.blank {c : Char} {rest : List Char} {tokens : List Token}
    (hblank : Text.isBlank c = true) (h : Lexes rest tokens) : Lexes (c :: rest) tokens := by
  intro offset
  obtain ⟨placed, hlex, htokens⟩ := h (offset + c.utf8Size)
  exact ⟨placed, by rw [lexFrom, if_pos hblank, hlex], htokens⟩

end Expr
end Bindery
