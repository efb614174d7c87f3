import Bindery.Proofs.Expr.Parsing
import Mathlib

/-!
# The grammar of expressions

The grammar says which tokens are which expression: a sum is terms with plus signs between them, a
term is a literal, a name, a sum in parentheses or a list in brackets, with any number of
properties, positions and calls behind it, and a list is sums with commas between them, where a
last comma may follow.

The parser accepts exactly the tokens that the grammar derives, with the expression that the
grammar gives them, and the grammar gives no tokens two expressions (`parse_iff_isSum`). In one
direction every derivation is read by the parser (`IsSum.forms`), in the other the parser's state
is read as the part of a derivation that stands to the left of the next token (`HasRead`).
-/

namespace Bindery
namespace Expr

mutual

/-- Tokens that are a sum. Its terms are kept in one flat list, and a single term stands for
itself. -/
inductive IsSum : List Token → Expr → Prop where
  | term {tokens : List Token} {e : Expr} (h : IsTerm tokens e) : IsSum tokens e
  | chain {tokens : List Token} {first second : Expr} {rest : List Expr}
      (h : IsChain tokens (first :: second :: rest)) :
      IsSum tokens (.concat (first :: second :: rest))

/-- Tokens that are terms with plus signs between them. -/
inductive IsChain : List Token → List Expr → Prop where
  | last {tokens : List Token} {e : Expr} (h : IsTerm tokens e) : IsChain tokens [e]
  | cons {tokens others : List Token} {e : Expr} {es : List Expr} (h : IsTerm tokens e)
      (hrest : IsChain others es) : IsChain (tokens ++ .mark .plus :: others) (e :: es)

/-- Tokens that are a term. -/
inductive IsTerm : List Token → Expr → Prop where
  | primary {tokens : List Token} {e : Expr} (h : IsPrimary tokens e) : IsTerm tokens e
  | member {tokens : List Token} {e : Expr} (h : IsTerm tokens e) (property : String) :
      IsTerm (tokens ++ [.mark .dot, .name property]) (.member e property)
  | index {tokens inner : List Token} {e position : Expr} (h : IsTerm tokens e)
      (hposition : IsSum inner position) :
      IsTerm (tokens ++ .mark .openBracket :: (inner ++ [.mark .closeBracket])) (.index e position)
  | call {tokens inner : List Token} {e : Expr} {args : List Expr} (h : IsTerm tokens e)
      (hargs : IsListing inner args) :
      IsTerm (tokens ++ .mark .openParen :: (inner ++ [.mark .closeParen])) (.call e args)

/-- Tokens that a term begins with. -/
inductive IsPrimary : List Token → Expr → Prop where
  | str (text : String) : IsPrimary [.str text] (.str text)
  | num (number : Number) : IsPrimary [.num number] (.num number)
  | name (text : String) : IsPrimary [.name text] (ofName text)
  | paren {inner : List Token} {e : Expr} (h : IsSum inner e) :
      IsPrimary (.mark .openParen :: (inner ++ [.mark .closeParen])) e
  | array {inner : List Token} {items : List Expr} (h : IsListing inner items) :
      IsPrimary (.mark .openBracket :: (inner ++ [.mark .closeBracket])) (.array items)

/-- Tokens that are a list: nothing, or items behind which a comma may stand. -/
inductive IsListing : List Token → List Expr → Prop where
  | empty : IsListing [] []
  | items {tokens : List Token} {es : List Expr} (h : IsItems tokens es) : IsListing tokens es
  | trailing {tokens : List Token} {es : List Expr} (h : IsItems tokens es) :
      IsListing (tokens ++ [.mark .comma]) es

/-- Tokens that are sums with commas between them. -/
inductive IsItems : List Token → List Expr → Prop where
  | last {tokens : List Token} {e : Expr} (h : IsSum tokens e) : IsItems tokens [e]
  | cons {tokens others : List Token} {e : Expr} {es : List Expr} (h : IsSum tokens e)
      (hrest : IsItems others es) : IsItems (tokens ++ .mark .comma :: others) (e :: es)

end

open ParserState

/-! ## What the grammar derives is read -/

/-- A bracket that holds a list. -/
inductive Enclosure where
  | array
  | args (callee : Expr)

namespace Enclosure

/-- The bracket with the items in it that were read, last first. -/
def opener : Enclosure → List Expr → Opener
  | array, items => .array items
  | args callee, items => .args callee items

/-- The mark that closes the bracket. -/
def closing : Enclosure → Mark
  | array => .closeBracket
  | args _ => .closeParen

/-- What the bracket is when it is closed. -/
def value : Enclosure → List Expr → Expr
  | array, items => .array items
  | args callee, items => .call callee items

variable (bracket : Enclosure) {items before terms : List Expr} {value : Expr} {outer : List Frame}

/-- A comma takes the sum that was read up as an item of the bracket. -/
lemma step?_comma :
    step? ⟨⟨bracket.opener items, before⟩ :: outer, terms, .term value⟩ (.mark .comma)
      = .ok ⟨⟨bracket.opener (sum terms value :: items), before⟩ :: outer, [], .start⟩ := by
  cases bracket <;> rfl

/-- A closing bracket takes the last item and makes the items a term. -/
lemma step?_closing :
    step? ⟨⟨bracket.opener items, before⟩ :: outer, terms, .term value⟩ (.mark bracket.closing)
      = .ok ⟨outer, before, .term (bracket.value (sum terms value :: items).reverse)⟩ := by
  cases bracket <;> rfl

/-- A list may end in front of its next item. -/
lemma step?_closing_start :
    step? ⟨⟨bracket.opener items, before⟩ :: outer, [], .start⟩ (.mark bracket.closing)
      = .ok ⟨outer, before, .term (bracket.value items.reverse)⟩ := by
  cases bracket <;> rfl

end Enclosure

/-- Tokens that form a list in a bracket that is open. -/
def FormsListing (tokens : List Token) (es : List Expr) : Prop :=
  ∀ (bracket : Enclosure) (terms : List Expr),
    Reads ⟨[⟨bracket.opener [], terms⟩], [], .start⟩ (tokens ++ [.mark bracket.closing])
      ⟨[], terms, .term (bracket.value es)⟩

/-- There are as many parts as expressions. -/
lemma ne_nil_of_forall₂ {p : List Token → Expr → Prop} {parts : List (List Token)}
    {es : List Expr} (h : List.Forall₂ p parts es) (hne : es ≠ []) : parts ≠ [] := by
  rintro rfl
  exact hne (List.forall₂_nil_left_iff.1 h)

/-- Sums with commas between them are read as items of the bracket around them; the last of them is
still open. -/
lemma reads_items {parts : List (List Token)} {es : List Expr} (h : List.Forall₂ Forms parts es)
    (hne : es ≠ []) (bracket : Enclosure) (terms before : List Expr) :
    ∃ items inner value, Reads ⟨[⟨bracket.opener before, terms⟩], [], .start⟩
        ([Token.mark .comma].intercalate parts)
        ⟨[⟨bracket.opener items, terms⟩], inner, .term value⟩ ∧
      (sum inner value :: items).reverse = before.reverse ++ es := by
  induction h generalizing before with
  | nil => exact absurd rfl hne
  | @cons part e parts es hpart hrest ih =>
    obtain ⟨inner, value, hreads, rfl⟩ := hpart
    have hinside : Reads ⟨[⟨bracket.opener before, terms⟩], [], .start⟩ part
        ⟨[⟨bracket.opener before, terms⟩], inner, .term value⟩ := hreads.above _
    cases hrest with
    | nil => exact ⟨before, inner, value, by simpa using hinside, by simp⟩
    | cons hnext hrest =>
      obtain ⟨items, inner', value', hothers, heq⟩ :=
        ih (List.cons_ne_nil _ _) (sum inner value :: before)
      refine ⟨items, inner', value', ?_, by simpa using heq⟩
      rw [List.intercalate_cons_cons, ← List.append_cons]
      exact hinside.append (hothers.cons bracket.step?_comma)

lemma formsListing_nil : FormsListing [] [] :=
  fun bracket _ => Reads.cons bracket.step?_closing_start Reads.nil

/-- Expressions parted by commas form a listing. -/
lemma formsListing_items {parts : List (List Token)} {es : List Expr}
    (h : List.Forall₂ Forms parts es) (hne : es ≠ []) :
    FormsListing ([Token.mark .comma].intercalate parts) es := by
  intro bracket terms
  obtain ⟨items, inner, value, hreads, heq⟩ := reads_items h hne bracket terms []
  rw [List.reverse_nil, List.nil_append] at heq
  rw [← heq]
  exact hreads.append (Reads.cons bracket.step?_closing Reads.nil)

/-- A comma may follow the last item. -/
lemma formsListing_trailing {parts : List (List Token)} {es : List Expr}
    (h : List.Forall₂ Forms parts es) (hne : es ≠ []) :
    FormsListing ([Token.mark .comma].intercalate parts ++ [.mark .comma]) es := by
  intro bracket terms
  obtain ⟨items, inner, value, hreads, heq⟩ := reads_items h hne bracket terms []
  rw [List.reverse_nil, List.nil_append] at heq
  rw [← heq, List.append_assoc]
  exact hreads.append
    (Reads.cons bracket.step?_comma (Reads.cons bracket.step?_closing_start Reads.nil))

/-- A step that stands behind a term. -/
lemma FormsTerm.append {tokens step : List Token} {e e' : Expr} (h : FormsTerm tokens e)
    (hstep : ∀ terms, Reads ⟨[], terms, .term e⟩ step ⟨[], terms, .term e'⟩) :
    FormsTerm (tokens ++ step) e' := fun terms => (h terms).append (hstep terms)

/-- A term with an index behind it is a term. -/
lemma FormsTerm.index {tokens inner : List Token} {e position : Expr} (h : FormsTerm tokens e)
    (hposition : Forms inner position) :
    FormsTerm (tokens ++ .mark .openBracket :: (inner ++ [.mark .closeBracket]))
      (.index e position) := by
  refine h.append fun terms => ?_
  obtain ⟨inside, value, hreads, rfl⟩ := hposition
  have hinside := hreads.above [⟨.position e, terms⟩]
  exact Reads.cons rfl (hinside.append (Reads.cons rfl Reads.nil))

/-- A term with arguments behind it is a term. -/
lemma FormsTerm.call {tokens inner : List Token} {e : Expr} {args : List Expr}
    (h : FormsTerm tokens e) (hargs : FormsListing inner args) :
    FormsTerm (tokens ++ .mark .openParen :: (inner ++ [.mark .closeParen])) (.call e args) :=
  h.append fun terms => Reads.cons rfl (hargs (.args e) terms)

lemma FormsListing.array {inner : List Token} {items : List Expr} (h : FormsListing inner items) :
    FormsTerm (.mark .openBracket :: (inner ++ [.mark .closeBracket])) (.array items) :=
  fun terms => Reads.cons rfl (h .array terms)

lemma FormsTerm.forms {tokens : List Token} {e : Expr} (h : FormsTerm tokens e) : Forms tokens e :=
  ⟨[], e, h [], rfl⟩

mutual

/-- What the grammar derives as an expression is read as one. -/
lemma IsSum.forms {tokens : List Token} {e : Expr} : IsSum tokens e → Forms tokens e
  | .term h => h.formsTerm.forms
  | .chain h => by
    obtain ⟨parts, rfl, hparts, hne⟩ := h.exists_parts
    exact forms_intercalate hparts hne

/-- A chain is terms parted by plus signs. -/
lemma IsChain.exists_parts {tokens : List Token} {es : List Expr} : IsChain tokens es →
    ∃ parts, tokens = [Token.mark .plus].intercalate parts ∧
      List.Forall₂ FormsTerm parts es ∧ es ≠ []
  | .last h => ⟨[_], by simp, .cons h.formsTerm .nil, List.cons_ne_nil _ _⟩
  | .cons h hrest => by
    obtain ⟨parts, rfl, hparts, hne⟩ := hrest.exists_parts
    refine ⟨_ :: parts, ?_, .cons h.formsTerm hparts, List.cons_ne_nil _ _⟩
    rw [List.intercalate_cons_of_ne_nil (ne_nil_of_forall₂ hparts hne), ← List.append_cons]

/-- What the grammar derives as a term is read as one. -/
lemma IsTerm.formsTerm {tokens : List Token} {e : Expr} : IsTerm tokens e → FormsTerm tokens e
  | .primary h => h.formsTerm
  | .member h property => h.formsTerm.append fun _ => Reads.cons rfl (Reads.cons rfl Reads.nil)
  | .index h hposition => h.formsTerm.index hposition.forms
  | .call h hargs => h.formsTerm.call hargs.formsListing

lemma IsPrimary.formsTerm {tokens : List Token} {e : Expr} :
    IsPrimary tokens e → FormsTerm tokens e
  | .str text => formsTerm_str text
  | .num _ => fun _ => Reads.cons rfl Reads.nil
  | .name _ => fun _ => Reads.cons rfl Reads.nil
  | .paren h => h.forms.paren
  | .array h => h.formsListing.array

/-- What the grammar derives as a listing is read as one. -/
lemma IsListing.formsListing {tokens : List Token} {es : List Expr} :
    IsListing tokens es → FormsListing tokens es
  | .empty => formsListing_nil
  | .items h => by
    obtain ⟨parts, rfl, hparts, hne⟩ := h.exists_parts
    exact formsListing_items hparts hne
  | .trailing h => by
    obtain ⟨parts, rfl, hparts, hne⟩ := h.exists_parts
    exact formsListing_trailing hparts hne

/-- Items are expressions parted by commas. -/
lemma IsItems.exists_parts {tokens : List Token} {es : List Expr} : IsItems tokens es →
    ∃ parts, tokens = [Token.mark .comma].intercalate parts ∧ List.Forall₂ Forms parts es ∧ es ≠ []
  | .last h => ⟨[_], by simp, .cons h.forms .nil, List.cons_ne_nil _ _⟩
  | .cons h hrest => by
    obtain ⟨parts, rfl, hparts, hne⟩ := hrest.exists_parts
    refine ⟨_ :: parts, ?_, .cons h.forms hparts, List.cons_ne_nil _ _⟩
    rw [List.intercalate_cons_of_ne_nil (ne_nil_of_forall₂ hparts hne), ← List.append_cons]

end

/-! ## What is read is derived -/

/-- Tokens that are parts of a kind with a mark behind each of them, last first. -/
inductive Leads (part : List Token → Expr → Prop) (mark : Mark) :
    List Expr → List Token → Prop where
  | nil : Leads part mark [] []
  | cons {before tokens : List Token} {e : Expr} {es : List Expr} (h : Leads part mark es before)
      (hpart : part tokens e) : Leads part mark (e :: es) (before ++ (tokens ++ [.mark mark]))

/-- Tokens of a bracket that is still open. -/
inductive IsOpening : Opener → List Token → Prop where
  | paren : IsOpening .paren [.mark .openParen]
  | array {inner : List Token} {items : List Expr} (h : Leads IsSum .comma items inner) :
      IsOpening (.array items) (.mark .openBracket :: inner)
  | args {tokens inner : List Token} {callee : Expr} {items : List Expr} (h : IsTerm tokens callee)
      (hitems : Leads IsSum .comma items inner) :
      IsOpening (.args callee items) (tokens ++ .mark .openParen :: inner)
  | position {tokens : List Token} {target : Expr} (h : IsTerm tokens target) :
      IsOpening (.position target) (tokens ++ [.mark .openBracket])

/-- Tokens of all brackets that are open, with the terms that stand between them. -/
inductive AreOpen : List Frame → List Token → Prop where
  | nil : AreOpen [] []
  | cons {opener : Opener} {terms : List Expr} {outer : List Frame}
      {before leading opening : List Token} (houter : AreOpen outer before)
      (hterms : Leads IsTerm .plus terms leading) (hopening : IsOpening opener opening) :
      AreOpen (⟨opener, terms⟩ :: outer) (before ++ (leading ++ opening))

/-- Tokens of the term that is being read. -/
inductive IsPart : Phase → List Token → Prop where
  | start : IsPart .start []
  | term {tokens : List Token} {e : Expr} (h : IsTerm tokens e) : IsPart (.term e) tokens
  | dot {tokens : List Token} {e : Expr} (h : IsTerm tokens e) :
      IsPart (.dot e) (tokens ++ [.mark .dot])

/-- The parser's state says of the tokens that were read what they are in the grammar. -/
def HasRead (s : ParserState) (tokens : List Token) : Prop :=
  ∃ before leading last, AreOpen s.frames before ∧ Leads IsTerm .plus s.terms leading ∧
    IsPart s.phase last ∧ tokens = before ++ (leading ++ last)

section

variable {part : List Token → Expr → Prop} {mark : Mark} {terms items es more : List Expr}
  {e : Expr} {leading inner tokens others : List Token}

/-- Parts in front of further parts are such parts as a whole. -/
lemma Leads.append (parts : List Token → List Expr → Prop) (h : Leads part mark es leading)
    (hcons : ∀ {tokens others e more}, part tokens e → parts others more →
      parts (tokens ++ .mark mark :: others) (e :: more))
    (hothers : parts others more) : parts (leading ++ others) (es.reverse ++ more) := by
  induction h generalizing others more with
  | nil => exact hothers
  | cons _ hpart ih => simpa using ih (hcons hpart hothers)

/-- The terms of a chain make a sum. -/
lemma IsChain.isSum (h : IsChain tokens es) : IsSum tokens (ofTerms es) := by
  match es, h with
  | [e], .last h => exact .term h
  | e :: e' :: es, h => exact .chain h

/-- The terms of a sum with its last one are the sum. -/
lemma Leads.isSum (h : Leads IsTerm .plus terms leading) (hlast : IsTerm tokens e) :
    IsSum (leading ++ tokens) (sum terms e) := by
  rw [sum_eq_ofTerms]
  exact (h.append IsChain IsChain.cons (.last hlast)).isSum

/-- A comma stands behind an item, in front of the next one or of the end of the list. -/
lemma IsSum.isListing_cons (h : IsSum tokens e) (hrest : IsListing others es) :
    IsListing (tokens ++ .mark .comma :: others) (e :: es) := by
  cases hrest with
  | empty => exact .trailing (.last h)
  | items hrest => exact .items (.cons h hrest)
  | trailing hrest => simpa using IsListing.trailing (IsItems.cons h hrest)

/-- The items of a list, up to its end behind a comma. -/
lemma Leads.isListing (h : Leads IsSum .comma items inner) : IsListing inner items.reverse := by
  simpa using h.append IsListing IsSum.isListing_cons .empty

/-- The items of a list, with its last one. -/
lemma Leads.isListing_last (h : Leads IsSum .comma items inner) (hlast : IsSum tokens e) :
    IsListing (inner ++ tokens) (e :: items).reverse := by
  simpa using h.append IsListing IsSum.isListing_cons (.items (.last hlast))

end

namespace HasRead

variable {s : ParserState} {frames : List Frame} {terms : List Expr} {e : Expr} {token : Token}
  {before leading last tokens : List Token}

lemma initial : HasRead .initial [] := ⟨[], [], [], .nil, .nil, .start, rfl⟩

/-- A token in front of a term. -/
lemma step_start (hframes : AreOpen frames before) (hterms : Leads IsTerm .plus terms leading)
    (h : step? ⟨frames, terms, .start⟩ token = .ok s) :
    HasRead s (before ++ (leading ++ [token])) := by
  cases token with
  | str text =>
    cases h
    exact ⟨_, _, _, hframes, hterms, .term (.primary (.str text)), rfl⟩
  | num number =>
    cases h
    exact ⟨_, _, _, hframes, hterms, .term (.primary (.num number)), rfl⟩
  | name text =>
    cases h
    exact ⟨_, _, _, hframes, hterms, .term (.primary (.name text)), rfl⟩
  | mark mark =>
    cases mark with
    | openParen =>
      cases h
      exact ⟨_, _, _, .cons hframes hterms .paren, .nil, .start, by simp⟩
    | openBracket =>
      cases h
      exact ⟨_, _, _, .cons hframes hterms (.array .nil), .nil, .start, by simp⟩
    | closeParen =>
      -- only arguments end in front of a term
      cases hterms with
      | cons => cases h
      | nil =>
        cases hframes with
        | nil => cases h
        | cons houter hterms hopening =>
          cases hopening with
          | args hcallee hitems =>
            cases h
            exact ⟨_, _, _, houter, hterms, .term (.call hcallee hitems.isListing), by simp⟩
          | paren => cases h
          | array => cases h
          | position => cases h
    | closeBracket =>
      -- only a list ends in front of a term
      cases hterms with
      | cons => cases h
      | nil =>
        cases hframes with
        | nil => cases h
        | cons houter hterms hopening =>
          cases hopening with
          | array hitems =>
            cases h
            exact ⟨_, _, _, houter, hterms, .term (.primary (.array hitems.isListing)), by simp⟩
          | paren => cases h
          | args => cases h
          | position => cases h
    | dot => cases h
    | comma => cases h
    | plus => cases h

/-- A token behind a term. -/
lemma step_term (hframes : AreOpen frames before) (hterms : Leads IsTerm .plus terms leading)
    (hlast : IsTerm last e) (h : step? ⟨frames, terms, .term e⟩ token = .ok s) :
    HasRead s (before ++ (leading ++ (last ++ [token]))) := by
  cases token with
  | mark mark =>
    cases mark with
    | dot =>
      cases h
      exact ⟨_, _, _, hframes, hterms, .dot hlast, rfl⟩
    | plus =>
      cases h
      exact ⟨_, _, _, hframes, hterms.cons hlast, .start, by simp⟩
    | openParen =>
      cases h
      exact ⟨_, _, _, .cons hframes hterms (.args hlast .nil), .nil, .start, by simp⟩
    | openBracket =>
      cases h
      exact ⟨_, _, _, .cons hframes hterms (.position hlast), .nil, .start, by simp⟩
    | comma =>
      have hitem := hterms.isSum hlast
      cases hframes with
      | nil => cases h
      | cons houter hterms hopening =>
        cases hopening with
        | array hitems =>
          cases h
          exact ⟨_, _, _, .cons houter hterms (.array (hitems.cons hitem)), .nil, .start, by simp⟩
        | args hcallee hitems =>
          cases h
          exact ⟨_, _, _, .cons houter hterms (.args hcallee (hitems.cons hitem)), .nil, .start,
            by simp⟩
        | paren => cases h
        | position => cases h
    | closeParen =>
      have hsum := hterms.isSum hlast
      cases hframes with
      | nil => cases h
      | cons houter hterms hopening =>
        cases hopening with
        | paren =>
          cases h
          exact ⟨_, _, _, houter, hterms, .term (.primary (.paren hsum)), by simp⟩
        | args hcallee hitems =>
          cases h
          exact ⟨_, _, _, houter, hterms, .term (.call hcallee (hitems.isListing_last hsum)),
            by simp⟩
        | array => cases h
        | position => cases h
    | closeBracket =>
      have hsum := hterms.isSum hlast
      cases hframes with
      | nil => cases h
      | cons houter hterms hopening =>
        cases hopening with
        | array hitems =>
          cases h
          exact ⟨_, _, _, houter, hterms, .term (.primary (.array (hitems.isListing_last hsum))),
            by simp⟩
        | position htarget =>
          cases h
          exact ⟨_, _, _, houter, hterms, .term (.index htarget hsum), by simp⟩
        | paren => cases h
        | args => cases h
  | str => cases h
  | num => cases h
  | name => cases h

/-- A token behind a dot. -/
lemma step_dot (hframes : AreOpen frames before) (hterms : Leads IsTerm .plus terms leading)
    (hlast : IsTerm last e) (h : step? ⟨frames, terms, .dot e⟩ token = .ok s) :
    HasRead s (before ++ (leading ++ (last ++ [.mark .dot, token]))) := by
  cases token with
  | name property =>
    cases h
    exact ⟨_, _, _, hframes, hterms, .term (.member hlast property), rfl⟩
  | str => cases h
  | num => cases h
  | mark => cases h

/-- A step goes on with what was read by its token. -/
lemma step {s' : ParserState} (h : HasRead s tokens) (hstep : s.step? token = .ok s') :
    HasRead s' (tokens ++ [token]) := by
  obtain ⟨frames, terms, phase⟩ := s
  obtain ⟨before, leading, last, hframes, hterms, hlast, rfl⟩ := h
  cases hlast with
  | start => simpa using step_start hframes hterms hstep
  | term hlast => simpa using step_term hframes hterms hlast hstep
  | dot hlast => simpa using step_dot hframes hterms hlast hstep

/-- Reading several tokens goes on by all of them. -/
lemma reads {s' : ParserState} {others : List Token} (h : HasRead s tokens)
    (hreads : Reads s others s') : HasRead s' (tokens ++ others) := by
  induction others generalizing s tokens with
  | nil =>
    cases hreads
    simpa using h
  | cons token others ih =>
    obtain ⟨next, hstep, hrest⟩ := Reads.cons_iff.1 hreads
    simpa using ih (h.step hstep) hrest

end HasRead

/-- The tokens of an expression are a sum. -/
lemma Forms.isSum {tokens : List Token} {e : Expr} (h : Forms tokens e) : IsSum tokens e := by
  obtain ⟨terms, value, hreads, rfl⟩ := h
  obtain ⟨before, leading, last, hframes, hterms, hlast, rfl⟩ := HasRead.initial.reads hreads
  cases hframes
  cases hlast with
  | term hlast => exact hterms.isSum hlast

/-- The parser reads as an expression exactly what the grammar derives as one. -/
lemma forms_iff_isSum {tokens : List Token} {e : Expr} : Forms tokens e ↔ IsSum tokens e :=
  ⟨Forms.isSum, IsSum.forms⟩

/-! ## The parser and the grammar -/

/-- The parser reads one state after some tokens. -/
lemma ParserState.Reads.unique {s s' s'' : ParserState} {tokens : List Token}
    (h : Reads s tokens s') (h' : Reads s tokens s'') : s' = s'' :=
  Except.ok.inj (h.symm.trans h')

/-- Tokens are at most one expression. -/
lemma IsSum.unique {tokens : List Token} {e e' : Expr} (h : IsSum tokens e)
    (h' : IsSum tokens e') : e = e' := by
  obtain ⟨terms, value, hreads, rfl⟩ := h.forms
  obtain ⟨terms', value', hreads', rfl⟩ := h'.forms
  cases hreads.unique hreads'
  rfl

/-- Code that is cut into tokens is parsed to an expression exactly if all of its tokens together
are this expression in the grammar, and they are no other one. -/
theorem parse_iff_isSum {code : String} {placed : List Placed} (hlex : lex code = .ok placed) :
    (∀ e, Expr.parse code = .ok e ↔ IsSum (placed.map Placed.token) e) ∧
      ∀ e e', IsSum (placed.map Placed.token) e → IsSum (placed.map Placed.token) e' → e = e' := by
  refine ⟨fun e => ?_, fun e e' => IsSum.unique⟩
  rw [Expr.parse, hlex, ← forms_iff_isSum]
  exact parseTokens_eq_ok_iff

/-- A call with a comma behind its argument, a property of it, and a plus. -/
theorem parse_iff_isSum_call :
    ∃ placed, lex "f(a,).b + 1" = .ok placed ∧
      IsSum (placed.map Placed.token)
        (.concat [.member (.call (.ident "f") [.ident "a"]) "b", .num (.int 1)]) ∧
      ∀ e, IsSum (placed.map Placed.token) e →
        e = .concat [.member (.call (.ident "f") [.ident "a"]) "b", .num (.int 1)] := by
  have hlex : lex "f(a,).b + 1" = .ok [⟨.name "f", 0⟩, ⟨.mark .openParen, 1⟩, ⟨.name "a", 2⟩,
      ⟨.mark .comma, 3⟩, ⟨.mark .closeParen, 4⟩, ⟨.mark .dot, 5⟩, ⟨.name "b", 6⟩,
      ⟨.mark .plus, 8⟩, ⟨.num (.int 1), 10⟩] := by cbv
  obtain ⟨hparse, hunique⟩ := parse_iff_isSum hlex
  have hsum := (hparse (.concat [.member (.call (.ident "f") [.ident "a"]) "b",
    .num (.int 1)])).1 (by cbv)
  exact ⟨_, hlex, hsum, fun e he => hunique _ _ he hsum⟩

end Expr
end Bindery
