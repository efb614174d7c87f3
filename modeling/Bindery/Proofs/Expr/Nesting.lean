import Bindery.Proofs.Expr.Parsing

/-!
# Code inside of brackets

Tokens that are read inside of an open bracket need not be an expression alone: they may close the
bracket and open another. `depthAfter` counts the brackets that tokens leave open. Tokens that close
none that they did not open are read inside of a bracket as they are read alone (`Reads.inside`),
so in parentheses they form an expression exactly if they form one alone (`exists_forms_of_paren`),
and as arguments of a call they are arguments of this call (`exists_call_of_reads`).
-/

namespace Bindery
namespace Expr

/-- How many brackets are open behind a token, given how many are open before it. None, if the token
closes a bracket that is not among them; `commas` says whether a comma may stand outside of all of
them. -/
def depthAfter (commas : Bool) (depth : Nat) : Token → Option Nat
  | .mark .openParen | .mark .openBracket => some (depth + 1)
  | .mark .closeParen | .mark .closeBracket => if depth = 0 then none else some (depth - 1)
  | .mark .comma => if depth = 0 && !commas then none else some depth
  | _ => some depth

/-- Tokens that close the brackets that they open, and no others. -/
def Balanced (commas : Bool) (tokens : List Token) : Prop :=
  tokens.foldlM (depthAfter commas) 0 = some 0

/-- Code whose brackets are its own: it is cut into tokens alone, and it closes the brackets that it
opens and no others. -/
def IsClosed (source : String) : Prop :=
  ∃ tokens, Lexes source.toList tokens ∧ Balanced true tokens

/-- Such code that can be a single argument: there is something in it, and no comma outside of its
brackets. -/
def IsArgument (source : String) : Prop :=
  ∃ tokens, Lexes source.toList tokens ∧ Balanced false tokens ∧ tokens ≠ []

/-! ## Counting open brackets -/

section

variable {commas : Bool} {depth depth' : Nat} {token : Token} {tokens : List Token}

/-- Brackets that are open further out do not count. -/
lemma depthAfter_add (h : depthAfter commas depth token = some depth') (outer : Nat) :
    depthAfter true (depth + outer) token = some (depth' + outer) := by
  unfold depthAfter at h ⊢
  split at h <;> simp at h ⊢ <;> omega

/-- Tokens that stay in their brackets do so inside of further brackets, where commas are allowed.
-/
lemma foldlM_depthAfter_add (h : tokens.foldlM (depthAfter commas) depth = some depth')
    (outer : Nat) : tokens.foldlM (depthAfter true) (depth + outer) = some (depth' + outer) := by
  induction tokens generalizing depth with
  | nil =>
    cases h
    rfl
  | cons token tokens ih =>
    rw [List.foldlM_cons, Option.bind_eq_bind, Option.bind_eq_some_iff] at h ⊢
    obtain ⟨next, hstep, hrest⟩ := h
    exact ⟨next + outer, depthAfter_add hstep outer, ih hrest⟩

lemma Balanced.weaken (h : Balanced commas tokens) : Balanced true tokens :=
  foldlM_depthAfter_add h 0

lemma IsArgument.isClosed {source : String} (h : IsArgument source) : IsClosed source := by
  obtain ⟨tokens, hlexes, hbalanced, -⟩ := h
  exact ⟨tokens, hlexes, hbalanced.weaken⟩

/-- Balanced tokens in parentheses, behind a name, are balanced. -/
lemma Balanced.call (h : Balanced true tokens) (name : String) :
    Balanced true (.name name :: .mark .openParen :: (tokens ++ [.mark .closeParen])) := by
  have hinside : tokens.foldlM (depthAfter true) (0 + 1) = some (0 + 1) :=
    foldlM_depthAfter_add h 1
  simp only [Balanced, List.foldlM_cons, depthAfter, List.foldlM_append, hinside,
    Option.bind_eq_bind, Option.bind_some]
  rfl

/-- Code is cut into tokens in one way. -/
lemma Lexes.unique {code : List Char} {others : List Token} (h : Lexes code tokens)
    (h' : Lexes code others) : others = tokens := by
  obtain ⟨placed, hlex, rfl⟩ := h 0
  obtain ⟨placed', hlex', rfl⟩ := h' 0
  rw [hlex] at hlex'
  rw [Except.ok.inj hlex']

end

/-! ## Reading inside of a bracket -/

/-- A bracket with one more item in it, if it is one that holds items. -/
def Opener.withItem? (item : Expr) : Opener → Option Opener
  | .array items => some (.array (item :: items))
  | .args callee items => some (.args callee (item :: items))
  | .paren | .position _ => none

namespace ParserState

variable {s s' s'' : ParserState} {tokens others : List Token} {token : Token} {commas : Bool}
  {depth : Nat} {frame : Frame} {outer : List Frame}

/-- The parser keeps the brackets that are open. -/
lemma depthAfter_of_step? (h : s.step? token = .ok s') :
    depthAfter false s.frames.length token = some s'.frames.length := by
  fun_cases step? s token <;> simp_all [step?, depthAfter, withTerm, openBracket, close] <;> grind

lemma Reads.foldlM_depthAfter (h : Reads s tokens s') :
    tokens.foldlM (depthAfter false) s.frames.length = some s'.frames.length := by
  induction tokens generalizing s with
  | nil =>
    cases h
    rfl
  | cons token tokens ih =>
    obtain ⟨next, hstep, hrest⟩ := Reads.cons_iff.1 h
    rw [List.foldlM_cons, depthAfter_of_step? hstep]
    exact ih hrest

/-- Inside of an open bracket nothing counts that is open further out. -/
lemma step?_above_of_open (hopen : s.frames ≠ []) (token : Token) (frames : List Frame) :
    (s.above frames).step? token = (s.step? token).map (above · frames) := by
  obtain ⟨_ | ⟨⟨opener, before⟩, opened⟩, terms, phase⟩ := s
  · exact absurd rfl hopen
  · rcases token with _ | _ | _ | mark
    case mark => cases phase <;> cases mark <;> cases opener <;> cases terms <;> rfl
    all_goals cases phase <;> rfl

/-- What a token does inside of a bracket that it does not close: it is read as it is without the
bracket, or it is a comma that ends an item of the bracket. -/
lemma step?_inside {s₁ : ParserState} (h : (s.above (frame :: outer)).step? token = .ok s₁)
    (hdepth : depthAfter true s.frames.length token = some depth) :
    (∃ next, s.step? token = .ok next ∧ s₁ = next.above (frame :: outer)) ∨
    token = .mark .comma ∧ s.frames = [] ∧
      ∃ item opener, frame.opener.withItem? item = some opener ∧
        s₁ = initial.above (⟨opener, frame.terms⟩ :: outer) := by
  by_cases hopen : s.frames = []
  · obtain ⟨frames, terms, phase⟩ := s
    obtain rfl : frames = [] := hopen
    by_cases hcomma : token = .mark .comma
    · -- only behind a term does a comma end an item
      subst hcomma
      refine .inr ⟨rfl, rfl, ?_⟩
      obtain ⟨opener, before⟩ := frame
      cases phase with
      | term value =>
        refine ⟨sum terms value, ?_⟩
        cases opener <;> cases h <;> exact ⟨_, rfl, rfl⟩
      | start => cases h
      | dot target => cases h
    · refine .inl ?_
      rcases token with _ | _ | _ | mark
      case mark =>
        cases mark
        case comma => exact absurd rfl hcomma
        all_goals cases phase <;> cases hdepth <;> cases h <;> exact ⟨_, rfl, rfl⟩
      all_goals cases phase <;> cases h <;> exact ⟨_, rfl, rfl⟩
  · refine .inl ?_
    rw [step?_above_of_open hopen] at h
    cases hstep : s.step? token with
    | error e =>
      rw [hstep] at h
      cases h
    | ok next =>
      rw [hstep] at h
      cases h
      exact ⟨next, rfl, rfl⟩

/-- Tokens that close no bracket but their own are read inside of a bracket as they are read alone,
if no comma of theirs is one of the bracket. -/
lemma Reads.inside {s₁ : ParserState} (h : Reads (s.above (frame :: outer)) tokens s₁)
    (hdepth : tokens.foldlM (depthAfter commas) s.frames.length = some depth)
    (hcommas : commas = true → frame.opener = .paren) :
    ∃ next, Reads s tokens next ∧ next.frames.length = depth ∧
      s₁ = next.above (frame :: outer) := by
  induction tokens generalizing s with
  | nil =>
    cases h
    exact ⟨s, rfl, Option.some.inj hdepth, rfl⟩
  | cons token tokens ih =>
    obtain ⟨s₂, hstep, hrest⟩ := Reads.cons_iff.1 h
    rw [List.foldlM_cons, Option.bind_eq_bind, Option.bind_eq_some_iff] at hdepth
    obtain ⟨between, htoken, htokens⟩ := hdepth
    have hweak := depthAfter_add htoken 0
    rcases step?_inside hstep hweak with ⟨next, hnext, rfl⟩ | ⟨rfl, hframes, item, opener, hitem, -⟩
    · have hlen : depthAfter commas s.frames.length token = some next.frames.length := by
        have hstrict := depthAfter_of_step? hnext
        cases commas with
        | false => exact hstrict
        | true => exact depthAfter_add hstrict 0
      rw [hlen, Option.some.injEq] at htoken
      rw [← htoken] at htokens
      obtain ⟨s', hreads, hdepth, rfl⟩ := ih hrest htokens
      exact ⟨s', hreads.cons hnext, hdepth, rfl⟩
    · -- a comma of the bracket is not allowed, or the bracket is one without items
      rw [hframes] at htoken
      cases commas with
      | false => cases htoken
      | true =>
        rw [hcommas rfl] at hitem
        cases hitem

/-- Tokens that close no bracket but their own stay inside of the arguments of a call. -/
lemma Reads.arguments {s₁ : ParserState} {callee : Expr} {items before : List Expr}
    (h : Reads (s.above (⟨.args callee items, before⟩ :: outer)) tokens s₁)
    (hdepth : tokens.foldlM (depthAfter true) s.frames.length = some depth) :
    ∃ (next : ParserState) (items' : List Expr), next.frames.length = depth ∧
      s₁ = next.above (⟨.args callee items', before⟩ :: outer) := by
  induction tokens generalizing s items with
  | nil =>
    cases h
    exact ⟨s, items, Option.some.inj hdepth, rfl⟩
  | cons token tokens ih =>
    obtain ⟨s₂, hstep, hrest⟩ := Reads.cons_iff.1 h
    rw [List.foldlM_cons, Option.bind_eq_bind, Option.bind_eq_some_iff] at hdepth
    obtain ⟨between, htoken, htokens⟩ := hdepth
    rcases step?_inside hstep htoken with
      ⟨next, hnext, rfl⟩ | ⟨rfl, hframes, item, opener, hitem, rfl⟩
    · have hlen := depthAfter_add (depthAfter_of_step? hnext) 0
      rw [Nat.add_zero, htoken, Option.some.injEq] at hlen
      rw [hlen] at htokens
      exact ih hrest htokens
    · rw [hframes] at htoken
      cases htoken
      cases hitem
      exact ih hrest htokens

end ParserState

open ParserState

/-- Balanced tokens that are read in parentheses form an expression alone. -/
lemma exists_forms_of_paren {tokens rest : List Token} {terms : List Expr} {s : ParserState}
    (hbalanced : Balanced true tokens)
    (h : Reads ⟨[], terms, .start⟩ (.mark .openParen :: (tokens ++ .mark .closeParen :: rest)) s) :
    ∃ e, Forms tokens e ∧ Reads ⟨[], terms, .term e⟩ rest s := by
  obtain ⟨s₁, hopen, hrest⟩ := Reads.cons_iff.1 h
  cases hopen
  obtain ⟨s₂, htokens, hrest⟩ := Reads.append_iff.1 hrest
  have hinside : Reads (initial.above [⟨.paren, terms⟩]) tokens s₂ := htokens
  obtain ⟨next, hreads, hlen, rfl⟩ := hinside.inside hbalanced fun _ => rfl
  obtain ⟨s₃, hclose, hrest⟩ := Reads.cons_iff.1 hrest
  obtain ⟨frames, inner, phase⟩ := next
  obtain rfl : frames = [] := List.length_eq_zero_iff.1 hlen
  -- only a term can stand before the closing parenthesis
  cases phase with
  | term value =>
    cases hclose
    exact ⟨sum inner value, ⟨inner, value, hreads, rfl⟩, hrest⟩
  | start => cases inner <;> cases hclose
  | dot target => cases hclose

/-- What forms an expression is balanced, has no comma outside of its brackets, and is not
empty. -/
lemma Forms.balanced {tokens : List Token} {e : Expr} (h : Forms tokens e) :
    Balanced false tokens ∧ tokens ≠ [] := by
  obtain ⟨terms, value, hreads, -⟩ := h
  refine ⟨hreads.foldlM_depthAfter, fun hnil => ?_⟩
  rw [hnil] at hreads
  cases hreads

/-- An expression is a single argument. -/
lemma isArgument_of_parse {source : String} {e : Expr} (h : Expr.parse source = .ok e) :
    IsArgument source := by
  obtain ⟨tokens, hlexes, hforms⟩ := parse_eq_ok_iff.1 h
  exact ⟨tokens, hlexes, hforms.balanced⟩

/-- Outside of all brackets the parser is in front of a term only behind a plus. -/
lemma terms_ne_nil_of_step? {s : ParserState} {token : Token} {terms : List Expr}
    (h : s.step? token = .ok ⟨[], terms, .start⟩) : terms ≠ [] := by
  intro hnil
  fun_cases step? s token <;> simp_all [step?, withTerm, openBracket, close]

lemma terms_ne_nil_of_reads {tokens : List Token} {terms : List Expr}
    (h : Reads .initial tokens ⟨[], terms, .start⟩) (hne : tokens ≠ []) : terms ≠ [] := by
  obtain ⟨before, token, rfl⟩ := (List.eq_nil_or_concat' tokens).resolve_left hne
  obtain ⟨s, -, hlast⟩ := Reads.append_iff.1 h
  obtain ⟨s', hstep, hnil⟩ := Reads.cons_iff.1 hlast
  cases hnil
  exact terms_ne_nil_of_step? hstep

/-- Balanced tokens in the parentheses of a call are arguments of this call. If no comma stands
between them, and something does, they form its only argument. -/
lemma exists_call_of_reads {tokens : List Token} {callee : Expr} {s : ParserState}
    (hbalanced : Balanced true tokens)
    (h : Reads ⟨[], [], .term callee⟩ (.mark .openParen :: (tokens ++ [.mark .closeParen])) s) :
    ∃ args, s = ⟨[], [], .term (.call callee args)⟩ ∧
      (Balanced false tokens → tokens ≠ [] → ∃ arg, args = [arg] ∧ Forms tokens arg) := by
  obtain ⟨s₁, hopen, hrest⟩ := Reads.cons_iff.1 h
  cases hopen
  obtain ⟨s₂, htokens, hrest⟩ := Reads.append_iff.1 hrest
  have hinside : Reads (initial.above [⟨.args callee [], []⟩]) tokens s₂ := htokens
  obtain ⟨s₃, hclose, hnil⟩ := Reads.cons_iff.1 hrest
  cases hnil
  by_cases hstrict : Balanced false tokens ∧ tokens ≠ []
  · obtain ⟨hsingle, hne⟩ := hstrict
    obtain ⟨⟨frames, inner, phase⟩, hreads, hlen, rfl⟩ :=
      hinside.inside hsingle (by simp)
    obtain rfl : frames = [] := List.length_eq_zero_iff.1 hlen
    cases phase with
    | term value =>
      cases hclose
      exact ⟨[sum inner value], rfl, fun _ _ => ⟨_, rfl, inner, value, hreads, rfl⟩⟩
    | start =>
      have hinner := terms_ne_nil_of_reads hreads hne
      cases inner with
      | nil => exact absurd rfl hinner
      | cons e inner => cases hclose
    | dot target => cases hclose
  · obtain ⟨⟨frames, inner, phase⟩, items, hlen, rfl⟩ := hinside.arguments hbalanced
    obtain rfl : frames = [] := List.length_eq_zero_iff.1 hlen
    have hargs : ∃ args, s = ⟨[], [], .term (.call callee args)⟩ := by
      cases phase with
      | term value =>
        cases hclose
        exact ⟨_, rfl⟩
      | start =>
        cases inner with
        | nil =>
          cases hclose
          exact ⟨_, rfl⟩
        | cons e inner => cases hclose
      | dot target => cases hclose
    obtain ⟨args, hs⟩ := hargs
    exact ⟨args, hs, fun hsingle hne => absurd ⟨hsingle, hne⟩ hstrict⟩

end Expr
end Bindery
