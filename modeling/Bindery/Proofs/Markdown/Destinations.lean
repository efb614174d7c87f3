import Bindery.Proofs.Markdown.Requests
import Bindery.Proofs.Markdown.Splitting

/-!
# Splitting documents without expressions

A token tree as it is read holds no expressions of its own (`isFree_of_mem_ofEvents`). If none is
written in its texts either, then splitting leaves it as it is but for the relative links in it: the
destination of each becomes a placeholder for the expression that asks for its url. `AlignedAll`
relates a tree to what it is split into, and lists these placeholders with the destinations they
stand for, in the order in which a renderer comes across them (`splitAll_aligned`).
-/

namespace Bindery
namespace Markdown

open Template

/-! ## Trees without expressions -/

mutual

/-- Whether no token of a tree is an expression. -/
def Token.isFree : Token → Bool
  | .element _ children => isFreeAll children
  | .expression _ => false
  | _ => true

/-- Whether no token of several trees is an expression. -/
def isFreeAll : List Token → Bool
  | [] => true
  | token :: rest => token.isFree && isFreeAll rest

end

/-- Trees are free of expressions if each of them is. -/
lemma isFreeAll_iff {tokens : List Token} :
    isFreeAll tokens = true ↔ ∀ token ∈ tokens, token.isFree = true := by
  induction tokens with
  | nil => simp [isFreeAll]
  | cons token rest ih => simp [isFreeAll, ih]

namespace Token.Builder

/-- The tokens of the innermost construct that is open, last first. -/
def inner (b : Builder) : List Token :=
  match b.opened with
  | [] => b.tokens
  | construct :: _ => construct.children

/-- A builder with other tokens in the innermost construct. -/
def withInner (b : Builder) (tokens : List Token) : Builder :=
  match b.opened with
  | [] => { b with tokens }
  | construct :: outer => { b with opened := { construct with children := tokens } :: outer }

lemma add_eq (b : Builder) (token : Token) : b.add token = b.withInner (token :: b.inner) := by
  obtain ⟨done, opened, code⟩ := b
  cases opened <;> rfl

/-- HTML goes into the last token if that is HTML, and becomes a token otherwise. -/
lemma addHtml_cases (b : Builder) (text : String) :
    (∃ before rest, b.inner = .html before :: rest ∧
        b.addHtml text = b.withInner (.html (before ++ text) :: rest)) ∨
      ((∀ before rest, b.inner ≠ .html before :: rest) ∧
        b.addHtml text = b.withInner (.html text :: b.inner)) := by
  obtain ⟨done, opened, code⟩ := b
  cases opened with
  | nil =>
    unfold addHtml inner withInner
    dsimp only
    split
    · rename_i before rest
      exact .inl ⟨before, rest, rfl, rfl⟩
    · rename_i hother
      exact .inr ⟨fun before rest => hother before rest, rfl⟩
  | cons construct outer =>
    unfold addHtml inner withInner
    dsimp only
    split
    · rename_i before rest hchildren
      exact .inl ⟨before, rest, hchildren, rfl⟩
    · rename_i hother
      exact .inr ⟨fun before rest => hother before rest, rfl⟩

/-- The tokens that a builder holds are free of expressions. -/
structure Free (b : Builder) : Prop where
  tokens : ∀ token ∈ b.tokens, token.isFree = true
  opened : ∀ construct ∈ b.opened, ∀ token ∈ construct.children, token.isFree = true

variable {b : Builder}

/-- What the innermost construct holds is free. -/
lemma Free.inner (h : b.Free) : ∀ token ∈ b.inner, token.isFree = true := by
  unfold Builder.inner
  split
  · exact h.tokens
  · rename_i construct outer hopened
    exact h.opened construct (hopened ▸ List.mem_cons_self)

/-- A builder stays free if the innermost construct gets free tokens. -/
lemma Free.withInner (h : b.Free) {tokens : List Token}
    (htokens : ∀ token ∈ tokens, token.isFree = true) : (b.withInner tokens).Free := by
  unfold Builder.withInner
  split
  · exact ⟨htokens, h.opened⟩
  · rename_i construct outer hopened
    have houter := h.opened
    rw [hopened] at houter
    exact ⟨h.tokens, List.forall_mem_cons.2 ⟨htokens, (List.forall_mem_cons.1 houter).2⟩⟩

/-- Adding a free token keeps a builder free. -/
lemma Free.add (h : b.Free) {token : Token} (htoken : token.isFree = true) :
    (b.add token).Free := by
  rw [add_eq]
  exact h.withInner (List.forall_mem_cons.2 ⟨htoken, h.inner⟩)

/-- HTML is free of expressions. -/
lemma Free.addHtml (h : b.Free) (html : String) : (b.addHtml html).Free := by
  have hfree := h.inner
  obtain ⟨before, rest, hinner, hadd⟩ | ⟨-, hadd⟩ := b.addHtml_cases html
  · rw [hinner] at hfree
    rw [hadd]
    exact h.withInner (List.forall_mem_cons.2 ⟨rfl, (List.forall_mem_cons.1 hfree).2⟩)
  · rw [hadd]
    exact h.withInner (List.forall_mem_cons.2 ⟨rfl, hfree⟩)

/-- Closing a construct keeps a builder free. -/
lemma Free.close (h : b.Free) : b.close.Free := by
  unfold Builder.close
  split
  · exact h
  · rename_i inner outer hopened
    have hinner := h.opened
    rw [hopened] at hinner
    obtain ⟨hchildren, houter⟩ := List.forall_mem_cons.1 hinner
    have hleft : Free { b with opened := outer } := ⟨h.tokens, houter⟩
    have helement : (Token.element inner.tag inner.children.reverse).isFree = true :=
      isFreeAll_iff.2 fun token htoken => hchildren token (List.mem_reverse.1 htoken)
    exact hleft.add helement

/-- Every event outside of code keeps a builder free. -/
lemma Free.plainStep (h : b.Free) (event : Event) : (b.plainStep event).Free := by
  cases event with
  | start tag => exact ⟨h.tokens, List.forall_mem_cons.2 ⟨by simp, h.opened⟩⟩
  | stop tag => exact h.close
  | startCode kind => exact ⟨h.tokens, h.opened⟩
  | stopCode => exact h.close
  | text text => exact h.add rfl
  | html text => exact h.addHtml text
  | inlineHtml text => exact h.add rfl
  | leaf leaf => exact h.add rfl

/-- No event makes an expression. -/
lemma Free.step (h : b.Free) (event : Event) : (b.step event).Free := by
  unfold Builder.step
  split
  · exact ⟨h.tokens, h.opened⟩
  · have hclosed : Free { b with code := none } := ⟨h.tokens, h.opened⟩
    exact hclosed.add rfl
  · exact h.plainStep _

end Token.Builder

/-- A tree that is read from events has no expressions. -/
lemma isFree_ofEvents (events : List Event) : isFreeAll (Token.ofEvents events) = true := by
  have hread : (events.foldl Token.Builder.step {}).Free :=
    List.foldlRecOn events _ ⟨by simp, by simp⟩ fun b h event _ => h.step event
  have hclosed := List.foldlRecOn (motive := Token.Builder.Free)
    (events.foldl Token.Builder.step {}).opened (fun b _ => b.close) hread fun b h _ _ => h.close
  exact isFreeAll_iff.2 fun token htoken => hclosed.tokens token (List.mem_reverse.1 htoken)

/-! ## Texts that are searched for expressions -/

/-- The texts of a construct that are searched for expressions. -/
def Tag.searched (tag : Tag) : List String :=
  tag.target?.elim [] fun target => [target.dest, target.title]

mutual

/-- The texts of a token that are searched for expressions. -/
def Token.searched : Token → List String
  | .element tag children => tag.searched ++ searchedAll children
  | .text text => [text]
  | .html text => [text]
  | .inlineHtml text => [text]
  | .codeBlock _ content _ => [content]
  | .expression _ => []
  | .leaf _ => []

/-- The texts of tokens that are searched for expressions. -/
def searchedAll : List Token → List String
  | [] => []
  | token :: rest => token.searched ++ searchedAll rest

end

/-! ## Destinations that are asked for -/

/-- Whether a destination without expressions becomes one that asks for its url. -/
def isRequested (dest : String) : Bool := !holdsPlaceholder dest && Link.isRequest dest

/-- The destination of a construct, if it is asked for. -/
def Tag.requests (tag : Tag) : List String :=
  tag.target?.elim [] fun target => if isRequested target.dest then [target.dest] else []

mutual

/-- The destinations that a renderer comes across and that are asked for, in order. Those inside of
an image are not rendered. -/
def Token.requests (inImage : Bool) : Token → List String
  | .element tag children =>
    (if inImage then [] else tag.requests) ++ requestsAll (inImage || tag.isImage) children
  | _ => []

/-- The destinations in tokens that are rendered and asked for. -/
def requestsAll (inImage : Bool) : List Token → List String
  | [] => []
  | token :: rest => token.requests inImage ++ requestsAll inImage rest

end

/-! ## Trees side by side -/

/-- A construct and what it is split into, and the placeholder that stands for its destination. -/
inductive Tag.Aligned : Tag → Tag → List (Nat × String) → Prop
  | same (tag : Tag) : Tag.Aligned tag tag []
  | link (target : Target) (i : Nat) :
      Tag.Aligned (.link target) (.link { target with dest := placeholder i }) [(i, target.dest)]
  | image (target : Target) (i : Nat) :
      Tag.Aligned (.image target) (.image { target with dest := placeholder i }) [(i, target.dest)]

/-- Whether a token has neither children nor an expression. -/
def Token.isPlain : Token → Bool
  | .element _ _ => false
  | .expression _ => false
  | _ => true

/-- Tokens and what they are split into, and the placeholders that a renderer comes across, with the
destinations that they stand for. -/
inductive AlignedAll : Bool → List Token → List Token → List (Nat × String) → Prop
  | nil {inImage : Bool} : AlignedAll inImage [] [] []
  | single {inImage : Bool} {token : Token} {rest rest' : List Token} {marks : List (Nat × String)}
      (htoken : token.isPlain = true) (hrest : AlignedAll inImage rest rest' marks) :
      AlignedAll inImage (token :: rest) (token :: rest') marks
  | element {inImage : Bool} {tag tag' : Tag} {children children' rest rest' : List Token}
      {marks inside others : List (Nat × String)} (htag : tag.Aligned tag' marks)
      (hchildren : AlignedAll (inImage || tag.isImage) children children' inside)
      (hrest : AlignedAll inImage rest rest' others) :
      AlignedAll inImage (.element tag children :: rest) (.element tag' children' :: rest')
        ((if inImage then [] else marks) ++ (inside ++ others))

/-- The placeholders that an environment gave away while it grew stand for destinations, except for
as many as are hidden. -/
structure Registers (env env' : Environment) (marks : List (Nat × String)) (hidden : Nat) :
    Prop where
  sources : env.sources <+: env'.sources
  sublist : (marks.map Prod.fst).Sublist (List.Ico env.sources.length env'.sources.length)
  length_add : env.sources.length + marks.length + hidden = env'.sources.length
  asset : ∀ m ∈ marks, ∃ source, env'.sources[m.1]? = some source ∧
    assetExpression? m.2 = some source

namespace Registers

variable {env env' env'' : Environment} {marks others : List (Nat × String)} {hidden hidden' : Nat}

lemma refl (env : Environment) : Registers env env [] 0 :=
  ⟨List.prefix_refl _, List.nil_sublist _, rfl, by simp⟩

/-- What is registered in two steps is registered one behind the other. -/
lemma trans (h : Registers env env' marks hidden) (h' : Registers env' env'' others hidden') :
    Registers env env'' (marks ++ others) (hidden + hidden') := by
  have hle : env.sources.length ≤ env'.sources.length := h.sources.length_le
  have hle' : env'.sources.length ≤ env''.sources.length := h'.sources.length_le
  refine ⟨h.sources.trans h'.sources, ?_, ?_, fun m hm => ?_⟩
  · rw [List.map_append, ← List.Ico.append_consecutive hle hle']
    exact h.sublist.append h'.sublist
  · have hlength := h.length_add
    have hlength' := h'.length_add
    rw [List.length_append]
    omega
  · rcases List.mem_append.1 hm with hm | hm
    · obtain ⟨source, hsource, hasset⟩ := h.asset m hm
      -- what is registered stays where it is
      obtain ⟨later, hlater⟩ := h'.sources
      refine ⟨source, ?_, hasset⟩
      rw [← hlater, List.getElem?_append_left (List.getElem?_eq_some_iff.1 hsource).1, hsource]
    · exact h'.asset m hm

/-- Placeholders that no renderer comes across are hidden. -/
lemma hide (h : Registers env env' marks hidden) :
    Registers env env' [] (marks.length + hidden) := by
  have hlength := h.length_add
  exact ⟨h.sources, List.nil_sublist _, by rw [List.length_nil]; omega, by simp⟩

/-- The code of a destination is registered at the next index. -/
lemma replace {dest source : String} (h : assetExpression? dest = some source)
    (env : Environment) :
    Registers env (env.replace source).2 [(env.sources.length, dest)] 0 := by
  have hlength : (env.replace source).2.sources.length = env.sources.length + 1 := by
    simp [Environment.replace]
  refine ⟨List.prefix_append _ _, ?_, hlength.symm, fun m hm => ?_⟩
  · rw [hlength, List.Ico.succ_singleton]
    exact List.Sublist.refl _
  · obtain rfl := List.mem_singleton.1 hm
    exact ⟨source, by simp [Environment.replace], h⟩

end Registers

/-- Trees that stand side by side do so also one behind the other. -/
lemma AlignedAll.append {inImage : Bool} {first first' second second' : List Token}
    {marks others : List (Nat × String)} (hfirst : AlignedAll inImage first first' marks)
    (hsecond : AlignedAll inImage second second' others) :
    AlignedAll inImage (first ++ second) (first' ++ second') (marks ++ others) := by
  induction hfirst with
  | nil => exact hsecond
  | single htoken _ ih => exact .single htoken (ih hsecond)
  | element htag hchildren _ _ ih =>
    simp only [List.append_assoc]
    exact .element htag hchildren (ih hsecond)

/-! ## Splitting -/

/-- Tokens are split into ones that differ by the destinations that are asked for, and the
placeholders of these are registered. -/
def SplitsInto (inImage : Bool) (env env' : Environment) (tokens split : List Token) : Prop :=
  ∃ marks, AlignedAll inImage tokens split marks ∧
    Registers env env' marks (hiddenAll inImage tokens) ∧
    marks.map Prod.snd = requestsAll inImage tokens

lemma preprocess_plain (env : Environment) {text : String} (h : hasExpressions text = false) :
    env.preprocess text = (text, env) := by
  rw [Environment.preprocess, if_neg (by simp [h])]

/-- A destination without an expression is registered if it is requested, and otherwise stays. -/
lemma splitTarget_plain (env : Environment) {dest : String} (h : hasExpressions dest = false) :
    (isRequested dest = true ∧ destinationMarks dest = 1 ∧
      ∃ source, assetExpression? dest = some source ∧ splitTarget env dest = env.replace source) ∨
    (isRequested dest = false ∧ destinationMarks dest = 0 ∧
      splitTarget env dest = (dest, env)) := by
  have hno : ¬ hasExpressions dest = true := by simp [h]
  unfold isRequested destinationMarks splitTarget
  rw [if_neg hno, if_neg hno]
  cases hholds : holdsPlaceholder dest with
  | true => exact .inr ⟨rfl, rfl, rfl⟩
  | false =>
    have hasset := isSome_assetExpression? dest
    cases hsource : assetExpression? dest with
    | none =>
      rw [hsource] at hasset
      exact .inr ⟨hasset.symm, rfl, rfl⟩
    | some source =>
      rw [hsource] at hasset
      exact .inl ⟨hasset.symm, rfl, source, rfl, rfl⟩

/-- Splitting a link changes its destination if that is asked for, and nothing else. -/
lemma splitLink_plain (env : Environment) {target : Target}
    (hdest : hasExpressions target.dest = false) (htitle : hasExpressions target.title = false) :
    (isRequested target.dest = true ∧ target.marks = 1 ∧
      ∃ source, assetExpression? target.dest = some source ∧ splitLink env target
        = ({ target with dest := placeholder env.sources.length }, (env.replace source).2)) ∨
    (isRequested target.dest = false ∧ target.marks = 0 ∧
      splitLink env target = (target, env)) := by
  unfold Target.marks splitLink
  rw [expressionCount_eq_zero htitle, Nat.add_zero]
  rcases splitTarget_plain env hdest with ⟨hrequested, hcount, source, hasset, heq⟩ |
    ⟨hrequested, hcount, heq⟩
  · refine .inl ⟨hrequested, hcount, source, hasset, ?_⟩
    dsimp only
    rw [heq, preprocess_plain _ htitle]
    rfl
  · refine .inr ⟨hrequested, hcount, ?_⟩
    dsimp only
    rw [heq, preprocess_plain _ htitle]

/-- A construct is split into one that differs by its destination if that is asked for, and the
placeholder of the destination is registered. -/
def Tag.SplitsInto (env : Environment) (tag : Tag) : Tag × Environment → Prop
  | (tag', env') => ∃ marks, tag.Aligned tag' marks ∧ Registers env env' marks 0 ∧
      marks.map Prod.snd = tag.requests ∧ marks.length = tag.marks

/-- Links and images are split alike. -/
lemma splitsInto_of_target (env : Environment) {make : Target → Tag} {target : Target}
    (htarget : (make target).target? = some target)
    (haligned : ∀ i, (make target).Aligned (make { target with dest := placeholder i })
      [(i, target.dest)])
    (h : ∀ text ∈ (make target).searched, hasExpressions text = false) :
    (make target).SplitsInto env (make (splitLink env target).1, (splitLink env target).2) := by
  unfold Tag.searched at h
  unfold Tag.SplitsInto Tag.requests Tag.marks
  rw [htarget] at h ⊢
  have hdest := h target.dest List.mem_cons_self
  have htitle := h target.title (List.mem_cons_of_mem _ List.mem_cons_self)
  rcases splitLink_plain env hdest htitle with ⟨hrequested, hmarks, source, hasset, heq⟩ |
    ⟨hrequested, hmarks, heq⟩
  · rw [heq, Option.elim_some, Option.elim_some, if_pos hrequested, hmarks]
    exact ⟨_, haligned env.sources.length, .replace hasset env, rfl, rfl⟩
  · rw [heq, Option.elim_some, Option.elim_some, if_neg (by simp [hrequested]), hmarks]
    exact ⟨[], .same _, .refl env, rfl, rfl⟩

/-- A tag without expressions is split into one with its requested destination marked. -/
lemma splitTag_splitsInto (env : Environment) {tag : Tag}
    (h : ∀ text ∈ tag.searched, hasExpressions text = false) :
    tag.SplitsInto env (splitTag env tag) := by
  cases tag with
  | link target => exact splitsInto_of_target env rfl (.link target) h
  | image target => exact splitsInto_of_target env rfl (.image target) h
  | _ => exact ⟨[], .same _, .refl env, rfl, rfl⟩

/-- A text without expressions stays in one piece. -/
lemma splitText_plain {kind : String → Token} {text : String} (h : hasExpressions text = false) :
    splitText kind text = [kind text] := by
  rw [splitText, if_neg (by simp [h])]

namespace SplitsInto

variable {inImage : Bool} {env env' env'' : Environment}

lemma nil : SplitsInto inImage env env [] [] := ⟨[], .nil, .refl env, rfl⟩

/-- A token without children stays as it is. -/
lemma single {token : Token} (h : token.isPlain = true) :
    SplitsInto inImage env env [token] [token] := by
  have hidden : hiddenAll inImage [token] = 0 := by cases token <;> first | rfl | cases h
  have requests : requestsAll inImage [token] = [] := by cases token <;> first | rfl | cases h
  rw [SplitsInto, hidden, requests]
  exact ⟨[], .single h .nil, .refl env, rfl⟩

/-- Tokens are split one after the other. -/
lemma append {token : Token} {first rest rest' : List Token}
    (hfirst : SplitsInto inImage env env' [token] first)
    (hrest : SplitsInto inImage env' env'' rest rest') :
    SplitsInto inImage env env'' (token :: rest) (first ++ rest') := by
  obtain ⟨marks, haligned, hregisters, hmarks⟩ := hfirst
  obtain ⟨others, haligned', hregisters', hothers⟩ := hrest
  have hidden : hiddenAll inImage (token :: rest)
      = hiddenAll inImage [token] + hiddenAll inImage rest := rfl
  have requests : requestsAll inImage (token :: rest)
      = requestsAll inImage [token] ++ requestsAll inImage rest := by
    simp [requestsAll]
  rw [SplitsInto, hidden, requests]
  refine ⟨marks ++ others, haligned.append haligned', hregisters.trans hregisters', ?_⟩
  rw [List.map_append, hmarks, hothers]

/-- The placeholder of a construct is hidden if the construct is inside of an image. -/
lemma element {tag tag' : Tag} {children children' : List Token}
    (htag : tag.SplitsInto env (tag', env'))
    (hchildren : SplitsInto (inImage || tag.isImage) env' env'' children children') :
    SplitsInto inImage env env'' [.element tag children] [.element tag' children'] := by
  obtain ⟨marks, haligned, hregisters, hrequests, hlength⟩ := htag
  obtain ⟨inside, haligned', hregisters', hinside⟩ := hchildren
  refine ⟨_, .element haligned haligned' .nil, ?_, ?_⟩
  · have hidden : hiddenAll inImage [.element tag children]
        = (if inImage then marks.length else 0) + hiddenAll (inImage || tag.isImage) children := by
      rw [hlength]
      rfl
    rw [hidden, List.append_nil]
    cases inImage with
    | true => exact hregisters.hide.trans hregisters'
    | false => exact hregisters.trans hregisters'
  · have requests : requestsAll inImage [.element tag children]
        = (if inImage then [] else tag.requests)
          ++ requestsAll (inImage || tag.isImage) children := by
      simp [requestsAll, Token.requests]
    rw [requests, ← hinside, ← hrequests]
    cases inImage <;> simp

end SplitsInto

mutual

/-- Splitting a token without expressions changes the destinations that are asked for. -/
lemma Token.split_aligned (inImage : Bool) (env : Environment) : (token : Token) →
    token.isFree = true → (∀ text ∈ token.searched, hasExpressions text = false) →
    SplitsInto inImage env (token.split env).2 [token] (token.split env).1
  | .element tag children, hfree, h => by
    have hsearched : ∀ text ∈ tag.searched ++ searchedAll children, hasExpressions text = false := h
    have htag := splitTag_splitsInto env fun text htext =>
      hsearched text (List.mem_append_left _ htext)
    have hchildren := splitAll_aligned (inImage || tag.isImage) (splitTag env tag).2 children hfree
      fun text htext => hsearched text (List.mem_append_right _ htext)
    exact .element htag hchildren
  | .text text, _, h => by
    rw [Token.split, splitText_plain (h text (by simp [Token.searched]))]
    exact .single rfl
  | .html text, _, h => by
    rw [Token.split, splitText_plain (h text (by simp [Token.searched]))]
    exact .single rfl
  | .inlineHtml text, _, h => by
    rw [Token.split, splitText_plain (h text (by simp [Token.searched]))]
    exact .single rfl
  | .codeBlock kind content templated, _, h => by
    have hcontent := h content (by simp [Token.searched])
    rw [Token.split, preprocess_plain env hcontent, hcontent, Bool.or_false]
    exact .single rfl
  | .leaf _, _, _ => .single rfl

/-- Splitting tokens without expressions changes the destinations that are asked for. -/
lemma splitAll_aligned (inImage : Bool) (env : Environment) : (tokens : List Token) →
    isFreeAll tokens = true → (∀ text ∈ searchedAll tokens, hasExpressions text = false) →
    SplitsInto inImage env (splitAll env tokens).2 tokens (splitAll env tokens).1
  | [], _, _ => .nil
  | token :: rest, hfree, h => by
    have hsearched : ∀ text ∈ token.searched ++ searchedAll rest, hasExpressions text = false := h
    rw [isFreeAll, Bool.and_eq_true] at hfree
    have hfirst := token.split_aligned inImage env hfree.1 fun text htext =>
      hsearched text (List.mem_append_left _ htext)
    have hrest := splitAll_aligned inImage (token.split env).2 rest hfree.2 fun text htext =>
      hsearched text (List.mem_append_right _ htext)
    exact hfirst.append hrest

end

/-- There is nothing to promote where nothing is an expression. -/
lemma AlignedAll.promoteAll {inImage : Bool} {tokens split : List Token}
    {marks : List (Nat × String)} (h : AlignedAll inImage tokens split marks) :
    promoteAll split = split := by
  induction h with
  | nil => rfl
  | @single inImage token rest rest' marks htoken _ ih =>
    have hpromote : token.promote = token := by cases token <;> first | rfl | cases htoken
    rw [Markdown.promoteAll, hpromote, ih]
  | @element inImage tag tag' children children' rest rest' marks inside others _ hchildren _
      ihchildren ih =>
    rw [Markdown.promoteAll, ih]
    rcases Token.promote_element tag' children' with ⟨source, -, rfl, -⟩ | hpromote
    · cases hchildren with
      | single htoken _ => cases htoken
    · rw [hpromote, ihchildren]

end Markdown
end Bindery
