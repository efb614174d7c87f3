import Bindery.Proofs.Markdown.Destinations
import Bindery.Proofs.Template.Cuts
import Bindery.Proofs.Template.Preprocessing

/-!
# Splitting a document once more

After a document is split, no text of it that is searched for expressions holds one: nothing makes
up a delimiter with the placeholders next to it. Every destination that was asked for is a
placeholder, or holds one, by which it is recognized. So splitting settles a document, and splitting
it once more changes nothing (`splitAll_settles`).
-/

namespace Bindery

/-! ## Texts -/

namespace Template

variable {s before source after : List Char} {escaped : Bool}

/-- A placeholder consists of its own characters. -/
lemma not_mem_placeholder {c : Char} (hc : isMarkChar c = false) (i : Nat) :
    c ∉ (placeholder i).toList := by
  intro hmem
  rw [isMarkChar_of_mem_placeholder hmem] at hc
  cases hc

/-- A placeholder in a text is found, or another one in front of it. -/
lemma isSome_firstPlaceholder (before : List Char) (i : Nat) (after : List Char) :
    (firstPlaceholder (before ++ ((placeholder i).toList ++ after))).isSome := by
  induction before with
  | nil =>
    have hlead := leadingPlaceholder_placeholder i after
    obtain ⟨behind, hstart⟩ := exists_toList_placeholder_append i after
    rw [hstart] at hlead
    rw [List.nil_append, hstart]
    exact Option.isSome_of_eq_some (firstPlaceholder_of_leading hlead)
  | cons c before ih =>
    rw [List.cons_append, Option.isSome_iff_ne_none, Ne, firstPlaceholder_cons_eq_none, not_and]
    exact fun _ => Option.isSome_iff_ne_none.1 ih

/-- No expression starts in a text without the start of a delimiter. -/
lemma firstCode_append_eq_none (hs : '<' ∉ s) (h : firstCode after = none) :
    firstCode (s ++ after) = none := by
  induction s with
  | nil => exact h
  | cons c s ih =>
    rw [List.mem_cons, not_or] at hs
    have hlead : leadingCode (c :: s ++ after) = none := by
      rw [Option.eq_none_iff_forall_not_mem]
      rintro ⟨escaped, source, rest⟩ hlead
      have hwritten := eq_of_leadingCode hlead
      simp [Piece.written, Ne.symm hs.1] at hwritten
    rw [List.cons_append] at hlead ⊢
    rw [firstCode, hlead, ih hs.2]
    rfl

namespace Environment

/-- What is written for the pieces of a text that holds an expression: what is in front of it, a
placeholder, and what is written for the pieces behind it. -/
lemma toList_substitute_pieces (env : Environment)
    (h : firstCode s = some (before, escaped, source, after)) :
    (env.substitute ((pieces s).map Piece.toFragment)).1.toList
      = before ++ ((placeholder env.sources.length).toList
        ++ ((env.replace (codeSource escaped source)).2.substitute
          ((pieces after).map Piece.toFragment)).1.toList) := by
  by_cases hbefore : before = []
  · subst hbefore
    rw [pieces_of_firstCode_nil h, List.map_cons, toFragment_code]
    simp [substitute, replace]
  · rw [pieces_of_firstCode h hbefore, List.map_cons, List.map_cons, toFragment_code]
    simp [substitute, replace, Piece.toFragment]

/-- No expression is left in what is written for a text. -/
lemma firstCode_substitute (env : Environment) (s : List Char) :
    firstCode (env.substitute ((pieces s).map Piece.toFragment)).1.toList = none := by
  cases hfirst : firstCode s with
  | none =>
    by_cases hs : s = []
    · simp [hs, pieces, firstCode, substitute]
    · rw [pieces_of_not_holdsCode hs (firstCode_eq_none_iff.1 hfirst)]
      simpa [substitute, Piece.toFragment] using hfirst
  | some found =>
    obtain ⟨before, escaped, source, after⟩ := found
    have hrest := firstCode_substitute (env.replace (codeSource escaped source)).2 after
    have hmark := firstCode_append_eq_none (not_mem_placeholder rfl env.sources.length) hrest
    -- the tilde of the placeholder goes on with no delimiter that is opened in front of it
    obtain ⟨behind, htilde⟩ := exists_toList_placeholder_append env.sources.length
      ((env.replace (codeSource escaped source)).2.substitute
        ((pieces after).map Piece.toFragment)).1.toList
    rw [env.toList_substitute_pieces hfirst]
    rw [htilde] at hmark ⊢
    have hbefore := not_holdsOpening_of_firstCode hfirst
    rw [List.cons_append] at hmark ⊢
    rw [firstCode_literal_append hbefore (by decide), hmark]
    rfl
termination_by s.length
decreasing_by exact firstCode_length hfirst

variable {text : String}

/-- A text that was prepared holds no expression. -/
lemma hasExpressions_preprocess (env : Environment) (text : String) :
    hasExpressions (env.preprocess text).1 = false := by
  rw [preprocess_eq_substitute, hasExpressions, scan, env.firstCode_substitute]
  rfl

/-- A text that was prepared holds a placeholder if it held an expression. -/
lemma holdsPlaceholder_preprocess (env : Environment) (h : hasExpressions text = true) :
    holdsPlaceholder (env.preprocess text).1 = true := by
  obtain ⟨⟨before, escaped, source, after⟩, hfirst⟩ := Option.isSome_iff_exists.1 h
  rw [preprocess_eq_substitute, holdsPlaceholder, scan, env.toList_substitute_pieces hfirst]
  exact isSome_firstPlaceholder _ _ _

end Environment

/-- A placeholder holds no expression. -/
lemma hasExpressions_placeholder (i : Nat) : hasExpressions (placeholder i) = false := by
  have hnone : firstCode ((placeholder i).toList ++ []) = none :=
    firstCode_append_eq_none (not_mem_placeholder rfl i) rfl
  rw [List.append_nil] at hnone
  rw [hasExpressions, hnone]
  rfl

lemma holdsPlaceholder_placeholder (i : Nat) : holdsPlaceholder (placeholder i) = true := by
  have hfound := isSome_firstPlaceholder [] i []
  rwa [List.nil_append, List.append_nil] at hfound

end Template

/-! ## Attributes -/

namespace Markdown

open Template

/-- A target that splitting leaves as it is. -/
structure Target.IsSettled (target : Target) : Prop where
  dest : hasExpressions target.dest = false
  title : hasExpressions target.title = false
  not_requested : isRequested target.dest = false

/-- Splitting a settled target changes nothing. -/
lemma Target.IsSettled.splitLink {target : Target} (h : target.IsSettled) (env : Environment) :
    splitLink env target = (target, env) := by
  rcases splitLink_plain env h.dest h.title with ⟨hrequested, -⟩ | ⟨-, -, hsame⟩
  · rw [h.not_requested] at hrequested
    cases hrequested
  · exact hsame

/-- A destination with a placeholder in it is not requested. -/
lemma not_requested_of_holdsPlaceholder {dest : String} (h : holdsPlaceholder dest = true) :
    isRequested dest = false := by
  rw [isRequested, h]
  rfl

/-- A destination holds no expression after it is split, and is not asked for. -/
lemma settled_splitTarget (env : Environment) (dest : String) :
    hasExpressions (splitTarget env dest).1 = false ∧
      isRequested (splitTarget env dest).1 = false := by
  cases hexpr : hasExpressions dest with
  | true =>
    have hprepared : splitTarget env dest = env.preprocess dest := by rw [splitTarget, if_pos hexpr]
    rw [hprepared]
    exact ⟨env.hasExpressions_preprocess dest,
      not_requested_of_holdsPlaceholder (env.holdsPlaceholder_preprocess hexpr)⟩
  | false =>
    rcases splitTarget_plain env hexpr with ⟨-, -, source, -, heq⟩ | ⟨hrequested, -, heq⟩
    · rw [heq]
      exact ⟨hasExpressions_placeholder _,
        not_requested_of_holdsPlaceholder (holdsPlaceholder_placeholder _)⟩
    · rw [heq]
      exact ⟨hexpr, hrequested⟩

/-- A target is settled once it was split. -/
lemma settled_splitLink (env : Environment) (target : Target) :
    (splitLink env target).1.IsSettled := by
  obtain ⟨hdest, hrequested⟩ := settled_splitTarget env target.dest
  exact ⟨hdest, (splitTarget env target.dest).2.hasExpressions_preprocess target.title, hrequested⟩

/-- A construct whose attributes splitting leaves as they are. -/
def Tag.IsSettled (tag : Tag) : Prop := ∀ target, tag.target? = some target → target.IsSettled

lemma Tag.IsSettled.splitTag {tag : Tag} (h : tag.IsSettled) (env : Environment) :
    splitTag env tag = (tag, env) := by
  cases tag with
  | link target => rw [Markdown.splitTag, (h target rfl).splitLink]
  | image target => rw [Markdown.splitTag, (h target rfl).splitLink]
  | _ => rfl

/-- A tag is settled once it was split. -/
lemma settled_splitTag (env : Environment) (tag : Tag) : (splitTag env tag).1.IsSettled := by
  intro target htarget
  cases tag with
  | link written =>
    cases htarget
    exact settled_splitLink env written
  | image written =>
    cases htarget
    exact settled_splitLink env written
  | _ => cases htarget

/-! ## Trees -/

/-- A token without children whose texts hold no expression. -/
def Token.IsSettled : Token → Prop
  | .element _ _ => False
  | token => ∀ text ∈ token.searched, hasExpressions text = false

/-- Tokens that splitting leaves as they are. -/
inductive SettledAll : List Token → Prop
  | nil : SettledAll []
  | single {token : Token} {rest : List Token} (htoken : token.IsSettled)
      (hrest : SettledAll rest) : SettledAll (token :: rest)
  | element {tag : Tag} {children rest : List Token} (htag : tag.IsSettled)
      (hchildren : SettledAll children) (hrest : SettledAll rest) :
      SettledAll (.element tag children :: rest)

lemma SettledAll.append {first second : List Token} (hfirst : SettledAll first)
    (hsecond : SettledAll second) : SettledAll (first ++ second) := by
  induction hfirst with
  | nil => exact hsecond
  | single htoken _ ih => exact .single htoken ih
  | element htag hchildren _ _ ih => exact .element htag hchildren ih

/-- No text of settled tokens that is searched for expressions holds one. -/
lemma SettledAll.searched {tokens : List Token} (h : SettledAll tokens) :
    ∀ text ∈ searchedAll tokens, hasExpressions text = false := by
  induction h with
  | nil => simp [searchedAll]
  | @single token rest htoken _ ih =>
    intro text htext
    rw [searchedAll, List.mem_append] at htext
    rcases htext with htext | htext
    · cases token with
      | element tag children => exact htoken.elim
      | _ => exact htoken text htext
    · exact ih text htext
  | @element tag children rest htag _ _ ihchildren ihrest =>
    intro text htext
    rw [searchedAll, Token.searched, List.mem_append, List.mem_append] at htext
    rcases htext with (htext | htext) | htext
    · rw [Tag.searched] at htext
      cases htarget : tag.target? with
      | none => simp [htarget] at htext
      | some target =>
        have hsettled := htag target htarget
        rw [htarget] at htext
        rcases List.mem_pair.1 htext with rfl | rfl
        · exact hsettled.dest
        · exact hsettled.title
    · exact ihchildren text htext
    · exact ihrest text htext

/-- Splitting a token without children and without expressions leaves it as it is. -/
lemma Token.IsSettled.split {token : Token} (h : token.IsSettled) (env : Environment) :
    token.split env = ([token], env) := by
  cases token with
  | element tag children => exact h.elim
  | text text => rw [Token.split, splitText_plain (h text (by simp [Token.searched]))]
  | html text => rw [Token.split, splitText_plain (h text (by simp [Token.searched]))]
  | inlineHtml text => rw [Token.split, splitText_plain (h text (by simp [Token.searched]))]
  | codeBlock kind content templated =>
    have hcontent := h content (by simp [Token.searched])
    rw [Token.split, preprocess_plain env hcontent, hcontent, Bool.or_false]
  | expression source => rfl
  | leaf leaf => rfl

/-- Splitting settled tokens changes nothing and registers nothing. -/
lemma SettledAll.splitAll {tokens : List Token} (h : SettledAll tokens) (env : Environment) :
    splitAll env tokens = (tokens, env) := by
  induction h with
  | nil => rfl
  | single htoken _ ih =>
    rw [Markdown.splitAll, htoken.split]
    dsimp only
    rw [ih, List.singleton_append]
  | element htag _ _ ihchildren ihrest =>
    rw [Markdown.splitAll, Token.split, htag.splitTag]
    dsimp only
    rw [ihchildren]
    dsimp only
    rw [ihrest, List.singleton_append]

lemma settledAll_of_forall {tokens : List Token} (h : ∀ token ∈ tokens, token.IsSettled) :
    SettledAll tokens := by
  induction tokens with
  | nil => exact .nil
  | cons token rest ih =>
    obtain ⟨htoken, hrest⟩ := List.forall_mem_cons.1 h
    exact .single htoken (ih hrest)

/-- The parts that a text is cut into are settled. -/
lemma settled_splitText {kind : String → Token}
    (hkind : ∀ text, hasExpressions text = false → (kind text).IsSettled) (text : String) :
    SettledAll (splitText kind text) := by
  refine settledAll_of_forall fun token htoken => ?_
  unfold splitText at htoken
  split at htoken
  · obtain ⟨fragment, hfragment, rfl⟩ := List.mem_map.1 htoken
    obtain ⟨piece, hpiece, rfl⟩ := List.mem_map.1 hfragment
    cases piece with
    | literal part =>
      -- a literal part of the cut holds no expression
      have hcode := ((isCut_pieces text.toList).whole _ hpiece).2
      refine hkind _ ?_
      rw [hasExpressions, String.toList_ofList, firstCode_eq_none_iff.2 hcode]
      rfl
    | code escaped source =>
      rw [toFragment_code]
      simp [Token.IsSettled, Token.searched]
  · rename_i hexpr
    rw [List.mem_singleton.1 htoken]
    exact hkind text (by simpa using hexpr)

mutual

/-- Splitting settles a token. -/
lemma Token.settled_split (env : Environment) : (token : Token) → SettledAll (token.split env).1
  | .element tag children =>
    .element (settled_splitTag env tag) (settled_splitAll (splitTag env tag).2 children) .nil
  | .text text => settled_splitText (by simp [Token.IsSettled, Token.searched]) text
  | .html text => settled_splitText (by simp [Token.IsSettled, Token.searched]) text
  | .inlineHtml text => settled_splitText (by simp [Token.IsSettled, Token.searched]) text
  | .codeBlock kind content templated => by
    have hbody := env.hasExpressions_preprocess content
    have hblock : SettledAll [.codeBlock kind (env.preprocess content).1
        (templated || hasExpressions content)] :=
      .single (by simpa [Token.IsSettled, Token.searched] using hbody) .nil
    exact hblock
  | .expression source => .single (by simp [Token.IsSettled, Token.searched]) .nil
  | .leaf leaf => .single (by simp [Token.IsSettled, Token.searched]) .nil

/-- Splitting settles tokens. -/
lemma settled_splitAll (env : Environment) : (tokens : List Token) →
    SettledAll (splitAll env tokens).1
  | [] => .nil
  | token :: rest =>
    (token.settled_split env).append (settled_splitAll (token.split env).2 rest)

end

/-- After a document is split, no complete delimited expression stands in its texts: those of text,
of HTML and of code blocks, and the destinations and titles of links and images. Splitting it once
more, into whatever environment, gives the same tokens and registers nothing. The same goes for a
text whose expressions are replaced by placeholders. -/
theorem splitAll_settles (env : Environment) (tokens : List Token) :
    (∀ text ∈ searchedAll (splitAll env tokens).1, ¬ HoldsCode text.toList) ∧
    (∀ other, splitAll other (splitAll env tokens).1 = ((splitAll env tokens).1, other)) ∧
    ∀ text, ¬ HoldsCode (env.preprocess text).1.toList ∧
      ∀ other : Environment,
        other.preprocess (env.preprocess text).1 = ((env.preprocess text).1, other) := by
  have hcode {text : String} (h : hasExpressions text = false) : ¬ HoldsCode text.toList := by
    rwa [hasExpressions, Option.isSome_eq_false_iff, Option.isNone_iff_eq_none,
      firstCode_eq_none_iff] at h
  have hsettled := settled_splitAll env tokens
  refine ⟨fun text htext => hcode (hsettled.searched text htext), hsettled.splitAll, fun text => ?_⟩
  have htext := env.hasExpressions_preprocess text
  exact ⟨hcode htext, fun other => preprocess_plain other htext⟩

end Markdown
end Bindery
