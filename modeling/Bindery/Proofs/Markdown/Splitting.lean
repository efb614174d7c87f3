import Bindery.Markdown.Split
import Bindery.Proofs.Template.Marks

/-!
# Where splitting puts placeholders

A token tree is split before it is rendered. `CarriesAll` says where the placeholders of a tree are
and tells two kinds apart: those that a renderer comes across, and those in the attributes of links
and images inside of an image, which no renderer writes. Splitting registers a placeholder for each
of them, in whatever order (`splitAll_placed`); how many the second kind are can be read off the
tree before it is split (`hiddenAll`). Promoting expressions moves none (`CarriesAll.promoteAll`).
-/

namespace Bindery
namespace Markdown

open Template

variable {tildes inImage : Bool}

/-! ## The texts of a tree -/

/-- The texts among the attributes of a construct that are written. -/
def Tag.texts : Tag → List String
  | .heading _ attributes =>
    attributes.id.toList ++ attributes.classes
      ++ attributes.attrs.flatMap fun (name, value) => [name, value.getD ""]
  | .footnoteDefinition label => [label]
  | .link target => [target.dest, target.title]
  | .image target => [target.dest, target.title]
  | _ => []

/-- The texts of an info string. -/
def CodeKind.texts : CodeKind → List String
  | .indented => []
  | .fenced info => [info]

/-- The texts of a construct without children. -/
def Leaf.texts : Leaf → List String
  | .code text => [text]
  | .footnoteReference label => [label]
  | _ => []

mutual

/-- The texts of a token that are written. -/
def Token.texts : Token → List String
  | .element tag children => tag.texts ++ textsAll children
  | .text text => [text]
  | .html text => [text]
  | .inlineHtml text => [text]
  | .codeBlock kind content _ => content :: kind.texts
  | .expression _ => []
  | .leaf leaf => leaf.texts

/-- The texts of tokens that are written. -/
def textsAll : List Token → List String
  | [] => []
  | token :: rest => token.texts ++ textsAll rest

end

/-! ## The number of placeholders -/

/-- The number of placeholders for the destination of a link. -/
def destinationMarks (dest : String) : Nat :=
  if hasExpressions dest then expressionCount dest
  else if holdsPlaceholder dest then 0
  else if (assetExpression? dest).isSome then 1
  else 0

/-- The number of placeholders for a link. -/
def Target.marks (target : Target) : Nat :=
  destinationMarks target.dest + expressionCount target.title

/-- The target of a link or an image. -/
def Tag.target? : Tag → Option Target
  | .link target => some target
  | .image target => some target
  | _ => none

/-- The number of placeholders in the attributes of a construct. -/
def Tag.marks (tag : Tag) : Nat := tag.target?.elim 0 Target.marks

/-- Whether a construct is an image. -/
def Tag.isImage : Tag → Bool
  | .image _ => true
  | _ => false

mutual

/-- The number of placeholders for links and images that are inside of an image; `inImage` says
whether the token itself is. -/
def Token.hidden (inImage : Bool) : Token → Nat
  | .element tag children =>
    (if inImage then tag.marks else 0) + hiddenAll (inImage || tag.isImage) children
  | _ => 0

/-- The number of such placeholders in tokens. -/
def hiddenAll (inImage : Bool) : List Token → Nat
  | [] => 0
  | token :: rest => token.hidden inImage + hiddenAll inImage rest

end

/-! ## Where the placeholders are -/

/-- The placeholders in the attributes of a construct, in order. -/
inductive Tag.Carries (tildes : Bool) : Tag → List Nat → Prop
  | link (target : Target) {dest title : List Nat}
      (hdest : Marked tildes dest target.dest.toList)
      (htitle : Marked tildes title target.title.toList) :
      Tag.Carries tildes (.link target) (dest ++ title)
  | image (target : Target) {dest title : List Nat}
      (hdest : Marked tildes dest target.dest.toList)
      (htitle : Marked tildes title target.title.toList) :
      Tag.Carries tildes (.image target) (dest ++ title)
  | other (tag : Tag) (htarget : tag.target? = none)
      (htexts : ∀ text ∈ tag.texts, IsLiteralText tildes text) : Tag.Carries tildes tag []

/-- The placeholders in a token without children, in order. The source of an expression is not
written. -/
inductive Token.Carries (tildes : Bool) : Token → List Nat → Prop
  | text {text : String} (h : IsLiteralText tildes text) : Token.Carries tildes (.text text) []
  | html {text : String} (h : IsLiteralText tildes text) : Token.Carries tildes (.html text) []
  | inlineHtml {text : String} (h : IsLiteralText tildes text) :
      Token.Carries tildes (.inlineHtml text) []
  | codeBlock {kind : CodeKind} {content : String} (templated : Bool) {indices : List Nat}
      (hkind : ∀ text ∈ kind.texts, IsLiteralText tildes text)
      (hcontent : Marked tildes indices content.toList) :
      Token.Carries tildes (.codeBlock kind content templated) indices
  | expression (source : String) : Token.Carries tildes (.expression source) []
  | leaf {leaf : Leaf} (h : ∀ text ∈ leaf.texts, IsLiteralText tildes text) :
      Token.Carries tildes (.leaf leaf) []

/-- The placeholders in tokens: those that are `kept`, and those that are `lost` because they are
in the attributes of constructs inside of an image. -/
inductive CarriesAll (tildes : Bool) : Bool → List Token → List Nat → List Nat → Prop
  | nil {inImage : Bool} : CarriesAll tildes inImage [] [] []
  | single {inImage : Bool} {token : Token} {rest : List Token} {indices kept lost : List Nat}
      (htoken : token.Carries tildes indices) (hrest : CarriesAll tildes inImage rest kept lost) :
      CarriesAll tildes inImage (token :: rest) (indices ++ kept) lost
  | element {inImage : Bool} {tag : Tag} {children rest : List Token}
      {indices kept lost kept' lost' : List Nat} (htag : tag.Carries tildes indices)
      (hchildren : CarriesAll tildes (inImage || tag.isImage) children kept lost)
      (hrest : CarriesAll tildes inImage rest kept' lost') :
      CarriesAll tildes inImage (.element tag children :: rest)
        ((if inImage then [] else indices) ++ (kept ++ kept'))
        ((if inImage then indices else []) ++ (lost ++ lost'))

/-- The placeholders of trees, one behind the other, are those of both. -/
lemma CarriesAll.append {first second : List Token} {kept lost kept' lost' : List Nat}
    (hfirst : CarriesAll tildes inImage first kept lost)
    (hsecond : CarriesAll tildes inImage second kept' lost') :
    CarriesAll tildes inImage (first ++ second) (kept ++ kept') (lost ++ lost') := by
  induction hfirst with
  | nil => exact hsecond
  | single htoken _ ih =>
    rw [List.append_assoc]
    exact .single htoken (ih hsecond)
  | element htag hchildren _ _ ih =>
    simp only [List.append_assoc]
    exact .element htag hchildren (ih hsecond)

/-- A token without children is all the tokens. -/
lemma Token.Carries.carriesAll {token : Token} {indices : List Nat}
    (h : token.Carries tildes indices) : CarriesAll tildes inImage [token] indices [] := by
  have hall : CarriesAll tildes inImage [token] (indices ++ []) [] := .single h .nil
  rwa [List.append_nil] at hall

/-- Tokens whose placeholders are those that an environment gave away while it grew, so many of
them hidden. -/
def Placed (tildes inImage : Bool) (before after : Nat) (tokens : List Token) (hidden : Nat) :
    Prop :=
  ∃ kept lost, CarriesAll tildes inImage tokens kept lost ∧ Numbered before after (kept ++ lost) ∧
    lost.length = hidden

namespace Placed

variable {a b c : Nat} {hidden hidden' : Nat}

lemma nil (a : Nat) : Placed tildes inImage a a [] 0 := ⟨[], [], .nil, .refl a, rfl⟩

/-- A token without children hides nothing. -/
lemma single {token : Token} {indices : List Nat} (h : token.Carries tildes indices)
    (hnumbered : Numbered a b indices) : Placed tildes inImage a b [token] 0 := by
  refine ⟨indices, [], h.carriesAll, ?_, rfl⟩
  rwa [List.append_nil]

/-- Trees, one behind the other, have their placeholders one behind the other. -/
lemma append {first second : List Token} (hfirst : Placed tildes inImage a b first hidden)
    (hsecond : Placed tildes inImage b c second hidden') :
    Placed tildes inImage a c (first ++ second) (hidden + hidden') := by
  obtain ⟨kept, lost, hcarries, hnumbered, rfl⟩ := hfirst
  obtain ⟨kept', lost', hcarries', hnumbered', rfl⟩ := hsecond
  refine ⟨kept ++ kept', lost ++ lost', hcarries.append hcarries', ?_, List.length_append⟩
  refine (hnumbered.append hnumbered').perm ?_
  -- `kept` and `lost` were numbered together, and are kept apart now
  rw [List.perm_iff_count]
  intro i
  simp only [List.count_append]
  omega

/-- The placeholders in the attributes of a construct are hidden inside of an image. -/
lemma element {tag : Tag} {children : List Token} {indices : List Nat}
    (htag : tag.Carries tildes indices) (hnumbered : Numbered a b indices)
    (hchildren : Placed tildes (inImage || tag.isImage) b c children hidden) :
    Placed tildes inImage a c [.element tag children]
      ((if inImage then indices.length else 0) + hidden) := by
  obtain ⟨kept, lost, hcarries, hnumbered', rfl⟩ := hchildren
  refine ⟨_, _, .element htag hcarries .nil, ?_, ?_⟩
  · refine (hnumbered.append hnumbered').perm ?_
    rw [List.perm_iff_count]
    intro i
    cases inImage
    all_goals
      simp only [List.count_append, List.count_nil, Bool.false_eq_true, if_true, if_false]
      omega
  · cases inImage
    all_goals simp

end Placed

/-! ## Splitting -/

lemma splitTarget_marked (env : Environment) {dest : String} (h : IsLiteralText tildes dest) :
    (splitTarget env dest).2.sources.length = env.sources.length + destinationMarks dest ∧
      Marked tildes (List.Ico env.sources.length (splitTarget env dest).2.sources.length)
        (splitTarget env dest).1.toList := by
  unfold splitTarget destinationMarks
  -- a destination with expressions, one that was split before, and a request for an asset or none
  by_cases hexpr : hasExpressions dest = true
  · rw [if_pos hexpr, if_pos hexpr]
    exact env.preprocess_marked h
  · rw [if_neg hexpr, if_neg hexpr]
    by_cases hholds : holdsPlaceholder dest = true
    · rw [if_pos hholds, if_pos hholds, List.Ico.self_empty]
      exact ⟨rfl, .literal h⟩
    · rw [if_neg hholds, if_neg hholds]
      cases assetExpression? dest with
      | none =>
        simp only [List.Ico.self_empty]
        exact ⟨rfl, .literal h⟩
      | some source =>
        have hlen : (env.replace source).2.sources.length = env.sources.length + 1 := by
          simp [Environment.replace]
        refine ⟨hlen, ?_⟩
        dsimp only
        rw [hlen, List.Ico.succ_singleton]
        exact .placeholder env.sources.length

/-- Splitting a link registers its placeholders. -/
lemma splitLink_marked (env : Environment) {target : Target}
    (hdest : IsLiteralText tildes target.dest) (htitle : IsLiteralText tildes target.title) :
    ∃ dest title, Marked tildes dest (splitLink env target).1.dest.toList ∧
      Marked tildes title (splitLink env target).1.title.toList ∧
      Numbered env.sources.length (splitLink env target).2.sources.length (dest ++ title) ∧
      (dest ++ title).length = target.marks := by
  obtain ⟨hlen, hmarked⟩ := splitTarget_marked env hdest
  obtain ⟨hlen', hmarked'⟩ := (splitTarget env target.dest).2.preprocess_marked htitle
  have hnumbered := (Numbered.ico (hlen ▸ Nat.le_add_right _ _)).append
    (Numbered.ico (hlen' ▸ Nat.le_add_right _ _))
  refine ⟨_, _, hmarked, hmarked', hnumbered, ?_⟩
  rw [hnumbered.length_eq, Target.marks]
  omega

/-- Splitting a construct registers the placeholders of its attributes. -/
lemma splitTag_carries (env : Environment) {tag : Tag}
    (h : ∀ text ∈ tag.texts, IsLiteralText tildes text) :
    (splitTag env tag).1.isImage = tag.isImage ∧
      ∃ indices, (splitTag env tag).1.Carries tildes indices ∧
        Numbered env.sources.length (splitTag env tag).2.sources.length indices ∧
        indices.length = tag.marks := by
  cases tag with
  | link target =>
    obtain ⟨dest, title, hdest, htitle, hnumbered, hlen⟩ :=
      splitLink_marked env (h target.dest (by simp [Tag.texts]))
        (h target.title (by simp [Tag.texts]))
    exact ⟨rfl, dest ++ title, .link _ hdest htitle, hnumbered, hlen⟩
  | image target =>
    obtain ⟨dest, title, hdest, htitle, hnumbered, hlen⟩ :=
      splitLink_marked env (h target.dest (by simp [Tag.texts]))
        (h target.title (by simp [Tag.texts]))
    exact ⟨rfl, dest ++ title, .image _ hdest htitle, hnumbered, hlen⟩
  | _ => exact ⟨rfl, [], .other _ rfl h, .refl _, rfl⟩

/-- The parts of a text hold no placeholders yet: its expressions are registered when they are
rendered. -/
lemma splitText_carries {kind : String → Token} {text : String} (htext : IsLiteralText tildes text)
    (hkind : ∀ part, IsLiteralText tildes part → (kind part).Carries tildes []) :
    CarriesAll tildes inImage (splitText kind text) [] [] := by
  unfold splitText
  by_cases hexpr : hasExpressions text = true
  · rw [if_pos hexpr]
    have hparts : ∀ part, .raw part ∈ scan text → IsLiteralText tildes part :=
      fun part hpart => htext.of_mem_scan hpart
    generalize scan text = fragments at hparts
    induction fragments with
    | nil => exact .nil
    | cons fragment fragments ih =>
      have hrest := ih fun part hpart => hparts part (List.mem_cons_of_mem fragment hpart)
      cases fragment with
      | raw part => exact .single (hkind part (hparts part List.mem_cons_self)) hrest
      | expr source => exact .single (.expression source) hrest
  · rw [if_neg hexpr]
    exact (hkind text htext).carriesAll

mutual

/-- Splitting a token registers its placeholders. -/
lemma Token.split_placed (inImage : Bool) (env : Environment) : (token : Token) →
    (∀ text ∈ token.texts, IsLiteralText tildes text) →
    Placed tildes inImage env.sources.length (token.split env).2.sources.length (token.split env).1
      (token.hidden inImage)
  | .element tag children, h => by
    have htexts : ∀ text ∈ tag.texts ++ textsAll children, IsLiteralText tildes text := h
    obtain ⟨himage, indices, htag, hnumbered, hlen⟩ := splitTag_carries env fun text htext =>
      htexts text (List.mem_append_left _ htext)
    have hchildren := splitAll_placed (inImage || tag.isImage) (splitTag env tag).2 children
      fun text htext => htexts text (List.mem_append_right _ htext)
    -- splitting the attributes of an image leaves it an image, so its children stay inside
    rw [← himage] at hchildren
    have helement := Placed.element htag hnumbered hchildren
    rw [hlen, himage] at helement
    exact helement
  | .text text, h => by
    have hcarries : CarriesAll tildes inImage (splitText .text text) [] [] :=
      splitText_carries (h text (by simp [Token.texts])) fun part hpart => .text hpart
    exact ⟨[], [], hcarries, .refl _, rfl⟩
  | .html text, h => by
    have hcarries : CarriesAll tildes inImage (splitText .html text) [] [] :=
      splitText_carries (h text (by simp [Token.texts])) fun part hpart => .html hpart
    exact ⟨[], [], hcarries, .refl _, rfl⟩
  | .inlineHtml text, h => by
    have hcarries : CarriesAll tildes inImage (splitText .inlineHtml text) [] [] :=
      splitText_carries (h text (by simp [Token.texts])) fun part hpart => .inlineHtml hpart
    exact ⟨[], [], hcarries, .refl _, rfl⟩
  | .codeBlock kind content templated, h => by
    obtain ⟨hlen, hmarked⟩ := env.preprocess_marked (h content (by simp [Token.texts]))
    have hkind : ∀ text ∈ kind.texts, IsLiteralText tildes text := fun text htext =>
      h text (List.mem_cons_of_mem content htext)
    have hle : env.sources.length ≤ (env.preprocess content).2.sources.length := by omega
    exact Placed.single (.codeBlock _ hkind hmarked) (.ico hle)
  | .expression source, _ => Placed.single (.expression source) (.refl _)
  | .leaf _, h => Placed.single (.leaf h) (.refl _)

/-- Splitting tokens registers their placeholders. -/
lemma splitAll_placed (inImage : Bool) (env : Environment) : (tokens : List Token) →
    (∀ text ∈ textsAll tokens, IsLiteralText tildes text) →
    Placed tildes inImage env.sources.length (splitAll env tokens).2.sources.length
      (splitAll env tokens).1 (hiddenAll inImage tokens)
  | [], _ => Placed.nil _
  | token :: rest, h => by
    have htexts : ∀ text ∈ token.texts ++ textsAll rest, IsLiteralText tildes text := h
    have hfirst := token.split_placed inImage env fun text htext =>
      htexts text (List.mem_append_left _ htext)
    exact hfirst.append (splitAll_placed inImage (token.split env).2 rest fun text htext =>
      htexts text (List.mem_append_right _ htext))

end

/-! ## Promoting -/

/-- Only constructs change when expressions are promoted. -/
lemma Token.Carries.promote {token : Token} {indices : List Nat}
    (h : token.Carries tildes indices) : token.promote = token := by
  cases h <;> rfl

/-- A construct is promoted if it is a paragraph with an expression alone. -/
lemma Token.promote_element (tag : Tag) (children : List Token) :
    (∃ source, tag = .paragraph ∧ children = [.expression source] ∧
      (Token.element tag children).promote = .expression source) ∨
    (Token.element tag children).promote = .element tag (promoteAll children) := by
  rw [Token.promote.eq_def]
  split
  · rename_i source heq
    simp only [Token.element.injEq] at heq
    exact .inl ⟨source, heq.1, heq.2, rfl⟩
  · rename_i heq
    simp only [Token.element.injEq] at heq
    rw [heq.1, heq.2]
    exact .inr rfl
  · rename_i hne
    exact absurd rfl (hne tag children)

/-- Promoting expressions moves no placeholder. -/
lemma CarriesAll.promoteAll {tokens : List Token} {kept lost : List Nat}
    (h : CarriesAll tildes inImage tokens kept lost) :
    CarriesAll tildes inImage (promoteAll tokens) kept lost := by
  induction h with
  | nil => exact .nil
  | single htoken _ ih =>
    rw [Markdown.promoteAll, htoken.promote]
    exact .single htoken ih
  | @element inImage tag children rest indices kept lost kept' lost' htag hchildren _ ihchildren
      ih =>
    rw [Markdown.promoteAll]
    rcases Token.promote_element tag children with ⟨source, rfl, rfl, hpromote⟩ | hpromote
    · -- the paragraph has no placeholders of its own, and the expression none yet
      rw [hpromote]
      cases htag
      cases hchildren with
      | single htoken hnil =>
        cases htoken
        cases hnil
        have hsingle := CarriesAll.single (.expression source) ih
        cases inImage <;> simpa using hsingle
    · rw [hpromote]
      exact .element htag ihchildren ih

end Markdown
end Bindery
