import Bindery.Proofs.Markdown.Splitting

/-!
# Promoting expressions

A paragraph that is a single expression is replaced by the expression, wherever it stands in the
tree. Nothing else changes: the leaves stay in order, and every other construct keeps its tag, its
depth and the leaves inside it. Where no paragraph stands right inside another one, no such
paragraph is left, so that promoting once more changes nothing (`promoteAll_unwraps`).
-/

namespace Bindery
namespace Markdown

/-! ## The parts of a tree -/

/-- Whether a token has no children. -/
def Token.isLeaf : Token → Bool
  | .element _ _ => false
  | _ => true

/-- Whether a token is a paragraph that is a single expression. -/
def Token.isSolitary : Token → Bool
  | .element .paragraph [.expression _] => true
  | _ => false

mutual

/-- A token and the tokens inside it, each in front of those inside it. -/
def Token.nodes : Token → List Token
  | .element tag children => .element tag children :: nodesAll children
  | token => [token]

/-- Tokens and the tokens inside them. -/
def nodesAll : List Token → List Token
  | [] => []
  | token :: rest => token.nodes ++ nodesAll rest

end

/-- The leaves of some tokens, from left to right. -/
def leavesAll (tokens : List Token) : List Token := (nodesAll tokens).filter Token.isLeaf

/-- A construct in a tree: how deep it stands, its tag, and the leaves inside it. -/
structure Standing where
  depth : Nat
  tag : Tag
  leaves : List Token

mutual

/-- The constructs in a token at some depth, but for paragraphs that are a single expression. -/
def Token.constructs (depth : Nat) : Token → List Standing
  | .element tag children =>
    let inside := constructsAll (depth + 1) children
    if (Token.element tag children).isSolitary then inside
    else ⟨depth, tag, leavesAll children⟩ :: inside
  | _ => []

/-- The constructs in some tokens at some depth, but for paragraphs that are a single expression. -/
def constructsAll (depth : Nat) : List Token → List Standing
  | [] => []
  | token :: rest => token.constructs depth ++ constructsAll depth rest

end

/-- No paragraph has a paragraph as a child. -/
def ParagraphsApart (tokens : List Token) : Prop :=
  ∀ children, .element .paragraph children ∈ nodesAll tokens →
    ∀ inside, .element .paragraph inside ∉ children

section

variable {token : Token} {tag : Tag} {children rest : List Token}

/-- A statement about tokens holds if it is kept by a leaf in front, and by a construct in front for
whose children it holds. -/
@[elab_as_elim]
lemma induction_tokens {motive : List Token → Prop} (nil : motive [])
    (leaf : ∀ token rest, token.isLeaf = true → motive rest → motive (token :: rest))
    (element : ∀ tag children rest, motive children → motive rest →
      motive (.element tag children :: rest)) : (tokens : List Token) → motive tokens
  | [] => nil
  | .element tag children :: rest =>
    element tag children rest (induction_tokens nil leaf element children)
      (induction_tokens nil leaf element rest)
  | .text _ :: rest => leaf _ rest rfl (induction_tokens nil leaf element rest)
  | .html _ :: rest => leaf _ rest rfl (induction_tokens nil leaf element rest)
  | .inlineHtml _ :: rest => leaf _ rest rfl (induction_tokens nil leaf element rest)
  | .codeBlock _ _ _ :: rest => leaf _ rest rfl (induction_tokens nil leaf element rest)
  | .expression _ :: rest => leaf _ rest rfl (induction_tokens nil leaf element rest)
  | .leaf _ :: rest => leaf _ rest rfl (induction_tokens nil leaf element rest)

/-- A solitary paragraph is one with a single expression in it. -/
lemma isSolitary_iff :
    token.isSolitary = true ↔ ∃ source, token = .element .paragraph [.expression source] := by
  constructor
  · intro h
    unfold Token.isSolitary at h
    split at h
    · rename_i source
      exact ⟨source, rfl⟩
    · cases h
  · rintro ⟨source, rfl⟩
    rfl

/-- A leaf is no paragraph, and it is promoted to itself. -/
lemma Token.promote_leaf (h : token.isLeaf = true) :
    token.promote = token ∧ token.isSolitary = false := by
  cases token with
  | element tag children => cases h
  | _ => exact ⟨rfl, rfl⟩

/-- A leaf is a node of its own. -/
lemma nodesAll_leaf (h : token.isLeaf = true) : nodesAll (token :: rest) = token :: nodesAll rest := by
  cases token with
  | element tag children => cases h
  | _ => rfl

lemma nodesAll_element :
    nodesAll (.element tag children :: rest)
      = .element tag children :: (nodesAll children ++ nodesAll rest) := rfl

lemma leavesAll_leaf (h : token.isLeaf = true) :
    leavesAll (token :: rest) = token :: leavesAll rest := by
  rw [leavesAll, nodesAll_leaf h, List.filter_cons_of_pos h, leavesAll]

/-- The leaves inside of a construct come in front of those behind it. -/
lemma leavesAll_element :
    leavesAll (.element tag children :: rest) = leavesAll children ++ leavesAll rest := by
  rw [leavesAll, nodesAll_element, List.filter_cons_of_neg (by simp [Token.isLeaf]),
    List.filter_append, leavesAll, leavesAll]

/-- A leaf holds no construct. -/
lemma constructsAll_leaf (h : token.isLeaf = true) (depth : Nat) :
    constructsAll depth (token :: rest) = constructsAll depth rest := by
  cases token with
  | element tag children => cases h
  | _ => rfl

lemma ParagraphsApart.of_subset {first second : List Token} (h : ParagraphsApart first)
    (hsub : nodesAll second ⊆ nodesAll first) : ParagraphsApart second :=
  fun children hmem => h children (hsub hmem)

lemma ParagraphsApart.behind (h : ParagraphsApart (token :: rest)) : ParagraphsApart rest := by
  apply h.of_subset
  exact List.subset_append_right _ _

lemma ParagraphsApart.inside (h : ParagraphsApart (.element tag children :: rest)) :
    ParagraphsApart children := by
  apply h.of_subset
  rw [nodesAll_element]
  exact List.subset_cons_of_subset _ (List.subset_append_left _ _)

/-! ## Promoting a construct -/

lemma Token.promote_of_not_solitary (h : (Token.element tag children).isSolitary = false) :
    (Token.element tag children).promote = .element tag (promoteAll children) := by
  rcases Token.promote_element tag children with ⟨source, rfl, rfl, -⟩ | hpromote
  · cases h
  · exact hpromote

/-- A token is promoted to an expression only if it is one, or a paragraph around one. -/
lemma eq_of_promote_eq_expression {source : String} (h : token.promote = .expression source) :
    token = .expression source ∨ token = .element .paragraph [.expression source] := by
  cases token with
  | element tag children =>
    rcases Token.promote_element tag children with ⟨other, rfl, rfl, hpromote⟩ | hpromote
    · rw [hpromote] at h
      cases h
      exact .inr rfl
    · rw [hpromote] at h
      cases h
  | expression other =>
    cases h
    exact .inl rfl
  | _ => cases h

/-- A construct that is not promoted becomes no paragraph around an expression either, unless it was
a paragraph around a paragraph. -/
lemma isSolitary_promoteAll (h : (Token.element tag children).isSolitary = false)
    (hapart : ParagraphsApart (.element tag children :: rest)) :
    (Token.element tag (promoteAll children)).isSolitary = false := by
  by_contra hsolitary
  rw [Bool.not_eq_false, isSolitary_iff] at hsolitary
  obtain ⟨source, hsolitary⟩ := hsolitary
  rw [Token.element.injEq] at hsolitary
  obtain ⟨rfl, hchildren⟩ := hsolitary
  match children, hchildren with
  | [child], hchildren =>
    rw [promoteAll, promoteAll, List.cons.injEq] at hchildren
    rcases eq_of_promote_eq_expression hchildren.1 with rfl | rfl
    · cases h
    · exact hapart _ List.mem_cons_self _ List.mem_cons_self
  | _ :: _ :: _, hchildren => simp [promoteAll] at hchildren

end

/-! ## What promoting keeps -/

/-- Promoting keeps the leaves in order. -/
lemma leavesAll_promoteAll (tokens : List Token) :
    leavesAll (promoteAll tokens) = leavesAll tokens := by
  induction tokens using induction_tokens with
  | nil => rfl
  | leaf token rest h ih =>
    rw [promoteAll, (Token.promote_leaf h).1, leavesAll_leaf h, leavesAll_leaf h, ih]
  | element tag children rest ihchildren ih =>
    rw [promoteAll]
    rcases Token.promote_element tag children with ⟨source, rfl, rfl, hpromote⟩ | hpromote
    · rw [hpromote, leavesAll_leaf rfl, leavesAll_element, leavesAll_leaf rfl, ih]
      rfl
    · rw [hpromote, leavesAll_element, leavesAll_element, ihchildren, ih]

/-- Promoting takes away one token for each paragraph that is a single expression. -/
lemma countAll_promoteAll (tokens : List Token) :
    Token.countAll (promoteAll tokens) + (nodesAll tokens).countP Token.isSolitary
      = Token.countAll tokens := by
  induction tokens using induction_tokens with
  | nil => rfl
  | leaf token rest h ih =>
    obtain ⟨hpromote, hsolitary⟩ := Token.promote_leaf h
    rw [promoteAll, hpromote, nodesAll_leaf h, List.countP_cons, hsolitary, Token.countAll,
      Token.countAll]
    simp only [Bool.false_eq_true, if_false]
    omega
  | element tag children rest ihchildren ih =>
    rw [promoteAll, nodesAll_element, List.countP_cons, List.countP_append, Token.countAll,
      Token.countAll]
    cases hsolitary : (Token.element tag children).isSolitary with
    | true =>
      obtain ⟨source, heq⟩ := isSolitary_iff.1 hsolitary
      cases heq
      have hone : (Token.element .paragraph [.expression source]).count
        = (Token.element .paragraph [.expression source]).promote.count + 1 := rfl
      have hnone : (nodesAll [.expression source]).countP Token.isSolitary = 0 := rfl
      rw [hone, hnone]
      simp only [if_true]
      omega
    | false =>
      rw [Token.promote_of_not_solitary hsolitary, Token.count, Token.count]
      simp only [Bool.false_eq_true, if_false]
      omega

/-- Promoting leaves no paragraph that is a single expression. -/
lemma isSolitary_of_mem_promoteAll {tokens : List Token} (h : ParagraphsApart tokens) :
    ∀ node ∈ nodesAll (promoteAll tokens), node.isSolitary = false := by
  induction tokens using induction_tokens with
  | nil => exact fun _ hnode => absurd hnode List.not_mem_nil
  | leaf token rest hleaf ih =>
    obtain ⟨hpromote, hsolitary⟩ := Token.promote_leaf hleaf
    rw [promoteAll, hpromote, nodesAll_leaf hleaf]
    exact List.forall_mem_cons.2 ⟨hsolitary, ih h.behind⟩
  | element tag children rest ihchildren ih =>
    rw [promoteAll]
    cases hsolitary : (Token.element tag children).isSolitary with
    | true =>
      obtain ⟨source, heq⟩ := isSolitary_iff.1 hsolitary
      rw [heq]
      exact List.forall_mem_cons.2 ⟨rfl, ih h.behind⟩
    | false =>
      rw [Token.promote_of_not_solitary hsolitary, nodesAll_element]
      refine List.forall_mem_cons.2 ⟨isSolitary_promoteAll hsolitary h, ?_⟩
      exact List.forall_mem_append.2 ⟨ihchildren h.inside, ih h.behind⟩

/-- Promoting keeps every construct but for paragraphs that are a single expression. -/
lemma constructsAll_promoteAll {tokens : List Token} (h : ParagraphsApart tokens) (depth : Nat) :
    constructsAll depth (promoteAll tokens) = constructsAll depth tokens := by
  induction tokens using induction_tokens generalizing depth with
  | nil => rfl
  | leaf token rest hleaf ih =>
    rw [promoteAll, (Token.promote_leaf hleaf).1, constructsAll_leaf hleaf,
      constructsAll_leaf hleaf, ih h.behind]
  | element tag children rest ihchildren ih =>
    rw [promoteAll, constructsAll, constructsAll, ih h.behind]
    congr 1
    cases hsolitary : (Token.element tag children).isSolitary with
    | true =>
      obtain ⟨source, heq⟩ := isSolitary_iff.1 hsolitary
      rw [heq]
      rfl
    | false =>
      rw [Token.promote_of_not_solitary hsolitary, Token.constructs, Token.constructs,
        isSolitary_promoteAll hsolitary h, hsolitary, leavesAll_promoteAll, ihchildren h.inside]

/-- Tokens without a paragraph that is a single expression stay as they are. -/
lemma promoteAll_eq_self {tokens : List Token}
    (h : ∀ node ∈ nodesAll tokens, node.isSolitary = false) : promoteAll tokens = tokens := by
  induction tokens using induction_tokens with
  | nil => rfl
  | leaf token rest hleaf ih =>
    rw [nodesAll_leaf hleaf, List.forall_mem_cons] at h
    rw [promoteAll, (Token.promote_leaf hleaf).1, ih h.2]
  | element tag children rest ihchildren ih =>
    rw [nodesAll_element, List.forall_mem_cons, List.forall_mem_append] at h
    obtain ⟨hsolitary, hchildren, hrest⟩ := h
    rw [promoteAll, Token.promote_of_not_solitary hsolitary, ihchildren hchildren, ih hrest]

/-- If no paragraph has a paragraph as a child, promoting leaves no paragraph that is a single
expression, however deep. It keeps the leaves from left to right, and every other construct with its
tag, at its depth and with the leaves inside it; as many tokens go as there were paragraphs that
were a single expression; and promoting once more changes nothing. -/
theorem promoteAll_unwraps {tokens : List Token} (h : ParagraphsApart tokens) :
    (∀ source, .element .paragraph [.expression source] ∉ nodesAll (promoteAll tokens)) ∧
    leavesAll (promoteAll tokens) = leavesAll tokens ∧
    constructsAll 0 (promoteAll tokens) = constructsAll 0 tokens ∧
    Token.countAll (promoteAll tokens) + (nodesAll tokens).countP Token.isSolitary
      = Token.countAll tokens ∧
    promoteAll (promoteAll tokens) = promoteAll tokens := by
  have hnone := isSolitary_of_mem_promoteAll h
  refine ⟨?_, leavesAll_promoteAll tokens, constructsAll_promoteAll h 0,
    countAll_promoteAll tokens, promoteAll_eq_self hnone⟩
  intro source hmem
  have hsolitary := hnone _ hmem
  cases hsolitary

/-- A list in a quotation, with a paragraph that is an expression and one that holds more, is
promoted. -/
theorem promoteAll_unwraps_list :
    let tokens : List Token := [.element .blockQuote [.element (.list none) [
      .element .item [.element .paragraph [.expression "a"]],
      .element .item [.element .paragraph [.text "b", .expression "c"]]]]]
    ParagraphsApart tokens ∧ promoteAll (promoteAll tokens) = promoteAll tokens ∧
      Token.countAll (promoteAll tokens) + 1 = Token.countAll tokens := by
  intro tokens
  have happart : ParagraphsApart tokens := by
    intro children hmem
    simp only [tokens, nodesAll, Token.nodes, List.cons_append, List.nil_append, List.append_nil,
      List.mem_cons, Token.element.injEq, reduceCtorEq, false_and, true_and, false_or, or_false,
      List.not_mem_nil] at hmem
    rcases hmem with rfl | rfl <;> simp
  obtain ⟨-, -, -, hcount, hagain⟩ := promoteAll_unwraps happart
  exact ⟨happart, hagain, hcount⟩

end Markdown
end Bindery
