import Bindery.Proofs.Markdown.Requests

/-!
# The value of a relative link

A relative link becomes code that asks for the url of the path that it requests. Wherever the code
is evaluated it has a value: the url with the fragment of the link behind it if the path resolves,
and else the link as it was written (`eval_assetExpression`).
-/

namespace Bindery

open Bindery.Expr

/-! ## Links with fragments -/

namespace Link

variable {link : String}

/-- A link up to its fragment. -/
def base (link : String) : String := String.ofList (link.toList.takeWhile (· ≠ '#'))

/-- The fragment of a link, from its first number sign on; empty if it has none. -/
def fragment (link : String) : String := String.ofList (link.toList.dropWhile (· ≠ '#'))

/-- The fragment of a link without the sign. -/
def hash? (link : String) : Option String :=
  (link.toList.dropWhile (· ≠ '#')).tail?.map String.ofList

/-- There is no fragment, or it starts with the sign. -/
lemma fragment_cases (link : String) :
    (hash? link = none ∧ (fragment link).toList = []) ∨
      ∃ hash, hash? link = some (String.ofList hash) ∧ (fragment link).toList = '#' :: hash := by
  rw [hash?, fragment, String.toList_ofList]
  cases hrest : link.toList.dropWhile (· ≠ '#') with
  | nil => exact .inl ⟨rfl, rfl⟩
  | cons sign hash =>
    have hsign := List.head?_dropWhile_not (· ≠ '#') link.toList
    rw [hrest] at hsign
    obtain rfl : sign = '#' := by simpa using hsign
    exact .inr ⟨hash, rfl, rfl⟩

/-- The fragment is the hash behind its sign. -/
lemma fragment_eq (link : String) : fragment link = (hash? link).elim "" ("#" ++ ·) := by
  rw [← String.toList_inj]
  obtain ⟨hhash, hfragment⟩ | ⟨hash, hhash, hfragment⟩ := fragment_cases link
  · rw [hhash, hfragment]
    rfl
  · rw [hhash, hfragment, Option.elim_some, String.toList_append, String.toList_ofList]
    simp

/-- A link falls into its base and its fragment. -/
lemma toList_base_append_fragment (link : String) :
    (base link).toList ++ (fragment link).toList = link.toList := by
  rw [base, fragment, String.toList_ofList, String.toList_ofList, List.takeWhile_append_dropWhile]

/-- A tilde in front of a link is dropped. -/
lemma toRequest_tilde {rest : List Char} (h : link.toList = '~' :: rest) :
    toRequest link = String.ofList rest := by
  unfold toRequest
  rw [h]
  rfl

/-- A relative link is the request itself. -/
lemma toRequest_dots {rest : List Char}
    (h : link.toList = '.' :: '/' :: rest ∨ link.toList = '.' :: '.' :: '/' :: rest) :
    toRequest link = link := by
  unfold toRequest
  rcases h with h | h
  all_goals
    rw [h]
    rfl

/-- The fragment of a link takes no part in what the link requests. -/
lemma toList_toRequest (link : String) :
    (toRequest link).toList = (toRequest (base link)).toList ++ (fragment link).toList := by
  have hlink := toList_base_append_fragment link
  have hbase : (base link).toList = link.toList.takeWhile (· ≠ '#') := String.toList_ofList
  -- what a link starts with is in front of its fragment
  rw [toRequest]
  split
  · rename_i rest hstart
    rw [hstart, List.takeWhile_cons_of_pos (by decide)] at hbase
    rw [hstart, hbase, List.cons_append, List.cons.injEq] at hlink
    rw [toRequest_tilde hbase, String.toList_ofList, String.toList_ofList, hlink.2]
  · rename_i rest hstart
    rw [hstart, List.takeWhile_cons_of_pos (by decide), List.takeWhile_cons_of_pos (by decide)]
      at hbase
    rw [toRequest_dots (.inl hbase), hlink]
  · rename_i rest hstart
    rw [hstart, List.takeWhile_cons_of_pos (by decide), List.takeWhile_cons_of_pos (by decide),
      List.takeWhile_cons_of_pos (by decide)] at hbase
    rw [toRequest_dots (.inr hbase), hlink]
  · rename_i htilde hdot hdots
    have hplain : toRequest (base link) = "./" ++ base link := by
      rw [toRequest]
      split
      · rename_i rest hstart
        rw [hstart] at hlink
        exact absurd hlink.symm (htilde _)
      · rename_i rest hstart
        rw [hstart] at hlink
        exact absurd hlink.symm (hdot _)
      · rename_i rest hstart
        rw [hstart] at hlink
        exact absurd hlink.symm (hdots _)
      · rfl
    rw [hplain, String.toList_append, String.toList_append, List.append_assoc, hlink]

/-- A request adds dots and slashes only. -/
lemma mem_of_mem_toRequest {c : Char} (hc : c ∈ (toRequest link).toList) :
    c ∈ link.toList ∨ c = '.' ∨ c = '/' := by
  rw [toRequest] at hc
  split at hc
  · rename_i rest hlink
    rw [String.toList_ofList] at hc
    rw [hlink]
    exact .inl (List.mem_cons_of_mem _ hc)
  · exact .inl hc
  · exact .inl hc
  · rw [String.toList_append, List.mem_append] at hc
    exact hc.symm.imp_right fun hdot => by simpa using hdot

lemma sign_not_mem_toRequest_base (link : String) : '#' ∉ (toRequest (base link)).toList := by
  intro hmem
  rcases mem_of_mem_toRequest hmem with hbase | hdot | hslash
  · rw [base, String.toList_ofList] at hbase
    simpa using List.mem_takeWhile_imp hbase
  · exact absurd hdot (by decide)
  · exact absurd hslash (by decide)

end Link

namespace Markdown

/-- The code of a link asks for what the link requests without its fragment. -/
lemma assetExpression?_eq {link : String} (h : Link.isRequest link = true) :
    assetExpression? link
      = some (linkCode (Link.toRequest (Link.base link)) (Link.hash? link) link) := by
  have hrequest := Link.toList_toRequest link
  have hbase : ∀ c ∈ (Link.toRequest (Link.base link)).toList, decide (c ≠ '#') = true := by
    intro c hc
    simpa using fun heq : c = '#' => Link.sign_not_mem_toRequest_base link (heq ▸ hc)
  unfold assetExpression?
  rw [if_pos h]
  dsimp only
  rw [hrequest, List.takeWhile_append_of_pos hbase]
  obtain ⟨hhash, hfragment⟩ | ⟨hash, hhash, hfragment⟩ := Link.fragment_cases link
  · simp [hhash, hfragment, linkCode, targetCode]
  · simp [hhash, hfragment, linkCode, targetCode]

/-- The code of a link that makes a request is an expression, and it has a value in every scope: if
the path that the link requests has a url there, the value is this url with the fragment of the link
behind it, else it is the link as it was written. -/
theorem eval_assetExpression {link : String} (h : Link.isRequest link = true) :
    ∃ source e, assetExpression? link = some source ∧ Expr.parse source = .ok e ∧
      ∀ scope, Expr.eval scope e = .ok (some (.string
        ((scope.url? (Link.toRequest (Link.base link))).elim link (· ++ Link.fragment link)))) := by
  refine ⟨_, _, assetExpression?_eq h, parse_linkCode _ _ _, fun scope => ?_⟩
  rw [eval_linkCall, Link.fragment_eq]

/-- A resolver that knows one file. -/
def oneFile (_module request : String) : Except String String :=
  if request = "lib/a \"b\".md" then .ok "/b.html" else .error "not found"

/-- Only the first number sign starts a fragment, and marks of the code stay part of the link. -/
theorem eval_assetExpression_two_signs :
    let link := "~lib/a \"b\".md#x\\#y"
    Link.isRequest link = true ∧ ∃ source e, assetExpression? link = some source ∧
      Expr.parse source = .ok e ∧
      Expr.eval ⟨.null, "c.md", some oneFile⟩ e = .ok (some (.string "/b.html#x\\#y")) ∧
      Expr.eval ⟨.null, "c.md", none⟩ e = .ok (some (.string link)) := by
  intro link
  have hlink : Link.isRequest link = true := by decide
  obtain ⟨source, e, hsource, hparse, hvalue⟩ := eval_assetExpression hlink
  refine ⟨hlink, source, e, hsource, hparse, ?_, hvalue _⟩
  have hrequest : Link.toRequest (Link.base link) = "lib/a \"b\".md" := by decide
  have hfragment : Link.fragment link = "#x\\#y" := by decide
  rw [hvalue, hrequest, hfragment]
  rfl

end Markdown
end Bindery
