import Bindery.Markdown.Render
import Bindery.Markdown.Split
import Bindery.Proofs.Template.Substitution

/-!
# What a relative link becomes

Splitting turns a relative link into an expression that asks for the url of what the link names. The
expression is a call whatever the link holds, as its parts are quoted (`parse_linkCode`). Its value
is the url, with the fragment of the link behind it, or the link as it was written where there is no
url (`eval_linkCall`). The renderer escapes a link instead, and every character that may not stand
in a link target makes it longer (`length_escapeTarget`).
-/

namespace Bindery

open Bindery.Expr

/-- The url that the module of a scope gets for a request; none if it cannot ask for assets or the
request does not resolve. -/
def Expr.Scope.url? (scope : Scope) (request : String) : Option String :=
  scope.assets.bind fun resolve => (resolve scope.module request).toOption

namespace Markdown

open Template

/-! ## The code of a link -/

/-- The code that asks for the url of a path, with a fragment if there is one. -/
def targetCode (path : String) : Option String → String
  | none => "asset(" ++ Json.quote path ++ ")"
  | some hash => "asset(" ++ Json.quote path ++ ")" ++ " + \"#\" + " ++ Json.quote hash

/-- The code that asks for such a url and falls back to a link. -/
def linkCode (path : String) (hash : Option String) (link : String) : String :=
  "fallback(" ++ targetCode path hash ++ ", " ++ Json.quote link ++ ")"

/-- A link has code exactly if it can name a file of the content tree. -/
lemma isSome_assetExpression? (link : String) :
    (assetExpression? link).isSome = Link.isRequest link := by
  unfold assetExpression?
  by_cases h : Link.isRequest link = true
  · rw [if_pos h, h]
    rfl
  · rw [if_neg h, Option.isSome_none, Bool.eq_false_iff.2 h]

/-- The code of a link asks for a path, with the hash behind it, and falls back to the link. -/
lemma exists_linkCode {link source : String} (h : assetExpression? link = some source) :
    ∃ path hash, source = linkCode path hash link := by
  unfold assetExpression? at h
  by_cases hrequest : Link.isRequest link = true
  · rw [if_pos hrequest, Option.some.injEq] at h
    rw [← h]
    -- a fragment starts behind the first number sign, if there is one
    split
    · rename_i hash _
      exact ⟨_, some (String.ofList hash), by rw [linkCode, targetCode]⟩
    · exact ⟨_, none, by rw [linkCode, targetCode]⟩
  · rw [if_neg hrequest] at h
    simp at h

/-! ## The call that it stands for -/

/-- The expression that asks for the url of a path. -/
def targetCall (path : String) : Option String → Expr
  | none => .call (.ident "asset") [.str path]
  | some hash => .concat [.call (.ident "asset") [.str path], .str "#", .str hash]

/-- The expression that falls back to a link. -/
def linkCall (path : String) (hash : Option String) (link : String) : Expr :=
  .call (.ident "fallback") [targetCall path hash, .str link]

/-- The tokens behind the path in the code that asks for a url. -/
def hashTokens : Option String → List Expr.Token
  | none => []
  | some hash => [.mark .plus, .str "#", .mark .plus, .str hash]

/-- The tokens of the code of a link. -/
def linkTokens (path : String) (hash : Option String) (link : String) : List Expr.Token :=
  .name "fallback" :: .mark .openParen :: .name "asset" :: .mark .openParen :: .str path
    :: .mark .closeParen :: (hashTokens hash ++ [.mark .comma, .str link, .mark .closeParen])

lemma separates_cons {c : Char} {rest : List Char}
    (h : Expr.isNumberChar c = false ∧ isNameChar c = false) : Separates (c :: rest) := by
  intro d hd
  obtain rfl : c = d := by simpa using hd
  exact h

/-- Quoted text in front of punctuation is a token of its own. -/
lemma lexes_quote_append (text : String) {c : Char} {rest : List Char} {tokens : List Expr.Token}
    (hc : Expr.isNumberChar c = false ∧ isNameChar c = false) (h : Lexes (c :: rest) tokens) :
    Lexes ((Json.quote text).toList ++ c :: rest) (.str text :: tokens) :=
  (lexes_quote text).append (separates_cons hc) h

/-- The tokens of the code of a link up to the path. -/
lemma lexes_opening (path : String) {rest : List Char} {tokens : List Expr.Token}
    (h : Lexes (')' :: rest) tokens) :
    Lexes ("fallback(".toList ++ ("asset(".toList ++ ((Json.quote path).toList ++ ')' :: rest)))
      (.name "fallback" :: .mark .openParen :: .name "asset" :: .mark .openParen :: .str path
        :: tokens) := by
  have hlex : lexFrom 0 ("fallback(".toList ++ "asset(".toList) = .ok [⟨.name "fallback", 0⟩,
      ⟨.mark .openParen, 8⟩, ⟨.name "asset", 9⟩, ⟨.mark .openParen, 14⟩] := by cbv
  have hpath := lexes_quote_append path (by decide) h
  have hsep : Separates ((Json.quote path).toList ++ ')' :: rest) := by
    rw [toList_quote]
    exact separates_cons (by decide)
  have hall := (lexes_of_lexFrom hlex).append hsep hpath
  rw [List.append_assoc] at hall
  exact hall

lemma lexes_plus {rest : List Char} {tokens : List Expr.Token} (h : Lexes rest tokens) :
    Lexes (' ' :: '+' :: ' ' :: rest) (.mark .plus :: tokens) :=
  .blank (by decide) (.mark .plus (.blank (by decide) h))

/-- The code of a link is read as its tokens. -/
lemma lexes_linkCode (path : String) (hash : Option String) (link : String) :
    Lexes (linkCode path hash link).toList (linkTokens path hash link) := by
  have hcomma : ", ".toList = [',', ' '] := by decide
  have hclosing : ")".toList = [')'] := by decide
  have hend : Lexes (',' :: ' ' :: ((Json.quote link).toList ++ [')']))
      [.mark .comma, .str link, .mark .closeParen] :=
    .mark .comma (.blank (by decide) (lexes_quote_append link (by decide)
      (.mark .closeParen lexes_nil)))
  cases hash with
  | none =>
    have hall := lexes_opening path (.mark .closeParen hend)
    simp only [linkCode, targetCode, String.toList_append, hcomma, hclosing, List.append_assoc,
      List.cons_append, List.nil_append]
    exact hall
  | some hash =>
    have hmiddle : " + \"#\" + ".toList
        = ' ' :: '+' :: ' ' :: ((Json.quote "#").toList ++ [' ', '+', ' ']) := by decide
    have hhash := lexes_plus (lexes_quote_append "#" (by decide)
      (lexes_plus (lexes_quote_append hash (by decide) hend)))
    have hall := lexes_opening path (.mark .closeParen hhash)
    simp only [linkCode, targetCode, String.toList_append, hcomma, hclosing, hmiddle,
      List.append_assoc, List.cons_append, List.nil_append]
    exact hall

/-- The tokens form the call. -/
lemma forms_linkTokens (path : String) (hash : Option String) (link : String) :
    Forms (linkTokens path hash link) (linkCall path hash link) := by
  cases hash with
  | none => exact ⟨[], _, rfl, rfl⟩
  | some hash => exact ⟨[], _, rfl, rfl⟩

/-- The code of a link is parsed to the call. -/
lemma parse_linkCode (path : String) (hash : Option String) (link : String) :
    Expr.parse (linkCode path hash link) = .ok (linkCall path hash link) :=
  parse_eq_ok_iff.2 ⟨_, lexes_linkCode path hash link, forms_linkTokens path hash link⟩

/-! ## Its value -/

/-- A request that resolves gives the url with the fragment behind it. -/
lemma eval_targetCall {scope : Scope} {path url : String} (h : scope.url? path = some url)
    (hash : Option String) :
    eval scope (targetCall path hash) = .ok (some (.string (url ++ hash.elim "" ("#" ++ ·)))) := by
  obtain ⟨resolve, hassets, hresolve⟩ := Option.bind_eq_some_iff.1 h
  have hurl : resolve scope.module path = .ok url := by
    cases hpath : resolve scope.module path with
    | error reason => simp [hpath, Except.toOption] at hresolve
    | ok other => simpa [hpath, Except.toOption] using hresolve
  have hcall : eval scope (.call (.ident "asset") [.str path]) = .ok (some (.string url)) := by
    simp [eval, resolveAsset, stringify, hassets, hurl]
  cases hash with
  | none => simpa [targetCall] using hcall
  | some hash => simp [targetCall, eval, hcall, evalSum, evalText, stringify, String.append_assoc]

/-- A request that does not resolve has no value. -/
lemma exists_eval_targetCall_eq_error {scope : Scope} {path : String} (h : scope.url? path = none)
    (hash : Option String) : ∃ e, eval scope (targetCall path hash) = .error e := by
  have hcall : ∃ e, eval scope (.call (.ident "asset") [.str path]) = .error e := by
    cases hassets : scope.assets with
    | none => exact ⟨.noAssets path, by simp [eval, resolveAsset, stringify, hassets]⟩
    | some resolve =>
      cases hpath : resolve scope.module path with
      | error reason =>
        exact ⟨.asset path reason, by simp [eval, resolveAsset, stringify, hassets, hpath]⟩
      | ok url => simp [Scope.url?, hassets, hpath, Except.toOption] at h
  obtain ⟨e, he⟩ := hcall
  cases hash with
  | none => exact ⟨e, he⟩
  | some hash => exact ⟨e, by simp only [targetCall, eval, he]⟩

/-- The call of a link has a value everywhere. -/
lemma eval_linkCall (scope : Scope) (path : String) (hash : Option String) (link : String) :
    eval scope (linkCall path hash link) = .ok (some (.string
      ((scope.url? path).elim link fun url => url ++ hash.elim "" ("#" ++ ·)))) := by
  rw [linkCall, eval]
  cases hurl : scope.url? path with
  | none =>
    obtain ⟨e, he⟩ := exists_eval_targetCall_eq_error hurl hash
    rw [he]
    simp [eval]
  | some url =>
    rw [eval_targetCall hurl hash]
    rfl

/-- Where no assets can be asked for, the value of a link is the link as written. -/
lemma evaluates_link {scope : Scope} (hassets : scope.assets = none) {link source : String}
    (h : assetExpression? link = some source) :
    Evaluates scope source (some (.string link)) := by
  obtain ⟨path, hash, rfl⟩ := exists_linkCode h
  refine ⟨_, parse_linkCode path hash link, ?_⟩
  rw [HasValue, eval_linkCall, Scope.url?, hassets]
  rfl

/-! ## Escaping a link -/

namespace Write

lemma length_toList_loop (bytes : ByteArray) (i : Nat) (read : List UInt8) :
    (ByteArray.toList.loop bytes i read).length = read.length + (bytes.size - i) := by
  induction i, read using ByteArray.toList.loop.induct bytes with
  | case1 i read hlt ih =>
    rw [ByteArray.toList.loop, if_pos hlt, ih, List.length_cons]
    omega
  | case2 i read hle =>
    rw [ByteArray.toList.loop, if_neg hle, List.length_reverse]
    omega

/-- A character has a byte at least. -/
lemma utf8_ne_nil (c : Char) : (String.singleton c).toUTF8.toList ≠ [] := by
  have hsize : (String.singleton c).toUTF8.size = c.utf8Size := String.utf8ByteSize_singleton
  have hpos := c.utf8Size_pos
  have hlength := length_toList_loop (String.singleton c).toUTF8 0 []
  intro hnil
  rw [ByteArray.toList] at hnil
  rw [hnil, List.length_nil, hsize] at hlength
  omega

/-- What may not stand in a link target is written with more than one character. -/
lemma one_lt_length_targetChar {c : Char} (h : isTargetChar c = false) :
    1 < (targetChar c).length := by
  unfold targetChar
  rw [if_neg (by simp [h])]
  split
  · decide
  · split
    · decide
    · obtain ⟨b, bytes, hbytes⟩ := List.exists_cons_of_ne_nil (utf8_ne_nil c)
      rw [hbytes, List.flatMap_cons, List.length_append]
      simp only [percent, List.length_cons, List.length_nil]
      omega

/-- Escaping a link target does not make it shorter, and it keeps the length only of targets whose
characters may all stand there as they are. -/
lemma length_escapeTarget (link : String) :
    link.length ≤ (escapeTarget link).length ∧
      ((escapeTarget link).length = link.length → ∀ c ∈ link.toList, isTargetChar c = true) := by
  rw [escapeTarget, String.length_ofList, ← String.length_toList]
  induction link.toList with
  | nil => simp
  | cons c s ih =>
    obtain ⟨hle, heq⟩ := ih
    rw [List.flatMap_cons, List.length_append, List.length_cons]
    cases hc : isTargetChar c with
    | true =>
      have hlength : (targetChar c).length = 1 := by
        rw [targetChar, if_pos hc]
        rfl
      refine ⟨by omega, fun h d hd => ?_⟩
      rcases List.mem_cons.1 hd with rfl | hd
      · exact hc
      · exact heq (by omega) d hd
    | false =>
      have hlength := one_lt_length_targetChar hc
      exact ⟨by omega, fun h => by omega⟩

/-- Escaping keeps targets of such characters. -/
lemma escapeTarget_eq_self {link : String} (h : ∀ c ∈ link.toList, isTargetChar c = true) :
    escapeTarget link = link := by
  have hfixed : ∀ c ∈ link.toList, targetChar c = [c] := fun c hc => by
    rw [targetChar, if_pos (h c hc)]
  rw [escapeTarget, List.flatMap_congr hfixed, List.flatMap_singleton', String.ofList_toList]

end Write

end Markdown
end Bindery
