import Bindery.Markdown.Compile
import Bindery.Proofs.Expr.Parsing
import Bindery.Proofs.Markdown.Plain
import Bindery.Proofs.Template.Cutting
import Bindery.Proofs.Template.Placeholder

/-!
# Expressions in paragraphs

Expressions are taken out of the text of a document after it was read, so a paragraph keeps the
source of an expression only if its line is plain: then the source goes into the code as it was
written, as it does without markdown (`compile_embedded`). A source with emphasis or a character
reference in one of its strings does not (`source_is_read_as_markdown`).
-/

namespace Bindery
namespace Markdown

open Template Inline

/-! ## The structure of a single line -/

/-- A text without line ends is one line. -/
lemma splitFrom_eq {current s : List Char} (hne : current ≠ [] ∨ s ≠ [])
    (hs : ∀ c ∈ s, c ≠ '\n' ∧ c ≠ '\r') :
    Line.splitFrom current s = [⟨current.reverse ++ s, false⟩] := by
  induction s generalizing current with
  | nil => simp_all [Line.splitFrom]
  | cons c s ih =>
    obtain ⟨⟨hline, hreturn⟩, hs⟩ := List.forall_mem_cons.1 hs
    rw [Line.splitFrom, ih (.inl (List.cons_ne_nil c current)) hs, List.reverse_cons,
      List.append_assoc, List.singleton_append]
    · exact hline
    · exact fun _ h _ => hreturn h
    · exact hreturn

section FirstLetter

variable {c : Char} (h : c.isAlpha = true)

include h

lemma ne_of_isAlpha (d : Char) (hd : d.isAlpha = false) : c ≠ d := by
  rintro rfl
  rw [h] at hd
  contradiction

lemma not_isDigit_of_isAlpha : c.isDigit = false := by
  simp only [Char.isAlpha, Char.isUpper, Char.isLower, Char.isDigit, Bool.or_eq_true,
    Bool.and_eq_true, decide_eq_true_eq, Bool.and_eq_false_iff, decide_eq_false_iff_not,
    ge_iff_le, UInt32.le_iff_toNat_le] at h ⊢
  simp at h ⊢
  omega

/-- There are no spaces in front of a letter. -/
lemma takeSpaces_letter (n : Nat) (rest : List Char) :
    Cursor.takeSpaces n ⟨c :: rest, 0, 0⟩ = (n, ⟨c :: rest, 0, 0⟩) := by
  have hspace : c ≠ ' ' := ne_of_isAlpha h ' ' rfl
  have htab : c ≠ '\t' := ne_of_isAlpha h '\t' rfl
  cases n <;> simp [Cursor.takeSpaces, Cursor.space?, hspace, htab]

/-- A line that starts with a letter opens no container. -/
lemma openContainers_letter (settings : Settings) (ended : Bool) (fuel : Nat)
    (s : Structure.State) (rest : List Char) :
    Structure.openContainers settings ended fuel s ⟨c :: rest, 0, 0⟩
      = .at s ⟨c :: rest, 0, 0⟩ := by
  have hfootnote : Mark.footnote? (c :: rest) = none := by
    have hbracket : c ≠ '[' := ne_of_isAlpha h '[' rfl
    unfold Mark.footnote?
    split <;> simp_all
  have hitem : Mark.listItem? (c :: rest) = none := by
    have hmarks : ¬ (decide (c = '-') || decide (c = '+') || decide (c = '*')) = true := by
      simp [ne_of_isAlpha h '-' rfl, ne_of_isAlpha h '+' rfl,
        ne_of_isAlpha h '*' rfl]
    have hdigits : (c :: rest).takeWhile Char.isDigit = [] := by
      simp [not_isDigit_of_isAlpha h]
    rw [Mark.listItem?, Mark.listMark?, if_neg hmarks, hdigits]
    rfl
  have hquote : Cursor.quoteMark? ⟨c :: rest, 0, 0⟩ = none := by
    have hmark : '>' ≠ c := (ne_of_isAlpha h '>' rfl).symm
    simp [Cursor.quoteMark?, takeSpaces_letter h, Cursor.char?, hmark]
  cases fuel with
  | zero => rfl
  | succ fuel =>
    simp [Structure.openContainers, takeSpaces_letter h, hfootnote, hitem, hquote]

/-- A line that starts with a letter begins a paragraph. -/
lemma beginLeaf_letter (settings : Settings) (ended : Bool) (rest : List Char) :
    Structure.beginLeaf settings {} ⟨c :: rest, 0, 0⟩ ⟨c :: rest, ended⟩ []
      = ({ leaf := some (.paragraph none [c :: rest]) }, 0) := by
  have hangle : c ≠ '<' := ne_of_isAlpha h '<' rfl
  have hhtml : Mark.htmlEnd? (c :: rest) = none := by
    unfold Mark.htmlEnd?
    split <;> simp_all
  have hblock : Mark.isBlockTag (c :: rest) = false := by
    unfold Mark.isBlockTag
    split <;> simp_all
  have hlone : Mark.isLoneTag (c :: rest) = false := by
    have htag : Scan.htmlTag? false (c :: rest) = none := by
      unfold Scan.htmlTag?
      split <;> simp_all
    rw [Mark.isLoneTag, htag]
  have hrule : Mark.isRule (c :: rest) = false := by
    simp [Mark.isRule, ne_of_isAlpha h '-' rfl, ne_of_isAlpha h '*' rfl, ne_of_isAlpha h '_' rfl]
  have hheading : Mark.headingLevel? (c :: rest) = none := by
    simp [Mark.headingLevel?, ne_of_isAlpha h '#' rfl]
  have hfence : Mark.fence? (c :: rest) = none := by
    simp [Mark.fence?, ne_of_isAlpha h '\x60' rfl, ne_of_isAlpha h '~' rfl]
  have hbracket : (c :: rest).head? ≠ some '[' := by
    simp [ne_of_isAlpha h '[' rfl]
  rw [Structure.beginLeaf]
  simp only [takeSpaces_letter h, hhtml, hblock, hlone, hrule, hheading, hfence, if_neg hbracket]
  rfl

end FirstLetter

/-- A single line that starts with a letter is a paragraph. -/
lemma structureOf_letter (settings : Settings) {c : Char} {rest : List Char}
    (h : c.isAlpha = true) (hline : ∀ d ∈ c :: rest, d ≠ '\n' ∧ d ≠ '\r') :
    structureOf settings (String.ofList (c :: rest)) = ⟨[.paragraph none (c :: rest)], {}⟩ := by
  have hsplit : Line.split (String.ofList (c :: rest)) = [⟨c :: rest, false⟩] := by
    rw [Line.split, String.toList_ofList, splitFrom_eq (.inr (List.cons_ne_nil c rest)) hline]
    rfl
  have hblank : Cursor.isBlank ⟨c :: rest, 0, 0⟩ = false := by
    have hc : Scan.isLineBlank c = false := by
      simp [Scan.isLineBlank, ne_of_isAlpha h ' ' rfl, ne_of_isAlpha h '\t' rfl,
        ne_of_isAlpha h '\x0b' rfl, ne_of_isAlpha h '\x0c' rfl]
    rw [Cursor.isBlank, List.all_cons, hc, Bool.false_and]
  have hbegin : Structure.beginLine settings {} ⟨c :: rest, false⟩ []
      = ({ leaf := some (.paragraph none [c :: rest]) }, 0) := by
    simp [Structure.beginLine, Structure.State.spine, Structure.continued, Structure.State.popN,
      openContainers_letter h, hblank, beginLeaf_letter h]
  have hread : Structure.readLines settings {} [⟨c :: rest, false⟩]
      = { leaf := some (.paragraph none [c :: rest]) } := by
    rw [Structure.readLines, Structure.readLine]
    dsimp only
    rw [hbegin, List.drop_nil, Structure.readLines]
  rw [structureOf, hsplit, hread]
  simp [Structure.State.closeLeaf, Structure.State.add, Structure.OpenLeaf.close,
    Structure.State.popN]

/-- Plain text has no line ends. -/
lemma not_line_end_of_isPlainFrom {settings : Settings} {opened : List Char} {prev : Option Char}
    {s : List Char} (h : isPlainFrom settings opened prev s = true) :
    ∀ c ∈ s, c ≠ '\n' ∧ c ≠ '\r' := by
  induction s generalizing opened prev with
  | nil => simp
  | cons c rest ih =>
    rw [isPlainFrom] at h
    split at h
    · rename_i hrun
      rw [Bool.and_eq_true] at h
      refine List.forall_mem_cons.2 ⟨⟨?_, ?_⟩, ih h.2⟩
      · rintro rfl
        simp [isRunMark] at hrun
      · rintro rfl
        simp [isRunMark] at hrun
    · rw [Bool.and_eq_true] at h
      refine List.forall_mem_cons.2 ⟨⟨?_, ?_⟩, ih h.2⟩
      · rintro rfl
        simp [isLiteral] at h
      · rintro rfl
        simp [isLiteral] at h

/-- A line of plain text that starts with a letter is a paragraph of this text. -/
lemma tokenize_of_isPlain {settings : Settings} {c : Char} {rest : List Char}
    (hletter : c.isAlpha = true) (hplain : isPlain settings (c :: rest) = true) :
    tokenize settings (String.ofList (c :: rest))
      = [.element .paragraph [.text (String.ofList (c :: rest))]] := by
  have hstructure := structureOf_letter settings hletter (not_line_end_of_isPlainFrom hplain)
  have hinline := inlineEvents_of_isPlain (List.cons_ne_nil c rest) hplain
  rw [tokenize, events, hstructure]
  dsimp only
  rw [blockEvents, Block.events, paragraphEvents, hinline]
  rfl

/-! ## An expression in a line -/

/-- A line with the value of an expression in it. -/
def embedded (source : String) : String := "a <%=" ++ source ++ "%> b"

lemma toList_embedded (source : String) :
    (embedded source).toList = 'a' :: ' ' :: '<' :: '%' :: '=' :: (source.toList
      ++ ['%', '>', ' ', 'b']) := by
  simp [embedded]

variable {source : String}

/-- The expression of an embedded source is found, with the line around it. -/
lemma firstCode_embedded (hne : source ≠ "") (hclosing : ¬ "%>".toList <:+: source.toList) :
    firstCode (embedded source).toList
      = some (['a', ' '], false, source.toList, [' ', 'b']) := by
  have hsource : source.toList ≠ [] := fun h => hne (String.toList_eq_nil_iff.1 h)
  have hwritten : (embedded source).toList
      = ['a', ' '] ++ (Piece.code false source.toList).written ++ [' ', 'b'] := by
    simp [embedded, Piece.written]
  rw [hwritten, firstCode_append (not_holdsOpening_of_not_mem (by decide)) hsource
    (closesOnce_of_not_closing hclosing)]

/-- A line with an expression in it is cut around the source of the expression. -/
lemma scan_embedded (hne : source ≠ "") (hclosing : ¬ "%>".toList <:+: source.toList) :
    scan (embedded source) = [.raw "a ", .expr source, .raw " b"] := by
  have hlast : pieces [' ', 'b'] = [.literal [' ', 'b']] := by cbv
  rw [scan, pieces_of_firstCode (firstCode_embedded hne hclosing) (List.cons_ne_nil _ _), hlast]
  simp [Piece.toFragment]

/-- A paragraph of a line with an expression in it embeds the source. -/
lemma compile_of_tokenize {settings : Settings} {highlight : Highlighter}
    (hne : source ≠ "") (hclosing : ¬ "%>".toList <:+: source.toList)
    (htokens : tokenize settings (embedded source)
      = [.element .paragraph [.text (embedded source)]]) :
    compile settings highlight (embedded source)
      = .ok (reassemble [.raw "<p>a ", .expr source, .raw " b</p>\n"]) := by
  have hsplit : splitAll {} (tokenize settings (embedded source))
      = ([.element .paragraph [.text "a ", .expression source, .text " b"]], {}) := by
    have hexpressions : hasExpressions (embedded source) = true := by
      rw [hasExpressions, firstCode_embedded hne hclosing]
      rfl
    have htext : splitText .text (embedded source)
        = [.text "a ", .expression source, .text " b"] := by
      rw [splitText, if_pos hexpressions, scan_embedded hne hclosing]
      rfl
    rw [htokens]
    simp only [splitAll, Token.split, splitTag, htext]
    rfl
  have hrender : render settings highlight {}
        [.element .paragraph [.text "a ", .expression source, .text " b"]]
      = (interleave "<p>a " [(0, " b</p>\n")], ⟨[source]⟩) := by
    have hhtml : Write.html [.start .paragraph, .text "a ", .inlineHtml (placeholder 0),
        .text " b", .stop .paragraph] = interleave "<p>a " [(0, " b</p>\n")] := by decide +kernel
    rw [← hhtml]
    rfl
  have hsplice : (⟨[source]⟩ : Environment).postprocess (interleave "<p>a " [(0, " b</p>\n")])
      = .ok [.raw "<p>a ", .expr source, .raw " b</p>\n"] := by
    have hinert : Inert "<p>a " [(0, " b</p>\n")] := by
      refine inert_of_isRun ?_ ?_ <;> unfold IsRun <;> decide
    exact Environment.splice_interleave hinert (by simp) (by simp) (by simp)
  have hpromote : promoteAll [.element .paragraph [.text "a ", .expression source, .text " b"]]
      = [.element .paragraph [.text "a ", .expression source, .text " b"]] := by
    simp [promoteAll, Token.promote]
  rw [compile, hsplit]
  dsimp only
  rw [hpromote, hrender, Environment.reassemble, hsplice]
  rfl

/-! ## Sources that mean nothing -/

/-- Whether a character may mean something to markdown inside of a line. -/
def hasMeaning (settings : Settings) (c : Char) : Bool :=
  "\n\r\x60\\&<@*_~".toList.contains c
    || (settings.smartPunctuation && "'\".-".toList.contains c)

/-- Without an at sign there is no address. -/
lemma email?_eq_none {s : List Char} (h : '@' ∉ s) : Scan.email? s = none := by
  unfold Scan.email?
  dsimp only
  split
  · rfl
  · split
    · rename_i rest hdrop
      have hmem : '@' ∈ s.drop (s.takeWhile Scan.isLocalChar).length := by
        rw [hdrop]
        exact List.mem_cons_self
      exact absurd (List.mem_of_mem_drop hmem) h
    · rfl

/-- A source without such characters and without a link is plain up to the end of the line. -/
lemma isPlainFrom_append_tail {settings : Settings} {s : List Char}
    (hchars : ∀ c ∈ s, hasMeaning settings c = false) (hlink : ¬ "](".toList <:+: s)
    (opened : List Char) (prev : Option Char) :
    isPlainFrom settings opened prev (s ++ ['%', '>', ' ', 'b']) = true := by
  induction s generalizing prev with
  | nil => simp [isPlainFrom, isRunMark, isLiteral, Scan.isLineBlank]
  | cons c s ih =>
    have hc := hchars c List.mem_cons_self
    have hrest := ih (fun d hd => hchars d (List.mem_cons_of_mem c hd))
      (fun hinfix => hlink (List.infix_cons hinfix)) (some c)
    have hmark : isRunMark settings c = false := by
      simp [hasMeaning] at hc
      simp [isRunMark, hc]
    have hline : ∀ d ∈ s ++ ['%', '>', ' ', 'b'], d ≠ '\n' := by
      rintro _ hmem rfl
      rcases List.mem_append.1 hmem with hmem | hmem
      · have hnewline := hchars '\n' (List.mem_cons_of_mem c hmem)
        simp [hasMeaning] at hnewline
      · simp at hmem
    have hliteral : isLiteral settings c (s ++ ['%', '>', ' ', 'b']) = true := by
      unfold isLiteral
      split
      · simp [hasMeaning] at hc
      · simp [hasMeaning] at hc
      · simp [hasMeaning] at hc
      · simp [hasMeaning] at hc
      · cases s with
        | nil => rfl
        | cons d s =>
          have hd : d ≠ '(' := by
            rintro rfl
            exact hlink ⟨[], s, rfl⟩
          simp [hd]
      · simp [hasMeaning] at hc
      · split
        · cases hdrop : (s ++ ['%', '>', ' ', 'b']).dropWhile Scan.isLineBlank with
          | nil =>
            have hblank := List.dropWhile_eq_nil_iff.1 hdrop '%' (by simp)
            simp [Scan.isLineBlank] at hblank
          | cons d after =>
            have hmem : d ∈ s ++ ['%', '>', ' ', 'b'] :=
              (List.dropWhile_suffix Scan.isLineBlank).subset (hdrop ▸ List.mem_cons_self)
            simpa using hline d hmem
        · cases hsmart : settings.smartPunctuation with
          | false => rfl
          | true =>
            simp [hasMeaning, hsmart] at hc
            simp [hc]
    rw [List.cons_append, isPlainFrom_cons hmark, hliteral, hrest]
    rfl

/-- The line of a source without such characters and without a link is plain. -/
lemma isPlain_embedded {settings : Settings} {source : String}
    (hchars : ∀ c ∈ source.toList, hasMeaning settings c = false)
    (hlink : ¬ "](".toList <:+: source.toList) :
    isPlain settings (embedded source).toList = true := by
  let tail := source.toList ++ ['%', '>', ' ', 'b']
  have htail : isPlainFrom settings [] (some '=') tail = true :=
    isPlainFrom_append_tail hchars hlink [] (some '=')
  -- without an at sign, the opening delimiter starts no autolink
  have hemail : Scan.email? ('%' :: '=' :: tail) = none := by
    refine email?_eq_none fun hmem => ?_
    have hat : '@' ∈ source.toList := by simpa [tail] using hmem
    have hmeaning := hchars '@' hat
    simp [hasMeaning] at hmeaning
  have hangle : isLiteral settings '<' ('%' :: '=' :: tail) = true := by
    have huri : Scan.uri? ('%' :: '=' :: tail) = none := by simp [Scan.uri?]
    have hhtml : Scan.inlineHtml? ('<' :: '%' :: '=' :: tail) = none := by
      simp [Scan.inlineHtml?, Scan.htmlTag?]
    simp [isLiteral, huri, hemail, hhtml]
  rw [isPlain, toList_embedded, isPlainFrom_cons rfl, isPlainFrom_cons rfl, isPlainFrom_cons rfl,
    isPlainFrom_cons rfl, isPlainFrom_cons rfl, hangle, htail]
  simp [isLiteral, Scan.isLineBlank]

/-- An expression in a paragraph is put into the code as it was written, just as in the code of the
line without markdown, if all of the line is plain. It is if the source has no link and none of the
characters that may mean something. -/
theorem compile_embedded (settings : Settings) (highlight : Highlighter) (source : String)
    (e : Expr) (hparse : Expr.parse source = .ok e) (hclosing : ¬ "%>".toList <:+: source.toList) :
    (isPlain settings (embedded source).toList = true →
      compile settings highlight (embedded source)
        = .ok (reassemble [.raw "<p>a ", .expr source, .raw " b</p>\n"])) ∧
    compilePlain (embedded source) = reassemble [.raw "a ", .expr source, .raw " b"] ∧
    ((∀ c ∈ source.toList, hasMeaning settings c = false) → ¬ "](".toList <:+: source.toList →
      isPlain settings (embedded source).toList = true) := by
  have hne : source ≠ "" := by
    rintro rfl
    have hempty : (Expr.parse "").toOption = none := by cbv
    rw [hparse] at hempty
    cases hempty
  refine ⟨fun hplain => compile_of_tokenize hne hclosing ?_, ?_, isPlain_embedded⟩
  · rw [toList_embedded] at hplain
    have htokens := tokenize_of_isPlain rfl hplain
    rwa [← toList_embedded, String.ofList_toList] at htokens
  · rw [compilePlain, scan_embedded hne hclosing]

/-- A bracket without a target and an underscore inside of a word mean nothing. -/
theorem compile_embedded_member :
    compile {} noHighlighter "a <%=items[0].my_name + \"x\"%> b"
      = .ok "\"<p>a \" +\n    (items[0].my_name + \"x\") +\n    \" b</p>\\n\"" := by
  have hparse : Expr.parse "items[0].my_name + \"x\""
      = .ok (.concat [.member (.index (.ident "items") (.num (.int 0))) "my_name", .str "x"]) := by
    cbv
  have h := compile_embedded {} noHighlighter "items[0].my_name + \"x\"" _ hparse (by decide)
  have hcode := h.1 (by decide +kernel)
  have hjoined : reassemble [.raw "<p>a ", .expr "items[0].my_name + \"x\"", .raw " b</p>\n"]
      = "\"<p>a \" +\n    (items[0].my_name + \"x\") +\n    \" b</p>\\n\"" := by decide +kernel
  rw [hjoined] at hcode
  exact hcode

/-- A source with emphasis in a string is cut up, and remains as text. A character reference in a
string is resolved, and the code has another string. -/
theorem source_is_read_as_markdown :
    (Expr.parse "\"*x*\"" = .ok (.str "*x*") ∧ ¬ "%>".toList <:+: "\"*x*\"".toList ∧
      compile {} noHighlighter (embedded "\"*x*\"")
        = .ok (reassemble [.raw "<p>a &lt;%=\"<em>x</em>\"%&gt; b</p>\n"]) ∧
      compile {} noHighlighter (embedded "\"*x*\"")
        ≠ .ok (reassemble [.raw "<p>a ", .expr "\"*x*\"", .raw " b</p>\n"])) ∧
    Expr.parse "\"&amp;\"" = .ok (.str "&amp;") ∧ ¬ "%>".toList <:+: "\"&amp;\"".toList ∧
      compile {} noHighlighter (embedded "\"&amp;\"")
        = .ok (reassemble [.raw "<p>a ", .expr "\"&\"", .raw " b</p>\n"]) ∧
      compile {} noHighlighter (embedded "\"&amp;\"")
        ≠ .ok (reassemble [.raw "<p>a ", .expr "\"&amp;\"", .raw " b</p>\n"]) := by
  refine ⟨⟨by cbv, by decide, ?_, ?_⟩, by cbv, by decide, ?_, ?_⟩
  all_goals decide +kernel

end Markdown
end Bindery
