import Bindery.Markdown.Document
import Mathlib

/-!
# Plain inline text

A character of inline text stands for itself unless it starts or ends a construct. `isPlain` looks
at each character with what is around it: an asterisk that nothing closes, a bracket that no target
follows or an angle bracket that opens no tag change nothing. Plain text is read as itself, so its
only event is the text (`inlineEvents_of_isPlain`).
-/

namespace Bindery
namespace Markdown
namespace Inline

variable {settings : Settings} {opened : List Char} {prev : Option Char} {c : Char}
  {s rest : List Char} {out : List Node} {brackets : List Bracket}

/-! ## Characters that stand for themselves -/

/-- Whether a character is read together with the equal ones after it. -/
def isRunMark (settings : Settings) (c : Char) : Bool :=
  c = '\x60' || c = '*' || c = '_' || (c = '~' && settings.strikethrough)

/-- Whether the run that `c` starts before `rest` stands for itself: a run of backticks that no run
of that length follows, or delimiters that close none of those that were `opened` before. -/
def isLiteralRun (opened : List Char) (prev : Option Char) (c : Char) (rest : List Char) : Bool :=
  let run := c :: rest.takeWhile (· = c)
  let after := rest.dropWhile (· = c)
  if c = '\x60' then (codeSpan? run.length 0 after).isNone
  else !(canClose c run.length prev after.head? && opened.contains c)

/-- Whether a character that starts no run stands for itself before `rest`. -/
def isLiteral (settings : Settings) (c : Char) (rest : List Char) : Bool :=
  match c with
  | '\n' => false
  | '\r' => false
  | '\\' => !rest.head?.any fun d => d = '\n' || Text.isAsciiPunctuation d
  | '<' =>
    rest.head? = some '\\'
      || ((Scan.uri? rest).isNone && (Scan.email? rest).isNone
        && (Scan.inlineHtml? (c :: rest)).isNone)
  | ']' =>
    match rest with
    | '(' :: body => (Scan.inlineTarget? body).isNone
    | _ => true
  | '&' => (Scan.reference? rest).isNone
  | _ =>
    if Scan.isLineBlank c then (rest.dropWhile Scan.isLineBlank).head?.any (· ≠ '\n')
    else
      !(settings.smartPunctuation
        && (c = '\'' || c = '"' || (c = '.' && ['.', '.'].isPrefixOf rest)
          || (c = '-' && rest.head? = some '-')))

/-- Whether every character of inline text stands for itself after `prev`, where delimiters among
`opened` came before. -/
def isPlainFrom (settings : Settings) (opened : List Char) (prev : Option Char) :
    List Char → Bool
  | [] => true
  | c :: rest =>
    if isRunMark settings c && prev ≠ some c then
      let run := c :: rest.takeWhile (· = c)
      let opens := canOpen c run.length prev (rest.dropWhile (· = c)).head?
      isLiteralRun opened prev c rest
        && isPlainFrom settings (if opens then c :: opened else opened) (some c) rest
    else isLiteral settings c rest && isPlainFrom settings opened (some c) rest

/-- Whether every character of inline text stands for itself. -/
def isPlain (settings : Settings) (text : List Char) : Bool := isPlainFrom settings [] none text

/-! ## Reading -/

/-- Nodes spell a text: each is a character, or a run of delimiters that closes none of those that
were `opened` before it. -/
inductive Spells : (opened : List Char) → List Node → List Char → Prop where
  | nil {opened : List Char} : Spells opened [] []
  | char {opened text : List Char} {nodes : List Node} (c : Char) (h : Spells opened nodes text) :
    Spells opened (.char c :: nodes) (c :: text)
  | delimiters {opened text : List Char} {nodes : List Node} {c : Char} (count : Nat)
    {opens closes : Bool} (hcloses : closes = true → c ∉ opened)
    (h : Spells (if opens then c :: opened else opened) nodes text) :
    Spells opened (.delimiters c count opens closes :: nodes) (List.replicate count c ++ text)

/-- Characters in front of what is spelled are spelled, too. -/
lemma Spells.append_char {nodes : List Node} {text : List Char} (h : Spells opened nodes text)
    (run : List Char) : Spells opened (run.map Node.char ++ nodes) (run ++ text) := by
  induction run with
  | nil => exact h
  | cons c run ih => exact .char c ih

/-- No run of marks is read in parts: what comes next does not go on with the run before it. -/
def BetweenRuns (settings : Settings) (prev : Option Char) (s : List Char) : Prop :=
  ∀ c, prev = some c → isRunMark settings c = true → s.head? ≠ some c

/-- What was read last stays in front when brackets are reopened. -/
lemma reopenAll_append (brackets : List Bracket) (first out : List Node) :
    reopenAll brackets (first ++ out) = first ++ reopenAll brackets out := by
  induction brackets generalizing out with
  | nil => rfl
  | cons bracket brackets ih =>
    rw [reopenAll, List.foldl_cons, ← reopenAll, reopen, List.append_assoc, List.append_assoc, ih,
      ← List.append_assoc out, ← reopen]
    rfl

/-- Without references, only a target makes a closing bracket close something. -/
lemma closing_eq_text (bracket : Bracket)
    (h : ∀ body, rest = '(' :: body → Scan.inlineTarget? body = none) :
    closing settings {} bracket rest = .text := by
  have hown (kind : LinkKind) (after : List Char) :
      ownReference settings {} kind bracket rest after = .text := by
    unfold ownReference
    split
    · rfl
    · split <;> rfl
  unfold closing
  split
  · rename_i body
    rw [h body rfl]
    exact hown _ _
  · dsimp only
    split
    · exact hown _ _
    · split
      · split
        · exact hown _ _
        · rfl
      · exact hown _ _
    · exact hown _ _

/-- Nodes come from reading a text whose first characters, `c` and perhaps some of `rest`, are read
as themselves. -/
def TakesText (settings : Settings) (fuel : Nat) (c : Char) (rest : List Char) (out : List Node)
    (brackets : List Bracket) (nodes : List Node) : Prop :=
  ∃ run after out' brackets', rest = run ++ after ∧ (∀ d ∈ run, isRunMark settings d = false) ∧
    nodes = read settings {} fuel (c :: run).getLast? after out' brackets' ∧
    reopenAll brackets' out' = ((c :: run).map Node.char).reverse ++ reopenAll brackets out

lemma takesText_literal (settings : Settings) (fuel : Nat) (c : Char) (rest : List Char)
    (out : List Node) (brackets : List Bracket) :
    TakesText settings fuel c rest out brackets
      (read settings {} fuel (some c) rest (.char c :: out) brackets) :=
  ⟨[], rest, _, brackets, rfl, by simp, rfl, reopenAll_append brackets [.char c] out⟩

/-- A blank begins no run. -/
lemma isRunMark_of_isLineBlank (settings : Settings) (h : Scan.isLineBlank c = true) :
    isRunMark settings c = false := by
  simp only [Scan.isLineBlank, Bool.or_eq_true, decide_eq_true_eq] at h
  obtain ((rfl | rfl) | rfl) | rfl := h <;> simp [isRunMark]

/-- Blanks are text if more text comes after them in their line. -/
lemma takesText_blanks (settings : Settings) (fuel : Nat) (c : Char) (out : List Node)
    (brackets : List Bracket) {d : Char} {after : List Char}
    (hafter : rest.dropWhile Scan.isLineBlank = d :: after) :
    let run := c :: rest.takeWhile Scan.isLineBlank
    TakesText settings fuel c rest out brackets
      (read settings {} fuel (some (run.getLast?.getD c)) (d :: after) (pushText run out)
        brackets) := by
  intro run
  have hlast : run.getLast? = some (run.getLast?.getD c) := by simp [run, List.getLast?_cons]
  refine ⟨rest.takeWhile Scan.isLineBlank, d :: after, pushText run out, brackets, ?_, ?_, ?_, ?_⟩
  · rw [← hafter, List.takeWhile_append_dropWhile]
  · exact fun b hb => isRunMark_of_isLineBlank settings (List.mem_takeWhile_imp hb)
  · rw [← hlast]
  · rw [pushText, List.map_reverse]
    exact reopenAll_append brackets _ out

/-- A character without a construct of its own is literal if it is a blank with more text after it,
or if smart punctuation leaves it as it is. -/
lemma isLiteral_other (hliteral : isLiteral settings c rest = true) (hbackslash : c ≠ '\\')
    (hangle : c ≠ '<') (hbracket : c ≠ ']') (hampersand : c ≠ '&') :
    if Scan.isLineBlank c then ((rest.dropWhile Scan.isLineBlank).head?.any (· ≠ '\n')) = true
    else settings.smartPunctuation = true →
      (decide (c = '\'') || decide (c = '"')) = false ∧
        (decide (c = '.') && ['.', '.'].isPrefixOf rest) = false ∧
        (decide (c = '-') && decide (rest.head? = some '-')) = false := by
  unfold isLiteral at hliteral
  split at hliteral
  case h_7 =>
    split
    · rename_i hblank
      rwa [if_pos hblank] at hliteral
    · rename_i hblank
      intro hsmart
      rw [if_neg hblank, hsmart, Bool.true_and, Bool.not_eq_true', Bool.or_eq_false_iff,
        Bool.or_eq_false_iff] at hliteral
      exact ⟨hliteral.1.1, hliteral.1.2, hliteral.2⟩
  all_goals contradiction

/-- A character that starts no run is read as text, perhaps with some that follow it. -/
lemma takesText_of_isLiteral (hmark : isRunMark settings c = false)
    (hliteral : isLiteral settings c rest = true) (fuel : Nat) (prev : Option Char)
    (out : List Node) (brackets : List Bracket) :
    TakesText settings fuel c rest out brackets
      (read settings {} (fuel + 1) prev (c :: rest) out brackets) := by
  unfold read
  dsimp only
  split
  case h_1 => simp [isLiteral] at hliteral
  case h_2 =>
    split
    · simp [isLiteral] at hliteral
    · rename_i d after _
      have hpunctuation : Text.isAsciiPunctuation d = false := by simp_all [isLiteral]
      rw [hpunctuation, if_neg Bool.false_ne_true]
      exact takesText_literal settings fuel _ _ out brackets
    · exact takesText_literal settings fuel _ _ out brackets
  case h_3 => simp [isRunMark] at hmark
  case h_4 =>
    split
    · exact takesText_literal settings fuel _ _ out brackets
    · rename_i hbackslash
      obtain ⟨huri, hemail, hhtml⟩ : Scan.uri? rest = none ∧ Scan.email? rest = none ∧
          Scan.inlineHtml? ('<' :: rest) = none := by
        simpa [isLiteral, hbackslash, and_assoc] using hliteral
      rw [huri, hemail, hhtml]
      exact takesText_literal settings fuel _ _ out brackets
  -- an opening bracket is kept apart until it turns out to be text
  case h_5 =>
    split
    · rename_i after
      refine ⟨['['], after, [], ⟨true, true, out, after⟩ :: brackets, rfl, ?_, rfl, ?_⟩
      · simp [isRunMark]
      · exact reopenAll_append brackets [.char '[', .char '!'] out
    · exact takesText_literal settings fuel _ _ out brackets
  case h_6 =>
    refine ⟨[], rest, [], ⟨false, true, out, rest⟩ :: brackets, rfl, by simp, rfl, ?_⟩
    exact reopenAll_append brackets [.char '['] out
  case h_7 =>
    split
    · exact takesText_literal settings fuel _ _ out []
    · rename_i bracket outer
      have htext : closing settings {} bracket rest = .text := by
        refine closing_eq_text bracket fun body hrest => ?_
        simpa [isLiteral, hrest] using hliteral
      rw [htext, ite_self]
      refine ⟨[], rest, .char ']' :: reopen bracket out, outer, rfl, by simp, rfl, ?_⟩
      exact reopenAll_append outer [.char ']'] (reopen bracket out)
  case h_8 =>
    have hreference : Scan.reference? rest = none := by simpa [isLiteral] using hliteral
    rw [hreference]
    exact takesText_literal settings fuel _ _ out brackets
  case h_9 hbackslash _ hangle _ _ hbracket hampersand =>
    have hother := isLiteral_other hliteral hbackslash hangle hbracket hampersand
    have hdelimiter : (decide (c = '*') || decide (c = '_')
        || decide (c = '~') && settings.strikethrough) = false := by
      simp only [isRunMark, Bool.or_eq_false_iff] at hmark ⊢
      exact ⟨⟨hmark.1.1.2, hmark.1.2⟩, hmark.2⟩
    split
    · rename_i hblank
      rw [if_pos hblank] at hother
      obtain ⟨d, hd, hline⟩ := (Option.any_eq_true _ _).1 hother
      obtain ⟨after, hafter⟩ := List.head?_eq_some_iff.1 hd
      have htakes := takesText_blanks settings fuel c out brackets hafter
      rw [hafter]
      split
      · contradiction
      · simp_all
      · exact htakes
    · rename_i hblank
      rw [if_neg hblank] at hother
      rw [hdelimiter, if_neg Bool.false_ne_true]
      split
      · rename_i hsmart
        obtain ⟨hquote, hdots, hdash⟩ := hother hsmart
        rw [hdots, hdash, hquote]
        exact takesText_literal settings fuel _ _ out brackets
      · exact takesText_literal settings fuel _ _ out brackets

/-- A text is plain behind a character that begins no run if the character stands for itself. -/
lemma isPlainFrom_cons (hmark : isRunMark settings c = false) :
    isPlainFrom settings opened prev (c :: rest)
      = (isLiteral settings c rest && isPlainFrom settings opened (some c) rest) := by
  rw [isPlainFrom, hmark, Bool.false_and, if_neg Bool.false_ne_true]

/-- What follows characters that start no run is plain after the last of them. -/
lemma isPlainFrom_of_append {run after : List Char}
    (hrun : ∀ d ∈ c :: run, isRunMark settings d = false)
    (h : isPlainFrom settings opened prev (c :: run ++ after) = true) :
    isPlainFrom settings opened (c :: run).getLast? after = true := by
  induction run generalizing c prev with
  | nil =>
    rw [List.cons_append, isPlainFrom_cons (hrun c List.mem_cons_self), Bool.and_eq_true] at h
    exact h.2
  | cons d run ih =>
    rw [List.cons_append, isPlainFrom_cons (hrun c List.mem_cons_self), Bool.and_eq_true] at h
    rw [List.getLast?_cons_cons]
    exact ih (fun b hb => hrun b (List.mem_cons_of_mem c hb)) h.2

/-- What follows a run is plain after it. -/
lemma isPlainFrom_dropWhile (h : isPlainFrom settings opened (some c) rest = true) :
    isPlainFrom settings opened (some c) (rest.dropWhile (· = c)) = true := by
  induction rest with
  | nil => exact h
  | cons d rest ih =>
    rw [List.dropWhile_cons]
    split
    · rename_i hd
      obtain rfl : d = c := by simpa using hd
      simp only [isPlainFrom, ne_eq, not_true_eq_false, decide_false, Bool.and_false,
        Bool.false_eq_true, if_false, Bool.and_eq_true] at h
      exact ih h.2
    · exact h

/-- Fewer delimiters to close make it no harder to close none. -/
lemma Spells.mono {others : List Char} {nodes : List Node} {text : List Char}
    (h : Spells opened nodes text) (hsub : others ⊆ opened) : Spells others nodes text := by
  induction h generalizing others with
  | nil => exact .nil
  | char c _ ih => exact .char c (ih hsub)
  | @delimiters opened text nodes c count opens closes hcloses _ ih =>
    refine .delimiters count (fun hc hmem => hcloses hc (hsub hmem)) (ih ?_)
    split
    · exact List.cons_subset_cons c hsub
    · exact hsub

/-- A run is read as text or as delimiters that close nothing. -/
lemma read_of_isLiteralRun (hmark : isRunMark settings c = true)
    (hliteral : isLiteralRun opened prev c rest = true) (fuel : Nat) (out : List Node)
    (brackets : List Bracket) :
    let run := c :: rest.takeWhile (· = c)
    let after := rest.dropWhile (· = c)
    ∃ front, read settings {} (fuel + 1) prev (c :: rest) out brackets
        = read settings {} fuel (some c) after (front.reverse ++ out) brackets ∧
      ∀ nodes text,
        Spells (if canOpen c run.length prev after.head? then c :: opened else opened) nodes text →
        Spells opened (front ++ nodes) (run ++ text) := by
  intro run after
  have hsub : opened ⊆ if canOpen c run.length prev after.head? then c :: opened else opened := by
    split
    · exact List.subset_cons_self c opened
    · exact List.Subset.refl opened
  have hrun : run = List.replicate run.length c := by
    refine List.eq_replicate_of_mem fun d hd => ?_
    obtain rfl | hd := List.mem_cons.1 hd
    · rfl
    · simpa using List.mem_takeWhile_imp hd
  by_cases hc : c = '\x60'
  · subst hc
    have hnone : codeSpan? run.length 0 after = none := by
      simpa only [isLiteralRun, if_pos, Option.isNone_iff_eq_none] using hliteral
    refine ⟨run.map Node.char, ?_, fun _ _ h => (h.mono hsub).append_char run⟩
    rw [read]
    dsimp only
    rw [hnone, ← List.map_reverse]
    rfl
  · have hcloses : canClose c run.length prev after.head? = true → c ∉ opened := by
      simpa only [isLiteralRun, if_neg hc, Bool.not_eq_true', Bool.and_eq_false_imp,
        List.contains_eq_mem, decide_eq_false_iff_not] using hliteral
    have hdelimiter : (decide (c = '*') || decide (c = '_')
        || decide (c = '~') && settings.strikethrough) = true := by
      simpa [isRunMark, hc] using hmark
    have hblank : Scan.isLineBlank c = false := by
      by_contra hblank
      rw [isRunMark_of_isLineBlank settings (by simpa using hblank)] at hmark
      contradiction
    have hread : read settings {} (fuel + 1) prev (c :: rest) out brackets
        = if (canOpen c run.length prev after.head? || canClose c run.length prev after.head?)
              && (c ≠ '~' || run.length ≤ 2) then
            read settings {} fuel (some c) after
              (.delimiters c run.length (canOpen c run.length prev after.head?)
                (canClose c run.length prev after.head?) :: out) brackets
          else read settings {} fuel (some c) after (pushText run out) brackets := by
      rw [read, if_neg (by simp [hblank]), if_pos hdelimiter]
      all_goals
        rintro rfl
        simp at hdelimiter
    rw [hread]
    split
    · refine ⟨[.delimiters c run.length _ _], rfl, fun nodes text h => ?_⟩
      have hspells := Spells.delimiters run.length hcloses h
      rwa [← hrun] at hspells
    · refine ⟨run.map Node.char, ?_, fun _ _ h => (h.mono hsub).append_char run⟩
      rw [pushText, List.map_reverse]

/-- Plain text is read as nodes that spell it. -/
lemma exists_read_eq {fuel : Nat} (hfuel : s.length < fuel)
    (hplain : isPlainFrom settings opened prev s = true) (hbetween : BetweenRuns settings prev s)
    (out : List Node) (brackets : List Bracket) :
    ∃ nodes, read settings {} fuel prev s out brackets
        = (reopenAll brackets out).reverse ++ nodes ∧ Spells opened nodes s := by
  -- each step takes some text and leaves a state of the same kind: the nodes before it may stand
  -- behind open brackets, but put back they are the same
  induction fuel generalizing opened prev s out brackets with
  | zero => omega
  | succ fuel ih =>
    cases s with
    | nil => exact ⟨[], (List.append_nil _).symm, .nil⟩
    | cons c rest =>
      rw [List.length_cons, Nat.add_lt_add_iff_right] at hfuel
      cases hmark : isRunMark settings c with
      | false =>
        have hliteral : isLiteral settings c rest = true := by
          rw [isPlainFrom_cons hmark, Bool.and_eq_true] at hplain
          exact hplain.1
        obtain ⟨run, after, out', brackets', rfl, hrun, hread, hopen⟩ :=
          takesText_of_isLiteral hmark hliteral fuel prev out brackets
        have hmarks : ∀ d ∈ c :: run, isRunMark settings d = false :=
          List.forall_mem_cons.2 ⟨hmark, hrun⟩
        have hafter : BetweenRuns settings (c :: run).getLast? after := by
          intro d hd hmark'
          rw [hmarks d (List.mem_of_getLast? hd)] at hmark'
          contradiction
        have hlength : after.length < fuel := by
          rw [List.length_append] at hfuel
          omega
        obtain ⟨nodes, hnodes, hspells⟩ :=
          ih hlength (isPlainFrom_of_append hmarks hplain) hafter out' brackets'
        refine ⟨(c :: run).map Node.char ++ nodes, ?_, hspells.append_char (c :: run)⟩
        rw [hread, hnodes, hopen, List.reverse_append, List.reverse_reverse, List.append_assoc]
      | true =>
        have hprev : prev ≠ some c := fun hprev => hbetween c hprev hmark rfl
        rw [isPlainFrom, hmark, decide_eq_true hprev, Bool.and_true, if_pos rfl,
          Bool.and_eq_true] at hplain
        obtain ⟨front, hread, hfront⟩ :=
          read_of_isLiteralRun hmark hplain.1 fuel out brackets
        have hafter : BetweenRuns settings (some c) (rest.dropWhile (· = c)) := by
          intro d hd _ hhead
          have hne := List.head?_dropWhile_not (· = c) rest
          rw [hhead, ← hd] at hne
          simp at hne
        have hlength : (rest.dropWhile (· = c)).length < fuel :=
          lt_of_le_of_lt (List.dropWhile_suffix _).length_le hfuel
        obtain ⟨nodes, hnodes, hspells⟩ :=
          ih hlength (isPlainFrom_dropWhile hplain.2) hafter (front.reverse ++ out) brackets
        refine ⟨front ++ nodes, ?_, ?_⟩
        · rw [hread, hnodes, reopenAll_append, List.reverse_append, List.reverse_reverse,
            List.append_assoc]
        · have htext := hfront nodes _ hspells
          rwa [List.cons_append, List.takeWhile_append_dropWhile] at htext

/-- The nodes of plain text spell it. -/
lemma spells_nodes {text : List Char} (h : isPlain settings text = true) :
    Spells [] (nodes settings {} text) text := by
  obtain ⟨nodes, hread, hspells⟩ := exists_read_eq (Nat.lt_succ_self text.length) h
    (fun c hc => by cases hc) [] []
  rw [Inline.nodes, hread]
  exact hspells

end Inline

namespace Emphasis

open Inline

/-! ## Emphasis -/

/-- The spans of a level if nothing more of it is matched, last first. -/
def Matching.spans (m : Matching) : List Span := (collapse m.openers.length m.openers m.out).2

/-- What was put out last stays in front when openers are collapsed. -/
lemma collapse_append (n : Nat) (openers : List Opener) (first out : List Span) :
    (collapse n openers (first ++ out)).2 = first ++ (collapse n openers out).2 := by
  induction n generalizing openers out with
  | zero => rfl
  | succ n ih =>
    cases openers with
    | nil => rfl
    | cons opener outer => rw [collapse, List.append_assoc, ih, collapse]

lemma find?_eq_none {c : Char} {m : Matching} (h : ∀ opener ∈ m.openers, opener.c ≠ c) (run : Nat)
    (both : Bool) : find? c run both m = none := by
  refine List.findIdx?_eq_none_iff.2 fun opener hopener => ?_
  have hc : opener.c ≠ c := h opener (List.mem_of_mem_take hopener)
  simp [fits, hc]

/-- Delimiters that fit no opener are left. -/
lemma exists_close_eq {c : Char} {m : Matching} (h : ∀ opener ∈ m.openers, opener.c ≠ c)
    (run : Nat) (both : Bool) (fuel count : Nat) :
    ∃ bound, close c run both fuel count m = (count, { m with tildeBound := bound }) := by
  cases fuel with
  | zero => exact ⟨m.tildeBound, rfl⟩
  | succ fuel =>
    rw [close, find?_eq_none h]
    by_cases hcount : count = 0
    · exact ⟨m.tildeBound, by rw [if_pos hcount, hcount]⟩
    · by_cases hc : c = '~'
      · exact ⟨m.openers.length, by simp [hcount, hc]⟩
      · exact ⟨m.tildeBound, by simp [hcount, hc]⟩

/-- Delimiters that close nothing are text as long as nothing closes them. -/
lemma step_delimiters {opened : List Char} {c : Char} {closes : Bool} {m : Matching}
    (hm : ∀ opener ∈ m.openers, opener.c ∈ opened) (hcloses : closes = true → c ∉ opened)
    (count : Nat) (opens last : Bool) :
    let m' := step m last (.delimiters c count opens closes)
    m'.spans = List.replicate count (.char c) ++ m.spans ∧
      ∀ opener ∈ m'.openers, opener.c ∈ if opens then c :: opened else opened := by
  intro m'
  obtain ⟨bound, hclose⟩ : ∃ bound, (if closes then
      close c count (opens && closes) (count + 1) count m else (count, m))
        = (count, { m with tildeBound := bound }) := by
    cases closes with
    | false => exact ⟨m.tildeBound, rfl⟩
    | true =>
      have hne : ∀ opener ∈ m.openers, opener.c ≠ c := fun opener hopener heq =>
        hcloses rfl (heq ▸ hm opener hopener)
      exact exists_close_eq hne count _ (count + 1) count
  have hstep : m' = if count = 0 then { m with tildeBound := bound }
      else if opens then
        ⟨[], ⟨c, count, count, opens && closes, m.out⟩ :: m.openers, bound⟩
      else { m with out := pushRun c count m.out, tildeBound := bound } := by
    simp only [m', step]
    rw [hclose]
  have hopened : ∀ opener ∈ m.openers, opener.c ∈ if opens then c :: opened else opened := by
    intro opener hopener
    split
    · exact List.mem_cons_of_mem c (hm opener hopener)
    · exact hm opener hopener
  rw [hstep]
  split
  · rename_i hcount
    rw [hcount]
    exact ⟨rfl, hopened⟩
  · split
    · rename_i hopens
      refine ⟨collapse_append m.openers.length m.openers (List.replicate count (.char c)) m.out, ?_⟩
      rw [if_pos hopens] at hopened
      exact List.forall_mem_cons.2 ⟨List.mem_cons_self, hopened⟩
    · exact ⟨collapse_append m.openers.length m.openers (List.replicate count (.char c)) m.out, hm⟩

/-- Characters and runs of delimiters stay where quotes are curled. -/
lemma curl_items {opened : List Char} {nodes : List Node} {text : List Char}
    (h : Spells opened nodes text) (double single : Bool) :
    curl double single (items nodes) = items nodes := by
  induction h with
  | nil => rfl
  | char c _ ih =>
    rw [items, item, curl, ih]
    simp
  | delimiters count _ _ ih =>
    rw [items, item, curl, ih]
    simp

/-- Nodes that spell a text become the characters of the text. -/
lemma matchItems_eq {opened : List Char} {nodes : List Node} {text : List Char}
    (h : Spells opened nodes text) {m : Matching} (hm : ∀ opener ∈ m.openers, opener.c ∈ opened) :
    matchItems m (items nodes) = m.spans.reverse ++ text.map Span.char := by
  induction h generalizing m with
  | nil => simp [items, matchItems, Matching.spans]
  | @char opened text nodes c _ ih =>
    have hspans : (step m (items nodes).isEmpty (.done (.char c))).spans = .char c :: m.spans :=
      collapse_append m.openers.length m.openers [.char c] m.out
    have hrest := ih (m := step m (items nodes).isEmpty (.done (.char c))) hm
    rw [items, item, matchItems, hrest, hspans]
    simp
  | @delimiters opened text nodes c count opens closes hcloses _ ih =>
    obtain ⟨hspans, hopeners⟩ := step_delimiters hm hcloses count opens (items nodes).isEmpty
    rw [items, item, matchItems, ih hopeners, hspans]
    simp

end Emphasis

lemma joinText_chars {text : List Char} (h : text ≠ []) :
    joinText (eventsOf (text.map Span.char)) = [.text (String.ofList text)] := by
  induction text with
  | nil => contradiction
  | cons c text ih =>
    rw [List.map_cons, eventsOf, Span.events, List.singleton_append, joinText]
    cases text with
    | nil => simp [eventsOf, joinText]
    | cons d text =>
      rw [ih (List.cons_ne_nil d text)]
      show [Event.text (String.singleton c ++ String.ofList (d :: text))] = _
      rw [← String.ofList_cons]

/-- The only event of plain text is the text. -/
theorem inlineEvents_of_isPlain {settings : Settings} {text : List Char} (hne : text ≠ [])
    (h : Inline.isPlain settings text = true) :
    inlineEvents settings {} text = [.text (String.ofList text)] := by
  have hspells := Inline.spells_nodes h
  have hspans : Emphasis.resolveLevel (Emphasis.items (Inline.nodes settings {} text))
      = text.map Span.char := by
    rw [Emphasis.resolveLevel, Emphasis.curl_items hspells]
    exact Emphasis.matchItems_eq hspells (by simp)
  rw [inlineEvents, hspans, joinText_chars hne]

end Markdown
end Bindery
