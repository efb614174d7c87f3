import Bindery.Proofs.Markdown.Destinations
import Bindery.Proofs.Markdown.Writing

/-!
# Writing a document and what it is split into

What a writer adds to its output does not depend on the output so far (`step_appends`). So a writer
that reads a document and one that reads what the document is split into go side by side, in the
same state but for the output (`Follows`). Where one writes the destination of a link, escaped, the
other writes the placeholder that stands for it, and everything else is the same text
(`AlignedAll.follows`).
-/

namespace Bindery
namespace Markdown

open Template

namespace Write

/-! ## Texts side by side -/

/-- Two texts that are the same but for given placeholders in the first and, in their places, the
escaped destinations that these stand for in the second. -/
inductive Fills : List (Nat × String) → List Char → List Char → Prop
  | nil : Fills [] [] []
  | char {marks : List (Nat × String)} {s t : List Char} (c : Char) (h : Fills marks s t) :
      Fills marks (c :: s) (c :: t)
  | mark {marks : List (Nat × String)} {s t : List Char} (i : Nat) (dest : String)
      (h : Fills marks s t) : Fills ((i, dest) :: marks) ((placeholder i).toList ++ s)
        ((escapeTarget dest).toList ++ t)

namespace Fills

variable {marks others : List (Nat × String)} {s s' t t' : List Char}

/-- A text without placeholders is filled by itself. -/
lemma same (s : List Char) : Fills [] s s := by
  induction s with
  | nil => exact .nil
  | cons c s ih => exact .char c ih

/-- A placeholder is filled by the escaped destination. -/
lemma single (i : Nat) (dest : String) :
    Fills [(i, dest)] (placeholder i).toList (escapeTarget dest).toList := by
  have h := Fills.mark i dest .nil
  rwa [List.append_nil, List.append_nil] at h

/-- Two texts are filled one behind the other. -/
lemma append (h : Fills marks s t) (h' : Fills others s' t') :
    Fills (marks ++ others) (s ++ s') (t ++ t') := by
  induction h with
  | nil => exact h'
  | char c _ ih => exact .char c ih
  | mark i dest _ ih =>
    rw [List.append_assoc, List.append_assoc]
    exact .mark i dest ih

lemma append_text {a b a' b' : String} (h : Fills marks a.toList b.toList)
    (h' : Fills others a'.toList b'.toList) :
    Fills (marks ++ others) (a ++ a').toList (b ++ b').toList := by
  rw [String.toList_append, String.toList_append]
  exact h.append h'

end Fills

namespace Writer

/-! ## Writers with another output -/

/-- The writer with another output before it. -/
def onto (w : Writer) (out : String) : Writer := { w with out }

/-- What happens to the writer does not depend on its output so far, to which text is added. -/
def Appends (w : Writer) (f : Writer → Writer) : Prop :=
  ∃ text, ∀ out, f (w.onto out) = (f w).onto (out ++ text)

variable {w : Writer} {f g : Writer → Writer} {s : String}

lemma Appends.of_eq (h : ∀ out, f (w.onto out) = (f w).onto out) : Appends w f :=
  ⟨"", fun out => by rw [h, String.append_empty]⟩

/-- Two appending steps make one. -/
lemma Appends.comp (hf : Appends w f) (hg : Appends (f w) g) : Appends w fun w => g (f w) := by
  obtain ⟨text, hf⟩ := hf
  obtain ⟨text', hg⟩ := hg
  refine ⟨text ++ text', fun out => ?_⟩
  dsimp only
  rw [hf, hg, String.append_assoc]

lemma put_appends : Appends w (·.put s) := by
  refine ⟨s, fun out => ?_⟩
  show (w.onto out).put s = (w.put s).onto (out ++ s)
  unfold put
  by_cases hempty : s.isEmpty = true
  · rw [if_pos hempty, if_pos hempty, String.isEmpty_iff.1 hempty, String.append_empty]
  · rw [if_neg hempty, if_neg hempty]
    rfl

lemma putText_appends {source : String} : Appends w (·.putText s source) := ⟨s, fun _ => rfl⟩

lemma putInside_appends : Appends w (·.putInside s) := ⟨s, fun _ => rfl⟩

lemma putLine_appends : Appends w (·.putLine s) :=
  put_appends (s := if w.lineStart then s else "\n" ++ s)

/-- The number of a footnote does not depend on the output. -/
lemma footnote_onto (label out : String) :
    (w.onto out).footnote label = ((w.footnote label).1, (w.footnote label).2.onto out) := by
  unfold footnote onto
  cases w.footnotes.findIdx? (· = label) with
  | none => rfl
  | some i => rfl

/-- Text with the number of a footnote in it. -/
lemma footnote_appends {label : String} {f : Nat → Writer → Writer}
    (h : ∀ number w, Appends w (f number)) :
    Appends w fun w => f (w.footnote label).1 (w.footnote label).2 := by
  obtain ⟨text, htext⟩ := h (w.footnote label).1 (w.footnote label).2
  refine ⟨text, fun out => ?_⟩
  dsimp only
  rw [footnote_onto]
  exact htext out

/-- The start of a construct appends to the output. -/
lemma start_appends (w : Writer) (tag : Tag) : Appends w (·.start tag) := by
  cases tag with
  | htmlBlock => exact .of_eq fun _ => rfl
  | table alignments => exact put_appends (w := { w with alignments })
  | tableHead => exact put_appends (w := { w with inHead := true, column := 0 })
  | tableRow => exact put_appends (w := { w with column := 0 })
  | tableCell => exact put_appends (s := "<" ++ w.cellName ++ cellStyle w.alignments[w.column]?)
  | list start =>
    cases start with
    | none => exact putLine_appends
    | some n =>
      by_cases hone : n = 1
      · rw [hone]
        exact putLine_appends
      · have hstart (w : Writer) : w.start (.list (some n))
            = w.putLine ("<ol start=\"" ++ toString n ++ "\">\n") := by
          simp only [start]
        simp only [hstart]
        exact putLine_appends
  | image target =>
    exact .comp (f := (·.put ("<img src=\"" ++ escapeTarget target.dest ++ "\" alt=\"")))
      (g := fun w => { w with image := some (0, target.title) }) put_appends (.of_eq fun _ => rfl)
  | footnoteDefinition label =>
    exact .comp (f := (·.putLine ("<div class=\"footnote-definition\" id=\""
        ++ escapeAttribute label ++ "\"><sup class=\"footnote-definition-label\">")))
      putLine_appends
      (footnote_appends (f := fun number w => w.put (toString number ++ "</sup>"))
        fun _ _ => put_appends)
  | link target => exact put_appends
  | emphasis => exact put_appends
  | strong => exact put_appends
  | strikethrough => exact put_appends
  | paragraph => exact putLine_appends
  | heading level attributes => exact putLine_appends
  | blockQuote => exact putLine_appends
  | item => exact putLine_appends

/-- The end of a construct appends to the output. -/
lemma stop_appends (w : Writer) (tag : Tag) : Appends w (·.stop tag) := by
  cases tag with
  | htmlBlock => exact .of_eq fun _ => rfl
  | image target => exact .of_eq fun _ => rfl
  | tableHead =>
    exact .comp (f := (·.put "</tr></thead><tbody>\n")) (g := fun w => { w with inHead := false })
      put_appends (.of_eq fun _ => rfl)
  | tableCell =>
    exact .comp (f := (·.put ("</" ++ w.cellName ++ ">")))
      (g := fun w => { w with column := w.column + 1 }) put_appends (.of_eq fun _ => rfl)
  | list start =>
    cases start with
    | none => exact put_appends
    | some n => exact put_appends
  | _ => exact put_appends

/-- A leaf is appended to the output. -/
lemma leaf_appends (w : Writer) (leaf : Leaf) : Appends w (·.leaf leaf) := by
  cases leaf with
  | footnoteReference label =>
    exact footnote_appends (f := fun number w => w.put (
      "<sup class=\"footnote-reference\"><a href=\"#" ++ escapeAttribute label ++ "\">"
        ++ toString number ++ "</a></sup>")) fun _ _ => put_appends
  | taskListMarker checked =>
    cases checked with
    | false => exact put_appends
    | true => exact put_appends
  | rule => exact putLine_appends
  | _ => exact put_appends

/-- What is read inside of an image appends to the output. -/
lemma imageStep_appends (w : Writer) (depth : Nat) (title : String) (event : Event) :
    Appends w (·.imageStep depth title event) := by
  cases event with
  | start tag => exact .of_eq fun _ => rfl
  | stop tag =>
    cases depth with
    | zero => exact put_appends (w := { w with image := none })
    | succ depth => exact .of_eq fun _ => rfl
  | startCode kind => exact .of_eq fun _ => rfl
  | stopCode =>
    cases depth with
    | zero => exact put_appends (w := { w with image := none })
    | succ depth => exact .of_eq fun _ => rfl
  | text text => exact putText_appends
  | html text => exact .of_eq fun _ => rfl
  | inlineHtml text => exact putText_appends
  | leaf leaf =>
    cases leaf with
    | code text => exact putText_appends
    | footnoteReference label =>
      exact footnote_appends (f := fun number w => w.putInside ("[" ++ toString number ++ "]"))
        fun _ _ => putInside_appends
    | _ => exact put_appends

/-- What an event adds to the output does not depend on the output so far. -/
lemma step_appends (w : Writer) (event : Event) : Appends w (·.step event) := by
  -- a writer with another output is in the same image
  have hstep {f : Writer → Writer} (hf : Appends w f)
      (h : ∀ w' : Writer, w'.image = w.image → w'.step event = f w') :
      Appends w (·.step event) := by
    obtain ⟨text, htext⟩ := hf
    refine ⟨text, fun out => ?_⟩
    show (w.onto out).step event = (w.step event).onto (out ++ text)
    rw [h (w.onto out) rfl, h w rfl, htext]
  cases himage : w.image with
  | some inside =>
    exact hstep (imageStep_appends w inside.1 inside.2 event) fun _ h =>
      step_inside (h.trans himage) event
  | none =>
    rw [himage] at hstep
    cases event with
    | start tag => exact hstep (start_appends w tag) fun _ h => step_outside h _
    | stop tag => exact hstep (stop_appends w tag) fun _ h => step_outside h _
    | startCode kind => exact hstep putLine_appends fun _ h => step_outside h _
    | stopCode => exact hstep put_appends fun _ h => step_outside h _
    | text text => exact hstep putText_appends fun _ h => step_outside h _
    | html text => exact hstep put_appends fun _ h => step_outside h _
    | inlineHtml text => exact hstep put_appends fun _ h => step_outside h _
    | leaf leaf => exact hstep (leaf_appends w leaf) fun _ h => step_outside h _

/-! ## Writers side by side -/

/-- Writers in the same state, one of which reads events and the other what these were split into,
are in the same state again behind them, and what they add to their outputs is the same but for
given placeholders. -/
def Follows (w : Writer) (events split : List Event) (marks : List (Nat × String)) : Prop :=
  ∃ text text' : String, Fills marks text.toList text'.toList ∧ ∀ out,
    split.foldl step (w.onto out) = (events.foldl step w).onto (out ++ text) ∧
    events.foldl step (w.onto out) = (events.foldl step w).onto (out ++ text')

variable {events events' split split' : List Event} {marks others : List (Nat × String)}

lemma Follows.nil : Follows w [] [] [] :=
  ⟨"", "", .nil, fun out => by simp⟩

/-- Events that are written side by side are so one behind the other. -/
lemma Follows.append (h : Follows w events split marks)
    (h' : Follows (events.foldl step w) events' split' others) :
    Follows w (events ++ events') (split ++ split') (marks ++ others) := by
  obtain ⟨text, text', hfills, hfold⟩ := h
  obtain ⟨more, more', hfills', hfold'⟩ := h'
  refine ⟨text ++ more, text' ++ more', hfills.append_text hfills', fun out => ?_⟩
  obtain ⟨hsplit, hevents⟩ := hfold out
  simp only [List.foldl_append, ← String.append_assoc]
  rw [hsplit, hevents]
  exact ⟨(hfold' _).1, (hfold' _).2⟩

/-- The same event adds the same text. -/
lemma follows_same (w : Writer) (event : Event) : Follows w [event] [event] [] := by
  obtain ⟨text, htext⟩ := step_appends w event
  exact ⟨text, text, .same _, fun out => ⟨htext out, htext out⟩⟩

/-- The same events are written to the same text. -/
lemma follows_events (w : Writer) (events : List Event) : Follows w events events [] := by
  induction events generalizing w with
  | nil => exact .nil
  | cons event events ih => exact (follows_same w event).append (ih (w.step event))

/-- A writer looks only at the end of markup to tell whether it is at the start of a line. -/
lemma put_ending (out a : String) {b : String} (hb : b.isEmpty = false) :
    (w.onto out).put (a ++ b)
      = { w with out := out ++ (a ++ b), lineStart := b.toList.getLast? = some '\n' } := by
  have hne : b.toList ≠ [] := fun h => by
    simp [String.toList_eq_nil_iff.1 h] at hb
  have hnonempty : (a ++ b).isEmpty = false := by
    simp_all
  have hlast : (a ++ b).toList.getLast? = b.toList.getLast? := by
    rw [String.toList_append, List.getLast?_append_of_ne_nil _ hne]
  unfold put
  rw [if_neg (by simp [hnonempty]), hlast]
  rfl

/-- A placeholder is written as it is. -/
lemma escapeTarget_placeholder (i : Nat) : escapeTarget (placeholder i) = placeholder i := by
  refine escapeTarget_eq_self fun c hc => ?_
  exact isTargetChar_of_isMarkChar (isMarkChar_of_mem_placeholder hc)

/-- Markup with the placeholder of a destination, and with the destination. -/
lemma put_fills (w : Writer) (front back : String) (hback : back.isEmpty = false) (i : Nat)
    (dest : String) :
    ∃ text text' : String, Fills [(i, dest)] text.toList text'.toList ∧ ∀ out,
      (w.onto out).put (front ++ placeholder i ++ back)
        = (w.put (front ++ escapeTarget dest ++ back)).onto (out ++ text) ∧
      (w.onto out).put (front ++ escapeTarget dest ++ back)
        = (w.put (front ++ escapeTarget dest ++ back)).onto (out ++ text') := by
  have hput : w.put (front ++ escapeTarget dest ++ back) = _ := put_ending w.out _ hback
  have hfills := ((Fills.same front.toList).append (.single i dest)).append (.same back.toList)
  refine ⟨front ++ placeholder i ++ back, front ++ escapeTarget dest ++ back, ?_, fun out => ?_⟩
  · simpa only [String.toList_append, List.nil_append, List.append_nil] using hfills
  · rw [put_ending out _ hback, put_ending out _ hback, hput]
    exact ⟨rfl, rfl⟩

/-- The start of a construct writes its placeholder, or the destination that it stands for, unless
the construct is inside of an image. -/
lemma start_follows {tag tag' : Tag} {inImage : Bool} (htag : tag.Aligned tag' marks)
    (hw : w.image.isSome = inImage) :
    Follows w [.start tag] [.start tag'] (if inImage then [] else marks) := by
  cases himage : w.image with
  | some inside =>
    obtain rfl : inImage = true := by rw [← hw, himage]; rfl
    have hsame : ∀ out, (w.onto out).step (.start tag') = (w.onto out).step (.start tag) :=
      fun out => by
        have himage' : (w.onto out).image = some inside := himage
        rw [step_inside himage', step_inside himage']
        rfl
    obtain ⟨text, text', hfills, hfold⟩ := follows_same w (.start tag)
    refine ⟨text, text', hfills, fun out => ?_⟩
    rw [List.foldl_cons, hsame]
    exact hfold out
  | none =>
    obtain rfl : inImage = false := by rw [← hw, himage]; rfl
    have hstart (tag : Tag) : w.step (.start tag) = w.start tag := step_outside himage _
    have hstart' (out : String) (tag : Tag) :
        (w.onto out).step (.start tag) = (w.onto out).start tag :=
      step_outside (w := w.onto out) himage _
    cases htag with
    | same => exact follows_same w (.start tag)
    | link target i =>
      have hwritten (w : Writer) (dest : String) : w.start (.link { target with dest })
          = w.put (("<a href=\"" ++ if target.kind = .email then "mailto:" else "")
            ++ escapeTarget dest ++ (titleAttribute target.title ++ "\">")) := by
        simp only [start, String.append_assoc]
      obtain ⟨text, text', hfills, hput⟩ := put_fills w
        ("<a href=\"" ++ if target.kind = .email then "mailto:" else "")
        (titleAttribute target.title ++ "\">") (by simp) i target.dest
      refine ⟨text, text', hfills, fun out => ?_⟩
      simp only [List.foldl_cons, List.foldl_nil, hstart, hstart']
      rw [hwritten, hwritten _ target.dest, hwritten _ target.dest, escapeTarget_placeholder]
      exact hput out
    | image target i =>
      obtain ⟨text, text', hfills, hput⟩ := put_fills w "<img src=\"" "\" alt=\"" (by decide)
        i target.dest
      refine ⟨text, text', hfills, fun out => ?_⟩
      simp only [List.foldl_cons, List.foldl_nil, hstart, hstart', start]
      rw [escapeTarget_placeholder, (hput out).1, (hput out).2]
      exact ⟨rfl, rfl⟩

/-- A construct ends like what it was split into. -/
lemma stop_follows {tag tag' : Tag} (htag : tag.Aligned tag' marks) :
    Follows w [.stop tag] [.stop tag'] [] := by
  have hsame (w : Writer) : w.step (.stop tag') = w.step (.stop tag) := by
    cases himage : w.image with
    | none =>
      rw [step_outside himage, step_outside himage]
      cases htag <;> rfl
    | some inside =>
      rw [step_inside himage, step_inside himage]
      rfl
  obtain ⟨text, htext⟩ := step_appends w (.stop tag)
  refine ⟨text, text, .same _, fun out => ⟨?_, htext out⟩⟩
  rw [List.foldl_cons, List.foldl_nil, hsame]
  exact htext out

/-! ## Where the writer is in images -/

/-- Behind a construct the writer is in the image again that it was in before. -/
lemma image_element {tag : Tag} {events : List Event}
    (h : (events.foldl step (w.step (.start tag))).image = (w.step (.start tag)).image) :
    ((Event.start tag :: events ++ [Event.stop tag]).foldl step w).image = w.image := by
  rw [List.foldl_append, List.foldl_cons, List.foldl_cons, List.foldl_nil]
  cases himage : w.image with
  | some inside =>
    have hopened : (w.step (.start tag)).image = some (inside.1 + 1, inside.2) := by
      rw [step_inside himage]
      rfl
    rw [hopened] at h
    rw [step_inside h]
    rfl
  | none =>
    have hstart : w.step (.start tag) = w.start tag := step_outside himage _
    rw [hstart] at h ⊢
    cases hisImage : tag.isImage with
    | false =>
      rw [start_image hisImage, himage] at h
      have hstop : Adds true _ _ [] ∧ _ := stop_adds (w := events.foldl step (w.start tag)) hisImage
      rw [step_outside h]
      exact hstop.2.trans h
    | true =>
      cases tag with
      | image target =>
        rw [step_inside h]
        exact put_image
      | _ => cases hisImage

/-- Behind a token without children too. -/
lemma image_plain {token : Token} (htoken : token.isPlain = true) (raw : Bool)
    (highlight : Highlighter) (env : Environment) :
    ((token.flatten raw highlight env).1.foldl step w).image = w.image := by
  -- what is written is of no matter here, so every text counts as literal
  have hliteral (text : String) : IsLiteralText true text := fun _ _ => .inl rfl
  have htext (text : String) : Reads true w [.text text] [] := text_reads (.literal (hliteral text))
  have hhtml (text : String) : Reads true w [.html text] [] := html_reads (hliteral text)
  cases token with
  | element tag children => cases htoken
  | expression source => cases htoken
  | text text => exact (htext text).2
  | html text =>
    cases raw with
    | true => exact (hhtml text).2
    | false => exact (htext text).2
  | inlineHtml text =>
    cases raw with
    | true =>
      have hinline : Reads true w [.inlineHtml text] [] :=
        inlineHtml_reads (.literal (hliteral text))
      exact hinline.2
    | false => exact (htext text).2
  | codeBlock kind content templated =>
    have hplain : Reads true w [.startCode kind, .text content, .stopCode] [] :=
      code_reads (fun text _ => hliteral text) (.literal (hliteral content))
    show ((codeEvents highlight kind content templated).foldl step w).image = w.image
    unfold codeEvents highlightedEvent
    split
    · split
      · split
        · exact (hhtml _).2
        · exact (hhtml _).2
      · exact hplain.2
    · exact hplain.2
  | leaf leaf =>
    have hleaf : Reads true w [.leaf leaf] [] := leaf_reads fun text _ => hliteral text
    exact hleaf.2

end Writer
end Write

open Write Writer

/-! ## Rendering side by side -/

/-- Rendering what tokens are split into writes placeholders where rendering the tokens writes
destinations, whatever highlights code. -/
lemma AlignedAll.follows {inImage : Bool} {tokens split : List Token} {marks : List (Nat × String)}
    (h : AlignedAll inImage tokens split marks) (raw : Bool) (highlight : Highlighter)
    (env env' : Environment) (w : Writer) (hw : w.image.isSome = inImage) :
    (flattenAll raw highlight env' split).2 = env' ∧
    ((flattenAll raw highlight env tokens).1.foldl step w).image = w.image ∧
    Follows w (flattenAll raw highlight env tokens).1 (flattenAll raw highlight env' split).1
      marks := by
  induction h generalizing env env' w with
  | nil => exact ⟨rfl, rfl, .nil⟩
  | @single inImage token rest rest' marks htoken _ ih =>
    have henv : (token.flatten raw highlight env').2 = env' := by
      cases token <;> first | rfl | cases htoken
    have hsame : (token.flatten raw highlight env).1 = (token.flatten raw highlight env').1 := by
      cases token <;> first | rfl | cases htoken
    have hfirst : Follows w (token.flatten raw highlight env).1
        (token.flatten raw highlight env').1 [] := by
      rw [← hsame]
      exact follows_events w _
    have himage := image_plain (w := w) htoken raw highlight env
    obtain ⟨hrest, himage', hfollows⟩ := ih (token.flatten raw highlight env).2
      (token.flatten raw highlight env').2 _ ((congrArg Option.isSome himage).trans hw)
    refine ⟨hrest.trans henv, ?_, hfirst.append hfollows⟩
    rw [flattenAll, List.foldl_append]
    exact himage'.trans himage
  | @element inImage tag tag' children children' rest rest' marks inside others htag _ _ ihchildren
      ih =>
    have hopened : (w.step (.start tag)).image.isSome = (inImage || tag.isImage) :=
      (isSome_image_step_start w tag).trans (by rw [hw])
    obtain ⟨henv, himage, hinside⟩ := ihchildren env env' (w.step (.start tag)) hopened
    have helement : ((Event.start tag :: (flattenAll raw highlight env children).1
        ++ [Event.stop tag]).foldl step w).image = w.image := image_element himage
    have hfirst := ((start_follows htag hw).append hinside).append (stop_follows htag)
    rw [List.append_nil] at hfirst
    obtain ⟨hrest, himage', hfollows⟩ := ih (flattenAll raw highlight env children).2
      (flattenAll raw highlight env' children').2 _ ((congrArg Option.isSome helement).trans hw)
    refine ⟨hrest.trans henv, ?_, ?_⟩
    · rw [flattenAll, List.foldl_append]
      exact himage'.trans helement
    · rw [← List.append_assoc]
      exact hfirst.append hfollows

end Markdown
end Bindery
