import Bindery.Markdown.Render
import Bindery.Proofs.Markdown.Splitting

/-!
# What rendering does with placeholders

Escaping changes no placeholder, so what the writer adds to its output holds the placeholders of
the text it is given (`Writer.Adds`). Inside of an image it writes the text of its children but
none of their markup, and the placeholders in their attributes are lost. Reading the events of
tokens therefore writes the placeholders that the tokens keep, and one for each expression
(`flattenAll_writes`).
-/

namespace Bindery
namespace Markdown

open Template

variable {tildes inImage : Bool} {indices others : List Nat}

namespace Write

/-! ## Escaping -/

/-- The characters of a placeholder are not escaped in text. -/
lemma bodyEntity_eq_none {c : Char} (h : isMarkChar c = true) : bodyEntity c = none := by
  unfold bodyEntity
  split
  · exact absurd h (by decide)
  · exact absurd h (by decide)
  · exact absurd h (by decide)
  · rfl

/-- No entity in text holds a tilde. -/
lemma tilde_not_mem_of_bodyEntity {c : Char} {text : String} (h : bodyEntity c = some text) :
    '~' ∉ text.toList := by
  unfold bodyEntity at h
  split at h
  · cases h
    decide
  · cases h
    decide
  · cases h
    decide
  · simp at h

/-- The characters of a placeholder are not escaped in attributes. -/
lemma attributeEntity_eq_none {c : Char} (h : isMarkChar c = true) : attributeEntity c = none := by
  unfold attributeEntity
  split
  · exact absurd h (by decide)
  · exact absurd h (by decide)
  · exact bodyEntity_eq_none h

/-- No entity in attributes holds a tilde. -/
lemma tilde_not_mem_of_attributeEntity {c : Char} {text : String}
    (h : attributeEntity c = some text) : '~' ∉ text.toList := by
  unfold attributeEntity at h
  split at h
  · cases h
    decide
  · cases h
    decide
  · exact tilde_not_mem_of_bodyEntity h

lemma escapeBody_marked {text : String} (h : Marked tildes indices text.toList) :
    Marked tildes indices (escapeBody text).toList :=
  h.escape (fun _ hc => bodyEntity_eq_none hc) fun _ _ hc => tilde_not_mem_of_bodyEntity hc

/-- Escaping an attribute keeps the placeholders. -/
lemma escapeAttribute_marked {text : String} (h : Marked tildes indices text.toList) :
    Marked tildes indices (escapeAttribute text).toList :=
  h.escape (fun _ hc => attributeEntity_eq_none hc) fun _ _ hc =>
    tilde_not_mem_of_attributeEntity hc

/-- The characters of a placeholder may stand in a destination. -/
lemma isTargetChar_of_isMarkChar {c : Char} (h : isMarkChar c = true) : isTargetChar c = true := by
  simp only [isMarkChar, Bool.or_eq_true, decide_eq_true_eq] at h
  rcases h with (rfl | rfl) | h
  · decide
  · decide
  · simp [isTargetChar, h]

lemma targetChar_of_isMarkChar {c : Char} (h : isMarkChar c = true) : targetChar c = [c] := by
  rw [targetChar, if_pos (isTargetChar_of_isMarkChar h)]

/-- No escaped byte holds a tilde. -/
lemma tilde_not_mem_percent (b : UInt8) : '~' ∉ percent b := by
  have hdigit : ∀ n < 16, '~' ≠ (Text.hexDigit n).toUpper := by decide
  have hlt := b.toNat_lt
  simp only [percent, List.mem_cons, List.not_mem_nil, or_false, not_or]
  exact ⟨by decide, hdigit _ (by omega), hdigit _ (by omega)⟩

/-- Escaping a destination keeps the placeholders. -/
lemma escapeTarget_marked {text : String} (h : Marked tildes indices text.toList) :
    Marked tildes indices (escapeTarget text).toList := by
  rw [escapeTarget, String.toList_ofList]
  refine h.flatMap (fun c hc => targetChar_of_isMarkChar hc) fun c d hd => ?_
  unfold targetChar at hd
  have hamp : '~' ∉ "&amp;".toList := by decide
  have hquote : '~' ∉ "&#x27;".toList := by decide
  by_cases htarget : isTargetChar c = true
  · rw [if_pos htarget] at hd
    exact .inl (List.mem_singleton.1 hd)
  · rw [if_neg htarget] at hd
    refine .inr fun heq => ?_
    rw [heq] at hd
    split at hd
    · exact hamp hd
    · split at hd
      · exact hquote hd
      · obtain ⟨b, -, hb⟩ := List.mem_flatMap.1 hd
        exact tilde_not_mem_percent b hb

lemma tilde_not_mem_toString (n : Nat) : '~' ∉ (toString n).toList := by
  rw [Nat.toString_eq_repr, Nat.toList_repr]
  intro h
  exact absurd (List.all_eq_true.1 (all_isDigit_toDigits n) '~' h) (by decide)

lemma toString_marked (n : Nat) : Marked tildes [] (toString n).toList :=
  .constant (tilde_not_mem_toString n)

/-! ## Writing -/

namespace Writer

/-- The writer adds text with given placeholders to its output. -/
def Adds (tildes : Bool) (w w' : Writer) (indices : List Nat) : Prop :=
  ∃ text : String, w'.out = w.out ++ text ∧ Marked tildes indices text.toList

variable {w w' w'' : Writer} {s : String}

lemma Adds.of_out_eq (h : w'.out = w.out) : Adds tildes w w' [] := ⟨"", by simp [h], .nil⟩

/-- What is added in two steps is added one behind the other. -/
lemma Adds.trans (hfirst : Adds tildes w w' indices) (hsecond : Adds tildes w' w'' others) :
    Adds tildes w w'' (indices ++ others) := by
  obtain ⟨text, hout, hmarked⟩ := hfirst
  obtain ⟨text', hout', hmarked'⟩ := hsecond
  exact ⟨text ++ text', by rw [hout', hout, String.append_assoc], hmarked.append_text hmarked'⟩

/-- Text that is put out adds its placeholders. -/
lemma put_adds (h : Marked tildes indices s.toList) : Adds tildes w (w.put s) indices := by
  refine ⟨s, ?_, h⟩
  unfold put
  by_cases hempty : s.isEmpty = true
  · rw [if_pos hempty, String.isEmpty_iff.1 hempty, String.append_empty]
  · rw [if_neg hempty]

lemma put_const (h : '~' ∉ s.toList) : Adds tildes w (w.put s) [] := put_adds (.constant h)

lemma putText_adds {source : String} (h : Marked tildes indices s.toList) :
    Adds tildes w (w.putText s source) indices := ⟨s, rfl, h⟩

lemma putInside_adds (h : Marked tildes indices s.toList) :
    Adds tildes w (w.putInside s) indices := ⟨s, rfl, h⟩

/-- Markup on a line of its own adds its placeholders. -/
lemma putLine_adds (h : Marked tildes indices s.toList) :
    Adds tildes w (w.putLine s) indices := by
  unfold putLine
  split
  · exact put_adds h
  · exact put_adds (h.const_append (by decide))

lemma putLine_const (h : '~' ∉ s.toList) : Adds tildes w (w.putLine s) [] :=
  putLine_adds (.constant h)

@[simp] lemma put_image : (w.put s).image = w.image := by
  unfold put
  split <;> rfl

@[simp] lemma putLine_image : (w.putLine s).image = w.image := put_image

@[simp] lemma putInside_image : (w.putInside s).image = w.image := rfl

@[simp] lemma footnote_image {label : String} : (w.footnote label).2.image = w.image := by
  unfold footnote
  split <;> rfl

/-- The number of a footnote adds no placeholder. -/
lemma footnote_adds {label : String} : Adds tildes w (w.footnote label).2 [] := by
  refine .of_out_eq ?_
  unfold footnote
  split <;> rfl

/-! ## Constructs -/

/-- The id of a heading holds no placeholder. -/
lemma idAttribute_marked {id : Option String} (h : ∀ text ∈ id, IsLiteralText tildes text) :
    Marked tildes [] (idAttribute id).toList := by
  cases id with
  | none => exact .nil
  | some id =>
    have hid := escapeAttribute_marked (.literal (h id rfl))
    exact (hid.const_append (by decide)).append_const (by decide)

/-- The classes of a heading hold no placeholder. -/
lemma classAttribute_marked {classes : List String}
    (h : ∀ text ∈ classes, IsLiteralText tildes text) :
    Marked tildes [] (classAttribute classes).toList := by
  have hjoined : Marked tildes [] (" ".intercalate (classes.map escapeAttribute)).toList := by
    refine .intercalate (by decide) fun text htext => ?_
    obtain ⟨name, hname, rfl⟩ := List.mem_map.1 htext
    exact escapeAttribute_marked (.literal (h name hname))
  cases classes with
  | nil => exact .nil
  | cons first rest => exact (hjoined.const_append (by decide)).append_const (by decide)

/-- No other attribute of a heading holds one. -/
lemma namedAttribute_marked {named : String × Option String} (hname : IsLiteralText tildes named.1)
    (hvalue : IsLiteralText tildes (named.2.getD "")) :
    Marked tildes [] (namedAttribute named).toList := by
  have hstart := (escapeAttribute_marked (.literal hname)).const_append (a := " ") (by decide)
  have hvalue := escapeAttribute_marked (.literal hvalue)
  exact ((hstart.append_const (by decide)).append_text hvalue).append_const (by decide)

/-- The tag of a heading holds no placeholder. -/
lemma headingTag_marked {level : Nat} {attributes : HeadingAttributes}
    (h : ∀ text ∈ (Tag.heading level attributes).texts, IsLiteralText tildes text) :
    Marked tildes [] (headingTag level attributes).toList := by
  simp only [Tag.texts, List.mem_append, List.mem_flatMap, Option.mem_toList] at h
  have hid := idAttribute_marked fun text htext => h text (.inl (.inl htext))
  have hclasses := classAttribute_marked fun text htext => h text (.inl (.inr htext))
  have hattrs : Marked tildes [] (String.join (attributes.attrs.map namedAttribute)).toList := by
    refine .join fun text htext => ?_
    obtain ⟨named, hmem, rfl⟩ := List.mem_map.1 htext
    exact namedAttribute_marked (h named.1 (.inr ⟨named, hmem, by simp⟩))
      (h (named.2.getD "") (.inr ⟨named, hmem, by simp⟩))
  have hlevel : Marked tildes [] ("<h" ++ toString level).toList :=
    (toString_marked level).const_append (by decide)
  exact (((hlevel.append_text hid).append_text hclasses).append_text hattrs).append_const
    (by decide)

lemma cellName_marked : Marked tildes [] w.cellName.toList := by
  unfold cellName
  split
  · exact .constant (by decide)
  · exact .constant (by decide)

lemma tilde_not_mem_cellStyle (alignment : Option Alignment) :
    '~' ∉ (cellStyle alignment).toList := by
  unfold cellStyle
  split <;> decide

/-- A title keeps its placeholders. -/
lemma titleAttribute_marked {title : String} (h : Marked tildes indices title.toList) :
    Marked tildes indices (titleAttribute title).toList := by
  unfold titleAttribute
  by_cases hempty : title.isEmpty = true
  · rw [if_pos hempty]
    rwa [String.isEmpty_iff.1 hempty] at h
  · rw [if_neg hempty]
    exact (escapeAttribute_marked h).const_append (by decide)

/-- Opening a construct other than an image does not change whether the writer is in an image. -/
lemma start_image {tag : Tag} (himage : tag.isImage = false) :
    (w.start tag).image = w.image := by
  cases tag with
  | image target => simp [Tag.isImage] at himage
  | list start =>
    cases start with
    | none => exact putLine_image
    | some n =>
      by_cases hone : n = 1
      · rw [hone]
        exact putLine_image
      · simp [start]
  | _ => simp [start]

/-- Opening a construct other than an image writes the placeholders of its attributes. -/
lemma start_adds {tag : Tag} (h : tag.Carries tildes indices) (himage : tag.isImage = false) :
    Adds tildes w (w.start tag) indices := by
  cases h with
  | link target hdest htitle =>
    -- an address is written behind its scheme
    have hscheme : '~' ∉ (if target.kind = .email then "mailto:" else "").toList := by
      split <;> decide
    have hhref := ((escapeTarget_marked hdest).const_append hscheme).const_append
      (a := "<a href=\"") (by decide)
    rw [← String.append_assoc] at hhref
    exact put_adds ((hhref.append_text (titleAttribute_marked htitle)).append_const (by decide))
  | image target hdest htitle => simp [Tag.isImage] at himage
  | other _ htarget htexts =>
    cases tag with
    | link target => simp [Tag.target?] at htarget
    | image target => simp [Tag.target?] at htarget
    | htmlBlock => exact .of_out_eq rfl
    | heading level attributes => exact putLine_adds (headingTag_marked htexts)
    | tableCell =>
      exact put_adds ((cellName_marked.const_append (by decide)).append_const
        (tilde_not_mem_cellStyle _))
    | list start =>
      cases start with
      | none => exact putLine_const (by decide)
      | some n =>
        by_cases hone : n = 1
        · rw [hone]
          exact putLine_const (by decide)
        · have hstart : w.start (.list (some n))
              = w.putLine ("<ol start=\"" ++ toString n ++ "\">\n") := by
            simp only [start]
          rw [hstart]
          exact putLine_adds (((toString_marked n).const_append (by decide)).append_const
            (by decide))
    | footnoteDefinition label =>
      have hlabel := escapeAttribute_marked (.literal (htexts label (by simp [Tag.texts])))
      have hopened : Adds tildes w (w.putLine ("<div class=\"footnote-definition\" id=\""
          ++ escapeAttribute label ++ "\"><sup class=\"footnote-definition-label\">")) [] :=
        putLine_adds ((hlabel.const_append (by decide)).append_const (by decide))
      exact (hopened.trans footnote_adds).trans (put_adds ((toString_marked _).append_const
        (by decide)))
    | table alignments => exact put_const (by decide)
    | tableHead => exact put_const (by decide)
    | tableRow => exact put_const (by decide)
    | emphasis => exact put_const (by decide)
    | strong => exact put_const (by decide)
    | strikethrough => exact put_const (by decide)
    | paragraph => exact putLine_const (by decide)
    | blockQuote => exact putLine_const (by decide)
    | item => exact putLine_const (by decide)

/-- Closing a construct other than an image writes no placeholders. -/
lemma stop_adds {tag : Tag} (himage : tag.isImage = false) :
    Adds tildes w (w.stop tag) [] ∧ (w.stop tag).image = w.image := by
  cases tag with
  | image target => simp [Tag.isImage] at himage
  | htmlBlock => exact ⟨.of_out_eq rfl, rfl⟩
  | heading level attributes =>
    exact ⟨put_adds (((toString_marked level).const_append (by decide)).append_const (by decide)),
      put_image⟩
  | tableCell =>
    exact ⟨put_adds ((cellName_marked.const_append (by decide)).append_const (by decide)),
      put_image⟩
  | list start =>
    cases start with
    | none => exact ⟨put_const (by decide), put_image⟩
    | some n => exact ⟨put_const (by decide), put_image⟩
  | _ => exact ⟨put_const (by decide), put_image⟩

/-- Opening a code block writes no placeholders. -/
lemma startCode_adds {kind : CodeKind} (h : ∀ text ∈ kind.texts, IsLiteralText tildes text) :
    Adds tildes w (w.startCode kind) [] ∧ (w.startCode kind).image = w.image := by
  refine ⟨putLine_adds ?_, putLine_image⟩
  cases kind with
  | indented => exact .constant (by decide)
  | fenced info =>
    have hlanguage : Marked tildes []
        (String.ofList (info.toList.takeWhile (· ≠ ' '))).toList := by
      rw [String.toList_ofList]
      exact .literal fun c hc => h info (by simp [CodeKind.texts]) c (List.takeWhile_subset _ hc)
    dsimp only
    split
    · exact .constant (by decide)
    · exact ((escapeAttribute_marked hlanguage).const_append (by decide)).append_const (by decide)

/-- A construct without children has no placeholders. -/
lemma leaf_adds {leaf : Leaf} (h : ∀ text ∈ leaf.texts, IsLiteralText tildes text) :
    Adds tildes w (w.leaf leaf) [] ∧ (w.leaf leaf).image = w.image := by
  cases leaf with
  | code text =>
    have htext := escapeBody_marked (.literal (h text (by simp [Leaf.texts])))
    exact ⟨put_adds ((htext.const_append (by decide)).append_const (by decide)), put_image⟩
  | footnoteReference label =>
    have hlabel := escapeAttribute_marked (.literal (h label (by simp [Leaf.texts])))
    exact ⟨footnote_adds.trans (put_adds ((((hlabel.const_append (by decide)).append_const
      (by decide)).append_text (toString_marked _)).append_const (by decide))),
      put_image.trans footnote_image⟩
  | taskListMarker checked =>
    cases checked with
    | false => exact ⟨put_const (by decide), put_image⟩
    | true => exact ⟨put_const (by decide), put_image⟩
  | softBreak => exact ⟨put_const (by decide), put_image⟩
  | hardBreak => exact ⟨put_const (by decide), put_image⟩
  | rule => exact ⟨putLine_const (by decide), putLine_image⟩

/-- Inside of an image, a construct without children has no placeholders either. -/
lemma imageStep_leaf_adds {depth : Nat} {title : String} {leaf : Leaf}
    (h : ∀ text ∈ leaf.texts, IsLiteralText tildes text) :
    Adds tildes w (w.imageStep depth title (.leaf leaf)) [] ∧
      (w.imageStep depth title (.leaf leaf)).image = w.image := by
  cases leaf with
  | code text =>
    have htext := escapeAttribute_marked (.literal (h text (by simp [Leaf.texts])))
    exact ⟨putText_adds htext, rfl⟩
  | footnoteReference label =>
    exact ⟨footnote_adds.trans (putInside_adds (((toString_marked _).const_append
      (by decide)).append_const (by decide))), putInside_image.trans footnote_image⟩
  | taskListMarker checked =>
    cases checked with
    | false => exact ⟨put_const (by decide), put_image⟩
    | true => exact ⟨put_const (by decide), put_image⟩
  | _ => exact ⟨put_const (by decide), put_image⟩

/-! ## Reading events -/

/-- Reading events adds text with given placeholders, and the writer is in the image afterwards that
it was in before, with as many constructs open. -/
def Reads (tildes : Bool) (w : Writer) (events : List Event) (indices : List Nat) : Prop :=
  Adds tildes w (events.foldl step w) indices ∧ (events.foldl step w).image = w.image

lemma Reads.nil : Reads tildes w [] [] := ⟨.of_out_eq rfl, rfl⟩

/-- Events that are read one after the other add their placeholders one after the other. -/
lemma Reads.append {first second : List Event} (hfirst : Reads tildes w first indices)
    (hsecond : Reads tildes (first.foldl step w) second others) :
    Reads tildes w (first ++ second) (indices ++ others) := by
  obtain ⟨hadds, himage⟩ := hfirst
  obtain ⟨hadds', himage'⟩ := hsecond
  rw [Reads, List.foldl_append]
  exact ⟨hadds.trans hadds', himage'.trans himage⟩

/-- Outside of images each event is written as it is. -/
lemma step_outside (h : w.image = none) (event : Event) :
    w.step event = match event with
      | .start tag => w.start tag
      | .stop tag => w.stop tag
      | .startCode kind => w.startCode kind
      | .stopCode => w.put "</code></pre>\n"
      | .text text => w.putText (escapeBody text) text
      | .html text => w.put text
      | .inlineHtml text => w.put text
      | .leaf l => w.leaf l := by
  obtain ⟨out, lineStart, inHead, alignments, column, footnotes, image⟩ := w
  cases h
  rfl

/-- Inside of an image each event goes to the image. -/
lemma step_inside {depth : Nat} {title : String} (h : w.image = some (depth, title))
    (event : Event) : w.step event = w.imageStep depth title event := by
  obtain ⟨out, lineStart, inHead, alignments, column, footnotes, image⟩ := w
  cases h
  rfl

/-- Behind the start of a construct the writer is inside of an image if it was, or if the construct
is one. -/
lemma isSome_image_step_start (w : Writer) (tag : Tag) :
    (w.step (.start tag)).image.isSome = (w.image.isSome || tag.isImage) := by
  cases himage : w.image with
  | some inside =>
    rw [step_inside himage]
    rfl
  | none =>
    rw [step_outside himage]
    cases hisImage : tag.isImage with
    | false =>
      dsimp only
      rw [start_image hisImage, himage]
      rfl
    | true =>
      cases tag with
      | image target => rfl
      | _ => simp [Tag.isImage] at hisImage

/-- Text keeps its placeholders everywhere. -/
lemma text_reads {text : String} (h : Marked tildes indices text.toList) :
    Reads tildes w [.text text] indices := by
  rw [Reads, List.foldl_cons, List.foldl_nil]
  cases himage : w.image with
  | none =>
    rw [step_outside himage]
    exact ⟨putText_adds (escapeBody_marked h), himage⟩
  | some inside =>
    rw [step_inside himage]
    exact ⟨putText_adds (escapeAttribute_marked h), himage⟩

/-- Inline HTML keeps its placeholders everywhere. -/
lemma inlineHtml_reads {text : String} (h : Marked tildes indices text.toList) :
    Reads tildes w [.inlineHtml text] indices := by
  rw [Reads, List.foldl_cons, List.foldl_nil]
  cases himage : w.image with
  | none =>
    rw [step_outside himage]
    exact ⟨put_adds h, put_image.trans himage⟩
  | some inside =>
    rw [step_inside himage]
    exact ⟨putText_adds (escapeAttribute_marked h), himage⟩

/-- A block of HTML is dropped inside of an image. -/
lemma html_reads {text : String} (h : IsLiteralText tildes text) :
    Reads tildes w [.html text] [] := by
  rw [Reads, List.foldl_cons, List.foldl_nil]
  cases himage : w.image with
  | none =>
    rw [step_outside himage]
    exact ⟨put_adds (.literal h), put_image.trans himage⟩
  | some inside =>
    rw [step_inside himage]
    exact ⟨.of_out_eq rfl, himage⟩

/-- A leaf adds no placeholder. -/
lemma leaf_reads {leaf : Leaf} (h : ∀ text ∈ leaf.texts, IsLiteralText tildes text) :
    Reads tildes w [.leaf leaf] [] := by
  rw [Reads, List.foldl_cons, List.foldl_nil]
  cases himage : w.image with
  | none =>
    rw [step_outside himage, ← himage]
    exact leaf_adds h
  | some inside =>
    rw [step_inside himage, ← himage]
    exact imageStep_leaf_adds h

/-- A code block keeps the placeholders of its text everywhere. -/
lemma code_reads {kind : CodeKind} {content : String}
    (hkind : ∀ text ∈ kind.texts, IsLiteralText tildes text)
    (hcontent : Marked tildes indices content.toList) :
    Reads tildes w [.startCode kind, .text content, .stopCode] indices := by
  rw [Reads, List.foldl_cons, List.foldl_cons, List.foldl_cons, List.foldl_nil]
  cases himage : w.image with
  | none =>
    obtain ⟨hstart, hopened⟩ := startCode_adds (w := w) hkind
    rw [himage] at hopened
    have htext : ((w.startCode kind).putText (escapeBody content) content).image = none := hopened
    rw [step_outside himage, step_outside hopened, step_outside htext]
    have hinside : Adds tildes (w.startCode kind)
        ((w.startCode kind).putText (escapeBody content) content) indices :=
      putText_adds (escapeBody_marked hcontent)
    have hadds := (hstart.trans hinside).trans (put_const (s := "</code></pre>\n") (by decide))
    rw [List.nil_append, List.append_nil] at hadds
    exact ⟨hadds, put_image.trans htext⟩
  | some inside =>
    -- the block opens a construct in the image and closes it again
    rw [step_inside himage]
    exact ⟨⟨escapeAttribute content, rfl, escapeAttribute_marked hcontent⟩, rfl⟩

/-- A construct outside of images writes the placeholders of its attributes and of its inside. -/
lemma element_reads_outside {tag : Tag} {events : List Event} (htag : tag.Carries tildes indices)
    (himage : tag.isImage = false) (hw : w.image = none)
    (hevents : Reads tildes (w.start tag) events others) :
    Reads tildes w (.start tag :: events ++ [.stop tag]) (indices ++ others) := by
  have hstart := start_adds (w := w) htag himage
  have hopened := start_image (w := w) himage
  obtain ⟨hinside, hclosed⟩ := hevents
  rw [hopened, hw] at hclosed
  obtain ⟨hstop, hleft⟩ := stop_adds (w := events.foldl step (w.start tag)) himage
  have hfold : (Event.start tag :: events ++ [Event.stop tag]).foldl step w
      = (events.foldl step (w.start tag)).stop tag := by
    rw [List.foldl_append, List.foldl_cons, List.foldl_cons, List.foldl_nil, step_outside hw,
      step_outside hclosed]
  have hadds := (hstart.trans hinside).trans hstop
  rw [List.append_nil] at hadds
  rw [Reads, hfold]
  exact ⟨hadds, hleft.trans (hclosed.trans hw.symm)⟩

/-- An image writes its destination, the text of its inside and its title. -/
lemma image_reads {target : Target} {events : List Event} {dest title : List Nat}
    (hdest : Marked tildes dest target.dest.toList)
    (htitle : Marked tildes title target.title.toList) (hw : w.image = none)
    (hevents : Reads tildes (w.start (.image target)) events others) :
    Reads tildes w (.start (.image target) :: events ++ [.stop (.image target)])
      (dest ++ others ++ title) := by
  have hstart : Adds tildes w (w.start (.image target)) dest :=
    put_adds ((escapeTarget_marked hdest).const_append (by decide) |>.append_const (by decide))
  have hopened : (w.start (.image target)).image = some (0, target.title) := rfl
  obtain ⟨hinside, hclosed⟩ := hevents
  rw [hopened] at hclosed
  have hfold : (Event.start (.image target) :: events ++ [Event.stop (.image target)]).foldl step w
      = { events.foldl step (w.start (.image target)) with image := none }.put
        (titleAttribute target.title ++ "\" />") := by
    rw [List.foldl_append, List.foldl_cons, List.foldl_cons, List.foldl_nil, step_outside hw,
      step_inside hclosed]
    rfl
  have hstop : Adds tildes (events.foldl step (w.start (.image target)))
      ({ events.foldl step (w.start (.image target)) with image := none }.put
        (titleAttribute target.title ++ "\" />")) title :=
    put_adds ((titleAttribute_marked htitle).append_const (by decide))
  rw [Reads, hfold]
  exact ⟨(hstart.trans hinside).trans hstop, put_image.trans hw.symm⟩

/-- Inside of an image a construct writes only what its inside does. -/
lemma element_reads_inside {tag : Tag} {events : List Event} {depth : Nat} {title : String}
    (himage : w.image = some (depth, title))
    (hevents : Reads tildes (w.step (.start tag)) events others) :
    Reads tildes w (.start tag :: events ++ [.stop tag]) others := by
  have hopened : (w.step (.start tag)).image = some (depth + 1, title) := by
    rw [step_inside himage]
    rfl
  have hout : (w.step (.start tag)).out = w.out := by
    rw [step_inside himage]
    rfl
  obtain ⟨hinside, hclosed⟩ := hevents
  rw [hopened] at hclosed
  have hfold : (Event.start tag :: events ++ [Event.stop tag]).foldl step w
      = { events.foldl step (w.step (.start tag)) with image := some (depth, title) } := by
    rw [List.foldl_append, List.foldl_cons, List.foldl_cons, List.foldl_nil, step_inside hclosed]
    rfl
  rw [Reads, hfold]
  exact ⟨(Adds.of_out_eq hout).trans hinside, himage.symm⟩

end Writer
end Write

/-! ## Rendering -/

/-- Without a highlighter every code block is written as it is. -/
lemma codeEvents_noHighlighter (kind : CodeKind) (content : String) (templated : Bool) :
    codeEvents noHighlighter kind content templated
      = [.startCode kind, .text content, .stopCode] := by
  cases kind with
  | indented => rfl
  | fenced info =>
    cases templated with
    | false => rfl
    | true => rfl

/-- Reading the events of tokens writes given placeholders, and those that an environment gives away
while the events are made. -/
def Renders (tildes : Bool) (w : Write.Writer) (events : List Event) (before after : Nat)
    (indices : List Nat) : Prop :=
  ∃ fresh written, Numbered before after fresh ∧ written.Perm (indices ++ fresh) ∧
    w.Reads tildes events written

namespace Renders

variable {w : Write.Writer} {a b c : Nat}

lemma nil (a : Nat) : Renders tildes w [] a a [] :=
  ⟨[], [], .refl a, .refl _, .nil⟩

/-- Events are rendered one after the other. -/
lemma append {first second : List Event} (hfirst : Renders tildes w first a b indices)
    (hsecond : Renders tildes (first.foldl Write.Writer.step w) second b c others) :
    Renders tildes w (first ++ second) a c (indices ++ others) := by
  obtain ⟨fresh, written, hnumbered, hperm, hreads⟩ := hfirst
  obtain ⟨fresh', written', hnumbered', hperm', hreads'⟩ := hsecond
  refine ⟨fresh ++ fresh', written ++ written', hnumbered.append hnumbered', ?_,
    hreads.append hreads'⟩
  refine (hperm.append hperm').trans ?_
  rw [List.perm_iff_count]
  intro i
  simp only [List.count_append]
  omega

/-- A construct is rendered with the placeholders of its attributes, unless it is inside of an
image. -/
lemma element {tag : Tag} {events : List Event} (htag : tag.Carries tildes indices)
    (hw : w.image.isSome = inImage)
    (hchildren : Renders tildes (w.step (.start tag)) events a b others) :
    Renders tildes w (.start tag :: events ++ [.stop tag]) a b
      ((if inImage then [] else indices) ++ others) := by
  obtain ⟨fresh, written, hnumbered, hperm, hreads⟩ := hchildren
  cases himage : w.image with
  | some inside =>
    -- the markup is dropped, and with it the placeholders of the attributes
    obtain rfl : inImage = true := by rw [← hw, himage]; rfl
    exact ⟨fresh, written, hnumbered, hperm, Write.Writer.element_reads_inside himage hreads⟩
  | none =>
    obtain rfl : inImage = false := by rw [← hw, himage]; rfl
    rw [Write.Writer.step_outside himage] at hreads
    have hrest : (indices ++ written).Perm (indices ++ others ++ fresh) := by
      rw [List.append_assoc]
      exact hperm.append_left indices
    cases htag with
    | link target hdest htitle =>
      exact ⟨fresh, _, hnumbered, hrest,
        Write.Writer.element_reads_outside (.link target hdest htitle) rfl himage hreads⟩
    | @image target dest title hdest htitle =>
      refine ⟨fresh, dest ++ written ++ title, hnumbered, List.Perm.trans ?_ hrest,
        Write.Writer.image_reads hdest htitle himage hreads⟩
      -- an image writes its title behind its inside
      rw [List.perm_iff_count]
      intro i
      simp only [List.count_append]
      omega
    | other _ htarget htexts =>
      have hnot : tag.isImage = false := by
        cases tag <;> first | rfl | simp [Tag.target?] at htarget
      exact ⟨fresh, _, hnumbered, hrest,
        Write.Writer.element_reads_outside (.other tag htarget htexts) hnot himage hreads⟩

end Renders

/-- A token without children is rendered with its placeholders; an expression gets one. -/
lemma Token.Carries.flatten_renders {token : Token} (h : token.Carries tildes indices) (raw : Bool)
    (env : Environment) (w : Write.Writer) :
    Renders tildes w (token.flatten raw noHighlighter env).1 env.sources.length
      (token.flatten raw noHighlighter env).2.sources.length indices := by
  cases h with
  | text h => exact ⟨[], [], .refl _, .refl _, Write.Writer.text_reads (.literal h)⟩
  | html h =>
    cases raw with
    | true => exact ⟨[], [], .refl _, .refl _, Write.Writer.html_reads h⟩
    | false => exact ⟨[], [], .refl _, .refl _, Write.Writer.text_reads (.literal h)⟩
  | inlineHtml h =>
    cases raw with
    | true => exact ⟨[], [], .refl _, .refl _, Write.Writer.inlineHtml_reads (.literal h)⟩
    | false => exact ⟨[], [], .refl _, .refl _, Write.Writer.text_reads (.literal h)⟩
  | @codeBlock kind content templated indices hkind hcontent =>
    refine ⟨[], indices, .refl _, by rw [List.append_nil], ?_⟩
    rw [Token.flatten, codeEvents_noHighlighter]
    exact Write.Writer.code_reads hkind hcontent
  | expression source =>
    have hlen : (env.replace source).2.sources.length = env.sources.length + 1 := by
      simp [Environment.replace]
    have hnumbered : Numbered env.sources.length (env.replace source).2.sources.length
        [env.sources.length] := by
      rw [hlen, ← List.Ico.succ_singleton]
      exact .ico (Nat.le_succ _)
    exact ⟨_, _, hnumbered, .refl _, Write.Writer.inlineHtml_reads (.placeholder _)⟩
  | leaf h => exact ⟨[], [], .refl _, .refl _, Write.Writer.leaf_reads h⟩

/-- Rendering tokens writes the placeholders that they keep, and a new one for every expression. -/
lemma CarriesAll.flattenAll_renders {tokens : List Token} {kept lost : List Nat}
    (h : CarriesAll tildes inImage tokens kept lost) (raw : Bool) (env : Environment)
    (w : Write.Writer) (hw : w.image.isSome = inImage) :
    Renders tildes w (flattenAll raw noHighlighter env tokens).1 env.sources.length
      (flattenAll raw noHighlighter env tokens).2.sources.length kept := by
  induction h generalizing env w with
  | nil => exact .nil _
  | @single inImage token rest indices kept lost htoken _ ih =>
    have hfirst := htoken.flatten_renders raw env w
    refine hfirst.append (ih (token.flatten raw noHighlighter env).2 _ ?_)
    -- the rest is read in the same image
    obtain ⟨_, _, _, _, hreads⟩ := hfirst
    rw [hreads.2, hw]
  | @element inImage tag children rest indices kept lost kept' lost' htag _ _ ihchildren ih =>
    have hopened : (w.step (.start tag)).image.isSome = (inImage || tag.isImage) :=
      (Write.Writer.isSome_image_step_start w tag).trans (by rw [hw])
    have helement := Renders.element htag hw (ihchildren env (w.step (.start tag)) hopened)
    rw [← List.append_assoc]
    refine helement.append (ih (flattenAll raw noHighlighter env children).2 _ ?_)
    obtain ⟨_, _, _, _, hreads⟩ := helement
    rw [hreads.2, hw]

end Markdown
end Bindery
