import Bindery.Proofs.Markdown.Destinations
import Bindery.Proofs.Markdown.Writing
import Mathlib.Data.List.Chain

/-!
# From events to a tree and back

Events in which every construct is closed where it was opened fold into a tree of tokens, and
flattening the tree gives the events back, in order. Only pieces of HTML that follow each other come
back in one piece, and so does the text of a code block (`flattenAll_ofEvents`).
-/

namespace Bindery
namespace Markdown

/-! ## Sequences of events -/

/-- Whether an event neither opens nor closes anything. -/
def Event.isContent : Event → Bool
  | .text _ => true
  | .html _ => true
  | .inlineHtml _ => true
  | .leaf _ => true
  | _ => false

/-- Whether an event is a piece of HTML. -/
def Event.isHtml : Event → Bool
  | .html _ => true
  | _ => false

/-- Events in which every construct is closed where it was opened, and in which there is only text
in a code block. -/
inductive WellNested : List Event → Prop
  | nil : WellNested []
  | content {event : Event} (h : event.isContent = true) : WellNested [event]
  | code (kind : CodeKind) (texts : List String) :
      WellNested (.startCode kind :: (texts.map .text ++ [.stopCode]))
  | element (tag : Tag) {inside : List Event} (hinside : WellNested inside) :
      WellNested (.start tag :: (inside ++ [.stop tag]))
  | append {first second : List Event} (hfirst : WellNested first) (hsecond : WellNested second) :
      WellNested (first ++ second)

/-- Put an event in front of others; a piece of HTML goes together with the one behind it. -/
def consHtml : Event → List Event → List Event
  | .html text, .html more :: rest => .html (text ++ more) :: rest
  | event, rest => event :: rest

/-- Events in which pieces of HTML that follow each other are one piece. -/
def joinHtml (events : List Event) : List Event := events.foldr consHtml []

/-- The text that events start with, in one piece, and the events behind it. -/
def leadingText : List Event → String × List Event
  | .text text :: rest => (text ++ (leadingText rest).1, (leadingText rest).2)
  | events => ("", events)

/-- Taking the leading text leaves no more events. -/
lemma length_leadingText_le (events : List Event) :
    (leadingText events).2.length ≤ events.length := by
  fun_induction leadingText events with
  | case1 text rest ih => exact Nat.le_succ_of_le ih
  | case2 events hne => exact Nat.le_refl _

/-- Events in which the text of every code block is one piece, which may be empty. -/
def joinCode : List Event → List Event
  | [] => []
  | .startCode kind :: rest =>
    .startCode kind :: .text (leadingText rest).1 :: joinCode (leadingText rest).2
  | event :: rest => event :: joinCode rest
termination_by events => events.length
decreasing_by
  · exact Nat.lt_succ_of_le (length_leadingText_le rest)
  · exact Nat.lt_succ_self _

variable {event : Event} {events first second init inside : List Event}
  {before : String}

/-! ### Joined HTML -/

/-- Not both of two events are HTML. -/
def Apart (event next : Event) : Prop := event.isHtml = false ∨ next.isHtml = false

lemma not_apart_iff {event next : Event} :
    ¬ Apart event next ↔ ∃ text more, event = .html text ∧ next = .html more := by
  cases event <;> cases next <;> simp [Apart, Event.isHtml]

/-- An event that is not joined comes in front. -/
lemma consHtml_of_apart (h : ∀ next ∈ events.head?, Apart event next) :
    consHtml event events = event :: events := by
  unfold consHtml
  split
  · rcases h _ rfl with h | h <;> cases h
  · rfl

/-- An event is joined with the next one, or put in front of it. -/
lemma consHtml_cases (event : Event) (events : List Event) :
    (∃ text more rest, event = .html text ∧ events = .html more :: rest ∧
        consHtml event events = .html (text ++ more) :: rest) ∨
      ((∀ next ∈ events.head?, Apart event next) ∧ consHtml event events = event :: events) := by
  by_cases h : ∀ next ∈ events.head?, Apart event next
  · exact .inr ⟨h, consHtml_of_apart h⟩
  · push Not at h
    obtain ⟨next, hnext, hboth⟩ := h
    obtain ⟨text, more, rfl, rfl⟩ := not_apart_iff.1 hboth
    obtain ⟨rest, rfl⟩ := List.head?_eq_some_iff.1 hnext
    exact .inl ⟨text, more, rest, rfl, rfl, rfl⟩

/-- Two pieces of HTML in front are joined. -/
lemma consHtml_html (text more : String) (events : List Event) :
    consHtml (.html text) (consHtml (.html more) events)
      = consHtml (.html (text ++ more)) events := by
  obtain ⟨_, more, rest, heq, rfl, hjoin⟩ | ⟨hapart, hjoin⟩ := consHtml_cases (.html more) events
  · cases heq
    rw [hjoin]
    simp [consHtml, String.append_assoc]
  · have hother : ∀ next ∈ events.head?, Apart (.html (text ++ more)) next := hapart
    rw [hjoin, consHtml_of_apart hother]
    rfl

/-- Joining in front does not reach what comes behind. -/
lemma consHtml_append (event : Event) (hne : events ≠ []) (more : List Event) :
    consHtml event (events ++ more) = consHtml event events ++ more := by
  obtain ⟨text, next, rest, rfl, rfl, hjoin⟩ | ⟨hapart, hjoin⟩ := consHtml_cases event events
  · rfl
  · rw [hjoin, consHtml_of_apart, List.cons_append]
    rwa [List.head?_append_of_ne_nil _ hne]

lemma joinHtml_cons (event : Event) (events : List Event) :
    joinHtml (event :: events) = consHtml event (joinHtml events) := rfl

lemma joinHtml_append (first second : List Event) :
    joinHtml (first ++ second) = first.foldr consHtml (joinHtml second) := List.foldr_append

/-- Joining in front keeps all events apart. -/
lemma isChain_consHtml (h : events.IsChain Apart) (event : Event) :
    (consHtml event events).IsChain Apart := by
  obtain ⟨text, more, rest, rfl, rfl, hjoin⟩ | ⟨hapart, hjoin⟩ := consHtml_cases event events
  · obtain ⟨hapart, hrest⟩ := List.isChain_cons.1 h
    rw [hjoin]
    exact List.isChain_cons.2 ⟨hapart, hrest⟩
  · rw [hjoin]
    exact List.isChain_cons.2 ⟨hapart, h⟩

/-- No pieces of HTML follow each other after they are joined. -/
lemma isChain_joinHtml (events : List Event) : (joinHtml events).IsChain Apart := by
  induction events with
  | nil => exact .nil
  | cons event events ih => exact isChain_consHtml ih event

/-- Events that are apart are joined already. -/
lemma joinHtml_eq_self (h : events.IsChain Apart) : joinHtml events = events := by
  induction events with
  | nil => rfl
  | cons event events ih =>
    obtain ⟨hapart, hrest⟩ := List.isChain_cons.1 h
    rw [joinHtml_cons, ih hrest, consHtml_of_apart hapart]

/-- Pieces of HTML are joined across other pieces that are joined already. -/
lemma joinHtml_joinHtml_append (first second : List Event) :
    joinHtml (joinHtml first ++ second) = joinHtml (first ++ second) := by
  induction first with
  | nil => rfl
  | cons event first ih =>
    rw [List.cons_append, joinHtml_cons, joinHtml_cons, ← ih]
    obtain ⟨text, more, rest, rfl, hfirst, hjoin⟩ | ⟨-, hjoin⟩ :=
      consHtml_cases event (joinHtml first)
    · rw [hjoin, hfirst, List.cons_append, List.cons_append, joinHtml_cons, joinHtml_cons,
        consHtml_html]
    · rw [hjoin, List.cons_append, joinHtml_cons]

/-- Nothing is joined across an event that is no HTML. -/
lemma joinHtml_append_of_not_html (h : event.isHtml = false) (first second : List Event) :
    joinHtml (first ++ event :: second) = joinHtml first ++ event :: joinHtml second := by
  induction first with
  | nil => exact consHtml_of_apart fun _ _ => .inl h
  | cons other first ih =>
    rw [List.cons_append, joinHtml_cons, ih, joinHtml_cons]
    -- an event in front of nothing has the event that is no HTML behind it
    by_cases hfirst : joinHtml first = []
    · have hother : consHtml other [] = [other] := consHtml_of_apart (by simp)
      rw [hfirst, List.nil_append, hother, consHtml_of_apart, List.singleton_append]
      rintro next hnext
      cases hnext
      exact .inr h
    · exact consHtml_append other hfirst _

/-- What is joined stays as it is in front of an event that its last one is apart from. -/
lemma joinHtml_concat (h : ∀ last ∈ (joinHtml first).getLast?, Apart last event) :
    joinHtml (first ++ [event]) = joinHtml first ++ [event] := by
  rw [← joinHtml_joinHtml_append]
  refine joinHtml_eq_self (List.isChain_append.2 ⟨isChain_joinHtml first, .singleton event, ?_⟩)
  rintro last hlast next hnext
  cases hnext
  exact h last hlast

/-- A piece of HTML goes together with a last one that is HTML. -/
lemma joinHtml_concat_html (h : joinHtml first = init ++ [.html before]) (text : String) :
    joinHtml (first ++ [.html text]) = init ++ [.html (before ++ text)] := by
  have hchain := isChain_joinHtml first
  rw [h] at hchain
  obtain ⟨hinit, -, hlast⟩ := List.isChain_append.1 hchain
  have hjoined : (init ++ [Event.html (before ++ text)]).IsChain Apart := by
    refine List.isChain_append.2 ⟨hinit, .singleton _, fun last hmem next hnext => ?_⟩
    cases hnext
    exact hlast last hmem (.html before) rfl
  calc joinHtml (first ++ [.html text])
      = joinHtml (init ++ [.html before] ++ [.html text]) := by rw [← h, joinHtml_joinHtml_append]
    _ = joinHtml (init ++ [.html (before ++ text)]) := by
        rw [List.append_assoc, joinHtml_append init, joinHtml_append init]
        rfl
    _ = init ++ [.html (before ++ text)] := joinHtml_eq_self hjoined

/-! ### Joined code -/

lemma joinCode_startCode (kind : CodeKind) (events : List Event) :
    joinCode (.startCode kind :: events)
      = .startCode kind :: .text (leadingText events).1 :: joinCode (leadingText events).2 := by
  rw [joinCode]

/-- An event that begins no code stays. -/
lemma joinCode_cons (h : ∀ kind, event ≠ .startCode kind) (events : List Event) :
    joinCode (event :: events) = event :: joinCode events := by
  rw [joinCode]
  exact h

/-- The text of a code block up to its end. -/
lemma leadingText_code (texts : List String) (events : List Event) :
    leadingText (texts.map .text ++ .stopCode :: events)
      = (String.join texts, .stopCode :: events) := by
  induction texts with
  | nil => rfl
  | cons text texts ih => rw [List.map_cons, List.cons_append, leadingText, ih, String.join_cons]

/-- The texts of a code block are joined. -/
lemma joinCode_code (kind : CodeKind) (texts : List String) (events : List Event) :
    joinCode (.startCode kind :: (texts.map .text ++ .stopCode :: events))
      = .startCode kind :: .text (String.join texts) :: .stopCode :: joinCode events := by
  rw [joinCode_startCode, leadingText_code, joinCode_cons (by simp)]

/-- Code blocks are inside of well-nested events or behind them. -/
lemma WellNested.joinCode_append (h : WellNested first) (second : List Event) :
    joinCode (first ++ second) = joinCode first ++ joinCode second := by
  induction h generalizing second with
  | nil => rw [joinCode, List.nil_append, List.nil_append]
  | @content event h =>
    have hevent : ∀ kind, event ≠ .startCode kind := by
      rintro kind rfl
      cases h
    rw [List.singleton_append, joinCode_cons hevent, joinCode_cons hevent, joinCode]
    rfl
  | code kind texts =>
    rw [List.cons_append, List.append_assoc, List.singleton_append, joinCode_code, joinCode_code,
      joinCode]
    rfl
  | element tag _ ih =>
    rw [List.cons_append, List.append_assoc, joinCode_cons (by simp), joinCode_cons (by simp), ih,
      ih, List.singleton_append, joinCode_cons (by simp), joinCode_cons (by simp), joinCode]
    simp
  | append _ _ ihfirst ihsecond =>
    rw [List.append_assoc, ihfirst, ihfirst, ihsecond, List.append_assoc]

/-- Code is joined inside of a construct. -/
lemma joinCode_element (h : WellNested inside) (tag : Tag) :
    joinCode (.start tag :: (inside ++ [.stop tag]))
      = .start tag :: (joinCode inside ++ [.stop tag]) := by
  rw [joinCode_cons (by simp), h.joinCode_append, joinCode_cons (by simp), joinCode]

/-! ## The events of a tree -/

mutual

/-- The events of a token, as it is flattened if raw HTML passes through and no code is
highlighted. An expression is in the place of inline HTML. -/
def Token.events : Token → List Event
  | .element tag children => .start tag :: (eventsAll children ++ [.stop tag])
  | .text text => [.text text]
  | .html text => [.html text]
  | .inlineHtml text => [.inlineHtml text]
  | .codeBlock kind content _ => [.startCode kind, .text content, .stopCode]
  | .expression source => [.inlineHtml source]
  | .leaf leaf => [.leaf leaf]

/-- The events of tokens in order. -/
def eventsAll : List Token → List Event
  | [] => []
  | token :: rest => token.events ++ eventsAll rest

end

/-- The events of trees come one tree after the other. -/
lemma eventsAll_append (first second : List Token) :
    eventsAll (first ++ second) = eventsAll first ++ eventsAll second := by
  induction first with
  | nil => rfl
  | cons token first ih => rw [List.cons_append, eventsAll, eventsAll, ih, List.append_assoc]

lemma eventsAll_reverse_cons (token : Token) (tokens : List Token) :
    eventsAll (token :: tokens).reverse = eventsAll tokens.reverse ++ token.events := by
  rw [List.reverse_cons, eventsAll_append, eventsAll, eventsAll, List.append_nil]

/-- The last event of a token other than HTML is no HTML. -/
lemma Token.exists_events_eq {token : Token} (h : ∀ text, token ≠ .html text) :
    ∃ init last, token.events = init ++ [last] ∧ last.isHtml = false := by
  cases token with
  | element tag children => exact ⟨.start tag :: eventsAll children, .stop tag, rfl, rfl⟩
  | text text => exact ⟨[], .text text, rfl, rfl⟩
  | html text => exact absurd rfl (h text)
  | inlineHtml text => exact ⟨[], .inlineHtml text, rfl, rfl⟩
  | codeBlock kind content templated =>
    exact ⟨[.startCode kind, .text content], .stopCode, rfl, rfl⟩
  | expression source => exact ⟨[], .inlineHtml source, rfl, rfl⟩
  | leaf leaf => exact ⟨[], .leaf leaf, rfl, rfl⟩

/-- The last event is no HTML if the last token is none. -/
lemma isHtml_of_getLast?_eventsAll {tokens : List Token}
    (h : ∀ text rest, tokens ≠ .html text :: rest) :
    ∀ last ∈ (eventsAll tokens.reverse).getLast?, last.isHtml = false := by
  rintro last hlast
  cases tokens with
  | nil => cases hlast
  | cons token rest =>
    have htoken : ∀ text, token ≠ .html text := by
      rintro text rfl
      exact h text rest rfl
    obtain ⟨init, final, hevents, hfinal⟩ := Token.exists_events_eq htoken
    rw [eventsAll_reverse_cons, hevents, ← List.append_assoc, List.getLast?_concat] at hlast
    cases hlast
    exact hfinal

mutual

/-- A token without expressions is flattened into its events, and nothing is registered. -/
lemma Token.flatten_eq (env : Template.Environment) : (token : Token) → token.isFree = true →
    token.flatten true noHighlighter env = (token.events, env)
  | .element tag children, h => by
    rw [Token.flatten, flattenAll_eq env children h, Token.events]
    rfl
  | .text _, _ => rfl
  | .html _, _ => rfl
  | .inlineHtml _, _ => rfl
  | .codeBlock kind content templated, _ => by
    rw [Token.flatten, codeEvents_noHighlighter, Token.events]
  | .leaf _, _ => rfl

/-- Tokens without expressions are flattened into their events. -/
lemma flattenAll_eq (env : Template.Environment) : (tokens : List Token) →
    isFreeAll tokens = true → flattenAll true noHighlighter env tokens = (eventsAll tokens, env)
  | [], _ => rfl
  | token :: rest, h => by
    rw [isFreeAll, Bool.and_eq_true] at h
    rw [flattenAll, token.flatten_eq env h.1]
    dsimp only
    rw [flattenAll_eq env rest h.2, eventsAll]

end

/-! ## Reading events -/

namespace Token.Builder

variable {b b' b'' : Builder}

/-- A builder with one more construct open. -/
def enter (b : Builder) (tag : Tag) : Builder := { b with opened := ⟨tag, []⟩ :: b.opened }

/-- The innermost construct holds what it is given. -/
lemma inner_withInner (b : Builder) (tokens : List Token) :
    (b.withInner tokens).inner = tokens := by
  unfold withInner inner
  cases hopened : b.opened <;> rfl

lemma withInner_inner (b : Builder) : b.withInner b.inner = b := by
  obtain ⟨tokens, opened, code⟩ := b
  cases opened <;> rfl

/-- What it is given last counts. -/
lemma withInner_withInner (b : Builder) (tokens others : List Token) :
    (b.withInner tokens).withInner others = b.withInner others := by
  obtain ⟨done, opened, code⟩ := b
  cases opened <;> rfl

lemma code_withInner (b : Builder) (tokens : List Token) : (b.withInner tokens).code = b.code := by
  obtain ⟨done, opened, code⟩ := b
  cases opened <;> rfl

lemma close_enter (b : Builder) (tag : Tag) (tokens : List Token) :
    ((b.enter tag).withInner tokens).close = b.add (.element tag tokens.reverse) := rfl

/-- Reading some events changes the tokens of the innermost construct alone: behind tokens that
stand for events, the tokens stand for these events and the ones that are read. -/
structure Reads (b b' : Builder) (events : List Event) : Prop where
  within : b' = b.withInner b'.inner
  events : ∀ {before}, eventsAll b.inner.reverse = joinHtml before →
    eventsAll b'.inner.reverse = joinHtml (before ++ events)

lemma Reads.code (h : b.Reads b' events) : b'.code = b.code := by
  rw [h.within, code_withInner]

lemma Reads.refl (b : Builder) : b.Reads b [] :=
  ⟨b.withInner_inner.symm, fun h => by rw [h, List.append_nil]⟩

/-- Events are read one after the other. -/
lemma Reads.trans (h : b.Reads b' first) (h' : b'.Reads b'' second) :
    b.Reads b'' (first ++ second) where
  within := by
    have hwithin := h'.within
    rw [h.within, withInner_withInner] at hwithin
    exact hwithin
  events hbefore := by rw [h'.events (h.events hbefore), List.append_assoc]

/-- A token that starts with no HTML stands for its events. -/
lemma reads_add {token : Token} (hevent : event.isHtml = false)
    (htoken : token.events = event :: joinHtml events) (b : Builder) :
    b.Reads (b.add token) (event :: events) where
  within := by rw [add_eq, inner_withInner]
  events hbefore := by
    rw [add_eq, inner_withInner, eventsAll_reverse_cons, hbefore, htoken,
      joinHtml_append_of_not_html hevent]

/-- A piece of HTML goes together with the one in front of it. -/
lemma reads_addHtml (b : Builder) (text : String) : b.Reads (b.addHtml text) [.html text] := by
  obtain ⟨before, rest, hinner, hadd⟩ | ⟨hother, hadd⟩ := b.addHtml_cases text
  · refine ⟨by rw [hadd, inner_withInner], fun {events} hevents => ?_⟩
    rw [hinner, eventsAll_reverse_cons] at hevents
    rw [hadd, inner_withInner, eventsAll_reverse_cons]
    exact (joinHtml_concat_html hevents.symm text).symm
  · refine ⟨by rw [hadd, inner_withInner], fun {events} hevents => ?_⟩
    -- the last token is no HTML, nor is the last of its events
    have hlast := isHtml_of_getLast?_eventsAll hother
    rw [hadd, inner_withInner, eventsAll_reverse_cons, hevents]
    rw [hevents] at hlast
    exact (joinHtml_concat fun last hmem => .inl (hlast last hmem)).symm

/-- Outside of a code block the events are read one by one. -/
lemma step_of_code_none (h : b.code = none) (event : Event) : b.step event = b.plainStep event := by
  unfold step
  rw [h]

/-- In a code block the texts are put together. -/
lemma foldl_step_texts (kind : CodeKind) (content : String) (texts : List String) (b : Builder) :
    (texts.map Event.text).foldl step { b with code := some (kind, content) }
      = { b with code := some (kind, content ++ String.join texts) } := by
  induction texts generalizing content with
  | nil => simp
  | cons text texts ih =>
    rw [List.map_cons, List.foldl_cons, String.join_cons, ← String.append_assoc]
    exact ih (content ++ text)

/-- An event that is content is read as a token. -/
lemma reads_content (h : event.isContent = true) (b : Builder) :
    b.Reads (b.plainStep event) [event] := by
  cases event with
  | text text => exact reads_add rfl rfl b
  | html text => exact reads_addHtml b text
  | inlineHtml text => exact reads_add rfl rfl b
  | leaf leaf => exact reads_add rfl rfl b
  | start | stop | startCode | stopCode => cases h

/-- Well-nested events are read into the innermost construct, which is open as before. -/
lemma reads_of_wellNested (h : WellNested events) (hcode : b.code = none) :
    b.Reads (events.foldl step b) (joinCode events) := by
  -- the builder is any one without an open code block, since what is inside of a construct is read
  -- by the builder that has it open
  induction h generalizing b with
  | nil =>
    rw [joinCode]
    exact .refl b
  | @content event h =>
    have hevent : ∀ kind, event ≠ .startCode kind := by
      rintro kind rfl
      cases h
    rw [List.foldl_cons, List.foldl_nil, step_of_code_none hcode, joinCode_cons hevent, joinCode]
    exact reads_content h b
  | code kind texts =>
    have hread : (Event.startCode kind :: (texts.map .text ++ [.stopCode])).foldl step b
        = b.add (.codeBlock kind (String.join texts) false) := by
      rw [List.foldl_cons, step_of_code_none hcode, List.foldl_append]
      unfold plainStep
      rw [foldl_step_texts, String.empty_append]
      obtain ⟨tokens, opened, code⟩ := b
      cases hcode
      rfl
    rw [hread, joinCode_code, joinCode]
    exact reads_add rfl rfl b
  | @element tag inside hinner ih =>
    -- the construct starts empty, so its tokens stand for just what is inside
    have hinside := ih (b := b.enter tag) hcode
    have hempty : eventsAll (b.enter tag).inner.reverse = joinHtml [] := rfl
    have hevents := hinside.events hempty
    have hread : (Event.start tag :: (inside ++ [.stop tag])).foldl step b
        = b.add (.element tag (inside.foldl step (b.enter tag)).inner.reverse) := by
      have henter : b.step (.start tag) = b.enter tag := step_of_code_none hcode _
      rw [List.foldl_cons, henter, List.foldl_append, List.foldl_cons, List.foldl_nil,
        step_of_code_none (hinside.code.trans hcode), ← close_enter, ← hinside.within]
      rfl
    have htoken : (Token.element tag (inside.foldl step (b.enter tag)).inner.reverse).events
        = .start tag :: joinHtml (joinCode inside ++ [.stop tag]) := by
      rw [Token.events, hevents, List.nil_append, joinHtml_append_of_not_html rfl]
      rfl
    rw [hread, joinCode_element hinner tag]
    exact reads_add rfl htoken b
  | @append first second hfirst _ ihfirst ihsecond =>
    have hread := ihfirst hcode
    rw [List.foldl_append, hfirst.joinCode_append]
    exact hread.trans (ihsecond (hread.code.trans hcode))

end Token.Builder

/-- Well-nested events fold into a tree that is flattened into the same events, but for pieces of
HTML that follow each other and the text of a code block, which are one piece. -/
theorem flattenAll_ofEvents (h : WellNested events) (env : Template.Environment) :
    flattenAll true noHighlighter env (Token.ofEvents events)
      = (joinHtml (joinCode events), env) := by
  have hread : Token.Builder.Reads {} (events.foldl Token.Builder.step {}) (joinCode events) :=
    Token.Builder.reads_of_wellNested h rfl
  have hempty : eventsAll (Token.Builder.inner {}).reverse = joinHtml [] := rfl
  have htokens : Token.ofEvents events
      = (events.foldl Token.Builder.step {}).inner.reverse := by
    unfold Token.ofEvents
    rw [hread.within]
    rfl
  rw [flattenAll_eq env _ (isFree_ofEvents events), htokens, hread.events hempty, List.nil_append]

/-- Three lines of HTML in a quote come back as one, and an empty code block holds an empty text. -/
theorem flattenAll_ofEvents_quote :
    WellNested [.start .blockQuote, .html "<b>", .html "x", .html "</b>", .startCode .indented,
        .stopCode, .html "<hr>", .stop .blockQuote] ∧
      flattenAll true noHighlighter {} (Token.ofEvents [.start .blockQuote, .html "<b>", .html "x",
          .html "</b>", .startCode .indented, .stopCode, .html "<hr>", .stop .blockQuote])
        = ([.start .blockQuote, .html "<b>x</b>", .startCode .indented, .text "", .stopCode,
          .html "<hr>", .stop .blockQuote], {}) := by
  have hline (text : String) : WellNested [.html text] := .content rfl
  have hlines : WellNested [.html "<b>", .html "x", .html "</b>"] :=
    (hline "<b>").append ((hline "x").append (hline "</b>"))
  have hcode : WellNested [.startCode .indented, .stopCode] := .code .indented []
  have hquote := WellNested.element .blockQuote (hlines.append (hcode.append (hline "<hr>")))
  refine ⟨hquote, (flattenAll_ofEvents hquote {}).trans ?_⟩
  simp [joinCode, leadingText, joinHtml, consHtml]

end Markdown
end Bindery
