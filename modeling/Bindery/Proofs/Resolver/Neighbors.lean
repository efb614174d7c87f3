import Bindery.Proofs.Resolver.Histories

/-!
# The pages around a page

The neighbors of a page are the entries around the first entry for it. So the entry behind a page and
the entry in front of it agree where both stand for their page first, and following the next links
goes through the pages in link order up to the first entry for a page that came before
(`Toc.neighbors_agree_at_first_entries`). A table of contents that links a page twice has pages that
are their own neighbors, or neighbors that do not know of each other
(`Resolver.page_linked_twice_is_its_own_neighbor`).
-/

namespace Bindery
namespace Toc

/-- The urls of the entries, in order. -/
def urls (toc : Toc) : List String := toc.pages.map TocEntry.url

/-- The url of the entry in front of a page. -/
def previous? (toc : Toc) (url : String) : Option String := (toc.neighbors url).1.map TocEntry.url

/-- The url of the entry behind a page. -/
def next? (toc : Toc) (url : String) : Option String := (toc.neighbors url).2.map TocEntry.url

/-- The page that is reached from the first one by following so many next links. -/
def reached (toc : Toc) : Nat → Option String
  | 0 => toc.urls.head?
  | n + 1 => (toc.reached n).bind toc.next?

/-! ## Neighbors by position -/

/-- The neighbors of a page are the entries around the first entry for it. -/
lemma neighborsAfter_eq (url : String) (before : Option TocEntry) (pages : List TocEntry) :
    neighborsAfter url before pages =
      let i := (pages.map TocEntry.url).idxOf url
      if url ∈ pages.map TocEntry.url then
        (if i = 0 then before else pages[i - 1]?, pages[i + 1]?)
      else (none, none) := by
  induction pages generalizing before with
  | nil => rfl
  | cons e rest ih =>
    rw [neighborsAfter]
    by_cases h : e.url = url
    · rw [if_pos h, List.map_cons, h]
      simp [List.head?_eq_getElem?]
    · have hne : url ≠ e.url := Ne.symm h
      rw [if_neg h, ih]
      by_cases hmem : url ∈ rest.map TocEntry.url
      · simp only [List.map_cons, List.mem_cons, hne, hmem, false_or, if_true,
          List.idxOf_cons_ne _ h]
        cases hi : (rest.map TocEntry.url).idxOf url with
        | zero => simp
        | succ i => simp
      · simp [hne, hmem]

variable {toc : Toc} {u v : String} {i j n : Nat}

/-- The next neighbor stands directly behind the first entry for the url. -/
lemma next?_eq (toc : Toc) (u : String) : toc.next? u = toc.urls[toc.urls.idxOf u + 1]? := by
  rw [next?, neighbors, neighborsAfter_eq, urls]
  dsimp only
  split
  · rw [List.getElem?_map]
  · rename_i hmem
    rw [List.idxOf_eq_length hmem, List.getElem?_eq_none (by omega)]
    rfl

/-- The previous neighbor stands directly in front of the first entry for the url. -/
lemma previous?_eq_some_iff :
    toc.previous? v = some u ↔
      v ∈ toc.urls ∧ ∃ i, toc.urls.idxOf v = i + 1 ∧ toc.urls[i]? = some u := by
  rw [previous?, neighbors, neighborsAfter_eq, ← urls]
  dsimp only
  split
  · rename_i hmem
    rw [and_iff_right hmem]
    cases toc.urls.idxOf v with
    | zero => simp
    | succ i => simp [urls]
  · rename_i hmem
    simp [hmem]

/-- The first entry for a page is at no place behind another one for it. -/
lemma idxOf_le_of_getElem? (h : toc.urls[i]? = some u) : toc.urls.idxOf u ≤ i := by
  obtain ⟨hi, hu⟩ := List.getElem?_eq_some_iff.1 h
  by_contra hlt
  have hne := List.not_of_lt_findIdx (not_le.1 hlt)
  simp [hu] at hne

lemma mem_of_next? (h : toc.next? u = some v) :
    u ∈ toc.urls ∧ toc.urls.idxOf v ≤ toc.urls.idxOf u + 1 := by
  rw [next?_eq] at h
  obtain ⟨hlt, -⟩ := List.getElem?_eq_some_iff.1 h
  exact ⟨List.idxOf_lt_length_iff.1 (by omega), idxOf_le_of_getElem? h⟩

lemma previous?_ne_self (toc : Toc) (u : String) : toc.previous? u ≠ some u := by
  intro h
  obtain ⟨-, i, hfirst, hi⟩ := previous?_eq_some_iff.1 h
  have hle := idxOf_le_of_getElem? hi
  omega

/-- The page behind another one has it in front exactly if their first entries follow each other. -/
lemma previous?_of_next? (h : toc.next? u = some v) :
    toc.previous? v = some u ↔ toc.urls.idxOf v = toc.urls.idxOf u + 1 := by
  obtain ⟨hu, hle⟩ := mem_of_next? h
  rw [next?_eq] at h
  rw [previous?_eq_some_iff]
  constructor
  · rintro ⟨-, i, hfirst, hi⟩
    have hui := idxOf_le_of_getElem? hi
    omega
  · intro hfirst
    exact ⟨List.mem_of_getElem? h, toc.urls.idxOf u, hfirst, List.getElem?_idxOf hu⟩

/-- The page in front of another one has it behind exactly if their first entries follow each
other. -/
lemma next?_of_previous? (h : toc.previous? v = some u) :
    toc.next? u = some v ↔ toc.urls.idxOf v = toc.urls.idxOf u + 1 := by
  obtain ⟨hv, i, hfirst, hi⟩ := previous?_eq_some_iff.1 h
  have hui := idxOf_le_of_getElem? hi
  constructor
  · intro hnext
    obtain ⟨-, hle⟩ := mem_of_next? hnext
    omega
  · intro hnext
    rw [next?_eq, ← hnext]
    exact List.getElem?_idxOf hv

/-- If no page is linked twice, one page has another one behind it exactly if that one has it in
front. -/
lemma next?_iff_previous? (h : toc.urls.Nodup) :
    toc.next? u = some v ↔ toc.previous? v = some u := by
  constructor
  · intro hnext
    rw [previous?_of_next? hnext]
    rw [next?_eq] at hnext
    obtain ⟨hlt, rfl⟩ := List.getElem?_eq_some_iff.1 hnext
    exact h.idxOf_getElem _ hlt
  · intro hprevious
    rw [next?_of_previous? hprevious]
    obtain ⟨-, i, hfirst, hi⟩ := previous?_eq_some_iff.1 hprevious
    obtain ⟨hlt, rfl⟩ := List.getElem?_eq_some_iff.1 hi
    rw [hfirst, h.idxOf_getElem _ hlt]

/-! ## Following the next links -/

/-- Up to the first entry for a page that came before, the pages are reached in link order. -/
lemma reached_of_nodup (h : (toc.urls.take n).Nodup) : toc.reached n = toc.urls[n]? := by
  induction n with
  | zero => exact List.head?_eq_getElem?
  | succ n ih =>
    -- the page before was reached by its own entry, so the next link leads to the entry behind that
    have hbefore : (toc.urls.take n).Nodup := h.sublist (List.take_sublist_take_left (by omega))
    rw [reached, ih hbefore]
    cases hu : toc.urls[n]? with
    | none =>
      rw [List.getElem?_eq_none_iff] at hu
      rw [List.getElem?_eq_none (by omega)]
      rfl
    | some u =>
      -- the entry is the first one for its page, or the page would have come before
      have hle := idxOf_le_of_getElem? hu
      have hmem := List.getElem?_idxOf (List.mem_of_getElem? hu)
      have hfirst : toc.urls.idxOf u = n := by
        by_contra hne
        have hlt : n < (toc.urls.take (n + 1)).length := by
          obtain ⟨hn, -⟩ := List.getElem?_eq_some_iff.1 hu
          rw [List.length_take]
          omega
        apply List.nodup_iff_getElem?_ne_getElem?.1 h (toc.urls.idxOf u) n (by omega) hlt
        rw [List.getElem?_take_of_lt (by omega), List.getElem?_take_of_lt (by omega), hmem, hu]
      rw [Option.bind_some, next?_eq, hfirst]

lemma reached_add (h : toc.reached n = toc.reached j) (k : Nat) :
    toc.reached (n + k) = toc.reached (j + k) := by
  induction k with
  | zero => exact h
  | succ k ih => rw [← Nat.add_assoc, ← Nat.add_assoc, reached, reached, ih]

/-- From the first entry for a page that came before, the pages are gone through again from that
page on. -/
lemma reached_again (hj : j < n) (h : (toc.urls.take n).Nodup)
    (hsame : toc.urls[n]? = toc.urls[j]?) (k : Nat) :
    toc.reached (n + k) = toc.reached (j + k) := by
  apply reached_add
  have hbefore : (toc.urls.take j).Nodup := h.sublist (List.take_sublist_take_left (by omega))
  rw [reached_of_nodup h, reached_of_nodup hbefore, hsame]

/-- If some page is linked twice, there is a first entry for a page that came before. -/
lemma exists_first_repeated (h : ¬ toc.urls.Nodup) :
    ∃ j n, j < n ∧ n < toc.urls.length ∧ (toc.urls.take n).Nodup ∧
      toc.urls[n]? = toc.urls[j]? := by
  classical
  have hexists : ∃ n, ¬ (toc.urls.take n).Nodup := ⟨toc.urls.length, by rwa [List.take_length]⟩
  obtain ⟨n, hn⟩ : ∃ n, Nat.find hexists = n + 1 := by
    apply Nat.exists_eq_succ_of_ne_zero
    intro hzero
    have hfind := Nat.find_spec hexists
    rw [hzero] at hfind
    exact hfind List.nodup_nil
  have hrepeats := Nat.find_spec hexists
  have hbefore : (toc.urls.take n).Nodup := not_not.1 (Nat.find_min hexists (by omega))
  rw [hn, List.take_add_one] at hrepeats
  cases hu : toc.urls[n]? with
  | none =>
    rw [hu, Option.toList_none, List.append_nil] at hrepeats
    exact absurd hbefore hrepeats
  | some u =>
    obtain ⟨hlt, -⟩ := List.getElem?_eq_some_iff.1 hu
    have hmem : u ∈ toc.urls.take n := by
      by_contra hnot
      rw [hu] at hrepeats
      exact hrepeats (hbefore.append (List.nodup_singleton u) (by simpa using hnot))
    obtain ⟨j, hj, heq⟩ := List.mem_iff_getElem.1 hmem
    rw [List.length_take] at hj
    refine ⟨j, n, by omega, hlt, hbefore, ?_⟩
    rw [List.getElem_take] at heq
    rw [hu, ← heq, List.getElem?_eq_getElem]

/-- If some page is linked twice, the next links never end. -/
lemma isSome_reached (hj : j < n) (hn : n < toc.urls.length) (h : (toc.urls.take n).Nodup)
    (hsame : toc.urls[n]? = toc.urls[j]?) (m : Nat) : (toc.reached m).isSome := by
  induction m using Nat.strong_induction_on with
  | _ m ih =>
    by_cases hm : m < n
    · have hbefore : (toc.urls.take m).Nodup := h.sublist (List.take_sublist_take_left (by omega))
      rw [reached_of_nodup hbefore, List.getElem?_eq_getElem (by omega)]
      rfl
    · obtain ⟨k, rfl⟩ := Nat.exists_eq_add_of_le (not_lt.1 hm)
      rw [reached_again hj h hsame]
      exact ih (j + k) (by omega)

/-- The next links go through all pages in link order, and end, exactly if no page is linked
twice. -/
lemma reached_eq_iff : (∀ n, toc.reached n = toc.urls[n]?) ↔ toc.urls.Nodup := by
  constructor
  · intro h
    by_contra hrepeats
    obtain ⟨j, n, hj, hn, hbefore, hsame⟩ := exists_first_repeated hrepeats
    have hsome := isSome_reached hj hn hbefore hsame toc.urls.length
    rw [h, List.getElem?_eq_none (Nat.le_refl _)] at hsome
    cases hsome
  · intro h n
    exact reached_of_nodup (h.sublist (List.take_sublist _ _))

/-- No page has an entry for itself in front of it, and it has one behind it exactly if its first
entry is followed by another one for it. If one page has another one behind it, or in front of it,
this holds the other way around exactly if their first entries follow each other, which they do if
no page is linked twice. The next links lead from the first page in link order up to the first entry
for a page that came before, and from there on once more from that page; so they go through every
page once, in link order, exactly if no page is linked twice. -/
theorem neighbors_agree_at_first_entries (toc : Toc) :
    (∀ u, toc.previous? u ≠ some u) ∧
    (∀ u, toc.next? u = some u ↔ toc.urls[toc.urls.idxOf u + 1]? = some u) ∧
    (∀ u v, toc.next? u = some v →
      (toc.previous? v = some u ↔ toc.urls.idxOf v = toc.urls.idxOf u + 1)) ∧
    (∀ u v, toc.previous? v = some u →
      (toc.next? u = some v ↔ toc.urls.idxOf v = toc.urls.idxOf u + 1)) ∧
    (toc.urls.Nodup → ∀ u v, toc.next? u = some v ↔ toc.previous? v = some u) ∧
    (∀ n, (toc.urls.take n).Nodup → toc.reached n = toc.urls[n]?) ∧
    (∀ j n, j < n → (toc.urls.take n).Nodup → toc.urls[n]? = toc.urls[j]? →
      ∀ k, toc.reached (n + k) = toc.reached (j + k)) ∧
    ((∀ n, toc.reached n = toc.urls[n]?) ↔ toc.urls.Nodup) := by
  refine ⟨toc.previous?_ne_self, ?_, fun _ _ => previous?_of_next?, fun _ _ => next?_of_previous?,
    fun h _ _ => next?_iff_previous? h, fun _ => reached_of_nodup, fun _ _ => reached_again, reached_eq_iff⟩
  intro u
  rw [next?_eq]

/-- Two pages after each other, each linked once. -/
theorem neighbors_agree_at_first_entries_two :
    let toc : Toc := { (default : Toc) with pages := [⟨"/a.html", "A"⟩, ⟨"/b.html", "B"⟩] }
    toc.next? "/a.html" = some "/b.html" ∧ toc.previous? "/b.html" = some "/a.html" ∧
      toc.reached 1 = some "/b.html" ∧ toc.reached 2 = none := by
  intro toc
  have hnext : toc.next? "/a.html" = some "/b.html" := by decide
  obtain ⟨-, -, hagree, -, -, -, -, hvisits⟩ := neighbors_agree_at_first_entries toc
  have hall := hvisits.2 (by decide)
  exact ⟨hnext, (hagree _ _ hnext).2 (by decide), hall 1, hall 2⟩

end Toc

namespace Resolver

/-- Links to one page twice in a row, and then to another one. -/
def repeatingLinks : String :=
  "<a href=\"/a.html\">A</a><a href=\"/a.html\">Again</a><a href=\"/b.html\">B</a>"

/-- A page that is linked twice is its own neighbor, and the page after it has it in front without
being the one behind it. -/
theorem page_linked_twice_is_its_own_neighbor :
    ∃ toc, (sampleGraph.toGraph.job {}).renderToc "t.md"
        (samplePage "t.md" "t" repeatingLinks none none).page = .ok toc ∧
      toc.neighbors "/a.html" = (none, some ⟨"/a.html", "Again"⟩) ∧
      toc.neighbors "/b.html" = (some ⟨"/a.html", "Again"⟩, none) := by
  have hentries : Toc.entriesOf (Html.Document.parse repeatingLinks) =
      [⟨"/a.html", "A"⟩, ⟨"/a.html", "Again"⟩, ⟨"/b.html", "B"⟩] := by decide +kernel
  refine ⟨_, rfl, ?_, ?_⟩
  · show Toc.neighborsAfter _ _ (Toc.entriesOf (Html.Document.parse repeatingLinks)) = _
    rw [hentries]
    rfl
  · show Toc.neighborsAfter _ _ (Toc.entriesOf (Html.Document.parse repeatingLinks)) = _
    rw [hentries]
    rfl

end Resolver
end Bindery
