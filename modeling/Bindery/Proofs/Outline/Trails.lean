import Bindery.Proofs.Outline.Items
import Bindery.Proofs.Sorted

/-!
# The ways to the entries of an outline

Each entry that can be reached in an outline has a way to it: the entries above it, from the top
down, and the entry itself. The breadcrumbs list for each link target the ways to the entries that
lead there, in the order of the entries, each as the crumbs of its entries
(`breadcrumbs_eq_trails`). An entry in the title of another one is part of that title; there is no
way to it (`entry_in_title_has_no_trail`).
-/

namespace Bindery
namespace Outline

/-! ## Ways -/

mutual

/-- The ways to an entry and to all below it, each in front of those below, if the entries above it
are given. -/
def Entry.ways (above : List Entry) : Entry → List (List Entry)
  | .mk titleText url title children =>
    (above ++ [.mk titleText url title children]) ::
      waysOf (above ++ [.mk titleText url title children]) children

/-- The ways to some entries and to all below them. -/
def waysOf (above : List Entry) : List Entry → List (List Entry)
  | [] => []
  | e :: rest => e.ways above ++ waysOf above rest

end

/-- The ways to the entries that can be reached in an outline. -/
def ways (outline : Item) : List (List Entry) := waysOf [] outline.entries

/-- The first of some entries is one of those given, and each other one is a child of the one in
front of it. -/
def Descends (tops : List Entry) : List Entry → Prop
  | [] => True
  | e :: rest => e ∈ tops ∧ Descends e.children rest

/-- The step on a way that an entry is. -/
def Entry.crumb (e : Entry) : Crumb := ⟨e.titleText, e.url⟩

/-- The link target of the entry that a way leads to. -/
def target (way : List Entry) : Option String := way.getLast?.bind Entry.url

/-- The ways to the entries that lead to a link target, as crumbs. -/
def trailsTo (key : String) (found : List (List Entry)) : List (List Crumb) :=
  (found.filter fun way => target way = some key).map (List.map Entry.crumb)

mutual

/-- There is one way for each entry, and it ends there. -/
lemma map_getLast?_ways (above : List Entry) (e : Entry) :
    (e.ways above).map List.getLast? = e.all.map some := by
  obtain ⟨titleText, url, title, children⟩ := e
  rw [Entry.ways, Entry.all, List.map_cons, List.map_cons, map_getLast?_waysOf _ children,
    List.getLast?_concat]

/-- Every entry is the end of one way. -/
lemma map_getLast?_waysOf (above entries : List Entry) :
    (waysOf above entries).map List.getLast? = (allEntries entries).map some := by
  cases entries with
  | nil => rfl
  | cons e rest =>
    rw [waysOf, allEntries, List.map_append, List.map_append, map_getLast?_ways above e,
      map_getLast?_waysOf above rest]

end

/-- A way from some entries is one from more entries. -/
lemma Descends.mono {tops others way : List Entry} (h : Descends tops way) (hsub : tops ⊆ others) :
    Descends others way := by
  cases way with
  | nil => trivial
  | cons e rest => exact ⟨hsub h.1, h.2⟩

mutual

/-- A way goes on from the entries above by a child at a time. -/
lemma exists_descends_of_mem_ways {above : List Entry} {e : Entry} {way : List Entry}
    (h : way ∈ e.ways above) : ∃ below, way = above ++ below ∧ Descends [e] below := by
  obtain ⟨titleText, url, title, children⟩ := e
  rw [Entry.ways] at h
  obtain rfl | h := List.mem_cons.1 h
  · exact ⟨_, rfl, List.mem_singleton_self _, trivial⟩
  · obtain ⟨below, rfl, hbelow⟩ := exists_descends_of_mem_waysOf h
    exact ⟨_ :: below, by rw [List.append_assoc]; rfl, List.mem_singleton_self _, hbelow⟩

/-- A way goes down from what is above to an entry. -/
lemma exists_descends_of_mem_waysOf {above entries way : List Entry}
    (h : way ∈ waysOf above entries) : ∃ below, way = above ++ below ∧ Descends entries below := by
  cases entries with
  | nil => exact absurd h List.not_mem_nil
  | cons e rest =>
    rw [waysOf] at h
    obtain h | h := List.mem_append.1 h
    · obtain ⟨below, hway, hbelow⟩ := exists_descends_of_mem_ways h
      exact ⟨below, hway, hbelow.mono (by simp)⟩
    · obtain ⟨below, hway, hbelow⟩ := exists_descends_of_mem_waysOf h
      exact ⟨below, hway, hbelow.mono (List.subset_cons_self e rest)⟩

end

/-! ## Breadcrumbs are gathered way by way -/

/-- Add a way to the link target of the entry that it leads to. -/
def addWay (found : Breadcrumbs) (way : List Entry) : Breadcrumbs :=
  match target way with
  | some url => addTrail url (way.map Entry.crumb) found
  | none => found

lemma addWay_of_some {found : Breadcrumbs} {way : List Entry} {url : String}
    (h : target way = some url) : addWay found way = addTrail url (way.map Entry.crumb) found := by
  rw [addWay, h]

lemma addWay_of_none {found : Breadcrumbs} {way : List Entry} (h : target way = none) :
    addWay found way = found := by
  rw [addWay, h]

mutual

/-- The path that is carried along is the crumbs of the entries above. -/
lemma addEntry_eq_foldl (above : List Entry) (found : Breadcrumbs) (e : Entry) :
    addEntry (above.map Entry.crumb) found e = (e.ways above).foldl addWay found := by
  obtain ⟨titleText, url, title, children⟩ := e
  have hpath : (above ++ [Entry.mk titleText url title children]).map Entry.crumb
      = above.map Entry.crumb ++ [⟨titleText, url⟩] := List.map_append
  have htarget : target (above ++ [.mk titleText url title children]) = url := by
    rw [target, List.getLast?_concat]
    rfl
  rw [Entry.ways, List.foldl_cons, ← addEntries_eq_foldl _ _ children, hpath]
  cases url with
  | none => rw [addWay_of_none htarget, addEntry]
  | some url => rw [addWay_of_some htarget, addEntry, hpath]

/-- Entries are added way by way. -/
lemma addEntries_eq_foldl (above : List Entry) (found : Breadcrumbs) (entries : List Entry) :
    addEntries (above.map Entry.crumb) found entries
      = (waysOf above entries).foldl addWay found := by
  cases entries with
  | nil => rfl
  | cons e rest =>
    rw [addEntries, waysOf, List.foldl_append, addEntry_eq_foldl above found e,
      addEntries_eq_foldl above _ rest]

end

lemma breadcrumbs_eq_foldl (outline : Item) :
    breadcrumbs outline = (ways outline).foldl addWay [] :=
  addEntries_eq_foldl [] [] outline.entries

section

variable {key url : String} {trail : List Crumb} {found : Breadcrumbs}
  {more : List (List Entry)}

/-- The ways that are found for a link target. -/
def trailsAt (key : String) (found : Breadcrumbs) : List (List Crumb) :=
  (Sorted.lookup key found).getD []

/-- Adding a way puts it behind those of its link target. -/
lemma addTrail_eq_place (h : InOrder found) :
    addTrail url trail found = Sorted.place url (trailsAt url found ++ [trail]) found := by
  induction found with
  | nil => rfl
  | cons entry rest ih =>
    obtain ⟨key, trails⟩ := entry
    obtain ⟨hfirst, hrest⟩ := List.pairwise_cons.1 h
    rw [addTrail, trailsAt, Sorted.place, Sorted.lookup]
    by_cases heq : key = url
    · subst heq
      rw [if_pos rfl, if_pos rfl, if_neg (String.lt_irrefl key), if_pos rfl]
      rfl
    · rw [if_neg heq, if_neg heq, if_neg heq]
      split
      · rename_i hlt
        -- the keys behind are greater still
        have hnone : Sorted.lookup url rest = none := by
          rw [Sorted.lookup_eq_none_iff]
          intro hmem
          obtain ⟨other, hother, rfl⟩ := List.mem_map.1 hmem
          exact String.lt_irrefl _ (String.lt_trans hlt (hfirst other hother))
        rw [hnone]
        rfl
      · rw [ih hrest, trailsAt]

/-- Adding a way keeps the order of the urls. -/
lemma inOrder_addWay (h : InOrder found) (way : List Entry) : InOrder (addWay found way) := by
  rw [addWay]
  split
  · rw [addTrail_eq_place h]
    exact Sorted.inOrder_place h
  · exact h

/-- Adding several ways keeps the order of the urls. -/
lemma inOrder_foldl (h : InOrder found) : InOrder (more.foldl addWay found) := by
  induction more generalizing found with
  | nil => exact h
  | cons way more ih => exact ih (inOrder_addWay h way)

/-- Adding a way adds its trail at its url, and nothing elsewhere. -/
lemma trailsAt_addWay (h : InOrder found) (way : List Entry) :
    trailsAt key (addWay found way) = trailsAt key found ++ trailsTo key [way] := by
  rw [trailsTo]
  cases htarget : target way with
  | none =>
    rw [addWay_of_none htarget]
    simp [htarget]
  | some url =>
    rw [addWay_of_some htarget, addTrail_eq_place h, trailsAt, Sorted.lookup_place]
    by_cases hkey : url = key
    · simp [hkey, htarget, trailsAt]
    · simp [hkey, htarget, trailsAt]

/-- What is found for a link target are the ways that lead there, in order. -/
lemma trailsAt_foldl (h : InOrder found) :
    trailsAt key (more.foldl addWay found) = trailsAt key found ++ trailsTo key more := by
  induction more generalizing found with
  | nil => rw [List.foldl_nil, trailsTo, List.filter_nil, List.map_nil, List.append_nil]
  | cons way more ih =>
    rw [List.foldl_cons, ih (inOrder_addWay h way), trailsAt_addWay h, List.append_assoc, trailsTo,
      trailsTo, trailsTo, ← List.map_append, ← List.filter_append]
    rfl

/-- No link target is kept without a way to it. -/
lemma ne_nil_of_mem_foldl (h : InOrder found) (hne : ∀ entry ∈ found, entry.2 ≠ []) :
    ∀ entry ∈ more.foldl addWay found, entry.2 ≠ [] := by
  induction more generalizing found with
  | nil => exact hne
  | cons way more ih =>
    refine ih (inOrder_addWay h way) fun entry hentry => ?_
    cases htarget : target way with
    | none =>
      rw [addWay_of_none htarget] at hentry
      exact hne entry hentry
    | some url =>
      rw [addWay_of_some htarget, addTrail_eq_place h] at hentry
      obtain rfl | hentry := Sorted.mem_place hentry
      · simp
      · exact hne entry hentry

/-- Adding a trail adds one to their number. -/
lemma length_flatMap_addTrail :
    ((addTrail url trail found).flatMap Prod.snd).length = (found.flatMap Prod.snd).length + 1 := by
  induction found with
  | nil => rfl
  | cons entry rest ih =>
    obtain ⟨key, trails⟩ := entry
    rw [addTrail]
    split
    · simp only [List.flatMap_cons, List.length_append, List.length_singleton]
      omega
    · split
      · simp only [List.flatMap_cons, List.length_append, List.length_singleton]
        omega
      · simp only [List.flatMap_cons, List.length_append, ih]
        omega

/-- Each way to an entry with a url adds one trail. -/
lemma length_flatMap_foldl :
    ((more.foldl addWay found).flatMap Prod.snd).length
      = (found.flatMap Prod.snd).length + (more.filter fun way => (target way).isSome).length := by
  induction more generalizing found with
  | nil => rfl
  | cons way more ih =>
    rw [List.foldl_cons, ih]
    cases htarget : target way with
    | none => rw [addWay_of_none htarget, List.filter_cons_of_neg (by simp [htarget])]
    | some url =>
      rw [addWay_of_some htarget, length_flatMap_addTrail,
        List.filter_cons_of_pos (by simp [htarget]), List.length_cons]
      omega

end

/-! ## Entries in titles -/

mutual

/-- The entries of a node, those in it and in titles too. -/
def Item.everyEntry : Item → List Entry
  | .text _ => []
  | .list body => body.everyEntry
  | .element _ _ body => body.everyEntry
  | .entry e => e.everyEntry

/-- The entries in the body of an element, those in titles too. -/
def Body.everyEntry : Body → List Entry
  | .html _ => []
  | .items items => everyEntryIn items

/-- The entries of some nodes, those in titles too. -/
def everyEntryIn : List Item → List Entry
  | [] => []
  | item :: rest => item.everyEntry ++ everyEntryIn rest

/-- An entry with those in its title and those below it. -/
def Entry.everyEntry : Entry → List Entry
  | .mk titleText url title children =>
    .mk titleText url title children :: (everyEntryIn title ++ everyEntryOf children)

/-- Some entries with those in their titles and those below them. -/
def everyEntryOf : List Entry → List Entry
  | [] => []
  | e :: rest => e.everyEntry ++ everyEntryOf rest

end

/-- The entries in the titles of some entries. -/
def inTitles (entries : List Entry) : List Entry := entries.flatMap fun e => everyEntryIn e.title

/-- Some entries, all below them, and those in the titles of any of these. -/
def withTitles (tops : List Entry) : List Entry :=
  allEntries tops ++ inTitles (allEntries tops)

/-- Entries and those in their titles are gathered in any order. -/
lemma withTitles_append (tops others : List Entry) :
    (withTitles tops ++ withTitles others).Perm (withTitles (tops ++ others)) := by
  have happend : withTitles (tops ++ others) = allEntries tops ++ (allEntries others
      ++ (inTitles (allEntries tops) ++ inTitles (allEntries others))) := by
    rw [withTitles, allEntries_append, inTitles, List.flatMap_append, List.append_assoc]
    rfl
  rw [happend, withTitles, withTitles, List.append_assoc]
  exact (List.perm_append_comm_assoc _ _ _).append_left _

mutual

/-- Every entry of an item is reached or stands in a title. -/
lemma Item.everyEntry_perm (item : Item) : item.everyEntry.Perm (withTitles item.entries) := by
  cases item with
  | text s => exact .nil
  | list body => exact body.everyEntry_perm
  | element name attributes body => exact body.everyEntry_perm
  | entry e => exact e.everyEntry_perm

lemma Body.everyEntry_perm (body : Body) : body.everyEntry.Perm (withTitles body.entries) := by
  cases body with
  | html s => exact .nil
  | items items => exact everyEntryIn_perm items

/-- Every entry of items is reached or stands in a title. -/
lemma everyEntryIn_perm (items : List Item) :
    (everyEntryIn items).Perm (withTitles (entriesOf items)) := by
  cases items with
  | nil => exact .nil
  | cons item rest =>
    exact (item.everyEntry_perm.append (everyEntryIn_perm rest)).trans (withTitles_append _ _)

/-- An entry is in front of those below it, and its title behind them. -/
lemma Entry.everyEntry_perm (e : Entry) : e.everyEntry.Perm (withTitles [e]) := by
  obtain ⟨titleText, url, title, children⟩ := e
  have hchildren := (everyEntryOf_perm children).append_left (everyEntryIn title)
  have hshape : withTitles [.mk titleText url title children]
      = .mk titleText url title children :: (allEntries children
        ++ (everyEntryIn title ++ inTitles (allEntries children))) := by
    rw [withTitles, allEntries, allEntries, List.append_nil, Entry.all]
    rfl
  rw [hshape, Entry.everyEntry]
  exact (hchildren.trans (List.perm_append_comm_assoc _ _ _)).cons _

/-- Every entry below some entries is reached or stands in a title. -/
lemma everyEntryOf_perm (entries : List Entry) :
    (everyEntryOf entries).Perm (withTitles entries) := by
  cases entries with
  | nil => exact .nil
  | cons e rest =>
    exact (e.everyEntry_perm.append (everyEntryOf_perm rest)).trans (withTitles_append [e] rest)

end

/-! ## Breadcrumbs are the ways to the entries -/

lemma inOrder_breadcrumbs (outline : Item) : InOrder (breadcrumbs outline) := by
  rw [breadcrumbs_eq_foldl]
  exact inOrder_foldl .nil

/-- The trails at a url are those of the ways to it, if there are any. -/
lemma mem_breadcrumbs_iff {outline : Item} {key : String} {trails : List (List Crumb)} :
    (key, trails) ∈ breadcrumbs outline ↔
      trails ≠ [] ∧ trails = trailsTo key (ways outline) := by
  have hat : trailsAt key (breadcrumbs outline) = trailsTo key (ways outline) := by
    rw [breadcrumbs_eq_foldl, trailsAt_foldl .nil]
    rfl
  rw [← hat]
  constructor
  · intro h
    refine ⟨?_, by rw [trailsAt, Sorted.lookup_of_mem (inOrder_breadcrumbs outline) h]; rfl⟩
    rw [breadcrumbs_eq_foldl] at h
    exact ne_nil_of_mem_foldl .nil (fun _ hentry => absurd hentry List.not_mem_nil) _ h
  · rintro ⟨hne, rfl⟩
    rw [trailsAt] at hne ⊢
    cases hlookup : Sorted.lookup key (breadcrumbs outline) with
    | none =>
      rw [hlookup] at hne
      exact absurd rfl hne
    | some trails => exact Sorted.mem_of_lookup hlookup

/-- There are as many ways to a url as entries with one. -/
lemma length_filter_target (outline : Item) :
    ((ways outline).filter fun way => (target way).isSome).length
      = ((reachable outline).filter fun e => e.url.isSome).length := by
  have htargets : (ways outline).map target = (reachable outline).map Entry.url := by
    have hends := congrArg (List.map (Option.bind · Entry.url))
      (map_getLast?_waysOf [] outline.entries)
    rw [List.map_map, List.map_map] at hends
    exact hends
  have hlength := congrArg (fun targets => (targets.filter Option.isSome).length) htargets
  rw [List.filter_map, List.filter_map, List.length_map, List.length_map] at hlength
  exact hlength

lemma length_everyEntry_linked (outline : Item) :
    (outline.everyEntry.filter fun e => e.url.isSome).length
      = ((reachable outline).filter fun e => e.url.isSome).length
        + ((inTitles (reachable outline)).filter fun e => e.url.isSome).length := by
  have hperm := outline.everyEntry_perm.filter fun e => e.url.isSome
  rw [hperm.length_eq, withTitles, List.filter_append, List.length_append]
  rfl

/-- The breadcrumbs of an outline list, for each link target that an entry leads to and for no
other, the ways to the entries that lead there, in the order of the entries. There is one way for
each entry that can be reached; it starts at the top, goes on by a child at a time and ends at the
entry. So there are as many ways in all as there are such entries with a link target. The other
entries of an outline stand in titles, and no entry with a link target is left out just if none of
these has one. -/
theorem breadcrumbs_eq_trails (outline : Item) :
    (∀ key trails, (key, trails) ∈ breadcrumbs outline ↔
        trails ≠ [] ∧ trails = trailsTo key (ways outline)) ∧
      ((breadcrumbs outline).map Prod.fst).Nodup ∧
      (∀ key, key ∈ (breadcrumbs outline).map Prod.fst ↔
        ∃ e ∈ reachable outline, e.LeadsTo key) ∧
      (ways outline).map List.getLast? = (reachable outline).map some ∧
      (∀ way ∈ ways outline, Descends outline.entries way) ∧
      ((breadcrumbs outline).flatMap Prod.snd).length
        = ((reachable outline).filter fun e => e.url.isSome).length ∧
      outline.everyEntry.Perm (reachable outline ++ inTitles (reachable outline)) ∧
      (((breadcrumbs outline).flatMap Prod.snd).length
          = (outline.everyEntry.filter fun e => e.url.isSome).length ↔
        ∀ e ∈ inTitles (reachable outline), e.url = none) := by
  have htotal : ((breadcrumbs outline).flatMap Prod.snd).length
      = ((reachable outline).filter fun e => e.url.isSome).length := by
    rw [breadcrumbs_eq_foldl, length_flatMap_foldl, length_filter_target]
    exact Nat.zero_add _
  refine ⟨fun _ _ => mem_breadcrumbs_iff, ?_, fun _ => mem_keys_breadcrumbs,
    map_getLast?_waysOf [] outline.entries, fun way hway => ?_, htotal, outline.everyEntry_perm, ?_⟩
  · refine List.pairwise_map.2 ((inOrder_breadcrumbs outline).imp fun {a b} hlt heq => ?_)
    rw [heq] at hlt
    exact String.lt_irrefl _ hlt
  · obtain ⟨below, rfl, hbelow⟩ := exists_descends_of_mem_waysOf hway
    exact hbelow
  · rw [htotal, length_everyEntry_linked, Nat.left_eq_add, List.length_eq_zero_iff,
      List.filter_eq_nil_iff]
    simp

/-- A list item with a link, and with a list item of its own in a section, which is part of its
title. -/
def sectioned : Html.Node :=
  .element { name := "ul" } [.element { name := "li" }
    [.element { name := "a", attributes := [{ name := "href", value := "a" }] } [.text "A"],
      .element { name := "section" } [linkItem "b" "B"]]]

/-- The entry of a list item in the title of another one is in the outline, but there is no way to
it among the breadcrumbs. -/
theorem entry_in_title_has_no_trail :
    ∃ outline e, extract sectioned = .ok (some outline) ∧ e ∈ outline.everyEntry ∧
      e.url = some "b" ∧ breadcrumbs outline = [("a", [[⟨"AB", some "a"⟩]])] :=
  ⟨_, .mk "B" (some "b") _ [], rfl, List.mem_cons_of_mem _ List.mem_cons_self, rfl, by cbv⟩

end Outline
end Bindery
