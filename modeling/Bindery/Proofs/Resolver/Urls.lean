import Bindery.Proofs.Resolver.Addresses

/-!
# Normalized urls

A normalized url is a relative path of names without a backslash. Normalizing it again leaves it as
it is, and the page that has it is put out, unless it starts with a drive
(`Link.normalize_normalized`). A url that has a drive is refused as it is given, so a drive behind a
slash or a dot comes through (`Link.drive_behind_slash_comes_through`).
-/

namespace Bindery
namespace Link

variable {link url key name : String} {names : List String}

/-- A name that is a drive, such as `C:`. -/
def IsDrive (name : String) : Prop := ∃ c, isLetter c = true ∧ name.toList = [c, ':']

lemma hasDrive_iff : hasDrive link = true ↔
    ∃ c mark rest, link.toList = c :: ':' :: mark :: rest ∧ isLetter c = true ∧
      (mark = '\\' ∨ mark = '/') := by
  rw [hasDrive]
  split
  · rename_i c mark rest hchars
    rw [hchars]
    simp
  · rename_i hshape
    refine iff_of_false (by simp) ?_
    rintro ⟨c, mark, rest, hchars, -⟩
    exact hshape c mark rest hchars

/-- A name in front of a slash gives a path with a drive just if it is one. -/
lemma hasDrive_append (hslash : '/' ∉ name.toList) (hback : '\\' ∉ name.toList) (rest : String) :
    hasDrive (name ++ "/" ++ rest) = true ↔ IsDrive name := by
  have hchars : (name ++ "/" ++ rest).toList = name.toList ++ '/' :: rest.toList := by simp
  rw [hasDrive_iff, hchars, IsDrive]
  constructor
  · rintro ⟨c, mark, tail, heq, hletter, hmark⟩
    refine ⟨c, hletter, ?_⟩
    -- the mark is the slash behind the name, as there is none in the name
    rcases hname : name.toList with _ | ⟨a, _ | ⟨b, _ | ⟨d, more⟩⟩⟩
    · rw [hname, List.nil_append, List.cons.injEq] at heq
      rw [← heq.1] at hletter
      exact absurd hletter (by decide)
    · simp [hname] at heq
    · rw [hname] at heq
      simp only [List.cons_append, List.cons.injEq] at heq
      rw [heq.1, heq.2.1]
    · rw [hname] at heq hslash hback
      simp only [List.cons_append, List.cons.injEq] at heq
      obtain ⟨-, -, rfl, -⟩ := heq
      rcases hmark with rfl | rfl <;> simp at hslash hback
  · rintro ⟨c, hletter, hname⟩
    exact ⟨c, '/', rest.toList, by rw [hname]; rfl, hletter, .inr rfl⟩

/-- A path of names has a drive just if its first name is one and others follow. -/
lemma hasDrive_intercalate (h : ∀ name ∈ names, '/' ∉ name.toList ∧ '\\' ∉ name.toList) :
    hasDrive ("/".intercalate names) = true ↔
      ∃ drive next rest, IsDrive drive ∧ names = drive :: next :: rest := by
  rcases names with _ | ⟨first, _ | ⟨next, rest⟩⟩
  · simp [hasDrive_iff]
  · obtain ⟨hslash, hback⟩ := h first List.mem_cons_self
    rw [String.intercalate_singleton, hasDrive_iff]
    refine iff_of_false ?_ (by simp)
    -- a slash or a backslash would be in the name
    rintro ⟨c, mark, rest, hchars, -, hmark⟩
    rw [hchars] at hslash hback
    rcases hmark with rfl | rfl <;> simp at hslash hback
  · obtain ⟨hslash, hback⟩ := h first List.mem_cons_self
    rw [String.intercalate_cons_cons, hasDrive_append hslash hback]
    simp

lemma IsPlain.not_isAbsolute (h : IsPlain key) : Path.isAbsolute key = false := by
  obtain ⟨names, -, hnames, rfl⟩ := h
  simpa using Path.not_isAbsolute_intercalate hnames

/-- A plain path without a backslash is refused for a drive alone. -/
lemma IsPlain.normalize_eq (h : IsPlain key) (hback : '\\' ∉ key.toList) :
    normalize key = if hasDrive key then none else some key := by
  rw [normalize, resolve_rooted_iff.2 h]
  simp [String.contains_char_eq, hback]

/-- A character that is in no name is not in their path. -/
lemma not_mem_intercalate {c : Char} (hc : c ≠ '/') (h : ∀ name ∈ names, c ∉ name.toList) :
    c ∉ ("/".intercalate names).toList := by
  induction names with
  | nil => simp
  | cons name rest ih =>
    have hname := h name List.mem_cons_self
    have hrest := ih fun other hother => h other (List.mem_cons_of_mem _ hother)
    cases rest with
    | nil => rwa [String.intercalate_singleton]
    | cons next rest =>
      rw [String.intercalate_cons_cons, String.toList_append, String.toList_append, List.mem_append,
        List.mem_append, not_or, not_or]
      exact ⟨⟨hname, by simpa using hc⟩, hrest⟩

/-- A url is normalized unless it has a drive or a backslash as it is given or leads to no place
below the root. -/
lemma normalize_eq_some_iff : normalize url = some key ↔
    hasDrive url = false ∧ '\\' ∉ url.toList ∧
      ∃ place, place ≠ [] ∧ walk [] (segments url) = some place ∧
        key = "/".intercalate place.reverse := by
  have hrooted : resolve "" ("/" ++ url) = some key ↔ _ := resolve_rooted
  rw [← hrooted, normalize]
  simp [String.contains_char_eq, and_assoc]

/-- The names of a normalized url are those that the url leads to from the root. -/
lemma exists_walk_names_of_normalize (h : normalize url = some key) :
    ∃ names, names ≠ [] ∧ (∀ name ∈ names, Path.IsName name ∧ '\\' ∉ name.toList) ∧
      walk [] (segments url) = some names.reverse ∧ key = "/".intercalate names := by
  obtain ⟨place, hplace, hwalk, hkey⟩ := (normalize_eq_some_iff.1 h).2.2
  obtain ⟨names, hne, hnames, hpath⟩ := exists_plain_names_of_normalize h
  have hstops := isName_of_mem_walk (by simp) (fun s hs => not_mem_of_mem_segments hs) hwalk
  -- both are the segments of the normalized url
  have hsegments : segments key = place.reverse := by
    rw [hkey]
    refine segments_intercalate (by simpa using hplace) fun name hname => ?_
    exact (hstops name (by simpa using hname)).not_mem
  rw [hpath, segments_intercalate hne fun name hname => (hnames name hname).1.not_mem] at hsegments
  refine ⟨names, hne, hnames, ?_, hpath⟩
  rw [hwalk, hsegments, List.reverse_reverse]

/-- A normalized url is a relative path of names without a backslash. It has a drive just if the url
leads to a drive and on from there, and this alone keeps it from being normalized as it is and its
page from being put out. It is what a document has for a url that gives this one. -/
theorem normalize_normalized (h : normalize url = some key) :
    IsPlain key ∧ Path.isAbsolute key = false ∧ '\\' ∉ key.toList ∧
      (hasDrive key = true ↔ ∃ drive next rest, IsDrive drive ∧
        walk [] (segments url) = some (drive :: next :: rest).reverse) ∧
      normalize key = (if hasDrive key then none else some key) ∧
      (∀ id attributes, Value.lookup "url" attributes = some (.string url) →
        Document.urlOf id attributes = .ok key) ∧
      ∀ g s page, page.url = key → Resolver.outputPage g s page =
        if hasDrive key then (none, s.error g page.module (.outsideOutput key))
        else (some page, s) := by
  obtain ⟨names, hne, hnames, hwalk, hkey⟩ := exists_walk_names_of_normalize h
  have hplain : IsPlain key := ⟨names, hne, fun name hname => (hnames name hname).1, hkey⟩
  have hback : '\\' ∉ key.toList := by
    rw [hkey]
    exact not_mem_intercalate (by decide) fun name hname => (hnames name hname).2
  have hnormalize := hplain.normalize_eq hback
  refine ⟨hplain, hplain.not_isAbsolute, hback, ?_, hnormalize, ?_, ?_⟩
  · rw [hkey, hasDrive_intercalate fun name hname => ⟨(hnames name hname).1.not_mem,
      (hnames name hname).2⟩, hwalk]
    simp
  · intro id attributes hlookup
    have hurl : url ≠ "" := by
      rintro rfl
      have hnowhere : walk [] (segments "") = some [] := rfl
      rw [hnowhere, Option.some.injEq, eq_comm, List.reverse_eq_nil_iff] at hwalk
      exact hne hwalk
    rw [Document.urlOf, hlookup]
    simp [hurl, h]
  · intro g s page hpage
    have hempty : key ≠ "" := by
      rw [hkey]
      exact intercalate_ne_empty hne fun name hname => (hnames name hname).1
    have hrest : page.url.isEmpty = false := by simpa [hpage] using hempty
    rw [Resolver.outputPage, hpage, hnormalize, ← hpage, hrest]
    cases hasDrive page.url <;> rfl

/-- Steps that lead nowhere or back are folded, and what comes out is normalized as it is. -/
theorem normalize_normalized_folded :
    normalize "./a//b/../c.html" = some "a/c.html" ∧ hasDrive "a/c.html" = false ∧
      normalize "a/c.html" = some "a/c.html" := by
  have hfold : normalize "./a//b/../c.html" = some "a/c.html" :=
    normalize_eq_some_iff.2 ⟨by decide, by decide, ["c.html", "a"], by simp, by cbv, by cbv⟩
  have hdrive : hasDrive "a/c.html" = false := by decide
  obtain ⟨-, -, -, -, hagain, -⟩ := normalize_normalized hfold
  refine ⟨hfold, hdrive, ?_⟩
  rw [hagain, hdrive]
  rfl

/-- The slash in front of a drive is dropped after urls with a drive are refused. -/
theorem drive_behind_slash_comes_through :
    normalize "/C:/x.html" = some "C:/x.html" ∧ hasDrive "C:/x.html" = true ∧
      normalize "C:/x.html" = none := by
  have hdrive : hasDrive "C:/x.html" = true := by decide
  refine ⟨?_, hdrive, ?_⟩
  · exact normalize_eq_some_iff.2 ⟨by decide, by decide, ["x.html", "C:"], by simp, by cbv, by cbv⟩
  · rw [normalize, hdrive]
    rfl

end Link
end Bindery
