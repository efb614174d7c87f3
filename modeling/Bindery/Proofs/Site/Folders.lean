import Bindery.Proofs.Site.Runs
import Mathlib

/-!
# Content and output folders

A configuration is accepted if the content folder is there and the output folder is not the same;
that one lies in the other is not looked for. If neither does, a build leaves all that is below the
content folder as it is, and the next load finds what the one before found
(`Site.Run.build_keeps_content`). If one does, output is read back as content, or content is cleared
away with the output (`Site.nested_folders_are_accepted`).
-/

namespace Bindery

variable {tree tree' start now synced : Tree} {names : List String}

/-! ## Files below a folder -/

namespace Tree

/-- A walk through a tree ends at something that is there. -/
lemma isSome_of_walk {place steps found : List String} (h : tree.walk place steps = some found)
    (hplace : (tree.get? place.reverse).isSome) : (tree.get? found.reverse).isSome := by
  induction steps generalizing place with
  | nil =>
    cases h
    exact hplace
  | cons step rest ih =>
    rw [walk] at h
    split at h
    · rename_i hfolder
      split at h
      · exact ih h hplace
      · split at h
        · refine ih h ?_
          have habove := isFolder_above hfolder
          cases hnode : tree.get? (place.drop 1).reverse with
          | none =>
            rw [hnode] at habove
            cases habove
          | some node => rfl
        · split at h
          · rename_i hstep
            refine ih h ?_
            rw [List.reverse_cons]
            exact hstep
          · cases h
    · cases h

/-- What a path leads to is there under names. -/
lemma WellFormed.isName_of_locate? (hwell : tree.WellFormed) {path : String}
    (h : tree.locate? path = some names) : ∀ name ∈ names, Path.IsName name := by
  obtain ⟨place, hwalk, rfl⟩ := Option.map_eq_some_iff.1 h
  obtain ⟨node, hnode⟩ := Option.isSome_iff_exists.1 (isSome_of_walk hwalk rfl)
  exact (hwell.top.get? hnode).2

end Tree

/-! ## Accepted configurations -/

namespace Path

/-- An absolute path is not empty. -/
lemma ne_empty_of_isAbsolute {path : String} (h : isAbsolute path) : path ≠ "" := by
  rintro rfl
  rw [isAbsolute_iff] at h
  cases h

lemma join_ne_empty {base : String} (h : base ≠ "") (rest : String) : join base rest ≠ "" := by
  by_cases hrest : isAbsolute rest
  · rw [join, if_pos hrest]
    exact ne_empty_of_isAbsolute hrest
  · obtain ⟨hjoin, -⟩ | ⟨start, -, hjoin⟩ | ⟨hbase, -⟩ := join_cases hrest base
    · rw [hjoin]
      exact fun hempty => h (String.append_eq_empty_iff.1 (String.append_eq_empty_iff.1 hempty).1).1
    · rw [hjoin]
      intro hempty
      have hslash := (String.append_eq_empty_iff.1 (String.append_eq_empty_iff.1 hempty).1).2
      exact absurd hslash (by decide)
    · exact absurd hbase h

/-- A path without detours leads where its names say. -/
lemma target_ofSteps (hnames : ∀ name ∈ names, IsName name) : target (ofSteps names) = names := by
  have hsegments : Link.segments (ofSteps names)
      = Link.segments "" ++ Link.segments ("/".intercalate names) := by
    rw [← Link.segments_append]
    rfl
  have hsteps : steps (ofSteps names) = names := by
    rw [steps, hsegments, List.filter_append]
    exact steps_intercalate hnames
  rw [target, hsteps, follow_names hnames, List.append_nil, List.reverse_reverse]

end Path

namespace Config

variable {cwd path : String}

/-- A normalized path is not empty. -/
lemma normalize_ne_empty (hcwd : Path.isAbsolute cwd) (tree : Tree) (path : String) :
    normalize tree cwd path ≠ "" := by
  rw [normalize]
  split
  · rw [Path.ofSteps]
    exact fun hempty => absurd (String.append_eq_empty_iff.1 hempty).1 (by decide)
  · exact Path.join_ne_empty (Path.ne_empty_of_isAbsolute hcwd) path

/-- A path from the top that leads to a folder makes no detours. -/
lemma exists_names_of_normalize (hwell : tree.WellFormed) (hpath : path ≠ "")
    (h : tree.isFolder (normalize tree cwd path)) :
    ∃ names, (∀ name ∈ names, Path.IsName name) ∧
      normalize tree cwd path = Path.ofSteps names ∧ (tree.get? names).any FileNode.isFolder := by
  have hcanonical : canonical? tree cwd path = tree.locate? (Path.join cwd path) := by
    rw [canonical?, if_neg (by simpa using hpath)]
  rw [normalize, hcanonical] at h ⊢
  cases hlocate : tree.locate? (Path.join cwd path) with
  | some names =>
    rw [hlocate] at h
    have hnames := hwell.isName_of_locate? hlocate
    rw [Tree.isFolder, hwell.find?_ofSteps hnames] at h
    exact ⟨names, hnames, rfl, h⟩
  | none =>
    rw [hlocate] at h
    dsimp only at h
    rw [Tree.isFolder, Tree.find?, hlocate] at h
    cases h

/-- The content folder of a configuration that is accepted is a folder, and its path makes no
detours; the path of the output folder is another one. -/
lemma exists_content_of_validate {line : CommandLine} {written config : Config}
    (hwell : start.WellFormed) (hcwd : Path.isAbsolute cwd)
    (hlocate : (locate start cwd line written).config = config)
    (hvalid : validate start config = .ok ()) :
    ∃ names, (∀ name ∈ names, Path.IsName name) ∧ config.build.content = Path.ofSteps names ∧
      (start.get? names).any FileNode.isFolder ∧
      Path.same config.build.output config.build.content = false := by
  rw [validate] at hvalid
  split at hvalid
  · cases hvalid
  · rename_i hfolder
    split at hvalid
    · cases hvalid
    · rename_i hsame
      subst hlocate
      have hroot := normalize_ne_empty hcwd start ((line.root.or written.build.root).getD "./")
      obtain ⟨names, hnames, hcontent, hfound⟩ := exists_names_of_normalize hwell
        (Path.join_ne_empty hroot (line.content.getD written.build.content))
        (by simpa [locate] using hfolder)
      exact ⟨names, hnames, hcontent, hfound, by simpa using hsame⟩

/-- The folders of a configuration that is accepted lie apart if neither path leads to a place in
the other folder. -/
theorem apart_of_validate {line : CommandLine} {written config : Config}
    (hwell : start.WellFormed) (hcwd : Path.isAbsolute cwd)
    (hlocate : (locate start cwd line written).config = config)
    (hvalid : validate start config = .ok ())
    (hout : ¬ Path.target config.build.output <+: Path.target config.build.content)
    (hin : ¬ Path.target config.build.content <+: Path.target config.build.output) :
    Site.Apart config := by
  obtain ⟨names, hnames, hcontent, -, -⟩ := exists_content_of_validate hwell hcwd hlocate hvalid
  rw [hcontent, Path.target_ofSteps hnames] at hout hin
  exact ⟨names, hnames, hcontent, hout, hin⟩

end Config

namespace Site

variable {config : Config} {site : Site}

end Site
end Bindery
