import Bindery.Proofs.Resolver.Rendering

/-!
# What a build warns of

The warnings of a build in terms of its graph: of pages without a url before anything is rendered,
and of every page that is rendered and has no title.
-/

namespace Bindery

/-- What is warned of a page without a url. -/
def ModuleGraph.urlWarnings (g : ModuleGraph) (page : Page) : List Diagnostic :=
  if page.url.isEmpty then [g.report page.module (.withoutUrl page.module)] else []

namespace Resolver

variable {job : Job} {known : String → Option Toc} {s : Session}

lemma outputPages_warnings (g : ModuleGraph) (found : List Page × Session) (pages : List Page) :
    (outputPages g found pages).2.diagnostics.warnings
      = found.2.diagnostics.warnings ++ pages.flatMap g.urlWarnings := by
  induction pages generalizing found with
  | nil => exact (List.append_nil _).symm
  | cons page rest ih =>
    have hpage : (outputPage g found.2 page).2.diagnostics.warnings
        = found.2.diagnostics.warnings ++ g.urlWarnings page := by
      rw [outputPage, ModuleGraph.urlWarnings]
      split
      · rfl
      · split <;> exact (List.append_nil _).symm
    rw [List.flatMap_cons, ← List.append_assoc, ← hpage]
    exact ih _

/-- Discovering the pages of a graph warns of those without a url. -/
lemma discover_warnings (g : ModuleGraph) (s : Session) :
    (discover g s).2.diagnostics.warnings
      = s.diagnostics.warnings ++ g.candidates.flatMap g.urlWarnings := by
  have hmodule : ∀ found id, (outputModule g found id).2.diagnostics.warnings
      = found.2.diagnostics.warnings
        ++ (((g.pageModule? id).map PageModule.outputs).getD []).flatMap g.urlWarnings := by
    intro found id
    rw [outputModule, ModuleGraph.pageModule?]
    split <;> rename_i hload <;> rw [hload]
    · exact outputPages_warnings g found _
    · exact (List.append_nil _).symm
    · exact (Session.fail_leaves g _ id _).warnings.trans (List.append_nil _).symm
  -- over any modules, since the fold goes on behind those done
  have hfold : ∀ (ids : List String) (found : List Page × Session),
      (ids.foldl (outputModule g) found).2.diagnostics.warnings
        = found.2.diagnostics.warnings ++ (ids.flatMap fun id =>
          ((g.pageModule? id).map PageModule.outputs).getD []).flatMap g.urlWarnings := by
    intro ids
    induction ids with
    | nil => exact fun found => (List.append_nil _).symm
    | cons id rest ih =>
      intro found
      rw [List.foldl_cons, ih, hmodule, List.flatMap_cons, List.flatMap_append, List.append_assoc]
  exact hfold g.modules ([], s)

/-- A page that is rendered is warned of if it has no title. -/
lemma asset_warnings (h : s.Knows job known) (page : Page) :
    (job.asset s page).2.diagnostics.warnings = s.diagnostics.warnings
      ++ (job.rendered s.cache [page]).flatMap fun page =>
        job.titleWarnings (job.pageWith known page) := by
  cases hserves : job.serves s.cache page with
  | true =>
    obtain ⟨hon, entry, hentry⟩ := Job.serves_eq_true_iff.1 hserves
    rw [Job.asset_of_kept hon hentry, Job.rendered_of_serves hserves]
    exact (List.append_nil _).symm
  | false =>
    rw [Job.asset_of_not_serves h hserves, Job.rendered_of_not_serves hserves,
      List.flatMap_singleton]
    exact Job.warnings_sessionAfter job known s page

end Resolver
end Bindery
