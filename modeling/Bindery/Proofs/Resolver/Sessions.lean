import Bindery.Proofs.Resolver.Errors

/-!
# What a session knows

What is kept from builds before need not fit the graph that is built. In the course of a build the
tables of contents are those that are kept, however old, and those of the graph else
(`Session.Knows`). Two sessions that know the same report the same from here on if the same errors
were recorded, the same modules failed to load, and the same tables of contents were found to fail
(`Session.Alike`).
-/

namespace Bindery

/-- What is found under a key stands in the list with the key. -/
lemma mem_of_find?_key {α β : Type} [DecidableEq α] {entries : List (α × β)} {key : α} {found : β}
    (h : (entries.find? (·.1 = key)).map (·.2) = some found) : (key, found) ∈ entries := by
  obtain ⟨⟨other, _⟩, hfind, rfl⟩ := Option.map_eq_some_iff.1 h
  have hkey : other = key := by simpa using List.find?_some hfind
  subst hkey
  exact List.mem_of_find?_eq_some hfind

/-! ## What a session knows -/

/-- What a session gives for tables of contents: what was noted in this build and what is kept are
as given, and so is what the graph has for the ones that are not kept. Only modules that are no
pages failed to load. -/
structure Session.Knows (job : Job) (known : String → Option Toc) (s : Session) : Prop where
  noted : ∀ id toc, s.toc? id = some toc → toc = known id
  kept : ∀ id toc, s.cache.toc? id = some toc → known id = some toc
  rest : ∀ id, s.cache.toc? id = none → known id = job.tocOf id
  failed : ∀ id ∈ s.failed, job.graph.pageModule? id = none

/-- A cache with more pages, and those under some keys. -/
structure Cache.Adds (keys : List PageKey) (c c' : Cache) : Prop where
  stays : ∀ key entry, c.page? key = some entry → c'.page? key = some entry
  others : ∀ key, key ∉ keys → c'.page? key = c.page? key

lemma Cache.Adds.refl (keys : List PageKey) (c : Cache) : c.Adds keys c :=
  ⟨fun _ _ h => h, fun _ _ => rfl⟩

/-- What is added in two steps is added in one. -/
lemma Cache.Adds.trans {keys keys' : List PageKey} {c c' c'' : Cache} (h : c.Adds keys c')
    (h' : c'.Adds keys' c'') : c.Adds (keys ++ keys') c'' where
  stays := fun key entry hentry => h'.stays key entry (h.stays key entry hentry)
  others := fun key hkey => by
    rw [List.mem_append, not_or] at hkey
    exact (h'.others key hkey.2).trans (h.others key hkey.1)

/-- The tables of contents for a build that starts from a cache. -/
def Job.tocsFrom (job : Job) (c : Cache) (id : String) : Option Toc := (c.toc? id).or (job.tocOf id)

namespace Session

variable {job : Job} {known : String → Option Toc} {s s' : Session} {id : String}

/-- At the start the tables of contents are those that are kept, and those of the graph. -/
lemma knows_start (job : Job) (c : Cache) :
    Session.Knows job (job.tocsFrom c) { cache := c } where
  noted := fun _ _ h => by cases h
  kept := fun id toc h => by
    have h : c.toc? id = some toc := h
    rw [Job.tocsFrom, h]
    rfl
  rest := fun id h => by
    have h : c.toc? id = none := h
    rw [Job.tocsFrom, h]
    rfl
  failed := fun _ h => absurd h List.not_mem_nil

/-- A session with another cache. -/
def withCache (s : Session) (c : Cache) : Session := { s with cache := c }

/-- What another session leaves in the cache is known in its place. -/
lemma Knows.withCache (h : s.Knows job known) (h' : s'.Knows job known) :
    (s.withCache s'.cache).Knows job known :=
  ⟨h.noted, h'.kept, h'.rest, h.failed⟩

/-- What a session knows depends on the tables of contents and on what failed. -/
lemma Knows.congr (h : s.Knows job known) (htocs : s'.tocs = s.tocs)
    (hkept : s'.cache.tocs = s.cache.tocs) (hfailed : s'.failed = s.failed) :
    s'.Knows job known where
  noted := fun id toc hnoted => h.noted id toc (by rw [toc?, ← htocs]; exact hnoted)
  kept := fun id toc hcached => h.kept id toc (by rw [Cache.toc?, ← hkept]; exact hcached)
  rest := fun id hcached => h.rest id (by rw [Cache.toc?, ← hkept]; exact hcached)
  failed := fun id hmem => h.failed id (hfailed ▸ hmem)

/-- A table of contents that is noted is found, unless there was one before. -/
lemma toc?_noteToc (s : Session) (id other : String) (toc : Option Toc) :
    (s.noteToc id toc).toc? other
      = (s.toc? other).or (if id = other then some toc else none) := by
  rw [toc?, toc?, noteToc]
  dsimp only
  rw [List.find?_append, Option.map_or]
  congr 1
  by_cases h : id = other <;> simp [h]

/-- Noting what is known keeps what a session knows. -/
lemma Knows.noteToc (h : s.Knows job known) {toc : Option Toc} (htoc : toc = known id) :
    (s.noteToc id toc).Knows job known := by
  refine ⟨?_, h.kept, h.rest, h.failed⟩
  intro other found hnoted
  rw [toc?_noteToc, Option.or_eq_some_iff] at hnoted
  rcases hnoted with hnoted | ⟨-, hnew⟩
  · exact h.noted other found hnoted
  · split at hnew
    · rename_i heq
      rw [← heq, ← htoc]
      exact (Option.some.inj hnew).symm
    · cases hnew

/-- Putting down that a module fails keeps what a session knows, if something stands in its way. -/
lemma Knows.fail (h : s.Knows job known) {reason : String}
    (hreason : job.graph.obstacle? id = some reason) :
    (s.fail job.graph id reason).Knows job known := by
  rw [Session.fail]
  split
  · exact h
  · refine ⟨h.noted, h.kept, h.rest, ?_⟩
    intro other hother
    rcases List.mem_append.1 hother with hmem | hmem
    · exact h.failed other hmem
    · rw [List.mem_singleton.1 hmem]
      exact ModuleGraph.pageModule?_of_obstacle hreason

/-! ## Loading -/

/-- Loading gives the page module of the graph, and a module that is none is reported, unless it
was before. -/
lemma load_eq (h : ∀ id ∈ s.failed, job.graph.pageModule? id = none) (id : String) :
    s.load job.graph id = (job.graph.pageModule? id,
      match job.graph.obstacle? id with
      | some reason => s.fail job.graph id reason
      | none => s) := by
  rw [load]
  split
  · rename_i hfailed
    rw [h id (List.contains_iff_mem.1 hfailed)]
    cases job.graph.obstacle? id with
    | none => rfl
    | some reason =>
      dsimp only
      rw [Session.fail, if_pos hfailed]
  · rw [ModuleGraph.pageModule?, ModuleGraph.obstacle?]
    split <;> rename_i hload <;> rw [hload]

/-- The module that loading gives, whatever it records. -/
lemma load_eq_pageModule? (h : ∀ id ∈ s.failed, job.graph.pageModule? id = none) (id : String) :
    s.load job.graph id = (job.graph.pageModule? id, (s.load job.graph id).2) := by
  rw [load_eq h]

/-- Loading a module keeps what a session knows. -/
lemma Knows.load (h : s.Knows job known) (id : String) :
    (s.load job.graph id).2.Knows job known := by
  rw [load_eq h.failed]
  cases hobstacle : job.graph.obstacle? id with
  | none => exact h
  | some reason => exact h.fail hobstacle

/-- A failure that adds no error was put down before. -/
lemma fail_eq_self {g : ModuleGraph} {reason : String}
    (h : (s.fail g id reason).diagnostics.errors.length = s.diagnostics.errors.length) :
    s.fail g id reason = s := by
  rw [fail] at h ⊢
  split
  · rfl
  · rename_i hnew
    rw [if_neg hnew, error, List.length_append, List.length_singleton] at h
    dsimp only at h
    omega

/-- Loading that adds no error changes nothing. -/
lemma load_eq_self (hfailed : ∀ id ∈ s.failed, job.graph.pageModule? id = none)
    (h : (s.load job.graph id).2.diagnostics.errors.length = s.diagnostics.errors.length) :
    (s.load job.graph id).2 = s := by
  rw [load_eq hfailed] at h ⊢
  cases hobstacle : job.graph.obstacle? id with
  | none => rfl
  | some reason =>
    rw [hobstacle] at h
    exact fail_eq_self h

/-! ## Reporting -/

/-- Record some errors. -/
def report (s : Session) (errors : List Diagnostic) : Session :=
  { s with diagnostics.errors := s.diagnostics.errors ++ errors }

@[simp] lemma report_nil (s : Session) : s.report [] = s := by
  rw [report, List.append_nil]

/-- Reporting adds the errors to their number. -/
@[simp] lemma length_errors_report (s : Session) (errors : List Diagnostic) :
    (s.report errors).diagnostics.errors.length
      = s.diagnostics.errors.length + errors.length :=
  List.length_append

lemma Knows.report (h : s.Knows job known) (errors : List Diagnostic) :
    (s.report errors).Knows job known := h.congr rfl rfl rfl

/-- Record some warnings. -/
def caution (s : Session) (warnings : List Diagnostic) : Session :=
  { s with diagnostics.warnings := s.diagnostics.warnings ++ warnings }

lemma caution_nil (s : Session) : s.caution [] = s := by
  rw [caution, List.append_nil]

lemma Knows.caution (h : s.Knows job known) (warnings : List Diagnostic) :
    (s.caution warnings).Knows job known := h.congr rfl rfl rfl

/-- Two sessions report the same from here on: the same errors were recorded, the same modules
failed to load, and of the tables of contents that fail the same ones were asked for. -/
structure Alike (known : String → Option Toc) (s t : Session) : Prop where
  errors : t.diagnostics.errors = s.diagnostics.errors
  failed : t.failed = s.failed
  lost : ∀ id, known id = none → t.toc? id = s.toc? id

variable {t u : Session}

lemma Alike.refl (s : Session) : s.Alike known s := ⟨rfl, rfl, fun _ _ => rfl⟩

lemma Alike.symm (h : s.Alike known t) : t.Alike known s :=
  ⟨h.errors.symm, h.failed.symm, fun id hid => (h.lost id hid).symm⟩

lemma Alike.trans (h : s.Alike known t) (h' : t.Alike known u) : s.Alike known u :=
  ⟨h'.errors.trans h.errors, h'.failed.trans h.failed,
    fun id hid => (h'.lost id hid).trans (h.lost id hid)⟩

lemma Alike.report (h : s.Alike known t) (errors : List Diagnostic) :
    (s.report errors).Alike known (t.report errors) :=
  ⟨congrArg (· ++ errors) h.errors, h.failed, h.lost⟩

lemma Alike.caution (h : s.Alike known t) (warnings warnings' : List Diagnostic) :
    (s.caution warnings).Alike known (t.caution warnings') :=
  ⟨h.errors, h.failed, h.lost⟩

/-- Sessions stay alike when the same table of contents is noted. -/
lemma Alike.noteToc (h : s.Alike known t) (id : String) (toc : Option Toc) :
    (s.noteToc id toc).Alike known (t.noteToc id toc) := by
  refine ⟨h.errors, h.failed, ?_⟩
  intro other hother
  rw [toc?_noteToc, toc?_noteToc, h.lost other hother]

/-- Sessions stay alike when the same module fails. -/
lemma Alike.fail (h : s.Alike known t) (g : ModuleGraph) (id reason : String) :
    (s.fail g id reason).Alike known (t.fail g id reason) := by
  rw [Session.fail, Session.fail, h.failed]
  split
  · exact h
  · exact ⟨congrArg (· ++ [_]) h.errors, rfl, h.lost⟩

/-- Sessions stay alike when the same module is loaded. -/
lemma Alike.load (h : s.Alike known t) (hs : s.Knows job known) (ht : t.Knows job known)
    (id : String) : (s.load job.graph id).2.Alike known (t.load job.graph id).2 := by
  rw [load_eq hs.failed, load_eq ht.failed]
  cases job.graph.obstacle? id with
  | none => exact h
  | some reason => exact h.fail _ _ _

/-- Noting a table of contents that there is makes no difference. -/
lemma alike_noteToc {toc : Option Toc} (h : (known id).isSome) :
    s.Alike known (s.noteToc id toc) := by
  refine ⟨rfl, rfl, ?_⟩
  intro other hother
  have hne : id ≠ other := by
    rintro rfl
    rw [hother] at h
    cases h
  rw [toc?_noteToc, if_neg hne, Option.or_none]

/-! ## Asking for a module that is named -/

/-- Ask for a module if one is named. -/
def ask (s : Session) (g : ModuleGraph) (id : Option String) : Session :=
  id.elim s fun id => (s.load g id).2

variable {name : Option String}

/-- Asking for a module that is named keeps what a session knows. -/
lemma Knows.ask (h : s.Knows job known) (name : Option String) :
    (s.ask job.graph name).Knows job known := by
  cases name with
  | none => exact h
  | some id => exact h.load id

/-- Sessions stay alike when the same module is asked for. -/
lemma Alike.ask (h : s.Alike known t) (hs : s.Knows job known) (ht : t.Knows job known)
    (name : Option String) : (s.ask job.graph name).Alike known (t.ask job.graph name) := by
  cases name with
  | none => exact h
  | some id => exact h.load hs ht id

/-- A failure takes no error back. -/
lemma fail_grows (g : ModuleGraph) (s : Session) (id reason : String) :
    s.diagnostics.errors <+: (s.fail g id reason).diagnostics.errors := by
  rw [fail]
  split
  · exact List.prefix_rfl
  · exact List.prefix_append _ _

/-- Loading takes no error back. -/
lemma load_grows (g : ModuleGraph) (s : Session) (id : String) :
    s.diagnostics.errors <+: (s.load g id).2.diagnostics.errors := by
  rw [load]
  split
  · exact List.prefix_rfl
  · split
    · exact List.prefix_rfl
    · exact fail_grows _ _ _ _
    · exact fail_grows _ _ _ _

/-- Asking for a module takes no error back. -/
lemma length_errors_ask (g : ModuleGraph) (s : Session) (name : Option String) :
    s.diagnostics.errors.length ≤ (s.ask g name).diagnostics.errors.length := by
  cases name with
  | none => exact Nat.le_refl _
  | some id => exact (load_grows g s id).length_le

/-- Asking for a module changes nothing if it adds no error. -/
lemma ask_eq_self (h : s.Knows job known)
    (hlength : (s.ask job.graph name).diagnostics.errors.length = s.diagnostics.errors.length) :
    s.ask job.graph name = s := by
  cases name with
  | none => rfl
  | some id => exact load_eq_self h.failed hlength

/-- Asking for a module that loads changes nothing. -/
lemma ask_of_loads (h : s.Knows job known)
    (hloads : ∀ id ∈ name, (job.graph.pageModule? id).isSome) : s.ask job.graph name = s := by
  cases name with
  | none => rfl
  | some id =>
    show (s.load job.graph id).2 = s
    rw [load_eq h.failed, ModuleGraph.obstacle?_eq_none_iff.2 (hloads id rfl)]

/-! ## What rendering leaves alone -/

/-- The pages that are kept and the warnings are as before. -/
structure Leaves (s s' : Session) : Prop where
  pages : s'.cache.pages = s.cache.pages
  warnings : s'.diagnostics.warnings = s.diagnostics.warnings

lemma Leaves.refl (s : Session) : s.Leaves s := ⟨rfl, rfl⟩

/-- A failure leaves the warnings and the pages that are kept. -/
lemma fail_leaves (g : ModuleGraph) (s : Session) (id reason : String) :
    s.Leaves (s.fail g id reason) := by
  rw [fail]
  split <;> exact ⟨rfl, rfl⟩

/-- Loading leaves the warnings and the pages that are kept. -/
lemma load_leaves (g : ModuleGraph) (s : Session) (id : String) : s.Leaves (s.load g id).2 := by
  rw [load]
  split
  · exact .refl s
  · split
    · exact .refl s
    · exact fail_leaves _ _ _ _
    · exact fail_leaves _ _ _ _

/-- Asking for a module leaves the warnings and the pages that are kept. -/
lemma ask_leaves (g : ModuleGraph) (s : Session) (name : Option String) :
    s.Leaves (s.ask g name) := by
  cases name with
  | none => exact .refl s
  | some id => exact load_leaves g s id

end Session

end Bindery
