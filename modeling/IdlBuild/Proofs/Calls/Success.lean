import IdlBuild.Proofs.Calls.Record

/-!
# What calls share and leave

Every call of a build has a JSON path of its target. A build that succeeds has a task for every
selected file, in order, and the JSON path of a task is the one that the translator got for the
file. What no call changes is at the end of a handling as it was at its beginning.
-/

namespace IdlBuild

namespace Handling

variable {target : Target} {immutable : Bool} {fs after : FileSystem} {files : List InputFile}
  {events : List Event} {result : Except Failure (List GeneratorTask)} {tasks : List GeneratorTask}

/-- Each call starts with the files that the one before it left. -/
theorem unchanged {α : Type} (view : FileSystem → α)
    (h : Handling target immutable fs files events result after)
    (hview : ∀ e ∈ events, view e.after = view e.before) : view after = view fs := by
  induction h with
  | done => rfl
  | unresolved habsolute => rfl
  | untranslated habsolute => exact hview _ (List.mem_singleton_self _)
  | @ungenerated fs middle after idl rest jsonFile failure habsolute =>
    have htranslate : view middle = view fs := hview _ (List.mem_cons_self ..)
    have hgenerate : view after = view middle :=
      hview _ (List.mem_cons_of_mem _ (List.mem_singleton_self _))
    exact hgenerate.trans htranslate
  | @handled fs middle after last idl rest jsonFile events result habsolute hrest ih =>
    have htranslate : view middle = view fs := hview _ (List.mem_cons_self ..)
    have hgenerate : view after = view middle :=
      hview _ (List.mem_cons_of_mem _ (List.mem_cons_self ..))
    have hothers : view last = view after :=
      ih fun e he => hview e (List.mem_cons_of_mem _ (List.mem_cons_of_mem _ he))
    exact hothers.trans (hgenerate.trans htranslate)

/-- Both calls for a file have the JSON path that the file got when it was translated. -/
theorem absoluteAt (h : Handling target immutable fs files events result after) {i : Nat}
    {e : Event} (hevent : events[i]? = some e) :
    ∃ idl first, files[i / 2]? = some idl ∧ events[2 * (i / 2)]? = some first ∧
      first.before.absolute (target.jsonFile idl.bareName) = .ok e.call.jsonFile := by
  induction h generalizing i with
  | done => simp at hevent
  | unresolved habsolute => simp at hevent
  | untranslated habsolute =>
    cases i with
    | zero =>
      obtain rfl := Option.some.inj hevent
      exact ⟨_, _, rfl, rfl, habsolute⟩
    | succ i => simp at hevent
  | ungenerated habsolute =>
    match i with
    | 0 | 1 =>
      obtain rfl := Option.some.inj hevent
      exact ⟨_, _, rfl, rfl, habsolute⟩
    | i + 2 => simp at hevent
  | handled habsolute hrest ih =>
    match i with
    | 0 | 1 =>
      obtain rfl := Option.some.inj hevent
      exact ⟨_, _, rfl, rfl, habsolute⟩
    | i + 2 =>
      obtain ⟨idl, first, hfile, hfirst, hpath⟩ := ih (i := i) (by simpa using hevent)
      have hhalf : (i + 2) / 2 = i / 2 + 1 := by omega
      refine ⟨idl, first, ?_, ?_, hpath⟩
      · rw [hhalf]
        exact hfile
      · rw [hhalf, Nat.mul_succ]
        exact hfirst

theorem exists_absolute_of_mem (h : Handling target immutable fs files events result after) :
    ∀ e ∈ events, ∃ (seen : FileSystem), ∃ idl ∈ files,
      seen.absolute (target.jsonFile idl.bareName) = .ok e.call.jsonFile := by
  intro e he
  obtain ⟨i, hevent⟩ := List.mem_iff_getElem?.1 he
  obtain ⟨idl, first, hfile, -, hpath⟩ := h.absoluteAt hevent
  exact ⟨first.before, idl, List.mem_of_getElem? hfile, hpath⟩

theorem length_tasks (h : Handling target immutable fs files events result after)
    (hok : result = .ok tasks) : tasks.length = files.length := by
  induction h generalizing tasks with
  | done =>
    cases hok
    rfl
  | unresolved habsolute => cases hok
  | untranslated habsolute => cases hok
  | ungenerated habsolute => cases hok
  | @handled fs middle after last idl rest jsonFile events result habsolute hrest ih =>
    cases result with
    | error failure => cases hok
    | ok others =>
      cases hok
      rw [List.length_cons, List.length_cons, ih rfl]

/-- The translation of a file, by its number, in a handling that succeeds: it got the path that is
in the task. -/
theorem translatedAt (h : Handling target immutable fs files events result after)
    (hok : result = .ok tasks) {k : Nat} {idl : InputFile} (hfile : files[k]? = some idl) :
    ∃ e jsonFile, events[2 * k]? = some e ∧ e.call = .translate ⟨idl, jsonFile⟩ ∧
      e.result = .ok () ∧ e.before.absolute (target.jsonFile idl.bareName) = .ok jsonFile ∧
      tasks[k]? = some (target.generatorTask immutable idl jsonFile) := by
  induction h generalizing tasks k with
  | done => simp at hfile
  | unresolved habsolute => cases hok
  | untranslated habsolute => cases hok
  | ungenerated habsolute => cases hok
  | @handled fs middle after last first rest jsonFile events result habsolute hrest ih =>
    cases result with
    | error failure => cases hok
    | ok others =>
      cases hok
      cases k with
      | zero =>
        obtain rfl : first = idl := by simpa using hfile
        exact ⟨_, jsonFile, rfl, rfl, rfl, habsolute, rfl⟩
      | succ k =>
        obtain ⟨e, path, hevent, hcall, hresult, hpath, htask⟩ :=
          ih rfl (k := k) (by simpa using hfile)
        exact ⟨e, path, by simpa [Nat.mul_succ] using hevent, hcall, hresult, hpath,
          by simpa using htask⟩

end Handling

namespace Toolchain

variable {σ : Type}

theorem handling_of_calls (toolchain : Toolchain σ) (job : Job) (w : Workspace σ) :
    toolchain.calls job w = [] ∨ ∃ files result after,
      job.discovered (job.prepared w.files).2 = .ok files ∧
        Handling job.target job.immutable (job.prepared w.files).2 files (toolchain.calls job w)
          result after := by
  have hbuilding := toolchain.building job w
  generalize toolchain.calls job w = events at hbuilding ⊢
  generalize ((toolchain.build job).runIn w).1 = result at hbuilding
  generalize ((toolchain.build job).runIn w).2.files = after at hbuilding
  cases hbuilding with
  | unready hready => exact Or.inl rfl
  | undiscovered hready hfiles => exact Or.inl rfl
  | handled hready hfiles hhandling =>
    rw [hready]
    exact Or.inr ⟨_, _, _, hfiles, hhandling⟩

/-- A build that succeeds handles the files that are discovered once its target is ready. -/
theorem handling_of_build_ok {toolchain : Toolchain σ} {job : Job}
    {w after : Workspace σ} {made : Product}
    (h : (toolchain.build job).runIn w = (.ok made, after)) :
    made.directory = job.target.directory ∧
      ∃ files, job.discovered (job.prepared w.files).2 = .ok files ∧
        Handling job.target job.immutable (job.prepared w.files).2 files (toolchain.calls job w)
          (.ok made.tasks) after.files := by
  have hbuilding := toolchain.building job w
  rw [h] at hbuilding
  generalize toolchain.calls job w = events at hbuilding ⊢
  generalize hresult : Except.ok made = result at hbuilding
  cases hbuilding with
  | unready hready => cases hresult
  | undiscovered hready hfiles => cases hresult
  | @handled directory ready after files events tasks hready hfiles hhandling =>
    cases tasks with
    | error failure => cases hresult
    | ok tasks =>
      obtain ⟨directory', tasks'⟩ := made
      simp only [Except.ok.injEq, Product.mk.injEq] at hresult
      obtain ⟨hdirectory, rfl⟩ := hresult
      simp only [hready]
      exact ⟨hdirectory, files, hfiles, hhandling⟩

end Toolchain

end IdlBuild
