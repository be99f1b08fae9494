import IdlBuild.Proofs.Calls.FirstFailure
import IdlBuild.Proofs.Packages.Names

/-!
# Packages of generated files

What the generator is told of the packages of a file. The base package is what was asked for, its
other characters dropped, and the package of the file goes on with the stem of the file. Their names
belong to directories as far as they have no empty segment (`generated_named`), and the directory of
the file's package lies at or below that of the target, whatever its name is like
(`packages_nested`).
-/

namespace IdlBuild

/-! ### Tasks of a build -/

theorem Handling.exists_generated {target : Target} {immutable : Bool} {fs after : FileSystem}
    {files : List InputFile} {events : List Event} {result : Except Failure (List GeneratorTask)}
    (h : Handling target immutable fs files events result after) {e : Event} (he : e ∈ events)
    {task : GeneratorTask} (hcall : e.call = .generate task) :
    ∃ idl ∈ files, ∃ jsonFile, task = target.generatorTask immutable idl jsonFile := by
  obtain ⟨jsonFiles, -, hplan⟩ := h.planned
  have hplanned : e.call ∈ (files.zip jsonFiles).flatMap (target.plan immutable) :=
    hplan.subset (List.mem_map_of_mem he)
  obtain ⟨⟨idl, jsonFile⟩, hpair, hmem⟩ := List.mem_flatMap.1 hplanned
  rw [hcall] at hmem
  refine ⟨idl, (List.of_mem_zip hpair).1, jsonFile, ?_⟩
  simpa [Target.plan] using hmem

/-- What the generator gets is the task of a discovered file. -/
theorem Toolchain.exists_generated {σ : Type} {toolchain : Toolchain σ} {job : Job}
    {w : Workspace σ} {e : Event} (he : e ∈ toolchain.calls job w) {task : GeneratorTask}
    (hcall : e.call = .generate task) :
    ∃ files, job.discovered (job.prepared w.files).2 = .ok files ∧
      ∃ idl ∈ files, ∃ jsonFile, task = job.target.generatorTask job.immutable idl jsonFile := by
  have hbuilding := toolchain.building job w
  generalize toolchain.calls job w = events at he hbuilding
  generalize ((toolchain.build job).runIn w).1 = result at hbuilding
  generalize ((toolchain.build job).runIn w).2.files = after at hbuilding
  cases hbuilding with
  | unready hready => simp at he
  | undiscovered hready hfiles => simp at he
  | handled hready hfiles hhandling =>
    refine ⟨_, ?_, hhandling.exists_generated he hcall⟩
    rw [hready]
    exact hfiles

/-! ### Names that are handed on -/

/-- How a task of the generator is named for a file. -/
structure Named (job : Job) (idl : InputFile) (task : GeneratorTask) : Prop where
  basePackage : task.basePackage = PackageName.cleaned job.basePackage ∧
    PackageName.Corresponds task.basePackage
  package : task.package = PackageName.ofFile task.basePackage idl.bareName ∧
    PackageName.Corresponds task.package
  /-- A package is dotted when all of its parts are: empty segments come from an empty stem and from
  dots that were there at first. -/
  dotted : PackageName.IsDotted task.package ↔
    (task.basePackage = "" ∨ PackageName.IsDotted task.basePackage) ∧
      PackageName.IsDotted (PackageName.cleaned (PackageName.stem idl.bareName))
  empty : task.package = "" ↔
    task.basePackage = "" ∧ PackageName.cleaned (PackageName.stem idl.bareName) = ""
  directory : task.outputRoot.join (PackageName.directory task.basePackage) = job.target.directory
  below : job.target.directory.components <+:
    (task.outputRoot.join (PackageName.directory task.package)).components

namespace PackageName

theorem components_directory_ofFile (basePackage fileName : String) :
    (directory (ofFile (cleaned basePackage) fileName)).components =
      (directory (cleaned basePackage)).components ++
        (directory (cleaned (stem fileName))).components := by
  rw [components_directory (cleaned_ofFile basePackage fileName), segments_ofFile,
    components_directory (cleaned_cleaned basePackage),
    components_directory (cleaned_cleaned (stem fileName)), List.map_append, List.map_append]

end PackageName

/-- The directory of a file's package is that of the target, with the directory of the stem behind
it. -/
theorem Target.components_package (root : Path) (basePackage fileName : String) :
    (root.join (PackageName.directory
        (PackageName.ofFile (PackageName.cleaned basePackage) fileName))).components =
      (below root basePackage).directory.components ++
        (PackageName.directory (PackageName.cleaned (PackageName.stem fileName))).components := by
  have hpackage := PackageName.components_directory (PackageName.cleaned_ofFile basePackage fileName)
  have hstem := PackageName.components_directory
    (PackageName.cleaned_cleaned (PackageName.stem fileName))
  rw [Path.components_join_names root hpackage, PackageName.segments_ofFile, List.map_append,
    List.map_append, ← List.append_assoc, hstem, components_directory]

theorem Target.below_isPrefix (root : Path) (basePackage fileName : String) :
    (below root basePackage).directory.components <+:
      (root.join (PackageName.directory
        (PackageName.ofFile (PackageName.cleaned basePackage) fileName))).components := by
  rw [components_package]
  exact List.prefix_append _ _

theorem Named.of_names {job : Job} {idl : InputFile} {task : GeneratorTask}
    (hbase : task.basePackage = PackageName.cleaned job.basePackage)
    (hpackage : task.package = PackageName.ofFile task.basePackage idl.bareName)
    (hroot : task.outputRoot = job.outputRoot) : Named job idl task := by
  have hclean : PackageName.cleaned task.basePackage = task.basePackage := by
    rw [hbase, PackageName.cleaned_cleaned]
  have hcleanPackage : PackageName.cleaned task.package = task.package := by
    rw [hpackage, hbase, PackageName.cleaned_ofFile]
  have hdotted := PackageName.isDotted_ofFile hclean idl.bareName
  have hempty := PackageName.ofFile_eq_empty_iff task.basePackage idl.bareName
  rw [← hpackage] at hdotted hempty
  refine
    { basePackage := ⟨hbase, PackageName.corresponds_of_clean hclean⟩
      package := ⟨hpackage, PackageName.corresponds_of_clean hcleanPackage⟩
      dotted := hdotted
      empty := hempty
      directory := ?directory
      below := ?below }
  case directory => rw [hroot, hbase, Job.target, Target.directory_below]
  case below =>
    rw [hroot, hpackage, hbase]
    exact Target.below_isPrefix job.outputRoot job.basePackage idl.bareName

theorem Target.named_generatorTask (job : Job) (idl : InputFile) (jsonFile : Path) :
    Named job idl (job.target.generatorTask job.immutable idl jsonFile) :=
  .of_names job.basePackage_target (package_generatorTask ..) job.root_target

namespace Toolchain

variable {σ : Type}

/-- Whatever the base package and the file are called, the names that the generator gets are made of
letters, digits, underscores and dots, and belong to the directories of the target as far as they
have no empty segments. -/
theorem generated_named (toolchain : Toolchain σ) (job : Job) (w : Workspace σ) (e : Event)
    (he : e ∈ toolchain.calls job w) (task : GeneratorTask) (hcall : e.call = .generate task) :
    ∃ files, job.discovered (job.prepared w.files).2 = .ok files ∧
      ∃ idl ∈ files, Named job idl task := by
  obtain ⟨files, hfiles, idl, hidl, jsonFile, rfl⟩ := exists_generated he hcall
  exact ⟨files, hfiles, idl, hidl, Target.named_generatorTask job idl jsonFile⟩

/-- A base package, and two files of which one has nothing but a dash before its suffix. -/
def sparse (basePackage : String) : Job × Workspace Unit :=
  (⟨"-.idl,v1.x.idl", .ofNames [], ⟨"out"⟩, basePackage, false, false⟩,
    .ofFiles <| FileSystem.empty
      |>.add [] "-.idl" (.file [0x31] 0)
      |>.add [] "v1.x.idl" (.file [0x32] 0))

def sparseTasks (basePackage : String) : List GeneratorTask :=
  (copying.calls (sparse basePackage).1 (sparse basePackage).2).filterMap (·.call.generated?)

theorem exists_of_mem_sparseTasks {basePackage : String} {task : GeneratorTask}
    (h : task ∈ sparseTasks basePackage) :
    ∃ e ∈ copying.calls (sparse basePackage).1 (sparse basePackage).2, e.call = .generate task := by
  obtain ⟨e, he, hgenerated⟩ := List.mem_filterMap.1 h
  refine ⟨e, he, ?_⟩
  cases hcall : e.call with
  | translate other =>
    rw [hcall] at hgenerated
    cases hgenerated
  | generate other =>
    rw [hcall] at hgenerated
    rw [Option.some.inj hgenerated]

theorem sparse_named :
    ∃ e ∈ copying.calls (sparse ".a-..b").1 (sparse ".a-..b").2, ∃ task,
      e.call = .generate task ∧ task.package = ".a..b.v1.x" ∧ ∃ files,
        (sparse ".a-..b").1.discovered ((sparse ".a-..b").1.prepared (sparse ".a-..b").2.files).2
          = .ok files ∧
        ∃ idl ∈ files, Named (sparse ".a-..b").1 idl task := by
  have hmem : ⟨⟨"/out/a/b/v1.x.json"⟩, ".a..b.v1.x", ".a..b", ⟨"out"⟩, false⟩
      ∈ sparseTasks ".a-..b" := by decide +kernel
  obtain ⟨e, he, hcall⟩ := exists_of_mem_sparseTasks hmem
  exact ⟨e, he, _, hcall, rfl, generated_named copying _ _ e he _ hcall⟩

/-- Dots that were there at first are handed on, and with neither a base package nor a stem there is
no name at all. -/
theorem sparse_undotted :
    (∃ e ∈ copying.calls (sparse "a..b").1 (sparse "a..b").2, ∃ task, e.call = .generate task ∧
      task.basePackage = "a..b" ∧ task.package = "a..b." ∧
      ¬ PackageName.IsDotted task.basePackage ∧ ¬ PackageName.IsDotted task.package ∧
      PackageName.spelledBy (PackageName.directory task.basePackage) = "a.b") ∧
    ∃ e ∈ copying.calls (sparse "--!").1 (sparse "--!").2, ∃ task, e.call = .generate task ∧
      task.package = "" := by
  have hdotted : ⟨⟨"/out/a/b/-.json"⟩, "a..b.", "a..b", ⟨"out"⟩, false⟩ ∈ sparseTasks "a..b" := by
    decide +kernel
  have hempty : ⟨⟨"/out/-.json"⟩, "", "", ⟨"out"⟩, false⟩ ∈ sparseTasks "--!" := by
    decide +kernel
  have hspelled : PackageName.spelledBy (PackageName.directory "a..b") = "a.b" := by
    decide +kernel
  obtain ⟨e, he, hcall⟩ := exists_of_mem_sparseTasks hdotted
  obtain ⟨e', he', hcall'⟩ := exists_of_mem_sparseTasks hempty
  have hundotted : ∀ name, PackageName.cleaned name = name →
      [] ∈ Text.fields '.' name.toList → ¬ PackageName.IsDotted name :=
    fun name hclean hnil h => (PackageName.isDotted_iff_fields hclean).1 h hnil
  exact ⟨⟨e, he, _, hcall, rfl, rfl, hundotted "a..b" (by decide) (by decide),
    hundotted "a..b." (by decide) (by decide), hspelled⟩, e', he', _, hcall', rfl⟩

/-! ### Packages of files nest -/

/-- A file's package names the directory of the base package and, inside it, that of the stem; the
files of a build are therefore generated at or below the directory of the target. -/
theorem packages_nested :
    (∀ basePackage fileName : String,
      (PackageName.directory
          (PackageName.ofFile (PackageName.cleaned basePackage) fileName)).components =
        (PackageName.directory (PackageName.cleaned basePackage)).components ++
          (PackageName.directory
            (PackageName.cleaned (PackageName.stem fileName))).components) ∧
    (∀ (root : Path) (basePackage fileName : String),
      (Target.below root basePackage).directory.components <+:
        (root.join (PackageName.directory (PackageName.ofFile
          (Target.below root basePackage).basePackage fileName))).components) ∧
    ∀ (toolchain : Toolchain σ) (job : Job) (w : Workspace σ), ∀ e ∈ toolchain.calls job w,
      ∀ task, e.call = .generate task → job.target.directory.components <+:
        (task.outputRoot.join (PackageName.directory task.package)).components := by
  refine ⟨PackageName.components_directory_ofFile, fun root basePackage fileName => ?_,
    fun toolchain job w e he task hcall => ?_⟩
  · have hname : (Target.below root basePackage).basePackage = PackageName.cleaned basePackage := by
      simp only [Target.below]
    rw [hname]
    exact Target.below_isPrefix root basePackage fileName
  · obtain ⟨files, -, idl, -, jsonFile, rfl⟩ := exists_generated he hcall
    exact (Target.named_generatorTask job idl jsonFile).below

theorem sparse_nested :
    ∃ e ∈ copying.calls (sparse ".a-..b").1 (sparse ".a-..b").2, ∃ task,
      e.call = .generate task ∧ task.package = ".a..b." ∧
      (sparse ".a-..b").1.target.directory.components <+:
        (task.outputRoot.join (PackageName.directory task.package)).components := by
  have hmem : ⟨⟨"/out/a/b/-.json"⟩, ".a..b.", ".a..b", ⟨"out"⟩, false⟩
      ∈ sparseTasks ".a-..b" := by decide +kernel
  obtain ⟨e, he, hcall⟩ := exists_of_mem_sparseTasks hmem
  exact ⟨e, he, _, hcall, rfl, packages_nested.2.2 copying _ _ e he _ hcall⟩

end Toolchain

end IdlBuild
