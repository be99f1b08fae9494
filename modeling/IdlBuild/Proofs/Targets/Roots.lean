import IdlBuild.Proofs.Calls.Record
import IdlBuild.Proofs.Calls.Silence
import IdlBuild.Proofs.Packages.Names

/-!
# Builds into the root

A build announces its target before it touches a file, and warns there when the base package has
nothing left once it is cleaned. The directory of the target is the root when the package has no
segment. A package of dots alone has no segment and is not empty, so the one does not say the other
(`build_warnsOfRoot`).
-/

namespace IdlBuild

/-! ### Announcements -/

namespace Job

/-- The warning that a job's output has no directory of its own. -/
def rootWarning (job : Job) : Line :=
  ⟨.warn, Toolchain.bareRootWarning job.basePackage job.outputRoot⟩

/-- The lines that announce the target of a job. -/
def announcement (job : Job) : List Line :=
  (if job.target.basePackage.isEmpty then [job.rootWarning] else []) ++
    [⟨.info, Toolchain.directoryNotice job.clearFirst job.target.directory⟩]

/-- A workspace with the target of a job announced. -/
def announcedIn {σ : Type} (job : Job) (w : Workspace σ) : Workspace σ :=
  { w with journal := ⟨w.journal.lines ++ job.announcement⟩ }

theorem head?_rootWarning (job : Job) : job.rootWarning.message.toList.head? = some 'B' := by
  -- The equation of `bareRootWarning` would have the texts compared byte by byte.
  delta rootWarning Toolchain.bareRootWarning
  simp [toString]

theorem rootWarning_isApart (job : Job) : job.rootWarning.IsApart where
  severity := rfl
  not_skipping input message h := by
    have hhead := job.head?_rootWarning
    rw [h] at hhead
    simp [toString] at hhead
  not_heldOpen h := by
    have hhead := job.head?_rootWarning
    rw [h] at hhead
    exact absurd hhead (by decide)

theorem mem_announcement (job : Job) :
    job.rootWarning ∈ job.announcement ↔ PackageName.cleaned job.basePackage = "" := by
  have hnotice : job.rootWarning
      ≠ ⟨.info, Toolchain.directoryNotice job.clearFirst job.target.directory⟩ :=
    job.rootWarning_isApart.ne_of_severity (by decide) _
  unfold announcement
  rw [List.mem_append, List.mem_singleton, or_iff_left hnotice, job.basePackage_target,
    ← String.isEmpty_iff]
  split_ifs with h
  · simp [h]
  · simp [h]

end Job

/-! ### Whole builds -/

namespace Target

theorem same_root_iff (root : Path) (basePackage : String) :
    (below root basePackage).directory.Same root ↔
      PackageName.segments (PackageName.cleaned basePackage) = [] := by
  unfold Path.Same
  rw [components_directory, List.append_right_eq_self, List.map_eq_nil_iff, List.map_eq_nil_iff]

end Target

namespace Toolchain

variable {σ : Type}

/-- A build makes its target ready, and what is left of it does not warn of the root again. -/
theorem exists_build_eq (toolchain : Toolchain σ) (job : Job) :
    ∃ rest : BuildM σ Product,
      toolchain.build job = (readyTarget job job.target >>= fun _ => rest) ∧
      (toolchain.NeverReports job.rootWarning → BuildM.NeverReports job.rootWarning rest) := by
  unfold build Job.target
  dsimp only
  -- What is left is what the definition says behind `readyTarget`.
  refine ⟨_, rfl, fun h => ?_⟩
  have hapart := job.rootWarning_isApart
  refine .bind (hapart.neverReports_note (by decide) _) fun _ => ?_
  refine .bind (.readingFiles fun fs journal => selectInputs_goesOn hapart _) fun files => ?_
  split_ifs
  · exact .bind (hapart.neverReports_note (by decide) _) fun _ => .pure _
  · exact .bind (neverReports_handleAll hapart h _ _ files) fun _ => .pure _

theorem targetJournal_eq (job : Job) (journal : Journal) :
    targetJournal job journal = ⟨journal.lines ++ job.announcement⟩ := by
  unfold targetJournal Job.announcement Job.rootWarning
  rw [job.root_target]
  by_cases h : job.target.basePackage.isEmpty = true
  · simp [h, Journal.add]
  · simp [h, Journal.add]

/-- A build announces its target, makes its directory ready, and only then goes on. -/
theorem exists_runIn_build (toolchain : Toolchain σ) (job : Job) :
    ∃ rest : BuildM σ Product,
      (∀ w, (toolchain.build job).runIn w =
        (BuildM.onFiles job.prepared >>= fun _ => rest).runIn (job.announcedIn w)) ∧
      (toolchain.NeverReports job.rootWarning → BuildM.NeverReports job.rootWarning rest) := by
  obtain ⟨rest, hbuild, hrest⟩ := exists_build_eq toolchain job
  refine ⟨rest, fun w => ?_, hrest⟩
  rw [hbuild, BuildM.runIn_bind, runIn_readyTarget, BuildM.runIn_bind, targetJournal_eq]
  simp only [BuildM.onFiles, BuildM.runIn_ofFunction, Job.announcedIn]
  rcases job.prepared w.files with ⟨failure | made, fs⟩
  · rfl
  · rfl

/-- A build announces its target before it touches a file. There and nowhere else it warns of the
root, and it does so when the directory of the target is the root and the base package has no dot.
The directory is the root when the package has no segment: when the base package has no letter, digit
or underscore, with dots or without. -/
theorem build_warnsOfRoot (toolchain : Toolchain σ) (job : Job) :
    (∃ rest : BuildM σ Product, ∀ w, (toolchain.build job).runIn w =
      (BuildM.onFiles job.prepared >>= fun _ => rest).runIn (job.announcedIn w)) ∧
    (toolchain.NeverReports job.rootWarning → ∀ w, ∃ more,
      ((toolchain.build job).runIn w).2.journal.lines
          = w.journal.lines ++ job.announcement ++ more ∧ job.rootWarning ∉ more) ∧
    (∀ (surroundings : Surroundings σ) (settings : Settings), NeverReports
      ⟨settings.translatorIn surroundings, settings.generatorIn surroundings⟩ job.rootWarning) ∧
    (job.rootWarning ∈ job.announcement ↔
      job.target.directory.Same job.target.root ∧ '.' ∉ job.basePackage.toList) ∧
    (job.target.directory.Same job.target.root ↔
      (PackageName.directory (PackageName.cleaned job.basePackage)).components = []) ∧
    (job.target.directory.Same job.target.root ↔
      ∀ c ∈ job.basePackage.toList, ¬ PackageName.IsWordChar c) := by
  have hsame : job.target.directory.Same job.target.root ↔
      PackageName.segments (PackageName.cleaned job.basePackage) = [] := by
    rw [job.root_target, Job.target, Target.same_root_iff]
  have hcomponents := PackageName.components_directory (PackageName.cleaned_cleaned job.basePackage)
  obtain ⟨rest, hbuild, hrest⟩ := exists_runIn_build toolchain job
  refine ⟨⟨rest, hbuild⟩, fun hquiet w => ?_,
    Settings.neverReports job.rootWarning_isApart, ?_, ?_, ?_⟩
  · rw [hbuild]
    exact (BuildM.NeverReports.bind (.onFiles _) fun _ => hrest hquiet) (job.announcedIn w)
  · rw [job.mem_announcement, hsame, PackageName.cleaned_eq_empty_iff]
  · rw [hsame, hcomponents, List.map_eq_nil_iff, List.map_eq_nil_iff]
  · rw [hsame, PackageName.segments_cleaned_eq_nil_iff]

/-- A file in the root of the output, and a job that clears the directory of its target. -/
def rooted (basePackage : String) : Job × Workspace Unit :=
  (⟨"", .ofNames [], ⟨"out"⟩, basePackage, false, true⟩,
    .ofFiles <| FileSystem.empty
      |>.add [] "out" .directory
      |>.add ["out"] "keep" (.file [0x31] 0o644))

theorem copying_neverReports (job : Job) : copying.NeverReports job.rootWarning where
  translator _ := .onFiles _
  generator _ := job.rootWarning_isApart.neverReports_note (by decide) _

theorem rooted_warnsOfRoot :
    (rooted "--!").1.rootWarning
      = ⟨.warn, "Base package \"--!\" is empty after sanitizing; output goes directly into out"⟩ ∧
    (rooted "--!").1.rootWarning ∈ (rooted "--!").1.announcement ∧
    copying.NeverReports (rooted "--!").1.rootWarning ∧
    ∃ more, ((copying.build (rooted "--!").1).runIn (rooted "--!").2).2.journal.lines
      = (rooted "--!").1.announcement ++ more ∧ (rooted "--!").1.rootWarning ∉ more := by
  obtain ⟨-, honly, -, hwarned, -, -⟩ := build_warnsOfRoot copying (rooted "--!").1
  have hquiet := copying_neverReports (rooted "--!").1
  exact ⟨by decide, hwarned.2 (by decide), hquiet, honly hquiet _⟩

/-- A package of dots has the root cleared, and nothing warns of it. -/
theorem dotted_unwarned :
    (rooted "...").1.target.directory.Same (rooted "...").1.target.root ∧
    (PackageName.directory (PackageName.cleaned "...")).components = [] ∧
    ((copying.build (rooted "...").1).runIn (rooted "...").2).1 = .ok ⟨⟨"out/"⟩, []⟩ ∧
    (rooted "...").2.files.children ["out"] ≠ [] ∧
    ((copying.build (rooted "...").1).runIn (rooted "...").2).2.files.children ["out"] = [] ∧
    ((copying.build (rooted "...").1).runIn (rooted "...").2).2.journal.messagesAt .warn = [] := by
  decide +kernel

end Toolchain

end IdlBuild
