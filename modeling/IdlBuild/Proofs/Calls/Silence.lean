import IdlBuild.Proofs.Child.Forwarding
import IdlBuild.Proofs.Inputs.Loops
import IdlBuild.Settings.Build

/-!
# Lines that are never reported

A journal is only added to, and what a step adds is known by what it is put together from. So a
warning that is none of those of selections and of child programs is reported by no selection, no
call and no handling of a file (`NeverReports`); it can only come from the build itself.
-/

namespace IdlBuild

/-! ### Steps that leave a line out -/

/-- Whether a journal goes on from an earlier one without a line. -/
def Journal.GoesOnWithout (line : Line) (before after : Journal) : Prop :=
  ∃ more, after.lines = before.lines ++ more ∧ line ∉ more

namespace Journal.GoesOnWithout

variable {line : Line} {journal before after : Journal}

theorem rfl : GoesOnWithout line journal journal := ⟨[], by simp⟩

theorem trans (h : GoesOnWithout line journal before) (h' : GoesOnWithout line before after) :
    GoesOnWithout line journal after := by
  obtain ⟨more, hbefore, hmore⟩ := h
  obtain ⟨more', hafter, hmore'⟩ := h'
  refine ⟨more ++ more', by rw [hafter, hbefore, List.append_assoc], ?_⟩
  rw [List.mem_append, not_or]
  exact ⟨hmore, hmore'⟩

theorem add {severity : Severity} {message : String} (h : GoesOnWithout line before after)
    (hne : line ≠ ⟨severity, message⟩) : GoesOnWithout line before (after.add severity message) :=
  h.trans ⟨[⟨severity, message⟩], lines_add .., by simpa using hne⟩

end Journal.GoesOnWithout

open Journal (GoesOnWithout)

/-- Whether a step never reports a line. -/
def BuildM.NeverReports {σ α : Type} (line : Line) (step : BuildM σ α) : Prop :=
  ∀ w, GoesOnWithout line w.journal (step.runIn w).2.journal

namespace BuildM.NeverReports

variable {σ α β : Type} {line : Line}

theorem pure (a : α) : NeverReports line (Pure.pure a : BuildM σ α) := fun _ => .rfl

theorem bind {step : BuildM σ α} {next : α → BuildM σ β} (h : NeverReports line step)
    (hnext : ∀ a, NeverReports line (next a)) : NeverReports line (step >>= next) := by
  intro w
  have hstep := h w
  rw [runIn_bind]
  generalize step.runIn w = ran at hstep ⊢
  rcases ran with ⟨failure | a, after⟩
  · exact hstep
  · exact hstep.trans (hnext a after)

theorem note {severity : Severity} {message : String} (h : line ≠ ⟨severity, message⟩) :
    NeverReports line (BuildM.note severity message : BuildM σ Unit) :=
  fun _ => Journal.GoesOnWithout.rfl.add h

theorem fail (failure : Failure) : NeverReports line (BuildM.fail failure : BuildM σ α) :=
  fun _ => .rfl

theorem onFiles (f : FileSystem → Except Failure α × FileSystem) :
    NeverReports line (BuildM.onFiles f : BuildM σ α) := fun _ => .rfl

theorem ask (context : String) (f : FileSystem → Except IoFault α) :
    NeverReports line (BuildM.ask context f : BuildM σ α) := by
  intro w
  simp only [BuildM.ask, runIn_ofFunction]
  cases f w.files with
  | error fault => exact .rfl
  | ok a => exact .rfl

theorem readingFiles {f : FileSystem → Journal → Except Failure α × Journal}
    (h : ∀ fs journal, GoesOnWithout line journal (f fs journal).2) :
    NeverReports line (BuildM.readingFiles f : BuildM σ α) := fun w => h w.files w.journal

theorem inPhase {step : BuildM σ α} (path : Path) (phase : Phase) (h : NeverReports line step) :
    NeverReports line (BuildM.inPhase path phase step) := by
  intro w
  have hstep := h w
  rw [runIn_inPhase]
  generalize step.runIn w = ran at hstep ⊢
  rcases ran with ⟨failure | a, after⟩
  · exact hstep
  · exact hstep

end BuildM.NeverReports

/-! ### Other warnings -/

/-- Whether a line is a warning, and none that selections and child programs give. -/
structure Line.IsApart (line : Line) : Prop where
  severity : line.severity = .warn
  not_skipping : ∀ input message : String,
    line.message ≠ s!"Skipping unreadable entry under {input}: {message}"
  not_heldOpen : line.message ≠ Child.heldOpenWarning

section

variable {line : Line} (h : line.IsApart)

include h

theorem Line.IsApart.ne_of_severity {severity : Severity} (hne : severity ≠ .warn)
    (message : String) : line ≠ ⟨severity, message⟩ := by
  rintro rfl
  exact hne h.severity

theorem Line.IsApart.neverReports_note {σ : Type} {severity : Severity} (hne : severity ≠ .warn)
    (message : String) :
    BuildM.NeverReports line (BuildM.note severity message : BuildM σ Unit) :=
  .note (h.ne_of_severity hne message)

/-! ### Selections -/

section

variable {fs : FileSystem} {exclusions : Exclusions} {journal : Journal} {input : String}
  {finding : Finding}

theorem considerVisit_goesOn {root : Path} {visit : FileSystem.Visit}
    (hfinding : GoesOnWithout line journal finding.journal) :
    GoesOnWithout line journal
      (considerVisit fs root exclusions finding visit).2.journal := by
  cases visit with
  | fault fault =>
    refine hfinding.add fun hline => h.not_skipping root.text fault.message ?_
    rw [hline]
  | entry p kind =>
    cases kind with
    | directory => exact hfinding
    | file =>
      simp only [considerVisit]
      split_ifs
      · exact hfinding
      · exact hfinding.add (h.ne_of_severity (by decide) _)
      · rwa [journal_addPath]

theorem considerInput_goesOn (hfinding : GoesOnWithout line journal finding.journal) :
    GoesOnWithout line journal (considerInput fs exclusions finding input).2.journal := by
  simp only [considerInput]
  split_ifs
  · exact hfinding
  · exact inTurn_keeps (P := fun finding : Finding => GoesOnWithout line journal finding.journal) _
      (fun _ _ _ hkept => considerVisit_goesOn h hkept) hfinding
  · rwa [journal_addPath]

theorem selectInputs_goesOn (inputs : String) :
    GoesOnWithout line journal (selectInputs fs inputs exclusions journal).2 := by
  have hstart : GoesOnWithout line journal
      (journal.add .debug s!"Tokenizing idl-files={inputs}") :=
    Journal.GoesOnWithout.rfl.add (h.ne_of_severity (by decide) _)
  have hkept : GoesOnWithout line journal (inTurn (considerInput fs exclusions)
      ⟨[], journal.add .debug s!"Tokenizing idl-files={inputs}"⟩ (commaList inputs)).2.journal :=
    inTurn_keeps (P := fun finding : Finding => GoesOnWithout line journal finding.journal) _
      (fun _ _ _ hfinding => considerInput_goesOn h hfinding) hstart
  simp only [selectInputs]
  generalize inTurn (considerInput fs exclusions) _ (commaList inputs) = ran at hkept ⊢
  rcases ran with ⟨failure | ⟨⟩, finding⟩
  · exact hkept
  · exact hkept

end

/-! ### Calls -/

theorem Child.not_mem_supervise (turns : List Supervision.Turn) (deeds : List Deed) :
    line ∉ supervise turns deeds := by
  intro hmem
  have hreach : Supervision.Reaches
      (.start ⟨Supervision.pipeCapacity, Supervision.pipeCapacity⟩ deeds)
      ((Supervision.start ⟨Supervision.pipeCapacity, Supervision.pipeCapacity⟩ deeds).take
        turns).finish :=
    (Supervision.reaches_take turns _).trans (Supervision.reaches_runFor _ _)
  -- The lines of a child's streams are of severity info or error.
  have hseverity := Supervision.reaches_severities hreach line hmem
  rw [h.severity] at hseverity
  simp at hseverity

theorem Child.not_mem_accountLines (limit : Option Nat) (account : Account) :
    line ∉ accountLines limit account := by
  unfold accountLines
  rw [List.mem_append, not_or]
  refine ⟨not_mem_supervise h _ _, ?_⟩
  split_ifs
  · intro hmem
    obtain ⟨stream, -, hline⟩ := List.mem_map.1 hmem
    exact h.not_heldOpen (by rw [← hline])
  · exact List.not_mem_nil

variable {σ : Type}

theorem Child.neverReports_run (launcher : Launcher σ) (arguments : List String)
    (limit : Option Nat) : BuildM.NeverReports line (run launcher arguments limit) := by
  unfold run
  split_ifs
  · exact .pure _
  · intro w
    rw [BuildM.runIn_ofFunction]
    rcases checked launcher arguments limit w.files w.callees with
      ⟨fault | account, files, callees⟩
    · exact .rfl
    · exact ⟨_, rfl, not_mem_accountLines h limit account⟩

theorem TranslatorProgram.neverReports (launcher : Child.Launcher σ) (t : TranslatorProgram)
    (task : TranslatorTask) : BuildM.NeverReports line ((t.translator launcher).carryOut task) := by
  refine .bind (.onFiles _) fun arguments => .bind (.onFiles _) fun _ =>
    .bind (h.neverReports_note (by decide) _) fun _ =>
      .bind (Child.neverReports_run h launcher arguments t.limit) fun detail? => ?_
  cases detail? with
  | none => exact .onFiles _
  | some detail => exact .fail _

theorem Service.neverReports (network : Http.Network σ) (address : String) (limit : Option Nat)
    (task : TranslatorTask) :
    BuildM.NeverReports line ((Service.translator network address limit).carryOut task) := by
  refine .bind (.onFiles _) fun bundle => .bind (h.neverReports_note (by decide) _) fun _ =>
    .bind (fun w => ?_) fun body => .onFiles _
  exact .rfl

theorem Generator.neverReports_ofProgram (launcher : Child.Launcher σ) (program : String)
    (arguments : List String) (limit : Option Nat) (task : GeneratorTask) :
    BuildM.NeverReports line
      ((Generator.ofProgram launcher program arguments limit).carryOut task) := by
  refine .bind (h.neverReports_note (by decide) _) fun _ =>
    .bind (Child.neverReports_run h launcher _ limit) fun detail? => ?_
  cases detail? with
  | none => exact .pure _
  | some detail => exact .fail _

end

/-! ### Toolchains -/

namespace Toolchain

variable {σ : Type} {toolchain : Toolchain σ} {line : Line}

/-- Whether neither the translator nor the generator ever reports a line. -/
structure NeverReports (toolchain : Toolchain σ) (line : Line) : Prop where
  translator : ∀ task, BuildM.NeverReports line (toolchain.translator.carryOut task)
  generator : ∀ task, BuildM.NeverReports line (toolchain.generator.carryOut task)

theorem neverReports_handle (h : line.IsApart) (hcalls : toolchain.NeverReports line)
    (target : Target) (immutable : Bool) (idl : InputFile) :
    BuildM.NeverReports line (toolchain.handle target immutable idl) := by
  unfold handle
  refine .bind (.inPhase _ _ (.ask _ _)) fun jsonFile => ?_
  refine .bind (h.neverReports_note (by decide) _) fun _ => ?_
  refine .bind (.inPhase _ _ (hcalls.translator _)) fun _ => ?_
  exact .bind (.inPhase _ _ (hcalls.generator _)) fun _ => .pure _

theorem neverReports_handleAll (h : line.IsApart) (hcalls : toolchain.NeverReports line)
    (target : Target) (immutable : Bool) (files : List InputFile) :
    BuildM.NeverReports line (toolchain.handleAll target immutable files) := by
  induction files with
  | nil => exact .pure _
  | cons idl rest ih =>
    exact .bind (neverReports_handle h hcalls target immutable idl) fun _ =>
      .bind ih fun _ => .pure _

end Toolchain

/-- Whatever the settings name, it does not report a warning that is not its own. -/
theorem Settings.neverReports {σ : Type} {line : Line} (h : line.IsApart)
    (surroundings : Surroundings σ) (settings : Settings) :
    Toolchain.NeverReports
      ⟨settings.translatorIn surroundings, settings.generatorIn surroundings⟩ line where
  translator task := by
    unfold translatorIn
    cases TranslatorKind.ofText settings.translator with
    | service address => exact Service.neverReports h _ _ _ task
    | program name => exact TranslatorProgram.neverReports h _ _ task
  generator task := by
    unfold generatorIn
    cases settings.generator with
    | none => exact h.neverReports_note (by decide) _
    | some name => exact Generator.neverReports_ofProgram h _ _ _ _ task

end IdlBuild
