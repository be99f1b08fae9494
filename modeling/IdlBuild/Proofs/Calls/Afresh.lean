import IdlBuild.Proofs.Calls.Determined
import IdlBuild.Proofs.Targets.Afresh

/-!
# Builds that begin afresh

A build that clears the directory of its target first does the same whatever was there: it is made
ready before anything else is looked at (`readyTarget_endsAlike`), and from then on the two builds
find the same (`build_afresh`).
-/

namespace IdlBuild

open FileSystem
open IdlBuild.Path (Ancestor)
open Target (StandsApart FitsBelow)

variable {σ : Type}

/-- Whether a job clears the directory of its target first, and two workspaces differ in nothing but
what is at and below that directory, which the way there does not pass. -/
structure Job.DifferInOutput (job : Job) (w w' : Workspace σ) : Prop where
  clears : job.clearFirst = true
  segments : PackageName.segments (PackageName.cleaned job.basePackage) ≠ []
  files : AlikeBeside job.target.directory w.files w'.files
  journal : w.journal = w'.journal
  callees : w.callees = w'.callees
  apart : StandsApart w.files job.target.directory
  apart' : StandsApart w'.files job.target.directory

namespace Toolchain

theorem prepared_alike {job : Job} {w w' : Workspace σ} (h : job.DifferInOutput w w')
    (hfits : FitsBelow w.files job.target.directory)
    (hfits' : FitsBelow w'.files job.target.directory) :
    LeaveAlike (job.prepared w.files) (job.prepared w'.files) := by
  have hbelow : Target.below job.target.root job.target.basePackage = job.target :=
    Target.below_cleaned job.outputRoot job.basePackage
  have hsegments : PackageName.segments (PackageName.cleaned job.target.basePackage) ≠ [] := by
    rw [show job.target.basePackage = PackageName.cleaned job.basePackage from rfl,
      PackageName.cleaned_cleaned]
    exact h.segments
  obtain ⟨hclears, -, hfiles, -, -, happart, happart'⟩ := h
  unfold Job.prepared
  rw [hclears]
  rw [← hbelow] at hfiles happart happart' hfits hfits'
  exact Target.makeReady_alike job.target.root hsegments hfiles happart hfits happart' hfits'

theorem readyTarget_endsAlike {job : Job} {w w' : Workspace σ} (h : job.DifferInOutput w w')
    (hfits : FitsBelow w.files job.target.directory)
    (hfits' : FitsBelow w'.files job.target.directory) :
    (readyTarget job job.target : BuildM σ Unit).EndsAlike w w' := by
  obtain ⟨hresult, hfiles⟩ := (prepared_alike h hfits hfits').both
  refine ⟨?_, ?_⟩
  · rw [runIn_readyTarget, runIn_readyTarget, hresult]
  · rw [runIn_readyTarget, runIn_readyTarget, h.journal, h.callees]
    exact ⟨hfiles, rfl, rfl⟩

/-- A build that clears first gives the same result and leaves the same files whatever was at and
below the directory of its target. -/
theorem build_afresh (toolchain : Toolchain σ) (htools : toolchain.Determined) (job : Job)
    (w w' : Workspace σ) (h : job.DifferInOutput w w')
    (hfits : FitsBelow w.files job.target.directory)
    (hfits' : FitsBelow w'.files job.target.directory) :
    (toolchain.build job).EndsAlike w w' := by
  have hselect : (BuildM.readingFiles (σ := σ) fun fs journal =>
      selectInputs fs job.inputs job.excluded journal).Determined :=
    BuildM.determined_readingFiles fun fs fs' halike =>
      funext fun journal => selectInputs_alike halike job.inputs job.excluded journal
  refine (readyTarget_endsAlike h hfits hfits').bind fun _ =>
    (BuildM.determined_note _ _).bind fun _ => hselect.bind fun files => ?_
  by_cases hnone : files.isEmpty = true
  · rw [if_pos hnone]
    exact (BuildM.determined_note _ _).bind fun _ => BuildM.determined_pure _
  · rw [if_neg hnone]
    exact (determined_handleAll htools job.target job.immutable files).bind fun tasks =>
      BuildM.determined_pure _

/-- A target with an IDL file and other output in it, beside a file to build from. -/
def littered : FileSystem :=
  FileSystem.empty
    |>.add [] "a.idl" (.file [0x31] 0o644)
    |>.add [] "out" .directory
    |>.add ["out"] "gen" .directory
    |>.add ["out", "gen"] "old.idl" (.file [0x32] 0o644)
    |>.add ["out", "gen"] "sub" .directory
    |>.add ["out", "gen", "sub"] "a.json" (.link ⟨"../../../a.idl"⟩)

/-- A job that walks everything, the directory of its target included. -/
def anew : Job := ⟨".", .ofNames [], ⟨"out"⟩, "gen", false, true⟩

theorem littered_afresh :
    copying.Determined ∧
      anew.DifferInOutput (.ofFiles littered) (.ofFiles (littered.without ["out", "gen"])) ∧
      FitsBelow littered anew.target.directory ∧
      FitsBelow (littered.without ["out", "gen"]) anew.target.directory ∧
      (copying.build anew).EndsAlike (.ofFiles littered)
        (.ofFiles (littered.without ["out", "gen"])) := by
  have hdirectory : anew.target.directory = ⟨"out/gen"⟩ := by decide
  have hlink : littered.linkStatus ⟨"out/gen"⟩ = .ok (["out", "gen"], .directory) := by
    decide +kernel
  have hgone : (littered.without ["out", "gen"]).linkStatus ⟨"out/gen"⟩ = .error .noSuchEntry := by
    decide +kernel
  have hwd : ¬ (["out", "gen"] : Location) <+: littered.workingDirectory := by decide +kernel
  have hfits : FitsBelow littered anew.target.directory := by
    intro location node hfound inner node' hmem
    rw [hdirectory] at hfound ⊢
    obtain ⟨rfl, rfl⟩ := Prod.mk.inj (Except.ok.inj (hlink.symm.trans hfound))
    have hall : ∀ e ∈ littered.entries, 7 + Target.sizeBehind (e.1.drop 2) < pathLimit := by
      decide +kernel
    exact hall _ hmem
  have hfits' : FitsBelow (littered.without ["out", "gen"]) anew.target.directory := by
    intro location node hfound
    rw [hdirectory, hgone] at hfound
    cases hfound
  have hdiffer : anew.DifferInOutput (.ofFiles littered)
      (.ofFiles (littered.without ["out", "gen"])) := by
    refine ⟨rfl, by decide, ?_, rfl, rfl, fun location node hfound => ?_,
      fun location node hfound => ?_⟩
    · rw [hdirectory]
      exact alikeBeside_without hlink hwd
    · rw [hdirectory] at hfound ⊢
      obtain ⟨rfl, rfl⟩ := Prod.mk.inj (Except.ok.inj (hlink.symm.trans hfound))
      refine ⟨hwd, fun q hq => ?_⟩
      rcases Target.ancestor_out_gen hq with rfl | rfl <;> decide +kernel
    · rw [hdirectory] at hfound
      cases hgone.symm.trans hfound
  exact ⟨determined_copying, hdiffer, hfits, hfits',
    build_afresh copying determined_copying anew _ _ hdiffer hfits hfits'⟩

/-! #### Old output that shows -/

/-- A target with one file in it. -/
def stale : FileSystem :=
  FileSystem.empty
    |>.add [] "gen" .directory
    |>.add ["gen"] "stale.json" (.file [0x5B, 0x5D] 0o644)

/-- A job whose target has a path that is almost too long. -/
def farAway : Job := ⟨"", .ofNames [], Path.dotted 2043 ⟨"./"⟩, "gen", false, true⟩

theorem directory_farAway : farAway.target.directory = Path.dotted 2043 ⟨"./gen"⟩ := by
  have hgen : PackageName.directory (PackageName.cleaned "gen") = ⟨"gen"⟩ := by decide
  unfold Job.target farAway Target.below
  dsimp only
  rw [hgen, Path.join_dotted 2043 (by decide) (by decide)]
  rfl

theorem endsWith_farAway : farAway.target.directory.EndsWith [] (.name "gen") := by
  rw [directory_farAway]
  exact Path.endsWith_dotted 2043 ⟨by decide, [[dot]], by decide⟩

theorem names_farAway (fs : FileSystem) (hwd : fs.workingDirectory = []) :
    Names fs farAway.target.directory [] "gen" := by
  refine ⟨by decide, Or.inl rfl, [], [], linkLimit, endsWith_farAway, ?_, .done⟩
  refine start_eq_ok_iff.2 ⟨?_, endsWith_farAway.bytes_ne_nil, ?_, ?_⟩
  · rw [directory_farAway]
    exact Path.not_mem_dotted 2043 (by decide)
  · rw [directory_farAway, Path.length_dotted]
    decide
  · rw [hwd, ite_self]

theorem ancestor_farAway {q : Path} (hq : Ancestor q farAway.target.directory) : q.body = [] := by
  have hfront := hq.body_isPrefix
  rw [endsWith_farAway.body] at hfront
  exact List.prefix_nil.1 hfront

theorem differ_farAway :
    farAway.DifferInOutput (.ofFiles stale) (.ofFiles (stale.without ["gen"])) := by
  have hlink : stale.linkStatus farAway.target.directory = .ok (["gen"], .directory) := by
    rw [(names_farAway stale (by decide +kernel)).linkStatus,
      show stale.node? ([] ++ [Text.encode "gen"]) = some .directory by decide +kernel]
    rfl
  have hgone : (stale.without ["gen"]).linkStatus farAway.target.directory
      = .error .noSuchEntry := by
    rw [(names_farAway (stale.without ["gen"]) (by decide +kernel)).linkStatus,
      show (stale.without ["gen"]).node? ([] ++ [Text.encode "gen"]) = none by decide +kernel]
  have hwd : ¬ (["gen"] : Location) <+: stale.workingDirectory := by decide +kernel
  refine ⟨rfl, by decide, alikeBeside_without hlink hwd, rfl, rfl, fun location node hfound => ?_,
    fun location node hfound => ?_⟩
  · obtain ⟨rfl, rfl⟩ := Prod.mk.inj (Except.ok.inj (hlink.symm.trans hfound))
    refine ⟨hwd, fun q hq => ?_⟩
    rw [status_of_body_nil (ancestor_farAway hq), status_of_body_nil (ancestor_farAway hq)]
    exact congrArg _ ((keptIn_of_without hwd).start q).symm
  · cases hgone.symm.trans hfound

/-- What is prepared for a job that clears, when nothing is in the way. -/
theorem prepared_of_names {job : Job} {fs : FileSystem} {directory : Location} {name : FileName}
    (hclears : job.clearFirst = true) (hnames : Names fs job.target.directory directory name)
    (hnone : fs.node? (directory ++ [name]) = none) :
    job.prepared fs = (.ok job.target.directory, fs.add directory name .directory) := by
  have hlink : fs.linkStatus job.target.directory = .error .noSuchEntry := by
    rw [hnames.linkStatus, hnone]
  have hmade := makeDirectoriesWithin_of_names hnames hnone job.target.directory.bytes.length
  have hprovided : Target.provideDirectory fs job.target.directory
      = (.ok (), fs.add directory name .directory) := by
    unfold Target.provideDirectory makeDirectories
    rw [hmade]
  have hready := Target.makeReady_below fs job.outputRoot job.basePackage job.clearFirst
  rw [show Target.below job.outputRoot job.basePackage = job.target from rfl, hclears, if_pos rfl,
    Target.clear_of_error hlink, if_pos (by decide)] at hready
  simp only [hprovided] at hready
  unfold Job.prepared
  rw [hclears]
  exact hready

theorem prepared_stale : ∃ failure cleared, farAway.prepared stale = (.error failure, cleared) := by
  have hnames := names_farAway stale (by decide +kernel)
  have hsize : pathLimit ≤ (farAway.target.directory.join ⟨"stale.json"⟩).bytes.length := by
    rw [hnames.length_join ⟨by decide, by decide, by decide, by decide⟩, directory_farAway,
      Path.length_dotted]
    decide
  have hchild : stale.node? ([] ++ [Text.encode "gen"] ++ [Text.encode "stale.json"])
      = some (.file [0x5B, 0x5D] 0o644) := by
    decide +kernel
  have hfails := Target.clear_of_size hnames (by decide +kernel) hchild hsize
  have hready := Target.makeReady_below stale farAway.outputRoot farAway.basePackage true
  rw [show Target.below farAway.outputRoot farAway.basePackage = farAway.target from rfl,
    if_pos rfl] at hready
  rcases hclear : Target.clear stale farAway.target.directory with ⟨failure | ⟨⟩, cleared⟩
  · rw [hclear] at hready
    exact ⟨failure, cleared, hready⟩
  · rw [hclear] at hfails
    exact absurd rfl hfails

theorem build_of_unready (toolchain : Toolchain σ) {job : Job} {w : Workspace σ} {failure : Failure}
    {ready : FileSystem} (hready : job.prepared w.files = (.error failure, ready)) :
    ((toolchain.build job).runIn w).1 = .error failure := by
  rw [runIn_build, hready]

theorem build_of_no_inputs (toolchain : Toolchain σ) {job : Job} {w : Workspace σ}
    {directory : Path} {ready : FileSystem} (hready : job.prepared w.files = (.ok directory, ready))
    (hinputs : commaList job.inputs = []) :
    ((toolchain.build job).runIn w).1 = .ok ⟨job.target.directory, []⟩ := by
  rw [runIn_build, hready]
  simp only [selectInputs, hinputs, inTurn_nil]
  rfl

/-- A file whose path is too long cannot be removed, and a build fails that would have succeeded
without it. -/
theorem stale_shows :
    copying.Determined ∧
      farAway.DifferInOutput (.ofFiles stale) (.ofFiles (stale.without ["gen"])) ∧
      (∀ q, Ancestor q farAway.target.directory → ∀ fs : FileSystem, ∀ e,
        fs.linkStatus q = .ok e → ∃ location, fs.status q = .ok (location, .directory)) ∧
      (∃ failure, ((copying.build farAway).runIn (.ofFiles stale)).1 = .error failure) ∧
      ((copying.build farAway).runIn (.ofFiles (stale.without ["gen"]))).1
        = .ok ⟨farAway.target.directory, []⟩ := by
  refine ⟨determined_copying, differ_farAway, fun q hq fs e hfound => ?_, ?_, ?_⟩
  · rw [linkStatus_of_body_nil (ancestor_farAway hq)] at hfound
    rw [status_of_body_nil (ancestor_farAway hq)]
    cases hstart : fs.start q with
    | error fault =>
      rw [hstart] at hfound
      cases hfound
    | ok start => exact ⟨start, rfl⟩
  · obtain ⟨failure, cleared, hready⟩ := prepared_stale
    exact ⟨failure, build_of_unready copying hready⟩
  · have hnames := names_farAway (stale.without ["gen"]) (by decide +kernel)
    have hnone : (stale.without ["gen"]).node? ([] ++ [Text.encode "gen"]) = none := by decide +kernel
    have hready := prepared_of_names rfl hnames hnone
    exact build_of_no_inputs copying hready (by decide)

end Toolchain

end IdlBuild
