import IdlBuild.Proofs.Calls.Record
import IdlBuild.Proofs.Child.Forwarding
import IdlBuild.Proofs.Translators.Fresh
import Mathlib.Data.List.Chain

/-!
# What a build reports of its programs

The calls of a build follow one another: a generator starts with the workspace that the translator
has left, and the next file is announced in the one that the generator has left (`Span.Follows`). A
translator program that has no time limit leaves the lines of both of its streams in the journal,
merged, each of them once (`Heard`). So they all stand before whatever the generator reports for the
file, and before the announcement of the next file (`build_reportsInOrder`).
-/

namespace IdlBuild

open Child.Supervision (linesOf)

variable {σ : Type}

/-! ### Spans of calls -/

/-- A call with the workspace that it starts with and the one that it leaves. -/
structure Span (σ : Type) where
  call : Call
  before : Workspace σ
  after : Workspace σ

/-- How one call follows another: the generator gets what the translator has left for the same file,
and a translator gets what the generator before it has left, its own file announced. -/
def Span.Follows (earlier later : Span σ) : Prop :=
  match earlier.call, later.call with
  | .translate _, .generate _ =>
    later.call.jsonFile = earlier.call.jsonFile ∧ later.before = earlier.after
  | .generate _, .translate task =>
    later.before = Toolchain.announced earlier.after task.idl task.jsonFile
  | _, _ => False

/-- What a call does. -/
def Toolchain.perform (toolchain : Toolchain σ) : Call → BuildM σ Unit
  | .translate task => toolchain.translator.carryOut task
  | .generate task => toolchain.generator.carryOut task

/-- The calls for a list of files from one workspace to another, and how they end. -/
inductive Spans (toolchain : Toolchain σ) (target : Target) (immutable : Bool) :
    Workspace σ → List InputFile → List (Span σ) → Except Failure (List GeneratorTask) →
      Workspace σ → Prop where
  | done {w : Workspace σ} : Spans toolchain target immutable w [] [] (.ok []) w
  | unresolved {w : Workspace σ} {idl : InputFile} {rest : List InputFile} {fault : IoFault}
      (habsolute : w.files.absolute (target.jsonFile idl.bareName) = .error fault) :
      Spans toolchain target immutable w (idl :: rest) []
        (.error (.within idl.path .translating
          (.operation s!"resolve {(target.jsonFile idl.bareName).text}" fault))) w
  | untranslated {w after : Workspace σ} {idl : InputFile} {rest : List InputFile} {jsonFile : Path}
      {failure : Failure}
      (habsolute : w.files.absolute (target.jsonFile idl.bareName) = .ok jsonFile)
      (htranslate : (toolchain.perform (.translate ⟨idl, jsonFile⟩)).runIn
        (Toolchain.announced w idl jsonFile) = (.error failure, after)) :
      Spans toolchain target immutable w (idl :: rest)
        [⟨.translate ⟨idl, jsonFile⟩, Toolchain.announced w idl jsonFile, after⟩]
        (.error (.within idl.path .translating failure)) after
  | ungenerated {w middle after : Workspace σ} {idl : InputFile} {rest : List InputFile}
      {jsonFile : Path} {failure : Failure}
      (habsolute : w.files.absolute (target.jsonFile idl.bareName) = .ok jsonFile)
      (htranslate : (toolchain.perform (.translate ⟨idl, jsonFile⟩)).runIn
        (Toolchain.announced w idl jsonFile) = (.ok (), middle))
      (hgenerate : (toolchain.perform (.generate (target.generatorTask immutable idl jsonFile))).runIn
        middle = (.error failure, after)) :
      Spans toolchain target immutable w (idl :: rest)
        [⟨.translate ⟨idl, jsonFile⟩, Toolchain.announced w idl jsonFile, middle⟩,
          ⟨.generate (target.generatorTask immutable idl jsonFile), middle, after⟩]
        (.error (.within idl.path .generating failure)) after
  | handled {w middle after last : Workspace σ} {idl : InputFile} {rest : List InputFile}
      {jsonFile : Path} {spans : List (Span σ)} {result : Except Failure (List GeneratorTask)}
      (habsolute : w.files.absolute (target.jsonFile idl.bareName) = .ok jsonFile)
      (htranslate : (toolchain.perform (.translate ⟨idl, jsonFile⟩)).runIn
        (Toolchain.announced w idl jsonFile) = (.ok (), middle))
      (hgenerate : (toolchain.perform (.generate (target.generatorTask immutable idl jsonFile))).runIn
        middle = (.ok (), after))
      (hrest : Spans toolchain target immutable after rest spans result last) :
      Spans toolchain target immutable w (idl :: rest)
        (⟨.translate ⟨idl, jsonFile⟩, Toolchain.announced w idl jsonFile, middle⟩ ::
          ⟨.generate (target.generatorTask immutable idl jsonFile), middle, after⟩ :: spans)
        (result.map (target.generatorTask immutable idl jsonFile :: ·)) last

namespace Spans

variable {toolchain : Toolchain σ} {target : Target} {immutable : Bool} {w after : Workspace σ}
  {files : List InputFile} {spans : List (Span σ)} {result : Except Failure (List GeneratorTask)}

/-- The first call gets the workspace at the beginning, its own file announced. -/
theorem announced_of_head (h : Spans toolchain target immutable w files spans result after) :
    ∀ first ∈ spans.head?, ∃ task, first.call = .translate task ∧
      first.before = Toolchain.announced w task.idl task.jsonFile := by
  cases h with
  | done => simp
  | unresolved habsolute => simp
  | untranslated | ungenerated | handled =>
    intro first hfirst
    cases hfirst
    exact ⟨_, rfl, rfl⟩

theorem follows (h : Spans toolchain target immutable w files spans result after) :
    spans.IsChain Span.Follows := by
  induction h with
  | done => exact .nil
  | unresolved habsolute => exact .nil
  | untranslated habsolute htranslate => exact .singleton _
  | ungenerated habsolute htranslate hgenerate =>
    exact .cons_cons ⟨rfl, rfl⟩ (.singleton _)
  | handled habsolute htranslate hgenerate hrest ih =>
    refine .cons_cons ⟨rfl, rfl⟩ (List.isChain_cons.2 ⟨fun first hfirst => ?_, ih⟩)
    obtain ⟨task, hcall, hbefore⟩ := hrest.announced_of_head first hfirst
    unfold Span.Follows
    rw [hcall]
    exact hbefore

/-- Each span is what its call does. -/
theorem performed (h : Spans toolchain target immutable w files spans result after) :
    ∀ span ∈ spans, ((toolchain.perform span.call).runIn span.before).2 = span.after := by
  induction h with
  | done => simp
  | unresolved habsolute => simp
  | untranslated habsolute htranslate => simp [htranslate]
  | ungenerated habsolute htranslate hgenerate => simp [htranslate, hgenerate]
  | handled habsolute htranslate hgenerate hrest ih =>
    simpa [htranslate, hgenerate] using ih

end Spans

namespace Toolchain

theorem exists_spans (toolchain : Toolchain σ) (target : Target) (immutable : Bool)
    (files : List InputFile) (w : Workspace σ) :
    ∃ spans, Spans toolchain target immutable w files spans
      ((toolchain.handleAll target immutable files).runIn w).1
      ((toolchain.handleAll target immutable files).runIn w).2 := by
  induction files generalizing w with
  | nil => exact ⟨[], .done⟩
  | cons idl rest ih =>
    rw [runIn_handleAll_cons, runIn_handle]
    cases habsolute : w.files.absolute (target.jsonFile idl.bareName) with
    | error fault => exact ⟨[], .unresolved habsolute⟩
    | ok jsonFile =>
      dsimp only
      rcases htranslate : (toolchain.translator.carryOut ⟨idl, jsonFile⟩).runIn
        (announced w idl jsonFile) with ⟨failure | ⟨⟩, middle⟩
      · exact ⟨_, .untranslated habsolute htranslate⟩
      · dsimp only
        rcases hgenerate : (toolchain.generator.carryOut
          (target.generatorTask immutable idl jsonFile)).runIn middle with ⟨failure | ⟨⟩, after⟩
        · exact ⟨_, .ungenerated habsolute htranslate hgenerate⟩
        · obtain ⟨spans, hspans⟩ := ih after
          exact ⟨_, .handled habsolute htranslate hgenerate hspans⟩

/-- The calls of a build: none without a target or without inputs, else those for the selected
files, from the workspace on that the selection has left. -/
def Spanned (toolchain : Toolchain σ) (job : Job) (w : Workspace σ) (spans : List (Span σ)) : Prop :=
  match job.prepared w.files with
  | (.error _, _) => spans = []
  | (.ok _, ready) =>
    match selectInputs ready job.inputs job.excluded (selectionJournal toolchain job w.journal) with
    | (.error _, _) => spans = []
    | (.ok files, journal) =>
      let reported := if files.isEmpty then
        journal.add .info s!"No IDL files found in: {job.inputs}" else journal
      ∃ tasks last, Spans toolchain job.target job.immutable ⟨ready, reported, w.callees⟩ files spans
          tasks last ∧
        (toolchain.build job).runIn w = (tasks.map fun tasks => ⟨job.target.directory, tasks⟩, last)

theorem exists_spanned (toolchain : Toolchain σ) (job : Job) (w : Workspace σ) :
    ∃ spans, toolchain.Spanned job w spans := by
  unfold Spanned
  rw [runIn_build]
  rcases job.prepared w.files with ⟨failure | directory, ready⟩
  · exact ⟨[], rfl⟩
  · dsimp only
    rcases selectInputs ready job.inputs job.excluded _ with ⟨failure | files, journal⟩
    · exact ⟨[], rfl⟩
    · obtain ⟨spans, hspans⟩ := exists_spans toolchain job.target job.immutable files
        ⟨ready, if files.isEmpty then
          journal.add .info s!"No IDL files found in: {job.inputs}" else journal, w.callees⟩
      exact ⟨spans, _, _, hspans, rfl⟩

end Toolchain

/-! ### Programs that are heard -/

namespace TranslatorProgram

variable (launcher : Child.Launcher σ) (t : TranslatorProgram) (task : TranslatorTask)

/-- What a translator program without a time limit adds to the journal: nothing when it is not
called, its command line when it cannot be started, and else also the lines that it has written,
with success or without. -/
inductive Heard (w w' : Workspace σ) : Prop where
  | uncalled (huncalled : (∃ failure, t.invocation task w.files = .error failure) ∨
        ∃ failure, (removePrevious task.jsonFile w.files).1 = .error failure)
      (hjournal : w'.journal = w.journal)
  | unstarted {arguments : List String} {cleared : FileSystem} {fault : IoFault}
      (hcall : t.invocation task w.files = .ok arguments)
      (hremove : removePrevious task.jsonFile w.files = (.ok (), cleared))
      (hlaunch : Child.checked launcher arguments none cleared w.callees
        = (.error fault, w'.files, w'.callees))
      (hjournal : w'.journal = w.journal.add .debug ("Running: " ++ " ".intercalate arguments))
  | heard {arguments : List String} {cleared : FileSystem} {account : Child.Account}
      {report : List Line} (hcall : t.invocation task w.files = .ok arguments)
      (hremove : removePrevious task.jsonFile w.files = (.ok (), cleared))
      (hlaunch : Child.checked launcher arguments none cleared w.callees
        = (.ok account, w'.files, w'.callees))
      (hreport : Child.Merges (linesOf .output (Child.written .output account.course.deeds))
        (linesOf .errors (Child.written .errors account.course.deeds)) report)
      (hjournal : w'.journal.lines =
        (w.journal.add .debug ("Running: " ++ " ".intercalate arguments)).lines ++ report)

theorem snd_concluded (arguments : List String)
    (called : Except Failure (Option String) × Workspace σ) :
    (t.concluded task arguments called).2 = called.2 := by
  rcases called with ⟨failure | detail, w⟩
  · rfl
  · cases detail <;> rfl

theorem heard_of_program (hlimit : t.limit = none) (w : Workspace σ) :
    Heard launcher t task w (((t.translator launcher).carryOut task).runIn w).2 := by
  rw [runIn_program]
  rcases hcall : t.invocation task w.files with failure | arguments
  · exact .uncalled (.inl ⟨failure, hcall⟩) rfl
  dsimp only
  rcases hremove : removePrevious task.jsonFile w.files with ⟨failure | ⟨⟩, cleared⟩
  · exact .uncalled (.inr ⟨failure, by rw [hremove]⟩) rfl
  dsimp only
  rw [snd_concluded, hlimit, Child.run, if_neg (ne_nil_of_invocation hcall)]
  simp only [BuildM.runIn_ofFunction, started]
  rcases hlaunch : Child.checked launcher arguments none cleared w.callees with
    ⟨fault | account, files, callees⟩
  · exact .unstarted hcall hremove hlaunch rfl
  · have hreport := Child.Supervision.supervise_merges account.turns account.course
    refine .heard hcall hremove hlaunch hreport ?_
    simp [Child.accountLines, Child.Account.awaited]

end TranslatorProgram

/-! ### Builds -/

/-- The reports of a build whose translator is a program: the calls follow one another, and each
translation leaves everything in the journal that the program has written. -/
structure ReportsInOrder (launcher : Child.Launcher σ) (t : TranslatorProgram)
    (generator : Generator σ) (job : Job) (w : Workspace σ) (spans : List (Span σ)) : Prop where
  spanned : (Toolchain.mk (t.translator launcher) generator).Spanned job w spans
  follows : spans.IsChain Span.Follows
  heard : ∀ span ∈ spans, ∀ task, span.call = .translate task →
    t.Heard launcher task span.before span.after

theorem Toolchain.Spanned.facts {toolchain : Toolchain σ} {job : Job} {w : Workspace σ}
    {spans : List (Span σ)} (h : toolchain.Spanned job w spans) :
    spans.IsChain Span.Follows ∧
      ∀ span ∈ spans, ((toolchain.perform span.call).runIn span.before).2 = span.after := by
  unfold Spanned at h
  split at h
  · obtain rfl : spans = [] := h
    exact ⟨.nil, by simp⟩
  · split at h
    · obtain rfl : spans = [] := h
      exact ⟨.nil, by simp⟩
    · obtain ⟨tasks, last, hspans, -⟩ := h
      exact ⟨hspans.follows, hspans.performed⟩

theorem exists_reportsInOrder (launcher : Child.Launcher σ) {t : TranslatorProgram}
    (generator : Generator σ) (hlimit : t.limit = none) (job : Job) (w : Workspace σ) :
    ∃ spans, ReportsInOrder launcher t generator job w spans := by
  obtain ⟨spans, hspanned⟩ :=
    (Toolchain.mk (t.translator launcher) generator).exists_spanned job w
  obtain ⟨hfollows, hperformed⟩ := hspanned.facts
  refine ⟨spans, hspanned, hfollows, fun span hspan task hcall => ?_⟩
  have hafter := hperformed span hspan
  rw [hcall] at hafter
  rw [← hafter]
  exact t.heard_of_program launcher task hlimit span.before

/-- When a supervised child has been waited for, with success or without, the lines of both of its
streams have been reported, each once and merged in their orders, and none is reported later. So in a
build they all stand before the start of the generator and before the next file is announced. -/
theorem build_reportsInOrder :
    (∀ (capacities : Child.PerStream Nat) (course : Child.Course) (st : Child.Supervision),
      Child.Supervision.Reaches (.start capacities course.deeds) st → st.waiter = .nothing →
      Child.Merges (linesOf .output (Child.written .output course.deeds))
          (linesOf .errors (Child.written .errors course.deeds)) st.lines ∧
        ∀ later, Child.Supervision.Reaches st later → later.lines = st.lines) ∧
    ∀ (launcher : Child.Launcher σ) (t : TranslatorProgram) (generator : Generator σ),
      t.limit = none → ∀ (job : Job) (w : Workspace σ),
      ∃ spans, ReportsInOrder launcher t generator job w spans :=
  ⟨fun _ _ _ hreach hwaiter => ⟨Child.Supervision.merges_of_returned hreach hwaiter,
      fun _ => Child.Supervision.lines_of_returned hreach.sound hwaiter⟩,
    fun launcher _ generator hlimit => exists_reportsInOrder launcher generator hlimit⟩

/-! #### A program that talks -/

/-- What a program does that writes on both streams, a line of the one before the last line of the
other is whole. -/
def talk : Child.Course :=
  .plain [⟨.output, [0x61, 0x0A, 0x62]⟩, ⟨.errors, [0x63, 0x0A]⟩]

/-- A program that talks and writes an array to the path that it is given for it. -/
def talker : Child.Launcher Unit := fun arguments _ fs callees =>
  match fs.writeFile ⟨arguments.getD 2 ""⟩ [0x5B, 0x5D] with
  | .ok fs => (.ok ⟨talk, [.write 2, .write 1, .write 2], .exited 0, []⟩, fs, callees)
  | .error fault => (.error fault, fs, callees)

def talkedOver : Job := ⟨"a.idl", .ofNames [], ⟨"out"⟩, "gen", false, false⟩

theorem talker_reportsInOrder :
    (∃ st, Child.Supervision.Reaches (.start ⟨1, 1⟩ talk.deeds) st ∧ st.waiter = .nothing ∧
      Child.Merges (linesOf .output (Child.written .output talk.deeds))
        (linesOf .errors (Child.written .errors talk.deeds)) st.lines) ∧
    Translator.caller.limit = none ∧
    (∃ spans, ReportsInOrder talker Translator.caller .absent talkedOver
      ⟨Translator.oneFile, .empty, ()⟩ spans) ∧
    (((Toolchain.mk (Translator.caller.translator talker) .absent).build talkedOver).runIn
        ⟨Translator.oneFile, .empty, ()⟩).2.journal.lines.drop 3 =
      [⟨.info, "Translating: /a.idl to: /out/gen/a.json"⟩,
        ⟨.debug, "Running: idl2json -j /out/gen/a.json /a.idl"⟩,
        ⟨.info, "a"⟩, ⟨.error, "c"⟩, ⟨.info, "b"⟩,
        ⟨.info, "No generator configured; skipping sources for package gen.a (/out/gen/a.json)"⟩] := by
  have hone : ∀ s, 1 ≤ (Child.PerStream.mk 1 1).get s := fun s => by cases s <;> decide
  obtain ⟨hreach, hwaiter⟩ := Child.Supervision.finish_returns hone talk []
  refine ⟨⟨_, hreach, hwaiter, ?_⟩, rfl, ?_, ?_⟩
  · exact ((@build_reportsInOrder Unit).1 ⟨1, 1⟩ talk _ hreach hwaiter).1
  · exact (@build_reportsInOrder Unit).2 talker Translator.caller .absent rfl talkedOver _
  · decide +kernel

end IdlBuild
