import IdlBuild.Proofs.Calls.Outputs
import IdlBuild.Proofs.Inputs.Readable
import IdlBuild.Proofs.Targets.Links
import IdlBuild.Proofs.Translators.Fresh
import IdlBuild.Settings.Build

/-!
# The inputs of a build

A build that does not clear its target can still reach the files that it is given, through the paths
of its JSON files. Such a path is that of an input only when the input lies in the directory of the
target under the name of that JSON file, and then the input was named and not met in a directory
(`Outlives.named`, `Outlives.explicit`). A program's JSON file is removed before the call and a
service's answer is written over it, so an input that is there does not outlive the build
(`harvested_lost`); every entry that no JSON path leads to when a translation begins does
(`build_outlived`).
-/

namespace IdlBuild

open FileSystem
open Text (Bytes)

/-! ### Names of inputs -/

section Names

variable {fs ready : FileSystem} {p q : Path} {front : List Component} {last : Component}
  {idl : InputFile}

theorem IsSource.exists_body (h : IsSource fs p) :
    p.endsWithSlash = false ∧ ∃ front name, p.body = front ++ [.name name] := by
  cases h with
  | named hstatus hne =>
    obtain ⟨hslash, front, last, hbody, -⟩ := endsWith_of_status hstatus hne
    obtain ⟨name, -, -, -, -, rfl, -⟩ := exists_leads_of_status hbody hstatus hne
    exact ⟨hslash, front, name, hbody⟩
  | @inside directory name hdirectory hfile =>
    obtain ⟨node, hnode⟩ := hfile.exists_node
    have hends := directory.path.endsWith_join_name (isPlain_of_isName (isName_of_node hnode).1)
    exact ⟨hends.endsWithSlash, _, name, hends.body⟩

/-- The path of an input is its bare name behind its directory. -/
theorem IsSource.components (h : IsSource fs p) (habsolute : fs.absolute p = .ok idl.path) :
    idl.path.components = idl.directory.components ++ [.name idl.fileName] := by
  obtain ⟨hslash, front, name, hbody⟩ := h.exists_body
  have hcomponents := components_absolute habsolute hbody hslash
  have hname : idl.path.fileName? = some name := by
    rw [Path.fileName_eq_some_iff, hcomponents, List.getLast?_concat]
  rw [InputFile.fileName, hname, Option.getD_some, InputFile.directory]
  cases hparent : idl.path.parent? with
  | none =>
    rcases Path.components_of_parent_eq_none hparent with hnone | hnone
    · rw [hnone] at hcomponents
      cases hcomponents
    · rw [hnone] at hcomponents
      simp at hcomponents
  | some parent =>
    rw [Option.getD_some, Path.components_parent hparent, hcomponents, List.dropLast_concat]

/-- Whether an input lies in the directory of a target itself, as far as paths say. -/
def InputFile.LiesIn (idl : InputFile) (fs : FileSystem) (target : Target) : Prop :=
  idl.directory.components = .root ::
    ((if target.directory.isAbsolute then [] else fs.workingDirectory.map .name) ++
      target.directory.body)

theorem Target.endsWith_jsonFile (target : Target) (name : String) (hname : '/' ∉ name.toList) :
    (target.jsonFile name).EndsWith target.directory.body
      (.name (Text.encode (PackageName.stem name ++ ".json"))) :=
  target.directory.endsWith_join_name (PackageName.isPlain_stem_json hname)

theorem Target.isAbsolute_jsonFile_eq (target : Target) (name : String)
    (hname : '/' ∉ name.toList) :
    (target.jsonFile name).isAbsolute = target.directory.isAbsolute := by
  have hplain := PackageName.isPlain_stem_json hname
  by_cases hempty : target.directory.bytes = []
  · rw [Target.jsonFile, Path.join_of_empty hempty, Path.isAbsolute_of_isPlain hplain,
      Path.isAbsolute, hempty]
    rfl
  · exact Path.isAbsolute_join hempty (Path.isAbsolute_of_isPlain hplain)

/-- A JSON path is the path of an input when that lies in the directory of the target under the name
of the JSON file. -/
theorem IsSource.jsonFile_same_iff (h : IsSource ready p)
    (habsolute : ready.absolute p = .ok idl.path) {target : Target} {name : String}
    {jsonFile : Path} (hname : '/' ∉ name.toList)
    (hjson : fs.absolute (target.jsonFile name) = .ok jsonFile) :
    jsonFile.Same idl.path ↔
      idl.LiesIn fs target ∧
        idl.fileName = Text.encode (PackageName.stem name ++ ".json") := by
  have hends := target.endsWith_jsonFile name hname
  have hcomponents := components_absolute hjson hends.body hends.endsWithSlash
  rw [target.isAbsolute_jsonFile_eq name hname] at hcomponents
  unfold Path.Same InputFile.LiesIn
  rw [hcomponents, h.components habsolute]
  constructor
  · intro hsame
    obtain ⟨hfront, hlast⟩ := List.append_inj' hsame rfl
    exact ⟨hfront.symm, (Component.name.inj (List.singleton_inj.1 hlast)).symm⟩
  · rintro ⟨hfront, hlast⟩
    rw [hfront, hlast]

theorem hasIdlSuffix_json (stem : String) : hasIdlSuffix (stem ++ ".json") = false := by
  rw [hasIdlSuffix, Bool.eq_false_iff, ne_eq, List.isSuffixOf_iff_suffix, String.toList_append]
  intro hsuffix
  have hshort : PackageName.suffix.toList <:+ ".json".toList :=
    List.suffix_of_suffix_length_le hsuffix (List.suffix_append _ _) (by decide)
  exact absurd hshort (by decide)

/-- What is found in directories never has the name of a JSON file. -/
theorem IsFoundBelow.not_same {exclusions : Exclusions} {root : Path} {stem : String}
    (h : IsFoundBelow fs exclusions root p)
    (hname : p.fileName? = some (Text.encode (stem ++ ".json"))) : False := by
  obtain ⟨directory, opened, name, -, hfile, hsuffix, -, absolute, habsolute, hsame⟩ := h
  obtain ⟨node, hnode⟩ := hfile.exists_node
  have hjoined := Path.fileName_join_name directory.path
    (isPlain_of_isName (isName_of_node hnode).1)
  have hfound := fileName_of_absolute habsolute hjoined
  rw [Path.fileName?, hsame, ← Path.fileName?, hname, Option.some.injEq] at hfound
  rw [← hfound, Text.decodeLossy_encode, hasIdlSuffix_json] at hsuffix
  cases hsuffix

end Names

/-! ### What a build does to entries -/

section Spared

variable {fs : FileSystem} {p : Path} {e : Location × Node} {node : Node}

/-- The file system when a path has the parents that can be made for it. -/
def FileSystem.withParents (fs : FileSystem) (p : Path) : FileSystem :=
  match p.parent? with
  | none => fs
  | some parent => (fs.makeDirectories parent).2

theorem keptIn_withParents (fs : FileSystem) (p : Path) : KeptIn fs (fs.withParents p) := by
  unfold withParents
  cases p.parent? with
  | none => exact ⟨id, rfl⟩
  | some parent => exact (makeDirectories_made fs parent).kept

/-- Storing makes parents and then, if it comes to that, writes. -/
theorem storeJson_eq_or (output : Bytes) (p : Path) (fs : FileSystem) :
    (storeJson output p fs).2 = fs.withParents p ∨
      (fs.withParents p).writeFile p output = .ok (storeJson output p fs).2 := by
  unfold storeJson withParents
  cases p.parent? with
  | none =>
    dsimp only
    rcases fs.writeFile p output with fault | written
    · exact Or.inl rfl
    · exact Or.inr rfl
  | some parent =>
    dsimp only
    rcases fs.makeDirectories parent with ⟨fault | ⟨⟩, made⟩
    · exact Or.inl rfl
    · dsimp only
      rcases made.writeFile p output with fault | written
      · exact Or.inl rfl
      · exact Or.inr rfl

theorem writeFile_spares {fs' : FileSystem} {output : Bytes} (h : fs.writeFile p output = .ok fs')
    (he : e ∈ fs.entries) (hother : (fs.status p).toOption.map Prod.fst ≠ some e.1) :
    e ∈ fs'.entries := by
  obtain ⟨place, hlocate, hwritten⟩ := writeFile_written h
  refine (hwritten.elsewhere e fun hsame => ?_).2 he
  have hin := isIn_of_locate hlocate
  cases place with
  | found location node =>
    apply hother
    unfold status
    rw [hlocate, hsame]
    rfl
  | vacant directory name =>
    obtain ⟨location, node⟩ := e
    obtain rfl : location = directory ++ [name] := hsame
    obtain ⟨-, -, hfree⟩ := hin
    rw [(node?_eq_some_iff fs (by simp)).2 he] at hfree
    cases hfree

theorem storeJson_spares {output : Bytes} (he : e ∈ fs.entries)
    (hother : ((fs.withParents p).status p).toOption.map Prod.fst ≠ some e.1) :
    e ∈ (storeJson output p fs).2.entries := by
  have hkept := (keptIn_withParents fs p).mem he
  rcases storeJson_eq_or output p fs with hmade | hwritten
  · rwa [hmade]
  · exact writeFile_spares hwritten hkept hother

namespace TranslatorProgram

theorem removePrevious_eq_or (p : Path) (fs : FileSystem) :
    (removePrevious p fs).2 = fs ∨ ∃ location node, fs.linkStatus p = .ok (location, node) ∧
      node ≠ .directory ∧ (removePrevious p fs).2 = fs.erase location := by
  unfold removePrevious
  cases hremove : fs.removeFile p with
  | ok removed =>
    obtain ⟨location, node, hlink, hne, rfl⟩ := linkStatus_of_removeFile hremove
    exact Or.inr ⟨location, node, hlink, hne, rfl⟩
  | error fault =>
    left
    dsimp only
    split_ifs <;> rfl

theorem removePrevious_spares (he : e ∈ fs.entries)
    (hother : (fs.linkStatus p).toOption.map Prod.fst ≠ some e.1) :
    e ∈ (removePrevious p fs).2.entries := by
  rcases removePrevious_eq_or p fs with hsame | ⟨location, node, hlink, -, herased⟩
  · rwa [hsame]
  · rw [herased]
    refine mem_erase_of_ne he fun hsame => hother ?_
    rw [hlink, hsame]
    rfl

/-- What is taken away has the name that the path ends with. -/
theorem getLast_of_removePrevious {front : List Component} {name : FileName}
    (hends : p.EndsWith front (.name name)) (he : e ∈ fs.entries)
    (hgone : e ∉ (removePrevious p fs).2.entries) : e.1.getLast? = some name := by
  rcases removePrevious_eq_or p fs with hsame | ⟨location, node, hlink, hne, herased⟩
  · rw [hsame] at hgone
    exact absurd he hgone
  rw [herased] at hgone
  have hplace : e.1 = location := by
    by_contra hother
    exact hgone (mem_erase_of_ne he hother)
  obtain ⟨directory, last, hlook, rfl, -⟩ := removeFile_of_linkStatus hlink hne
  obtain ⟨start, links, init, -, hnamed, -⟩ := hlook.found
  obtain ⟨init', hnamed', -⟩ := hends.named_eq
  rw [hnamed] at hnamed'
  rw [hplace, List.getLast?_concat, List.singleton_inj.1 (List.append_inj' hnamed' rfl).2,
    Component.bytes]

end TranslatorProgram

theorem Job.prepared_keeps {job : Job} (hkeep : job.clearFirst = false) (he : e ∈ fs.entries) :
    e ∈ (job.prepared fs).2.entries := by
  unfold Job.prepared Job.target
  rw [Target.makeReady_below, hkeep]
  have hprovided := Target.provideDirectory_keeps fs
    (Target.below job.outputRoot job.basePackage).directory he
  simp only [Bool.false_eq_true, if_false]
  rcases hprovide : Target.provideDirectory fs
      (Target.below job.outputRoot job.basePackage).directory with ⟨failure | ⟨⟩, ready⟩
  · rw [hprovide] at hprovided
    exact hprovided
  · rw [hprovide] at hprovided
    exact hprovided

end Spared

/-! ### What calls do to entries -/

/-- The location that a call removes or writes itself, if its JSON path leads anywhere. A program's
JSON file is removed, links not followed, and the answer of a service is written when the path has
its parents. -/
def Event.struck? (kind : TranslatorKind) (event : Event) : Option Location :=
  match event.call, kind with
  | .translate task, .program _ =>
    (event.before.linkStatus task.jsonFile).toOption.map Prod.fst
  | .translate task, .service _ =>
    ((event.before.withParents task.jsonFile).status task.jsonFile).toOption.map Prod.fst
  | .generate _, _ => none

/-- The files when a call has done what it does itself: all of it where a service translates, and
what comes before the program where one is run. -/
def Event.own (kind : TranslatorKind) (event : Event) : FileSystem :=
  match event.call, kind with
  | .translate task, .program _ =>
    (TranslatorProgram.removePrevious task.jsonFile event.before).2
  | .translate _, .service _ => event.after
  | .generate _, _ => event.before

namespace Toolchain

variable {σ : Type}

/-! #### What holds of every call -/

/-- Whether the calls of a toolchain keep what holds of its callees. -/
structure Keeps (toolchain : Toolchain σ) (P : σ → Prop) : Prop where
  translate : ∀ task (w : Workspace σ), P w.callees →
    P ((toolchain.translator.carryOut task).runIn w).2.callees
  generate : ∀ task (w : Workspace σ), P w.callees →
    P ((toolchain.generator.carryOut task).runIn w).2.callees

section Keeps

variable {toolchain : Toolchain σ} {P : σ → Prop} {target : Target} {immutable : Bool}

theorem Keeps.handle (h : toolchain.Keeps P) (idl : InputFile) (w : Workspace σ)
    (hw : P w.callees) : P ((toolchain.handle target immutable idl).runIn w).2.callees := by
  rw [runIn_handle]
  rcases w.files.absolute (target.jsonFile idl.bareName) with fault | jsonFile
  · exact hw
  have htranslated := h.translate ⟨idl, jsonFile⟩ (announced w idl jsonFile) hw
  dsimp only
  rcases hrun : (toolchain.translator.carryOut ⟨idl, jsonFile⟩).runIn (announced w idl jsonFile)
    with ⟨failure | ⟨⟩, middle⟩
  · rwa [hrun] at htranslated
  rw [hrun] at htranslated
  have hgenerated := h.generate (target.generatorTask immutable idl jsonFile) middle htranslated
  dsimp only
  rcases hrun' : (toolchain.generator.carryOut
    (target.generatorTask immutable idl jsonFile)).runIn middle with ⟨failure | ⟨⟩, after⟩
  · rwa [hrun'] at hgenerated
  · rwa [hrun'] at hgenerated

theorem Keeps.handleAll (h : toolchain.Keeps P) (files : List InputFile) (w : Workspace σ)
    (hw : P w.callees) : P ((toolchain.handleAll target immutable files).runIn w).2.callees := by
  induction files generalizing w with
  | nil => exact hw
  | cons idl rest ih =>
    have hhandled : P ((toolchain.handle target immutable idl).runIn w).2.callees :=
      h.handle idl w hw
    rw [runIn_handleAll_cons]
    rcases hrun : (toolchain.handle target immutable idl).runIn w with ⟨failure | task, middle⟩
    · rwa [hrun] at hhandled
    · rw [hrun] at hhandled
      exact ih middle hhandled

theorem Keeps.build (h : toolchain.Keeps P) (job : Job) (w : Workspace σ) (hw : P w.callees) :
    P ((toolchain.build job).runIn w).2.callees := by
  rw [runIn_build]
  rcases job.prepared w.files with ⟨failure | directory, fs⟩
  · exact hw
  dsimp only
  rcases selectInputs fs job.inputs job.excluded (selectionJournal toolchain job w.journal) with
    ⟨failure | files, journal⟩
  · exact hw
  · exact h.handleAll files ⟨fs, _, w.callees⟩ hw

end Keeps

/-- What holds of every run of the translator and the generator holds of every call of a build. -/
theorem forall_calls {toolchain : Toolchain σ} {Q : Event → Prop}
    (htranslate : ∀ task (w : Workspace σ),
      Q ⟨.translate task, w.files, ((toolchain.translator.carryOut task).runIn w).1,
        ((toolchain.translator.carryOut task).runIn w).2.files⟩)
    (hgenerate : ∀ task (w : Workspace σ),
      Q ⟨.generate task, w.files, ((toolchain.generator.carryOut task).runIn w).1,
        ((toolchain.generator.carryOut task).runIn w).2.files⟩)
    (job : Job) (w : Workspace σ) : ∀ event ∈ toolchain.calls job w, Q event := by
  have hkeeps : toolchain.recorded.Keeps fun callees : σ × List Event =>
      ∀ event ∈ callees.2, Q event := by
    constructor
    · intro task w hw event hevent
      rcases List.mem_append.1 hevent with hevent | hevent
      · exact hw event hevent
      · rw [List.mem_singleton.1 hevent]
        exact htranslate task ⟨w.files, w.journal, w.callees.1⟩
    · intro task w hw event hevent
      rcases List.mem_append.1 hevent with hevent | hevent
      · exact hw event hevent
      · rw [List.mem_singleton.1 hevent]
        exact hgenerate task ⟨w.files, w.journal, w.callees.1⟩
  exact hkeeps.build job (w.withEvents []) (by simp [Workspace.withEvents])

end Toolchain

section Calls

variable {target : Target} {immutable : Bool} {fs after : FileSystem} {files : List InputFile}
  {events : List Event} {result : Except Failure (List GeneratorTask)} {e : Location × Node}

theorem Handling.keeps (P : FileSystem → Prop)
    (h : Handling target immutable fs files events result after)
    (hstep : ∀ event ∈ events, P event.before → P event.after) (hstart : P fs) : P after := by
  induction h with
  | done => exact hstart
  | unresolved habsolute => exact hstart
  | untranslated habsolute => exact hstep _ (List.mem_singleton_self _) hstart
  | @ungenerated fs middle after idl rest jsonFile failure habsolute =>
    have hmiddle : P middle := hstep _ (List.mem_cons_self ..) hstart
    exact hstep _ (List.mem_cons_of_mem _ (List.mem_singleton_self _)) hmiddle
  | @handled fs middle after last idl rest jsonFile events result habsolute hrest ih =>
    have hmiddle : P middle := hstep _ (List.mem_cons_self ..) hstart
    have hafter : P after :=
      hstep _ (List.mem_cons_of_mem _ (List.mem_cons_self ..)) hmiddle
    exact ih (fun event hevent =>
      hstep event (List.mem_cons_of_mem _ (List.mem_cons_of_mem _ hevent))) hafter

/-- Whether a call itself spares the entries that its JSON path does not lead to. -/
def Event.Spares (kind : TranslatorKind) (event : Event) : Prop :=
  ∀ e ∈ event.before.entries, event.struck? kind ≠ some e.1 → e ∈ (event.own kind).entries

end Calls

section Own

variable {σ : Type}

theorem TranslatorProgram.spares (program : String) (task : TranslatorTask) (fs after : FileSystem)
    (result : Except Failure Unit) :
    Event.Spares (.program program) ⟨.translate task, fs, result, after⟩ :=
  fun _ he hother => removePrevious_spares he hother

theorem Service.spares (network : Http.Network σ) (address : String) (limit : Option Nat)
    (task : TranslatorTask) (w : Workspace σ) :
    Event.Spares (.service address) ⟨.translate task, w.files,
      (((translator network address limit).carryOut task).runIn w).1,
      (((translator network address limit).carryOut task).runIn w).2.files⟩ := by
  intro e he hother
  simp only [Event.own]
  rw [runIn_service]
  rcases task.bundle w.files with failure | bundle
  · exact he
  dsimp only
  rcases Http.post network limit address (namedValues bundle) w.callees with ⟨delivery, callees⟩
  dsimp only
  rcases deliveredBody address delivery with failure | body
  · exact he
  · exact storeJson_spares he hother

theorem Settings.translatorIn_spares (surroundings : Surroundings σ) (settings : Settings)
    (generator : Generator σ) (job : Job) (w : Workspace σ) :
    ∀ event ∈ Toolchain.calls ⟨settings.translatorIn surroundings, generator⟩ job w,
      event.Spares (TranslatorKind.ofText settings.translator) := by
  refine Toolchain.forall_calls (fun task w => ?_) (fun task w e he _ => he) job w
  unfold translatorIn
  cases TranslatorKind.ofText settings.translator with
  | program name => exact TranslatorProgram.spares name task _ _ _
  | service address => exact Service.spares surroundings.network address settings.limit task w

end Own

/-! ### Builds that do not clear -/

/-- How what a build is given outlives it, for the inputs and all the entries that are there before
and after. -/
structure Outlives (kind : TranslatorKind) (job : Job) (ready : FileSystem)
    (files : List InputFile) (calls : List Event) (before after : FileSystem) : Prop where
  /-- A JSON path is that of an input just when the input lies in the directory of the target under
  the name of the JSON file. -/
  named : ∀ idl ∈ files, ∀ (other : InputFile) (fs : FileSystem) (jsonFile : Path),
    fs.absolute (job.target.jsonFile other.bareName) = .ok jsonFile →
      (jsonFile.Same idl.path ↔ idl.LiesIn fs job.target ∧
        idl.fileName = Text.encode (PackageName.stem other.bareName ++ ".json"))
  /-- Such an input was named, and none that is met in a directory is one. -/
  explicit : ∀ idl ∈ files, ∀ (other : InputFile) (fs : FileSystem) (jsonFile : Path),
    fs.absolute (job.target.jsonFile other.bareName) = .ok jsonFile → jsonFile.Same idl.path →
      (∃ input ∈ commaList job.inputs, IsNamed ready (.ofText input) idl.path) ∧
        ∀ input ∈ commaList job.inputs, ¬ IsFoundBelow ready job.excluded (.ofText input) idl.path
  spared : ∀ event ∈ calls, event.Spares kind
  /-- Where the translator is a program, only entries with the name of a JSON file are removed. -/
  removed : ∀ program, kind = .program program → ∀ event ∈ calls, ∀ e ∈ event.before.entries,
    e ∉ (event.own kind).entries →
      ∃ idl ∈ files, e.1.getLast? = some (Text.encode (PackageName.stem idl.bareName ++ ".json"))
  /-- What no JSON path leads to and no program takes away is there in the end. -/
  kept : ∀ e ∈ before.entries, (∀ event ∈ calls, event.struck? kind ≠ some e.1) →
    (∀ event ∈ calls, e ∈ (event.own kind).entries → e ∈ event.after.entries) → e ∈ after.entries

namespace Building

variable {job : Job} {fs after : FileSystem} {calls : List Event} {result : Except Failure Product}
  {files : List InputFile} {e : Location × Node}

/-- What is removed before a program is called has the name of the JSON file of an input. -/
theorem removed (h : Building job fs calls result after)
    (hfiles : job.discovered (job.prepared fs).2 = .ok files) {program : String} {event : Event}
    (hevent : event ∈ calls) (he : e ∈ event.before.entries)
    (hgone : e ∉ (event.own (.program program)).entries) :
    ∃ idl ∈ files, e.1.getLast? = some (Text.encode (PackageName.stem idl.bareName ++ ".json")) := by
  cases h with
  | unready hready => cases hevent
  | undiscovered hready hundiscovered => cases hevent
  | handled hready hdiscovered hhandling =>
    rw [hready] at hfiles
    cases hfiles.symm.trans hdiscovered
    obtain ⟨seen, idl, hidl, habsolute⟩ := hhandling.exists_absolute_of_mem event hevent
    refine ⟨idl, hidl, ?_⟩
    have hjson := job.target.endsWith_jsonFile idl.bareName idl.not_mem_bareName
    obtain ⟨front, hends⟩ := exists_endsWith_of_absolute habsolute hjson.body hjson.endsWithSlash
    unfold Event.own at hgone
    cases hcall : event.call with
    | generate task =>
      rw [hcall] at hgone
      exact absurd he hgone
    | translate task =>
      rw [hcall] at hgone hends
      exact TranslatorProgram.getLast_of_removePrevious hends he hgone

/-- What every call keeps is there in the end, since nothing else takes anything away. -/
theorem kept (h : Building job fs calls result after) (hkeep : job.clearFirst = false)
    (hcalls : ∀ event ∈ calls, e ∈ event.before.entries → e ∈ event.after.entries)
    (he : e ∈ fs.entries) : e ∈ after.entries := by
  have hready := Job.prepared_keeps hkeep he
  cases h with
  | unready hunready => rwa [hunready] at hready
  | undiscovered hprepared hundiscovered => rwa [hprepared] at hready
  | handled hprepared hdiscovered hhandling =>
    rw [hprepared] at hready
    exact hhandling.keeps (e ∈ ·.entries) hcalls hready

theorem outlives {kind : TranslatorKind} (h : Building job fs calls result after)
    (hkeep : job.clearFirst = false) (hfiles : job.discovered (job.prepared fs).2 = .ok files)
    (hspared : ∀ event ∈ calls, event.Spares kind) :
    Outlives kind job (job.prepared fs).2 files calls fs after := by
  refine ⟨?_, ?_, hspared, ?_, ?_⟩
  · intro idl hidl other seen jsonFile hjson
    obtain ⟨p, hsource, habsolute⟩ := source_of_mem_selected hfiles hidl
    exact hsource.jsonFile_same_iff habsolute other.not_mem_bareName hjson
  · intro idl hidl other seen jsonFile hjson hsame
    have hname := fileName_of_absolute hjson
      (job.target.fileName_jsonFile other.not_mem_bareName)
    rw [Path.fileName?, hsame, ← Path.fileName?] at hname
    obtain ⟨input, hinput, hfound⟩ :=
      (mem_selected_iff hfiles idl.path).1 ⟨idl, hidl, Path.Same.rfl⟩
    refine ⟨⟨input, hinput, hfound.resolve_right fun h => h.not_same hname⟩, ?_⟩
    exact fun input _ h => h.not_same hname
  · rintro program rfl event hevent e he hgone
    exact h.removed hfiles hevent he hgone
  · intro e he hfree hcallees
    refine h.kept hkeep (fun event hevent hbefore => ?_) he
    exact hcallees event hevent (hspared event hevent e hbefore (hfree event hevent))

end Building

/-- What is there before a build that does not clear its target, the inputs among it, is there after
it unless the path of a JSON file leads to it or a program takes it away. -/
theorem build_outlived {σ : Type} (surroundings : Surroundings σ) (settings : Settings)
    (generator : Generator σ) (job : Job) (hkeep : job.clearFirst = false) (w : Workspace σ)
    {files : List InputFile} (hfiles : job.discovered (job.prepared w.files).2 = .ok files) :
    Outlives (TranslatorKind.ofText settings.translator) job (job.prepared w.files).2 files
      (Toolchain.calls ⟨settings.translatorIn surroundings, generator⟩ job w) w.files
      ((Toolchain.build ⟨settings.translatorIn surroundings, generator⟩ job).runIn w).2.files :=
  (Toolchain.building _ job w).outlives hkeep hfiles
    (settings.translatorIn_spares surroundings generator job w)

/-! #### Runs -/

/-- An IDL file in a directory that is walked, and the start of an array where its JSON will be. -/
def sown : Job × Workspace Unit :=
  (⟨"idl", .ofNames [], ⟨"out"⟩, "gen", false, false⟩,
    .ofFiles <| FileSystem.empty
      |>.add [] "idl" .directory
      |>.add ["idl"] "a.idl" (.file [0x31] 0o644)
      |>.add [] "out" .directory
      |>.add ["out"] "gen" .directory
      |>.add ["out", "gen"] "a.json" (.file [0x5B] 0o644))

/-- A program or a service that makes empty arrays. -/
def arrayMakers : Surroundings Unit := ⟨Translator.arrayWriter, Translator.arrayService⟩

theorem sown_outlived :
    sown.1.clearFirst = false ∧
      sown.1.discovered (sown.1.prepared sown.2.files).2 = .ok [⟨⟨"/idl/a.idl"⟩⟩] ∧
      ((["idl", "a.idl"] : Location), Node.file [0x31] 0o644) ∈ ((Toolchain.build
        ⟨Settings.defaults.translatorIn arrayMakers, .absent⟩ sown.1).runIn sown.2).2.files.entries := by
  have hkeep : sown.1.clearFirst = false := rfl
  have hfiles : sown.1.discovered (sown.1.prepared sown.2.files).2 = .ok [⟨⟨"/idl/a.idl"⟩⟩] := by
    decide +kernel
  have houtlives := build_outlived arrayMakers Settings.defaults .absent sown.1 hkeep sown.2 hfiles
  refine ⟨hkeep, hfiles, houtlives.kept _ (by decide +kernel) ?_ ?_⟩
  · decide +kernel
  · decide +kernel

/-- An input that lies where its own JSON goes. -/
def harvested : Job × Workspace Unit :=
  (⟨"out/gen/x.json", .ofNames [], ⟨"out"⟩, "gen", false, false⟩,
    .ofFiles <| FileSystem.empty
      |>.add [] "out" .directory
      |>.add ["out"] "gen" .directory
      |>.add ["out", "gen"] "x.json" (.file [0x31] 0o644))

/-- A program that does nothing, and a service that makes arrays. -/
def idlers : Surroundings Unit :=
  ⟨fun _ _ fs callees => (.ok ⟨.plain [], [], .exited 0, []⟩, fs, callees), Translator.arrayService⟩

/-- The JSON path of an input is its own path, and it is removed for a program that does nothing and
overwritten with the answer of a service. -/
theorem harvested_lost :
    harvested.1.clearFirst = false ∧
      harvested.1.discovered (harvested.1.prepared harvested.2.files).2
        = .ok [⟨⟨"/out/gen/x.json"⟩⟩] ∧
      harvested.2.files.absolute (harvested.1.target.jsonFile "x.json")
        = .ok ⟨"/out/gen/x.json"⟩ ∧
      ((Toolchain.build ⟨Settings.defaults.translatorIn idlers, .absent⟩ harvested.1).runIn
        harvested.2).2.files.readFile ⟨"/out/gen/x.json"⟩ = .error .noSuchEntry ∧
      ((Toolchain.build ⟨{ Settings.defaults with
        translator := "http://[::1]/" }.translatorIn idlers, .absent⟩ harvested.1).runIn
        harvested.2).2.files.readFile ⟨"/out/gen/x.json"⟩ = .ok [0x5B, 0x31, 0x5D] := by
  refine ⟨rfl, ?_, ?_, ?_, ?_⟩ <;> decide +kernel

end IdlBuild
