import IdlBuild.Proofs.Translators.Runs

/-!
# Fresh output

A translation that succeeds leaves a JSON array at its path that comes from this very call: from the
program, which was started when nothing was at the path, or from the response of the service. What
an earlier call left at the path of a program makes no difference (`translated_fresh`), unless the
command line cannot be put together at all: then it stays (`stale_kept`).
-/

namespace IdlBuild

open Text (Bytes)
open FileSystem

variable {σ : Type}

/-! ### Programs -/

namespace TranslatorProgram

section Removing

variable {fs fs' cleared : FileSystem} {p : Path}

/-- What is at a path that was cleared for output: nothing. -/
theorem linkStatus_of_removePrevious (h : removePrevious p fs = (.ok (), cleared)) :
    ∀ e, cleared.linkStatus p ≠ .ok e := by
  unfold removePrevious at h
  cases hremove : fs.removeFile p with
  | ok removed =>
    obtain ⟨location, node, hlink, hne, rfl⟩ := linkStatus_of_removeFile hremove
    simp only [hremove, Prod.mk.injEq, true_and] at h
    intro e he
    rw [← h, (erase_vacated hlink hne).1] at he
    cases he
  | error fault =>
    simp only [hremove] at h
    split_ifs at h with hmissing
    · obtain rfl := (Prod.mk.inj h).2
      intro e he
      rw [isMissing_of_removeFile he hremove] at hmissing
      cases hmissing
    · simp at h

/-- A file or a link that is at a path makes no difference to what clearing it leaves. -/
theorem removePrevious_vacated (p : Path) (fs : FileSystem) :
    removePrevious p (fs.vacated p) = removePrevious p fs := by
  rcases fs.vacated_eq_or p with hsame | ⟨location, node, hlink, hne, hvacated⟩
  · rw [hsame]
  · obtain ⟨-, -, -, -, -, hremove⟩ := removeFile_of_linkStatus hlink hne
    unfold removePrevious
    rw [hvacated, (erase_vacated hlink hne).2, hremove]
    rfl

theorem workingDirectory_vacated (fs : FileSystem) (p : Path) :
    (fs.vacated p).workingDirectory = fs.workingDirectory := by
  rcases fs.vacated_eq_or p with hsame | ⟨location, node, hlink, hne, hvacated⟩
  · rw [hsame]
  · obtain ⟨-, -, -, -, hnode, -⟩ := removeFile_of_linkStatus hlink hne
    rw [hvacated, workingDirectory_erase hnode hne]

theorem absoluteText_congr (h : fs.workingDirectory = fs'.workingDirectory) (p : Path) :
    absoluteText fs p = absoluteText fs' p := by
  unfold absoluteText absolute
  rw [h]

theorem invocation_congr (h : fs.workingDirectory = fs'.workingDirectory) (t : TranslatorProgram)
    (task : TranslatorTask) : t.invocation task fs = t.invocation task fs' := by
  unfold invocation
  rw [absoluteText_congr h, absoluteText_congr h]

end Removing

/-- Whether a path has no absolute form: it is empty, or relative where the working directory was
removed. -/
def Unresolved (fs : FileSystem) (p : Path) : Prop :=
  p.bytes = [] ∨ p.isAbsolute = false ∧ IsLost fs.workingDirectory

theorem not_unresolved {fs : FileSystem} {p : Path} (h : p.isAbsolute = true) :
    ¬ Unresolved fs p := by
  rintro (hempty | ⟨hrelative, -⟩)
  · obtain ⟨rest, hrest⟩ := Path.bytes_of_isAbsolute h
    rw [hempty] at hrest
    cases hrest
  · rw [h] at hrelative
    cases hrelative

theorem absoluteText_ok {fs : FileSystem} {p : Path} (h : ¬ Unresolved fs p) :
    ∃ text, absoluteText fs p = .ok text := by
  obtain ⟨hne, hstanding⟩ := not_or.1 h
  have hempty : p.bytes.isEmpty = false := List.isEmpty_eq_false_iff.2 hne
  unfold absoluteText absolute
  by_cases habsolute : p.isAbsolute = true
  · exact ⟨_, by simp only [hempty, habsolute]; rfl⟩
  · have hlost : ¬ IsLost fs.workingDirectory := fun hlost =>
      hstanding ⟨by simpa using habsolute, hlost⟩
    exact ⟨_, by simp only [hempty, habsolute, hlost]; rfl⟩

theorem unresolved_of_invocation {t : TranslatorProgram} {task : TranslatorTask} {fs : FileSystem}
    {failure : Failure} (h : t.invocation task fs = .error failure) :
    Unresolved fs task.jsonFile ∨ Unresolved fs task.idl.path := by
  by_contra hboth
  obtain ⟨hjson, hidl⟩ := not_or.1 hboth
  obtain ⟨json, hjson⟩ := absoluteText_ok hjson
  obtain ⟨idl, hidl⟩ := absoluteText_ok hidl
  simp [invocation, hjson, hidl, bind, Except.bind, pure, Except.pure] at h

theorem ne_nil_of_invocation {t : TranslatorProgram} {task : TranslatorTask} {fs : FileSystem}
    {arguments : List String} (h : t.invocation task fs = .ok arguments) : arguments ≠ [] := by
  obtain ⟨json, -, h⟩ := bind_eq_ok_iff.1 h
  obtain ⟨idl, -, h⟩ := bind_eq_ok_iff.1 h
  cases h
  exact List.cons_ne_nil _ _

/-- How a program came to succeed: it was started where nothing was at the JSON path, ended well, and
what it left there is an array. -/
structure Produced (launcher : Child.Launcher σ) (t : TranslatorProgram) (task : TranslatorTask)
    (w w' : Workspace σ) (arguments : List String) (cleared : FileSystem) (account : Child.Account)
    (content : Bytes) : Prop where
  called : t.invocation task w.files = .ok arguments
  removed : removePrevious task.jsonFile w.files = (.ok (), cleared)
  nothing : ∀ e, cleared.linkStatus task.jsonFile ≠ .ok e
  launched : Child.checked launcher arguments t.limit cleared w.callees
    = (.ok account, w'.files, w'.callees)
  ended : account.ending = .exited 0
  left : w'.files.readFile task.jsonFile = .ok content
  array : content.head? = some arrayStart

theorem ending_of_failure? {limit : Option Nat} {ending : Child.Ending}
    (h : ending.failure? limit = none) : ending = .exited 0 := by
  cases ending with
  | exited status =>
    cases status with
    | zero => rfl
    | succ status => simp [Child.Ending.failure?] at h
  | signalled number => simp [Child.Ending.failure?] at h
  | overtime => simp [Child.Ending.failure?] at h
  | unwaited fault => simp [Child.Ending.failure?] at h

theorem requireArray_ok {output : Bytes} {producer : String}
    (h : requireArray output producer = .ok ()) : output.head? = some arrayStart := by
  unfold requireArray at h
  split_ifs at h with harray
  exact harray

theorem checkOutput_ok {program : String} {p : Path} {fs : FileSystem}
    (h : checkOutput program p fs = .ok ()) :
    ∃ content, fs.readFile p = .ok content ∧ content.head? = some arrayStart := by
  unfold checkOutput at h
  cases hread : fs.readFile p with
  | ok content =>
    simp only [hread] at h
    exact ⟨content, rfl, requireArray_ok h⟩
  | error fault =>
    simp only [hread] at h
    split_ifs at h

theorem produced_of_ok {launcher : Child.Launcher σ} {t : TranslatorProgram} {task : TranslatorTask}
    {w w' : Workspace σ} (h : ((t.translator launcher).carryOut task).runIn w = (.ok (), w')) :
    ∃ arguments cleared account content,
      Produced launcher t task w w' arguments cleared account content := by
  rw [runIn_program] at h
  rcases hcall : t.invocation task w.files with failure | arguments
  · simp [hcall] at h
  rcases hremove : removePrevious task.jsonFile w.files with ⟨failure | ⟨⟩, cleared⟩
  · simp [hcall, hremove] at h
  simp only [hcall, hremove] at h
  have hne := ne_nil_of_invocation hcall
  unfold Child.run at h
  rw [if_neg hne] at h
  simp only [BuildM.runIn_ofFunction, started] at h
  rcases hlaunch : Child.checked launcher arguments t.limit cleared w.callees with
    ⟨fault | account, files, callees⟩
  · simp [hlaunch, concluded] at h
  simp only [hlaunch] at h
  cases hend : account.ending.failure? t.limit with
  | some detail => simp [hend, concluded] at h
  | none =>
    simp only [hend, concluded, Prod.mk.injEq] at h
    obtain ⟨hcheck, rfl⟩ := h
    obtain ⟨content, hread, harray⟩ := checkOutput_ok hcheck
    exact ⟨arguments, cleared, account, content, hcall, hremove,
      linkStatus_of_removePrevious hremove, hlaunch, ending_of_failure? hend, hread, harray⟩

/-- What was at the JSON path before makes no difference to a program that is called. -/
theorem runIn_vacated (launcher : Child.Launcher σ) (t : TranslatorProgram) (task : TranslatorTask)
    {w₁ w₂ : Workspace σ} (hjournal : w₁.journal = w₂.journal) (hcallees : w₁.callees = w₂.callees)
    (hfiles : w₁.files.vacated task.jsonFile = w₂.files.vacated task.jsonFile) :
    ((t.translator launcher).carryOut task).runIn w₁
        = ((t.translator launcher).carryOut task).runIn w₂ ∨
      (Unresolved w₁.files task.jsonFile ∨ Unresolved w₁.files task.idl.path) ∧
        ∃ failure, ((t.translator launcher).carryOut task).runIn w₁ = (.error failure, w₁) ∧
          ((t.translator launcher).carryOut task).runIn w₂ = (.error failure, w₂) := by
  have hwd : w₁.files.workingDirectory = w₂.files.workingDirectory := by
    rw [← workingDirectory_vacated w₁.files task.jsonFile, hfiles, workingDirectory_vacated]
  have hremove : removePrevious task.jsonFile w₁.files = removePrevious task.jsonFile w₂.files := by
    rw [← removePrevious_vacated, hfiles, removePrevious_vacated]
  have hinvoke := invocation_congr hwd t task
  rw [runIn_program, runIn_program, ← hinvoke, ← hremove]
  rcases hcall : t.invocation task w₁.files with failure | arguments
  · exact Or.inr ⟨unresolved_of_invocation hcall, failure, rfl, rfl⟩
  · left
    dsimp only
    unfold started
    rw [hjournal, hcallees]

end TranslatorProgram

/-! ### Services -/

namespace Service

/-- How a service came to succeed: it was asked for the bundle, its response was complete, and the
body of the response is what is at the JSON path. -/
structure Stored (network : Http.Network σ) (address : String) (limit : Option Nat)
    (task : TranslatorTask) (w w' : Workspace σ) (bundle : List BundledFile) (request : Http.Request)
    (response : Http.Response) : Prop where
  bundled : task.bundle w.files = .ok bundle
  answered : Http.post network limit address (namedValues bundle) w.callees
    = (.ok (request, response), w'.callees)
  complete : response.complete = true
  stored : w'.files.readFile task.jsonFile = .ok response.body
  array : response.body.head? = some arrayStart

/-- A body is accepted only from a complete response, and if it starts an array. -/
theorem deliveredBody_ok {address : String} {delivery : Http.Delivery} {body : Bytes}
    (h : deliveredBody address delivery = .ok body) :
    ∃ request response, delivery = .ok (request, response) ∧ response.complete = true ∧
      response.body = body ∧ body.head? = some arrayStart := by
  have houtcome := outcome_deliveredBody address delivery
  rw [h] at houtcome
  cases houtcome with
  | accepted hstatus hcomplete hbody => exact ⟨_, _, rfl, hcomplete, rfl, hbody⟩

theorem stored_of_ok {network : Http.Network σ} {address : String} {limit : Option Nat}
    {task : TranslatorTask} {w w' : Workspace σ}
    (h : ((translator network address limit).carryOut task).runIn w = (.ok (), w')) :
    ∃ bundle request response, Stored network address limit task w w' bundle request response := by
  rw [runIn_service] at h
  rcases hbundle : task.bundle w.files with failure | bundle
  · simp [hbundle] at h
  rcases hpost : Http.post network limit address (namedValues bundle) w.callees with
    ⟨delivery, callees⟩
  simp only [hbundle, hpost] at h
  rcases hbody : deliveredBody address delivery with failure | body
  · simp [hbody] at h
  simp only [hbody, Prod.mk.injEq] at h
  obtain ⟨hstore, rfl⟩ := h
  obtain ⟨request, response, rfl, hcomplete, rfl, harray⟩ := deliveredBody_ok hbody
  obtain ⟨made, place, -, -, hwritten⟩ := storeJson_ok (Prod.ext hstore rfl)
  exact ⟨bundle, request, response, hbundle, hpost, hcomplete, hwritten.readFile, harray⟩

end Service

/-! ### Both -/

namespace Translator

/-- A translation that succeeds leaves an array of its own at the JSON path; what was there before
changes neither how a program does nor what is left, if its command line can be put together. -/
theorem translated_fresh :
    (∀ (launcher : Child.Launcher σ) (t : TranslatorProgram) (task : TranslatorTask)
        (w w' : Workspace σ),
      ((t.translator launcher).carryOut task).runIn w = (.ok (), w') →
        ∃ arguments cleared account content,
          TranslatorProgram.Produced launcher t task w w' arguments cleared account content) ∧
    (∀ (network : Http.Network σ) (address : String) (limit : Option Nat) (task : TranslatorTask)
        (w w' : Workspace σ),
      ((Service.translator network address limit).carryOut task).runIn w = (.ok (), w') →
        ∃ bundle request response,
          Service.Stored network address limit task w w' bundle request response) ∧
    ∀ (launcher : Child.Launcher σ) (t : TranslatorProgram) (task : TranslatorTask)
        (w₁ w₂ : Workspace σ), w₁.journal = w₂.journal → w₁.callees = w₂.callees →
      w₁.files.vacated task.jsonFile = w₂.files.vacated task.jsonFile →
        ((t.translator launcher).carryOut task).runIn w₁
            = ((t.translator launcher).carryOut task).runIn w₂ ∨
          (TranslatorProgram.Unresolved w₁.files task.jsonFile ∨
              TranslatorProgram.Unresolved w₁.files task.idl.path) ∧
            ∃ failure,
              ((t.translator launcher).carryOut task).runIn w₁ = (.error failure, w₁) ∧
              ((t.translator launcher).carryOut task).runIn w₂ = (.error failure, w₂) :=
  ⟨fun _ _ _ _ _ => TranslatorProgram.produced_of_ok,
    fun _ _ _ _ _ _ => Service.stored_of_ok,
    fun launcher t task _ _ => TranslatorProgram.runIn_vacated launcher t task⟩

/-! #### Runs -/

/-- A program that writes an array to the path that it is given for it. -/
def arrayWriter : Child.Launcher Unit := fun arguments _ fs callees =>
  match fs.writeFile ⟨arguments.getD 2 ""⟩ [0x5B, 0x5D] with
  | .ok fs => (.ok ⟨.plain [], [], .exited 0, []⟩, fs, callees)
  | .error _ => (.ok ⟨.plain [], [], .exited 1, []⟩, fs, callees)

/-- A service that answers every request with an array. -/
def arrayService : Http.Network Unit := fun _ _ callees =>
  (.response ⟨200, [], [0x5B, 0x31, 0x5D], true⟩, callees)

def oneFile : FileSystem := FileSystem.empty.add [] "a.idl" (.file [0x31] 0o644)

def oneTask : TranslatorTask := ⟨⟨⟨"/a.idl"⟩⟩, ⟨"/a.json"⟩⟩

def caller : TranslatorProgram := ⟨"idl2json", [], none⟩

/-- The files with an earlier output beside them. -/
def oneFileAgain : FileSystem := oneFile.add [] "a.json" (.file [0x5B, 0x30, 0x5D] 0o644)

theorem oneFile_fresh :
    (∃ arguments cleared account content, TranslatorProgram.Produced arrayWriter caller oneTask
        ⟨oneFileAgain, ⟨[]⟩, ()⟩
        (((caller.translator arrayWriter).carryOut oneTask).runIn ⟨oneFileAgain, ⟨[]⟩, ()⟩).2
        arguments cleared account content) ∧
      (∃ bundle request response, Service.Stored arrayService "http://[::1]/" none oneTask
        ⟨oneFile, ⟨[]⟩, ()⟩
        (((Service.translator arrayService "http://[::1]/" none).carryOut oneTask).runIn
          ⟨oneFile, ⟨[]⟩, ()⟩).2 bundle request response) ∧
      ((caller.translator arrayWriter).carryOut oneTask).runIn ⟨oneFile, ⟨[]⟩, ()⟩
        = ((caller.translator arrayWriter).carryOut oneTask).runIn ⟨oneFileAgain, ⟨[]⟩, ()⟩ := by
  refine ⟨translated_fresh.1 _ _ _ _ _ (Prod.ext ?_ rfl),
    translated_fresh.2.1 _ _ _ _ _ _ (Prod.ext ?_ rfl), ?_⟩
  · decide +kernel
  · decide +kernel
  · rcases translated_fresh.2.2 arrayWriter caller oneTask ⟨oneFile, ⟨[]⟩, ()⟩
      ⟨oneFileAgain, ⟨[]⟩, ()⟩ rfl rfl (eq_of_entries (by decide +kernel) (by decide +kernel)) with
      hsame | ⟨hunresolved, -⟩
    · exact hsame
    · rcases hunresolved with hunresolved | hunresolved
      · exact absurd hunresolved (TranslatorProgram.not_unresolved (by decide))
      · exact absurd hunresolved (TranslatorProgram.not_unresolved (by decide))

/-- A file system whose working directory has been removed. -/
def bereft : FileSystem := ((FileSystem.empty.add [] "sub" .directory).enter ["sub"]).erase ["sub"]

def bereftAgain : FileSystem := bereft.add [] "a.json" (.file [0x5B, 0x30, 0x5D] 0o644)

def upwardTask : TranslatorTask := ⟨⟨⟨"/a.idl"⟩⟩, ⟨"../a.json"⟩⟩

/-- Seen from a working directory that was removed a relative path has no absolute form, so that the
program is not called; but a way up leads out of there, and what is at its end stays. -/
theorem stale_kept :
    bereftAgain.vacated upwardTask.jsonFile = bereft.vacated upwardTask.jsonFile ∧
      (((caller.translator arrayWriter).carryOut upwardTask).runIn
          ⟨bereftAgain, ⟨[]⟩, ()⟩).2.files.readFile upwardTask.jsonFile = .ok [0x5B, 0x30, 0x5D] ∧
      (((caller.translator arrayWriter).carryOut upwardTask).runIn
          ⟨bereft, ⟨[]⟩, ()⟩).2.files.readFile upwardTask.jsonFile = .error .noSuchEntry :=
  ⟨eq_of_entries (by decide +kernel) (by decide +kernel), by decide +kernel, by decide +kernel⟩

end Translator

end IdlBuild
