import IdlBuild.Generator
import IdlBuild.Proofs.Texts.Quoting
import IdlBuild.Proofs.Translators.Runs

/-!
# Failures tell their commands

A program that fails is reported in one text with its command line and what it came to. The command
line is a quoted list, which ends where it does whatever is told behind it, so the text determines
both (`failures_determined`).
-/

namespace IdlBuild

open Text (quotedList quotedList_isPrefixFree)

/-! ### Texts that begin with a list -/

theorem quotedList_append_inj {line line' : List String} {rest rest' : String}
    (h : quotedList line ++ rest = quotedList line' ++ rest') : line = line' ∧ rest = rest' := by
  have hchars := congrArg String.toList h
  rw [String.toList_append, String.toList_append] at hchars
  obtain ⟨hline, hrest⟩ := quotedList_isPrefixFree _ _ _ _ hchars
  exact ⟨hline, String.toList_injective hrest⟩

/-- A detail behind a list and a fixed text is told apart from both. -/
theorem quotedList_told_inj {line line' : List String} {between detail detail' : String} :
    quotedList line ++ between ++ detail = quotedList line' ++ between ++ detail' ↔
      line = line' ∧ detail = detail' := by
  constructor
  · intro h
    rw [String.append_assoc, String.append_assoc] at h
    obtain ⟨hline, hrest⟩ := quotedList_append_inj h
    exact ⟨hline, (String.append_right_inj between).1 hrest⟩
  · rintro ⟨rfl, rfl⟩
    rfl

theorem Failure.message_translatorFailed (line : List String) (detail : String) :
    (translatorFailed line detail).message =
      "Translator command " ++ quotedList line ++ " failed: " ++ detail := rfl

theorem Failure.message_translatorFailed_inj {line line' : List String} {detail detail' : String} :
    (translatorFailed line detail).message = (translatorFailed line' detail').message ↔
      line = line' ∧ detail = detail' := by
  rw [message_translatorFailed, message_translatorFailed, String.append_assoc, String.append_assoc,
    String.append_assoc, String.append_assoc, String.append_right_inj, ← String.append_assoc,
    ← String.append_assoc, quotedList_told_inj]

/-! ### Programs that fail -/

theorem Child.exists_run {σ : Type} (launcher : Launcher σ) (line : List String)
    (limit : Option Nat) (w : Workspace σ) :
    ∃ ending after, (run launcher line limit).runIn w = (.ok ending, after) := by
  unfold run
  split_ifs
  · exact ⟨_, _, rfl⟩
  · rw [BuildM.runIn_ofFunction]
    rcases checked launcher line limit w.files w.callees with ⟨fault | account, files, callees⟩
    · exact ⟨_, _, rfl⟩
    · exact ⟨_, _, rfl⟩

namespace Generator

variable {σ : Type}

/-- The workspace when the program of a generator is started. -/
def started (line : List String) (w : Workspace σ) : Workspace σ :=
  { w with journal := w.journal.add .debug ("Running: " ++ " ".intercalate line) }

/-- What comes after the program has been called. -/
def concluded (task : GeneratorTask) (line : List String) :
    Except Failure (Option String) → Except Failure Unit
  | .error failure => .error failure
  | .ok (some detail) => .error (.generatorFailed task.jsonFile (quotedList line ++ " " ++ detail))
  | .ok none => .ok ()

theorem runIn_ofProgram (launcher : Child.Launcher σ) (program : String) (arguments : List String)
    (limit : Option Nat) (task : GeneratorTask) (w : Workspace σ) :
    ((ofProgram launcher program arguments limit).carryOut task).runIn w =
      ((Child.run launcher (invocation program arguments task) limit).runIn
        (started (invocation program arguments task) w)).map
          (concluded task (invocation program arguments task)) id := by
  unfold ofProgram started
  dsimp only
  rw [BuildM.runIn_note_bind, BuildM.runIn_bind]
  rcases (Child.run launcher (invocation program arguments task) limit).runIn _ with
    ⟨failure | ending, after⟩
  · rfl
  · cases ending with
    | none => rfl
    | some detail => rfl

end Generator

/-- A call of a generator that is a program. -/
structure GeneratorCall (σ : Type) where
  launcher : Child.Launcher σ
  program : String
  arguments : List String
  limit : Option Nat
  task : GeneratorTask
  workspace : Workspace σ

namespace GeneratorCall

variable {σ : Type} (call : GeneratorCall σ)

def line : List String := Generator.invocation call.program call.arguments call.task

/-- What came of the command line when it was run. -/
def ending : Except Failure (Option String) :=
  ((Child.run call.launcher call.line call.limit).runIn
    (Generator.started call.line call.workspace)).1

def result : Except Failure Unit :=
  (((Generator.ofProgram call.launcher call.program call.arguments call.limit).carryOut
    call.task).runIn call.workspace).1

theorem result_eq : call.result = Generator.concluded call.task call.line call.ending := by
  unfold result
  rw [Generator.runIn_ofProgram]
  rfl

theorem ending_of_failed {file : Path} {text : String}
    (h : call.result = .error (.generatorFailed file text)) :
    ∃ detail, call.ending = .ok (some detail) ∧ text = quotedList call.line ++ " " ++ detail := by
  obtain ⟨ending, after, hrun⟩ := Child.exists_run call.launcher call.line call.limit
    (Generator.started call.line call.workspace)
  have hending : call.ending = .ok ending := congrArg Prod.fst hrun
  rw [result_eq, hending] at h
  cases ending with
  | none => cases h
  | some detail =>
    cases h
    exact ⟨detail, hending, rfl⟩

end GeneratorCall

namespace TranslatorProgram

variable {line : List String} {detail : String}

theorem absoluteText_ne_failed (fs : FileSystem) (p : Path) :
    absoluteText fs p ≠ .error (.translatorFailed line detail) := by
  unfold absoluteText
  intro h
  split at h <;> cases h

theorem invocation_ne_failed (t : TranslatorProgram) (task : TranslatorTask) (fs : FileSystem) :
    t.invocation task fs ≠ .error (.translatorFailed line detail) := by
  intro h
  rcases bind_eq_error_iff.1 h with hjson | ⟨json, -, h⟩
  · exact absoluteText_ne_failed _ _ hjson
  rcases bind_eq_error_iff.1 h with hidl | ⟨idl, -, h⟩
  · exact absoluteText_ne_failed _ _ hidl
  · cases h

theorem removePrevious_ne_failed (p : Path) (fs : FileSystem) :
    (removePrevious p fs).1 ≠ .error (.translatorFailed line detail) := by
  unfold removePrevious
  intro h
  split at h
  · cases h
  · split_ifs at h
    cases h

theorem checkOutput_ne_failed (program : String) (p : Path) (fs : FileSystem) :
    checkOutput program p fs ≠ .error (.translatorFailed line detail) := by
  unfold checkOutput requireArray
  intro h
  split at h
  · split_ifs at h
    cases h
  · split_ifs at h <;> cases h

end TranslatorProgram

/-- A call of a translator that is a program. -/
structure TranslatorCall (σ : Type) where
  launcher : Child.Launcher σ
  translator : TranslatorProgram
  task : TranslatorTask
  workspace : Workspace σ

namespace TranslatorCall

variable {σ : Type} (call : TranslatorCall σ)

/-- The command line, if it can be put together. -/
def line : Except Failure (List String) :=
  call.translator.invocation call.task call.workspace.files

def result : Except Failure Unit :=
  (((call.translator.translator call.launcher).carryOut call.task).runIn call.workspace).1

/-- Only a program that was run gives its command line to a failure. -/
theorem line_of_failed {line : List String} {detail : String}
    (h : call.result = .error (.translatorFailed line detail)) : call.line = .ok line := by
  unfold result at h
  rw [TranslatorProgram.runIn_program] at h
  unfold TranslatorCall.line
  rcases hline : call.translator.invocation call.task call.workspace.files with failure | arguments
  · rw [hline] at h
    obtain rfl := Except.error.inj h
    exact absurd hline (TranslatorProgram.invocation_ne_failed _ _ _)
  rw [hline] at h
  dsimp only at h
  rcases hremoved : TranslatorProgram.removePrevious call.task.jsonFile call.workspace.files with
    ⟨failure | ⟨⟩, cleared⟩
  · rw [hremoved] at h
    obtain rfl := Except.error.inj h
    exact absurd (congrArg Prod.fst hremoved) (TranslatorProgram.removePrevious_ne_failed _ _)
  rw [hremoved] at h
  dsimp only at h
  obtain ⟨ending, after, hrun⟩ := Child.exists_run call.launcher arguments call.translator.limit
    (TranslatorProgram.started arguments cleared call.workspace)
  rw [hrun] at h
  cases ending with
  | none => exact absurd h (TranslatorProgram.checkOutput_ne_failed _ _ _)
  | some told =>
    cases h
    rfl

end TranslatorCall

/-! ### Failures that tell the same -/

/-- The text of a failure tells which command line was run and what came of it: the message of a
failed translator program, for any command line and any detail, and the text that a generator's
failure carries. Two programs that fail with the same text were called with the same command line
and came to the same. -/
theorem failures_determined :
    (∀ line line' detail detail',
      (Failure.translatorFailed line detail).message
          = (Failure.translatorFailed line' detail').message ↔
        line = line' ∧ detail = detail') ∧
    (∀ line line' detail detail',
      quotedList line ++ " " ++ detail = quotedList line' ++ " " ++ detail' ↔
        line = line' ∧ detail = detail') ∧
    (∀ {σ τ : Type} (call : TranslatorCall σ) (call' : TranslatorCall τ) line line' detail detail',
      call.result = .error (.translatorFailed line detail) →
      call'.result = .error (.translatorFailed line' detail') →
      (Failure.translatorFailed line detail).message
        = (Failure.translatorFailed line' detail').message →
      call.line = call'.line ∧ detail = detail') ∧
    ∀ {σ τ : Type} (call : GeneratorCall σ) (call' : GeneratorCall τ) file file' text,
      call.result = .error (.generatorFailed file text) →
      call'.result = .error (.generatorFailed file' text) →
      call.line = call'.line ∧
        ∃ detail, call.ending = .ok (some detail) ∧ call'.ending = .ok (some detail) := by
  refine ⟨fun _ _ _ _ => Failure.message_translatorFailed_inj,
    fun _ _ _ _ => quotedList_told_inj, ?_, ?_⟩
  · intro σ τ call call' line line' detail detail' hfailed hfailed' hmessage
    obtain ⟨hline, hdetail⟩ := Failure.message_translatorFailed_inj.1 hmessage
    refine ⟨?_, hdetail⟩
    rw [call.line_of_failed hfailed, call'.line_of_failed hfailed', hline]
  · intro σ τ call call' file file' text hfailed hfailed'
    obtain ⟨detail, hending, htext⟩ := call.ending_of_failed hfailed
    obtain ⟨detail', hending', htext'⟩ := call'.ending_of_failed hfailed'
    rw [htext] at htext'
    obtain ⟨hline, rfl⟩ := quotedList_told_inj.1 htext'
    exact ⟨hline, detail, hending, hending'⟩

/-- A program that always ends with the same status and keeps count of its calls. -/
def refusing : Child.Launcher Nat := fun _ _ fs count =>
  (.ok ⟨.plain [], [], .exited 3, []⟩, fs, count + 1)

def refusedTask : GeneratorTask := ⟨⟨"/o/a.json"⟩, "g.a", "g", ⟨"/o"⟩, false⟩

/-- The arguments hold what stands between the texts of a list and behind it. -/
def refusedEarly : GeneratorCall Nat :=
  ⟨refusing, "gen", ["a\", \"b", "] failed: \\", "\t\u0301"], none, refusedTask,
    ⟨.empty, .empty, 0⟩⟩

def refusedLate : GeneratorCall Nat :=
  ⟨refusing, "gen", ["a\", \"b", "] failed: \\", "\t\u0301"], some 1000, refusedTask,
    ⟨.empty, Journal.empty.add .info "again", 7⟩⟩

def refusedText : String :=
  "[\"gen\", \"a\\\", \\\"b\", \"] failed: \\\\\", \"\\t\\u\x7b301\x7d\", \"--json\", \"/o/a.json\"" ++
    ", \"--package\", \"g.a\", \"--base-package\", \"g\", \"--out\", \"/o\"] exited with exit status: 3"

/-- Two translations by the same command line, from working directories that differ. -/
def refusedTranslation (directory : Location) (callees : Nat) : TranslatorCall Nat :=
  ⟨refusing, ⟨"idl2json", ["\""], none⟩, ⟨⟨⟨"/a.idl"⟩⟩, ⟨"/o/a.json"⟩⟩,
    ⟨(FileSystem.empty.add [] "o" .directory).enter directory, .empty, callees⟩⟩

theorem refused_determined :
    (Failure.translatorFailed ["idl2json", "\"", "-j", "/o/a.json", "/a.idl"]
        "exited with exit status: 3").message
      = "Translator command [\"idl2json\", \"\\\"\", \"-j\", \"/o/a.json\", \"/a.idl\"]" ++
          " failed: exited with exit status: 3" ∧
    (refusedTranslation [] 0).line = (refusedTranslation ["o"] 5).line ∧
    refusedEarly.result = .error (.generatorFailed ⟨"/o/a.json"⟩ refusedText) ∧
    refusedLate.result = .error (.generatorFailed ⟨"/o/a.json"⟩ refusedText) ∧
    refusedEarly.line = refusedLate.line ∧
      ∃ detail, refusedEarly.ending = .ok (some detail) ∧
        refusedLate.ending = .ok (some detail) := by
  have hfirst : (refusedTranslation [] 0).result = .error (.translatorFailed
      ["idl2json", "\"", "-j", "/o/a.json", "/a.idl"] "exited with exit status: 3") := by
    decide +kernel
  have hsecond : (refusedTranslation ["o"] 5).result = .error (.translatorFailed
      ["idl2json", "\"", "-j", "/o/a.json", "/a.idl"] "exited with exit status: 3") := by
    decide +kernel
  have hearly : refusedEarly.result = .error (.generatorFailed ⟨"/o/a.json"⟩ refusedText) := by
    decide +kernel
  have hlate : refusedLate.result = .error (.generatorFailed ⟨"/o/a.json"⟩ refusedText) := by
    decide +kernel
  obtain ⟨-, -, htranslator, hgenerator⟩ := failures_determined
  exact ⟨by decide +kernel, (htranslator _ _ _ _ _ _ hfirst hsecond rfl).1, hearly, hlate,
    hgenerator _ _ _ _ _ hearly hlate⟩

end IdlBuild
