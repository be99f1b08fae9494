import IdlBuild.Proofs.Translators.Fresh

/-!
# What asking a service leaves

The delivery of a request decides the result (`Outcome`), and the result what becomes of the files:
an array that could be stored changes the file at the JSON path and the directories that were missing
on the way there, and every other result but a failure of that storing changes nothing
(`carryOut_decided`).
-/

namespace IdlBuild

open Text (Bytes)
open FileSystem
open IdlBuild.Path (Ancestor)

variable {σ : Type}

/-! ### Stored files -/

/-- What holds when a file has been stored at a path: it is there, and what else is new are
directories on the way that were missing. -/
structure StoredAt (fs : FileSystem) (p : Path) (body : Bytes) (fs' : FileSystem)
    (location : Location) : Prop where
  status : ∃ mode, fs'.status p = .ok (location, .file body mode)
  before : ∀ node, fs.node? location = some node → ∃ old mode, node = .file old mode
  kept : ∀ e ∈ fs.entries, e.1 ≠ location → e ∈ fs'.entries
  news : ∀ e ∈ fs'.entries, e.1 = location ∨ e ∈ fs.entries ∨ e.2 = .directory ∧
    ∃ q, Ancestor q p ∧ fs.linkStatus q = .error .noSuchEntry ∧ fs'.linkStatus q = .ok e
  workingDirectory : fs'.workingDirectory = fs.workingDirectory

/-- Why output could not be stored. -/
inductive StoreFault (fs : FileSystem) (p : Path) (body : Bytes) : Failure → Prop where
  | parents {parent : Path} {fault : IoFault} (hparent : p.parent? = some parent)
      (hmake : (fs.makeDirectories parent).1 = .error fault) :
      StoreFault fs p body (.operation s!"create {parent.text}" fault)
  | file {made : FileSystem} {fault : IoFault} (hmade : Made fs (Ancestor · p) made)
      (hwrite : made.writeFile p body = .error fault) :
      StoreFault fs p body (.operation s!"write {p.text}" fault)

section Storing

variable {fs fs' made : FileSystem} {p : Path} {body : Bytes} {location : Location}

theorem storedAt_of_written (hmade : Made fs (Ancestor · p) made)
    (hwritten : Written made p body fs' location) : StoredAt fs p body fs' location := by
  obtain ⟨mode, hdiffer⟩ := hwritten.differ
  refine ⟨hwritten.status, fun node hnode => hdiffer.before (hmade.kept.node hnode),
    fun e he hne => (hwritten.elsewhere e hne).2 (hmade.kept.mem he), fun e he => ?_,
    hdiffer.workingDirectory.trans hmade.kept.workingDirectory⟩
  by_cases hhere : e.1 = location
  · exact Or.inl hhere
  · refine Or.inr ((hmade.news e ((hwritten.elsewhere e hhere).1 he)).imp_right ?_)
    rintro ⟨hdirectory, q, hq, hbefore, hafter⟩
    obtain ⟨found, node⟩ := e
    obtain rfl : node = .directory := hdirectory
    exact ⟨rfl, q, hq, hbefore, linkStatus_differ hdiffer hafter⟩

theorem storeJson_cases (body : Bytes) (p : Path) (fs : FileSystem) :
    ((storeJson body p fs).1 = .ok () ∧
        ∃ location, StoredAt fs p body (storeJson body p fs).2 location) ∨
      ∃ failure, (storeJson body p fs).1 = .error failure ∧ StoreFault fs p body failure := by
  rcases hstore : storeJson body p fs with ⟨failure | ⟨⟩, fs'⟩
  · refine Or.inr ⟨failure, rfl, ?_⟩
    unfold storeJson at hstore
    cases hparent : p.parent? with
    | none =>
      rcases hwrite : fs.writeFile p body with fault | written
      · simp only [hparent, hwrite, Prod.mk.injEq, Except.error.injEq] at hstore
        obtain ⟨rfl, -⟩ := hstore
        exact .file (.refl fs _) hwrite
      · simp [hparent, hwrite] at hstore
    | some parent =>
      have hmade : Made fs (Ancestor · p) (fs.makeDirectories parent).2 :=
        (makeDirectories_made fs parent).weaken fun _ => onWay_of_parent hparent
      rcases hmake : fs.makeDirectories parent with ⟨fault | ⟨⟩, made⟩
      · simp only [hparent, hmake, Prod.mk.injEq, Except.error.injEq] at hstore
        obtain ⟨rfl, -⟩ := hstore
        exact .parents hparent (by rw [hmake])
      · rw [hmake] at hmade
        rcases hwrite : made.writeFile p body with fault | written
        · simp only [hparent, hmake, hwrite, Prod.mk.injEq, Except.error.injEq] at hstore
          obtain ⟨rfl, -⟩ := hstore
          exact .file hmade hwrite
        · simp [hparent, hmake, hwrite] at hstore
  · obtain ⟨made, place, hmade, -, hwritten⟩ := storeJson_ok hstore
    exact Or.inl ⟨rfl, place.location, storedAt_of_written hmade hwritten⟩

end Storing

/-! ### Bundles -/

section Bundles

variable {fs : FileSystem} {failure : Failure}

/-- Whether a failure is one of reading the files to send. -/
def IsUnreadable (failure : Failure) : Prop :=
  (∃ (p : Path) (fault : IoFault), failure = .operation s!"read {p.text}" fault) ∨
    ∃ (p : Path) (fault : IoFault), failure = .operation s!"list {p.text}" fault

theorem isUnreadable_of_read {p : Path} (h : BundledFile.read fs p = .error failure) :
    IsUnreadable failure := by
  unfold BundledFile.read at h
  cases hread : fs.readFile p with
  | ok content => simp [hread] at h
  | error fault =>
    simp only [hread, Except.error.injEq] at h
    exact Or.inl ⟨p, fault, h.symm⟩

theorem isUnreadable_of_neighbours {directory primary : Path} {visits : List Visit}
    (h : neighbours fs directory primary visits = .error failure) : IsUnreadable failure := by
  induction visits with
  | nil => cases h
  | cons visit rest ih =>
    cases visit with
    | fault fault =>
      unfold neighbours at h
      split_ifs at h
      · exact ih h
      · exact Or.inr ⟨directory, fault.toIoFault, (Except.error.inj h).symm⟩
    | entry p kind =>
      unfold neighbours at h
      split_ifs at h
      · exact ih h
      · rcases bind_eq_error_iff.1 h with hread | ⟨file, -, h⟩
        · exact isUnreadable_of_read hread
        rcases bind_eq_error_iff.1 h with hrest | ⟨files, -, hdone⟩
        · exact ih hrest
        · cases hdone

theorem isUnreadable_of_bundle {task : TranslatorTask} (h : task.bundle fs = .error failure) :
    IsUnreadable failure := by
  rcases bind_eq_error_iff.1 h with hread | ⟨first, -, h⟩
  · exact isUnreadable_of_read hread
  rcases bind_eq_error_iff.1 h with hrest | ⟨files, -, hdone⟩
  · exact isUnreadable_of_neighbours hrest
  · cases hdone

end Bundles

/-! ### Results -/

namespace Service

/-- What becomes of the files with an outcome: only an accepted body touches them. -/
def Leaves (task : TranslatorTask) (w : Workspace σ) :
    Except Failure Bytes → Except Failure Unit × Workspace σ → Prop
  | .error failure, (result, after) => result = .error failure ∧ after.files = w.files
  | .ok body, (result, after) =>
    (result = .ok () ∧ ∃ location, StoredAt w.files task.jsonFile body after.files location) ∨
      ∃ failure, result = .error failure ∧ StoreFault w.files task.jsonFile body failure

/-- Files that cannot be read end the task before anything is posted. Otherwise the delivery has one
outcome, and that decides the result and what is left of the files. -/
theorem carryOut_decided (network : Http.Network σ) (address : String) (limit : Option Nat)
    (task : TranslatorTask) (w : Workspace σ) :
    (∃ failure, task.bundle w.files = .error failure ∧ IsUnreadable failure ∧
        ((translator network address limit).carryOut task).runIn w = (.error failure, w)) ∨
      ∃ bundle delivery callees outcome, task.bundle w.files = .ok bundle ∧
        Http.post network limit address (namedValues bundle) w.callees = (delivery, callees) ∧
        Outcome address delivery outcome ∧
        (∀ other, Outcome address delivery other → other = outcome) ∧
        Leaves task w outcome (((translator network address limit).carryOut task).runIn w) := by
  rw [runIn_service]
  rcases hbundle : task.bundle w.files with failure | bundle
  · exact Or.inl ⟨failure, rfl, isUnreadable_of_bundle hbundle, rfl⟩
  rcases hpost : Http.post network limit address (namedValues bundle) w.callees with
    ⟨delivery, callees⟩
  refine Or.inr ⟨bundle, delivery, callees, deliveredBody address delivery, rfl, hpost,
    outcome_deliveredBody address delivery, fun other => Outcome.eq_deliveredBody, ?_⟩
  simp only [hpost]
  rcases deliveredBody address delivery with failure | body
  · exact ⟨rfl, rfl⟩
  · exact storeJson_cases body task.jsonFile w.files

/-- Where the IDL file is missing the answer of the service counts for nothing, and an array that the
service answers is not taken where the JSON path is a directory. -/
theorem answer_lost :
    ((((translator Translator.arrayService "http://[::1]/" none).carryOut Translator.oneTask).runIn
          ⟨FileSystem.empty, ⟨[]⟩, ()⟩).1 = .error (.operation "read /a.idl" .noSuchEntry) ∧
      ∀ delivery, ¬ Outcome "http://[::1]/" delivery
        (.error (.operation "read /a.idl" .noSuchEntry))) ∧
    ((((translator Translator.arrayService "http://[::1]/" none).carryOut
          ⟨Translator.oneTask.idl, ⟨"/"⟩⟩).runIn ⟨Translator.oneFile, ⟨[]⟩, ()⟩).1
        = .error (.operation "write /" .isDirectory) ∧
      Outcome "http://[::1]/" (Http.post Translator.arrayService none "http://[::1]/"
        (namedValues [⟨"a.idl", [0x31]⟩]) ()).1 (.ok [0x5B, 0x31, 0x5D])) := by
  refine ⟨⟨by decide +kernel, ?_⟩, by decide +kernel, ?_⟩
  · intro delivery houtcome
    cases houtcome
  · have houtcome := outcome_deliveredBody "http://[::1]/"
      (Http.post Translator.arrayService none "http://[::1]/"
        (namedValues [⟨"a.idl", [0x31]⟩]) ()).1
    have haccepted : deliveredBody "http://[::1]/"
        (Http.post Translator.arrayService none "http://[::1]/"
          (namedValues [⟨"a.idl", [0x31]⟩]) ()).1 = .ok [0x5B, 0x31, 0x5D] := by
      decide +kernel
    rwa [haccepted] at houtcome

end Service

end IdlBuild
