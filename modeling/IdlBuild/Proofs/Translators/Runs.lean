import IdlBuild.Proofs.FileSystem.Vacating
import IdlBuild.Translator.Program
import IdlBuild.Translator.Service

/-!
# Runs of translators

What the two kinds of translators do, from the files they find to the result and the files they
leave: a program is called between a removal and a look at its output (`runIn_program`), a service
is asked before anything is written (`runIn_service`).
-/

namespace IdlBuild

open Text (Bytes)
open FileSystem
open IdlBuild.Path (Ancestor)

variable {σ : Type}

/-! ### Programs -/

namespace TranslatorProgram

variable (launcher : Child.Launcher σ) (t : TranslatorProgram) (task : TranslatorTask)

/-- The workspace when the program is started: what was at the JSON path is gone. -/
def started (arguments : List String) (cleared : FileSystem) (w : Workspace σ) : Workspace σ :=
  { w with
    files := cleared
    journal := w.journal.add .debug ("Running: " ++ " ".intercalate arguments) }

/-- What comes after the program has been called. -/
def concluded (arguments : List String) :
    Except Failure (Option String) × Workspace σ → Except Failure Unit × Workspace σ
  | (.error failure, w) => (.error failure, w)
  | (.ok (some detail), w) => (.error (.translatorFailed arguments detail), w)
  | (.ok none, w) => (checkOutput t.program task.jsonFile w.files, w)

theorem runIn_program (w : Workspace σ) :
    ((t.translator launcher).carryOut task).runIn w =
      match t.invocation task w.files with
      | .error failure => (.error failure, w)
      | .ok arguments =>
        match removePrevious task.jsonFile w.files with
        | (.error failure, files) => (.error failure, { w with files })
        | (.ok (), cleared) =>
          t.concluded task arguments
            ((Child.run launcher arguments t.limit).runIn (started arguments cleared w)) := by
  unfold translator
  dsimp only
  rw [BuildM.runIn_bind]
  rcases hcall : t.invocation task w.files with failure | arguments
  · simp [BuildM.onFiles, hcall]
  simp only [BuildM.onFiles, BuildM.runIn_ofFunction, hcall]
  rw [BuildM.runIn_bind]
  rcases hremove : removePrevious task.jsonFile w.files with ⟨failure | ⟨⟩, cleared⟩
  · simp [hremove]
  simp only [BuildM.runIn_ofFunction, hremove, BuildM.runIn_note_bind]
  rw [BuildM.runIn_bind]
  unfold started
  rcases (Child.run launcher arguments t.limit).runIn _ with ⟨failure | detail, after⟩
  · rfl
  · cases detail <;> rfl

end TranslatorProgram

/-! ### Services -/

namespace Service

/-- The workspace when a service has answered. -/
def answered (address : String) (bundle : List BundledFile) (callees : σ) (w : Workspace σ) :
    Workspace σ :=
  { w with
    journal := w.journal.add .debug s!"POST {address} ({bundle.length} files)"
    callees }

theorem runIn_service (network : Http.Network σ) (address : String) (limit : Option Nat)
    (task : TranslatorTask) (w : Workspace σ) :
    ((translator network address limit).carryOut task).runIn w =
      match task.bundle w.files with
      | .error failure => (.error failure, w)
      | .ok bundle =>
        match Http.post network limit address (namedValues bundle) w.callees with
        | (delivery, callees) =>
          match deliveredBody address delivery with
          | .error failure => (.error failure, answered address bundle callees w)
          | .ok body =>
            ((storeJson body task.jsonFile w.files).1,
              { answered address bundle callees w with
                files := (storeJson body task.jsonFile w.files).2 }) := by
  unfold translator
  dsimp only
  rw [BuildM.runIn_bind]
  rcases hbundle : task.bundle w.files with failure | bundle
  · simp [BuildM.onFiles, hbundle]
  simp only [BuildM.onFiles, BuildM.runIn_ofFunction, hbundle, BuildM.runIn_note_bind]
  rw [BuildM.runIn_bind]
  unfold ask
  simp only [BuildM.runIn_ofFunction]
  rcases Http.post network limit address (namedValues bundle) w.callees with ⟨delivery, callees⟩
  dsimp only
  rcases deliveredBody address delivery with failure | body
  · rfl
  · rfl

/-! #### Deliveries -/

/-- Whether a status is that of an error. -/
def IsErrorStatus (status : Nat) : Prop := 400 ≤ status ∧ status < 600

/-- The results that deliveries have, up to the storing of an accepted body. -/
inductive Outcome (address : String) : Http.Delivery → Except Failure Bytes → Prop where
  | undelivered (fault : Http.Fault) :
      Outcome address (.error fault) (.error (.requestFailed address fault))
  | refused {request : Http.Request} {response : Http.Response} (hstatus : response.status = 500)
      (hcomplete : response.complete = true) :
      Outcome address (.ok (request, response))
        (.error (.serviceRefused address (Text.decodeLossy response.body)))
  | failed {request : Http.Request} {response : Http.Response}
      (hstatus : IsErrorStatus response.status) (hother : response.status ≠ 500) :
      Outcome address (.ok (request, response))
        (.error (.requestFailed address (.status response.status request.url.text)))
  | truncated {request : Http.Request} {response : Http.Response}
      (hstatus : response.status = 500 ∨ ¬ IsErrorStatus response.status)
      (hcomplete : response.complete = false) :
      Outcome address (.ok (request, response)) (.error (.requestFailed address .body))
  | unusable {request : Http.Request} {response : Http.Response}
      (hstatus : ¬ IsErrorStatus response.status) (hcomplete : response.complete = true)
      (hbody : response.body.head? ≠ some arrayStart) :
      Outcome address (.ok (request, response))
        (.error (.notArray address (Text.decodeLossy response.body)))
  | accepted {request : Http.Request} {response : Http.Response}
      (hstatus : ¬ IsErrorStatus response.status) (hcomplete : response.complete = true)
      (hbody : response.body.head? = some arrayStart) :
      Outcome address (.ok (request, response)) (.ok response.body)

theorem isErrorStatus_iff {status : Nat} :
    (Http.isClientError status || Http.isServerError status) = true ↔ IsErrorStatus status := by
  unfold IsErrorStatus
  simp only [Http.isClientError, Http.isServerError, Bool.or_eq_true, Bool.and_eq_true,
    decide_eq_true_eq]
  omega

theorem outcome_acceptedBody (address : String) (request : Http.Request)
    (response : Http.Response) :
    Outcome address (.ok (request, response)) (acceptedBody address (request, response)) := by
  unfold acceptedBody
  dsimp only
  by_cases hinternal : response.status = internalError
  · rw [if_pos hinternal]
    by_cases hcomplete : response.complete = true
    · rw [if_pos hcomplete]
      exact .refused hinternal hcomplete
    · rw [if_neg hcomplete]
      exact .truncated (Or.inl hinternal) (by simpa using hcomplete)
  rw [if_neg hinternal]
  by_cases herror : IsErrorStatus response.status
  · rw [if_pos (isErrorStatus_iff.2 herror)]
    exact .failed herror hinternal
  rw [if_neg fun h => herror (isErrorStatus_iff.1 h)]
  by_cases hcomplete : response.complete = true
  · have hgo : ¬ (!response.complete) = true := by simp [hcomplete]
    rw [if_neg hgo]
    unfold requireArray
    by_cases harray : response.body.head? = some arrayStart
    · simp only [if_pos harray]
      exact .accepted herror hcomplete harray
    · simp only [if_neg harray]
      exact .unusable herror hcomplete harray
  · have hstop : (!response.complete) = true := by simpa using hcomplete
    rw [if_pos hstop]
    exact .truncated (Or.inr herror) (by simpa using hcomplete)

theorem outcome_deliveredBody (address : String) (delivery : Http.Delivery) :
    Outcome address delivery (deliveredBody address delivery) := by
  rcases delivery with fault | ⟨request, response⟩
  · exact .undelivered fault
  · exact outcome_acceptedBody address request response

/-- A delivery has one outcome. -/
theorem Outcome.eq_deliveredBody {address : String} {delivery : Http.Delivery}
    {result : Except Failure Bytes} (h : Outcome address delivery result) :
    result = deliveredBody address delivery := by
  have hfree : ∀ {status : Nat}, ¬ IsErrorStatus status → status ≠ internalError := by
    rintro status hfine rfl
    exact hfine ⟨by decide, by decide⟩
  cases h with
  | undelivered fault => rfl
  | refused hstatus hcomplete =>
    have hinternal : _ = internalError := hstatus
    simp [deliveredBody, acceptedBody, hinternal, hcomplete]
  | failed hstatus hother =>
    have hinternal : ¬ _ = internalError := hother
    simp only [deliveredBody, acceptedBody, if_neg hinternal, if_pos (isErrorStatus_iff.2 hstatus)]
  | truncated hstatus hcomplete =>
    rcases hstatus with hstatus | hstatus
    · have hinternal : _ = internalError := hstatus
      simp [deliveredBody, acceptedBody, hinternal, hcomplete]
    · simp only [deliveredBody, acceptedBody, if_neg (hfree hstatus),
        if_neg fun h => hstatus (isErrorStatus_iff.1 h), hcomplete]
      rfl
  | unusable hstatus hcomplete hbody =>
    simp only [deliveredBody, acceptedBody, if_neg (hfree hstatus),
      if_neg fun h => hstatus (isErrorStatus_iff.1 h), hcomplete, requireArray, if_neg hbody]
    rfl
  | accepted hstatus hcomplete hbody =>
    simp only [deliveredBody, acceptedBody, if_neg (hfree hstatus),
      if_neg fun h => hstatus (isErrorStatus_iff.1 h), hcomplete, requireArray, if_pos hbody]
    rfl

end Service

/-! ### Stored output -/

section Storing

variable {fs fs' : FileSystem} {p : Path} {output : Bytes}

/-- Output that could be stored was written where the path leads once its parents are there. -/
theorem storeJson_ok (h : storeJson output p fs = (.ok (), fs')) :
    ∃ made place, Made fs (Ancestor · p) made ∧ made.locate true p = .ok place ∧
      Written made p output fs' place.location := by
  unfold storeJson at h
  cases hparent : p.parent? with
  | none =>
    simp only [hparent] at h
    rcases hwrite : fs.writeFile p output with fault | written
    · simp [hwrite] at h
    · simp only [hwrite, Prod.mk.injEq, true_and] at h
      obtain ⟨place, hlocate, hwritten⟩ := writeFile_written hwrite
      exact ⟨fs, place, .refl fs _, hlocate, h ▸ hwritten⟩
  | some parent =>
    have hmade : Made fs (Ancestor · p) (fs.makeDirectories parent).2 :=
      (makeDirectories_made fs parent).weaken fun _ => onWay_of_parent hparent
    simp only [hparent] at h
    rcases hmake : fs.makeDirectories parent with ⟨fault | ⟨⟩, made⟩
    · simp [hmake] at h
    · simp only [hmake] at h
      rw [hmake] at hmade
      rcases hwrite : made.writeFile p output with fault | written
      · simp [hwrite] at h
      · simp only [hwrite, Prod.mk.injEq, true_and] at h
        obtain ⟨place, hlocate, hwritten⟩ := writeFile_written hwrite
        exact ⟨made, place, hmade, hlocate, h ▸ hwritten⟩

end Storing

end IdlBuild
