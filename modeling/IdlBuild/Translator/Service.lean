import IdlBuild.Http.Client
import IdlBuild.Translator.Task

/-!
# Remote translators

A translator that is a service at some address. The bundle of a task is posted as named values, two
for each file, the primary file first. An internal error of the service carries its own text; any
other error status, and every failure to get a complete response, is a failed request; a response
that is a JSON array is written to the JSON path as it came.
-/

namespace IdlBuild.Service

open Text (Bytes)

/-- The named values of a bundle: for each file its name and its text, numbered from 0. -/
def namedValues (bundle : List BundledFile) : List Http.Form.Field :=
  bundle.zipIdx.flatMap fun (file, i) =>
    [(s!"idl.{i}.filename", file.name), (s!"idl.{i}.content", Text.decodeLossy file.content)]

/-- The status of an internal error, whose body is the text of the service. -/
def internalError : Nat := 500

/-- The translated output that a final response brings. -/
def acceptedBody (address : String) : Http.Request × Http.Response → Except Failure Bytes
  | (request, response) =>
    if response.status = internalError then
      if response.complete then
        .error (.serviceRefused address (Text.decodeLossy response.body))
      else .error (.requestFailed address .body)
    else if Http.isClientError response.status || Http.isServerError response.status then
      .error (.requestFailed address (.status response.status request.url.text))
    else if !response.complete then .error (.requestFailed address .body)
    else match requireArray response.body address with
      | .ok () => .ok response.body
      | .error failure => .error failure

/-- The translated output that a delivery brings. -/
def deliveredBody (address : String) : Http.Delivery → Except Failure Bytes
  | .error fault => .error (.requestFailed address fault)
  | .ok final => acceptedBody address final

/-- Posts a bundle and gives the translated output. -/
def ask {σ : Type} (network : Http.Network σ) (address : String) (limit : Option Nat)
    (bundle : List BundledFile) : BuildM σ Bytes :=
  BuildM.ofFunction fun w =>
    let (delivery, callees) := Http.post network limit address (namedValues bundle) w.callees
    (deliveredBody address delivery, { w with callees })

/-- The translator that asks a service; the time limit is in milliseconds. -/
def translator {σ : Type} (network : Http.Network σ) (address : String) (limit : Option Nat) :
    Translator σ where
  shownAs := address
  carryOut task := do
    let bundle ← BuildM.onFiles fun fs => (task.bundle fs, fs)
    BuildM.note .debug s!"POST {address} ({bundle.length} files)"
    let body ← ask network address limit bundle
    BuildM.onFiles (storeJson body task.jsonFile)

end IdlBuild.Service
