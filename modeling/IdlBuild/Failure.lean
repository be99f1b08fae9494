import IdlBuild.Http.Fault
import IdlBuild.Path.Basic
import IdlBuild.SystemFault
import IdlBuild.Text.Quoted
import IdlBuild.Toml.Fault

/-!
# Failures of a build

Every way in which a build can fail, with what is needed to understand it without running the build
again: the path, the exact command line, or what the remote translator answered. A failure that
belongs to one IDL file is wrapped with that file and the phase it happened in; `innermost` looks
through the wrappers.
-/

namespace IdlBuild

/-- The two phases that every IDL file goes through. -/
inductive Phase where
  | translating
  | generating
deriving DecidableEq, Repr

/-- The name of a phase. -/
def Phase.name : Phase → String
  | translating => "translate"
  | generating => "generate"

/-- Why a build failed. -/
inductive Failure where
  /-- An entry of the input list does not exist. -/
  | missingInput (path : Path)
  /-- Clearing stopped at an entry that could not be removed. -/
  | notRemoved (path : Path) (fault : IoFault)
  /-- The output directory could not be made. -/
  | notCreated (path : Path) (fault : IoFault)
  /-- The translator could not be started, did not end in time, or ended unsuccessfully. -/
  | translatorFailed (arguments : List String) (detail : String)
  /-- The remote translator refused the files with a text of its own. -/
  | serviceRefused (address text : String)
  /-- What was to be a JSON array is not one. -/
  | notArray (producer text : String)
  /-- No usable response came from the remote translator. -/
  | requestFailed (address : String) (fault : Http.Fault)
  /-- The generator failed on one translated file. -/
  | generatorFailed (jsonFile : Path) (detail : String)
  /-- Another request to the operating system failed. -/
  | operation (context : String) (fault : IoFault)
  /-- The settings file could not be read. -/
  | settingsUnreadable (path : Path) (fault : IoFault)
  /-- The settings file holds no settings. -/
  | settingsInvalid (path : Path) (fault : Toml.Fault)
  /-- The command line could not be understood. -/
  | misuse (text : String)
  /-- A failure that belongs to one IDL file. -/
  | within (path : Path) (phase : Phase) (failure : Failure)
deriving DecidableEq, Repr

namespace Failure

/-- What is shown of a failure itself. -/
def message : Failure → String
  | missingInput path => s!"File not found: {path.text}"
  | notRemoved path _ => s!"Unable to delete: {path.text}"
  | notCreated path _ => s!"Unable to create base output directory: {path.text}"
  | translatorFailed arguments detail =>
    s!"Translator command {Text.quotedList arguments} failed: {detail}"
  | serviceRefused _ text => s!"Error translating IDL: {text}"
  | notArray producer text => s!"Unexpected response from: {producer} response: {text}"
  | requestFailed address _ => s!"Request to translation service {address} failed"
  | generatorFailed jsonFile detail => s!"Error running generator for {jsonFile.text}: {detail}"
  | operation context _ => context
  | settingsUnreadable path _ => s!"Failed to read config file: {path.text}"
  | settingsInvalid path _ => s!"Failed to parse config file: {path.text}"
  | misuse text => text
  | within path phase _ => s!"Error processing: {path.text} ({phase.name})"

/-- The kind of a failure, as reports name it. -/
def code : Failure → String
  | missingInput .. => "idl2src::path_not_found"
  | notRemoved .. => "idl2src::delete_failure"
  | notCreated .. => "idl2src::directory_create_failure"
  | translatorFailed .. => "idl2src::translation_process_failure"
  | serviceRefused .. => "idl2src::translation_service_failure"
  | notArray .. => "idl2src::invalid_translation_response"
  | requestFailed .. => "idl2src::translation_transport"
  | generatorFailed .. => "idl2src::generator_failure"
  | operation .. => "idl2src::io"
  | settingsUnreadable .. => "idl2src::config_read"
  | settingsInvalid .. => "idl2src::config_parse"
  | misuse .. => "idl2src::usage"
  | within .. => "idl2src::file"

/-- What the reader can do about it, where there is something to say. -/
def help? : Failure → Option String
  | missingInput .. => some "every comma-separated entry in `idl-files` must exist"
  | translatorFailed .. => some "the translator's own output is logged above this error"
  | notArray .. => some "translator output must be a JSON array starting with `[`"
  | misuse .. => some "run `idl2src --help` for usage"
  | _ => none

/-- The messages of what a failure was caused by, outermost first. -/
def causes : Failure → List String
  | notRemoved _ fault | notCreated _ fault | operation _ fault | settingsUnreadable _ fault =>
    [fault.message]
  | settingsInvalid _ fault => [fault.message]
  | requestFailed _ fault => fault.message :: fault.causes
  | within _ _ failure => failure.message :: failure.causes
  | _ => []

/-- The failure inside all wrappers. -/
def innermost : Failure → Failure
  | within _ _ failure => failure.innermost
  | failure => failure

end Failure

end IdlBuild
