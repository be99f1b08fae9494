import IdlBuild.Settings.Basic
import IdlBuild.Toml.Document

/-!
# Settings documents

Settings are read from a document with one key for each. A key that is none of them, or a value that
does not fit its key, is refused; keys are taken in alphabetical order, and the first that is
refused is the one reported.
-/

namespace IdlBuild.Settings

open Toml (Value Misfit)

/-! ### Values -/

/-- What a value is called in a refusal. -/
def described : Value → String
  | .string text => "string " ++ Text.quoted text
  | .integer number =>
    if -0x8000000000000000 ≤ number ∧ number < 0x10000000000000000 then s!"integer `{number}`"
    else if number < 0x80000000000000000000000000000000 then s!"integer `{number}` as i128"
    else s!"integer `{number}` as u128"
  | .oversized _ => "number"
  | .number value => s!"floating point `{value.shown}`"
  | .boolean value => s!"boolean `{value}`"
  | .dateTime | .table _ => "map"
  | .array _ => "sequence"

/-- The refusal of a value that has another type or fits no type. -/
def wrongType {α : Type} (v : Value) (expected : String) : Except Misfit α :=
  match v with
  | .oversized whole => .error (.overflow whole)
  | v => .error (.wrongType (described v) expected)

/-- A text, where `expected` says what for. -/
def readText (expected : String) : Value → Except Misfit String
  | .string text => .ok text
  | v => wrongType v expected

/-- A text. -/
def readString : Value → Except Misfit String := readText "a string"

/-- A truth value. -/
def readFlag : Value → Except Misfit Bool
  | .boolean value => .ok value
  | v => wrongType v "a boolean"

/-- A list of texts. -/
def readStrings : Value → Except Misfit (List String)
  | .array elements => elements.mapM readString
  | v => wrongType v "a sequence"

/-- A whole number of 64 bits without a sign. -/
def readSeconds : Value → Except Misfit Nat
  | .integer number =>
    if 0 ≤ number ∧ number < 0x10000000000000000 then .ok number.toNat
    else if -0x8000000000000000 ≤ number ∧ number < 0 then
      .error (.wrongValue (described (.integer number)) "u64")
    else wrongType (.integer number) "u64"
  | v => wrongType v "u64"

/-! ### Keys -/

/-- The keys of a document, in the order in which a refusal lists them. -/
def keys : List String :=
  ["translator", "translator-args", "idl-files", "exclude", "immutable", "base-package",
   "output-directory", "clean", "generator", "generator-args", "timeout-secs"]

/-- The settings with the one of a key set to a value. -/
def set (settings : Settings) (key : String) (v : Value) : Except Misfit Settings :=
  match key with
  | "translator" => (readString v).map fun x => { settings with translator := x }
  | "translator-args" => (readStrings v).map fun x => { settings with translatorArguments := x }
  | "idl-files" => (readString v).map fun x => { settings with inputs := x }
  | "exclude" => (readString v).map fun x => { settings with excluded := x }
  | "immutable" => (readFlag v).map fun x => { settings with immutable := x }
  | "base-package" => (readString v).map fun x => { settings with basePackage := x }
  | "output-directory" =>
    (readText "path string" v).map fun x => { settings with outputRoot := .ofText x }
  | "clean" => (readFlag v).map fun x => { settings with clearFirst := x }
  | "generator" => (readString v).map fun x => { settings with generator := some x }
  | "generator-args" => (readStrings v).map fun x => { settings with generatorArguments := x }
  | "timeout-secs" => (readSeconds v).map fun x => { settings with secondsAllowed := some x }
  | _ => .error (.unknownKey key keys)

/-! ### Documents -/

/-- The settings that a table describes. -/
def ofTable (table : List (String × Value)) : Except Misfit Settings :=
  (FileSystem.sortedByName table).foldlM (fun settings (key, v) => settings.set key v) defaults

/-- The settings that a document describes. -/
def ofDocument (text : String) : Except Toml.Fault Settings :=
  match Toml.readDocument text with
  | none => .error .malformed
  | some table =>
    match ofTable table with
    | .ok settings => .ok settings
    | .error misfit => .error (.unfit misfit)

/-- The settings of a file. -/
def ofFile (fs : FileSystem) (p : Path) : Except Failure Settings :=
  match fs.readText p with
  | .error fault => .error (.settingsUnreadable p fault)
  | .ok text =>
    match ofDocument text with
    | .ok settings => .ok settings
    | .error fault => .error (.settingsInvalid p fault)

end IdlBuild.Settings
