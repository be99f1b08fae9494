import IdlBuild.CommandLine.JournalFilter
import IdlBuild.CommandLine.Reading
import IdlBuild.Settings.Build

/-!
# The command-line program

What the program prints and the status it ends with. Help and version are printed and nothing is
built; otherwise the build that the arguments describe is run, its journal is printed through a
filter, and a failure is reported with everything that led to it.
-/

namespace IdlBuild.CommandLine

open Text (Bytes)

/-! ### Texts -/

/-- The name of the program. -/
def programName : String := "idl2src"

/-- The version of the program. -/
def programVersion : String := "0.1.0"

/-- The lines of the help text. -/
def helpLines : List String :=
  ["Translate IDL files to JSON and generate sources from them",
   "",
   "Usage: idl2src [OPTIONS] [PATHS]...",
   "",
   "Arguments:",
   "  [PATHS]...  IDL files or directories, comma-separated or repeated",
   "              [default: src/main/resources/barrister/]",
   "",
   "Options:",
   "  -c, --config <FILE>          Read settings from a TOML file",
   "  -i, --idl-files <PATHS>      Same as [PATHS] (repeatable)",
   "  -t, --translator <CMD|URL>   Translator program or http(s) service URL [default: barrister]",
   "      --translator-arg <ARG>   Argument passed to the translator before `-j` (repeatable)",
   "  -x, --exclude <NAMES>        Comma-separated file names to skip in directories",
   "  -p, --base-package <PKG>     Base package for generated sources [default: generated]",
   "  -o, --output-dir <DIR>       Source root to write into [default: src/main/java]",
   "      --immutable[=<BOOL>]     Generate immutable structs",
   "      --clean[=<BOOL>]         Wipe <output-dir>/<base-package> before building",
   "  -g, --generator <CMD>        External generator to run on each JSON file",
   "      --generator-arg <ARG>    Argument passed to the generator (repeatable)",
   "      --timeout <SECS>         Kill translator/generator calls that run longer",
   "  -h, --help                   Print help",
   "  -V, --version                Print version",
   "",
   "Logging is controlled by IDL2SRC_LOG (default: info)."]

/-- The help text. -/
def helpText : String := String.join (helpLines.map (· ++ "\n"))

/-- The text that answers a question about the version. -/
def versionText : String := s!"{programName} {programVersion}\n"

/-- The last line of a successful build. -/
def successMessage (product : Product) : String :=
  s!"Processed {product.tasks.length} IDL file(s) into {product.directory.text}"

/-! ### Printed lines -/

/-- A character of a message as it is printed. One that could steer a terminal is spelled out. -/
def printedChar (c : Char) : List Char :=
  if c = '\x07' ∨ c = '\x08' ∨ c = '\x0C' ∨ c = '\x1B' ∨ c = '\x7F' then
    '\\' :: 'x' :: (if c.toNat < 16 then ['0'] else []) ++ Nat.toDigits 16 c.toNat
  else if 0x80 ≤ c.toNat ∧ c.toNat ≤ 0x9F then Text.codePointEscape c
  else [c]

/-- A line of the journal as it is printed. -/
def printedLine (line : Line) : Line :=
  { line with message := String.ofList (line.message.toList.flatMap printedChar) }

/-! ### Reports -/

/-- The report of a failure: what happened, what it was caused by, what can be done about it, and
the kind of failure. -/
def failureReport (failure : Failure) : List String :=
  [s!"Error: {failure.message}", "    Diagnostic severity: error"] ++
    failure.causes.map (fun cause => s!"    Caused by: {cause}") ++
    (failure.help?.map fun help => s!"diagnostic help: {help}").toList ++
    [s!"diagnostic code: {failure.code}", ""]

/-! ### Runs -/

/-- How a run of the program ended. -/
structure Outcome where
  status : Nat
  /-- What was printed on the standard output. -/
  printed : String
  /-- The lines of the journal that were printed. -/
  lines : List Line
  failure : Option Failure

/-- The outcome of a failure. -/
def Outcome.failed (lines : List Line) (failure : Failure) : Outcome :=
  ⟨1, "", lines, some failure⟩

/-- The build that choices ask for, with its last line. -/
def buildChosen {σ : Type} (surroundings : Surroundings σ) (choices : Choices) :
    BuildM σ Product := do
  let settings ← BuildM.onFiles fun fs => (choices.toSettings fs, fs)
  let product ← settings.build surroundings
  BuildM.note .info (successMessage product)
  return product

/-- Runs the program with arguments and a setting of the filter. -/
def runProgram {σ : Type} (surroundings : Surroundings σ) (arguments : List Bytes)
    (filterSetting : Option String) (w : Workspace σ) : Outcome × Workspace σ :=
  match read arguments with
  | .error fault => (.failed [] (.misuse fault.message), w)
  | .ok .help => (⟨0, helpText, [], none⟩, w)
  | .ok .version => (⟨0, versionText, [], none⟩, w)
  | .ok (.build choices) =>
    let (result, after) := (buildChosen surroundings choices).runIn { w with journal := .empty }
    let filter := JournalFilter.ofSetting filterSetting
    let lines := (after.journal.lines.filter filter.prints).map printedLine
    match result with
    | .ok _ => (⟨0, "", lines, none⟩, after)
    | .error failure => (.failed lines failure, after)

end IdlBuild.CommandLine
