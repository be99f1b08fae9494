import IdlBuild.Text.Blank
import IdlBuild.Toolchain

/-!
# Settings of a build

Everything that can be set, with a default for each setting, and the job that the settings describe.
-/

namespace IdlBuild

/-- The settings of one build. -/
structure Settings where
  /-- The translator program or the address of a remote one. -/
  translator : String
  /-- Arguments for a translator program, before the build's own. -/
  translatorArguments : List String
  /-- Comma-separated IDL files and directories. -/
  inputs : String
  /-- Comma-separated file names to leave out in directories. -/
  excluded : String
  /-- Whether immutable types are asked for. -/
  immutable : Bool
  basePackage : String
  outputRoot : Path
  /-- Whether the directory of the target is cleared first. -/
  clearFirst : Bool
  /-- The generator program; without one only JSON is made. -/
  generator : Option String
  generatorArguments : List String
  /-- The longest time, in seconds, that a translator or generator may take. -/
  secondsAllowed : Option Nat
deriving DecidableEq, Repr

namespace Settings

/-- The settings when nothing is set. -/
def defaults : Settings where
  translator := "barrister"
  translatorArguments := []
  inputs := "src/main/resources/barrister/"
  excluded := ""
  immutable := false
  basePackage := "generated"
  outputRoot := .ofText "src/main/java"
  clearFirst := false
  generator := none
  generatorArguments := []
  secondsAllowed := none

/-- The job that the settings describe. -/
def job (settings : Settings) : Job where
  inputs := settings.inputs
  excluded := .ofList settings.excluded
  outputRoot := settings.outputRoot
  basePackage := settings.basePackage
  immutable := settings.immutable
  clearFirst := settings.clearFirst

/-- Whether a written flag is set: only `true` sets it, blanks around it aside. -/
def isSet (value : String) : Bool := Text.trimmed value.toList == "true".toList

end Settings

end IdlBuild
