import IdlBuild.Settings.Document

/-!
# Choices of the command line

What a command line says about the settings of a build. A setting that takes one value keeps the
last one chosen, a list grows in the order in which its elements are chosen (`add`), and choices
made later go on top of earlier ones (`followedBy`). What is chosen wins over the settings file, and
the settings file over the defaults.
-/

namespace IdlBuild.CommandLine

/-- One choice. -/
inductive Choice where
  | settingsFile (path : Path)
  | translator (text : String)
  | translatorArgument (text : String)
  | input (text : String)
  | excluded (text : String)
  | immutable (value : Bool)
  | basePackage (text : String)
  | outputRoot (path : Path)
  | clearFirst (value : Bool)
  | generator (text : String)
  | generatorArgument (text : String)
  | secondsAllowed (seconds : Nat)
deriving DecidableEq, Repr

/-- All choices of a command line. -/
structure Choices where
  settingsFile : Option Path
  translator : Option String
  translatorArguments : List String
  inputs : List String
  excluded : Option String
  immutable : Option Bool
  basePackage : Option String
  outputRoot : Option Path
  clearFirst : Option Bool
  generator : Option String
  generatorArguments : List String
  secondsAllowed : Option Nat
deriving DecidableEq, Repr

namespace Choices

/-- Nothing chosen. -/
def none : Choices where
  settingsFile := .none
  translator := .none
  translatorArguments := []
  inputs := []
  excluded := .none
  immutable := .none
  basePackage := .none
  outputRoot := .none
  clearFirst := .none
  generator := .none
  generatorArguments := []
  secondsAllowed := .none

/-- One more choice. -/
def add (cs : Choices) : Choice → Choices
  | .settingsFile path => { cs with settingsFile := some path }
  | .translator text => { cs with translator := some text }
  | .translatorArgument text =>
    { cs with translatorArguments := cs.translatorArguments ++ [text] }
  | .input text => { cs with inputs := cs.inputs ++ [text] }
  | .excluded text => { cs with excluded := some text }
  | .immutable value => { cs with immutable := some value }
  | .basePackage text => { cs with basePackage := some text }
  | .outputRoot path => { cs with outputRoot := some path }
  | .clearFirst value => { cs with clearFirst := some value }
  | .generator text => { cs with generator := some text }
  | .generatorArgument text => { cs with generatorArguments := cs.generatorArguments ++ [text] }
  | .secondsAllowed seconds => { cs with secondsAllowed := some seconds }

/-- The choices `cs`, then those of `later` on top. -/
def followedBy (cs later : Choices) : Choices where
  settingsFile := later.settingsFile.or cs.settingsFile
  translator := later.translator.or cs.translator
  translatorArguments := cs.translatorArguments ++ later.translatorArguments
  inputs := cs.inputs ++ later.inputs
  excluded := later.excluded.or cs.excluded
  immutable := later.immutable.or cs.immutable
  basePackage := later.basePackage.or cs.basePackage
  outputRoot := later.outputRoot.or cs.outputRoot
  clearFirst := later.clearFirst.or cs.clearFirst
  generator := later.generator.or cs.generator
  generatorArguments := cs.generatorArguments ++ later.generatorArguments
  secondsAllowed := later.secondsAllowed.or cs.secondsAllowed

theorem add_followedBy (cs later : Choices) (c : Choice) :
    (cs.followedBy later).add c = cs.followedBy (later.add c) := by
  cases c <;> simp [add, followedBy]

/-! ### Settings -/

/-- A list that was chosen, or another one where nothing was. -/
def chosenOr (chosen other : List String) : List String := if chosen = [] then other else chosen

/-- The choices on top of settings. -/
def applyTo (cs : Choices) (settings : Settings) : Settings where
  translator := cs.translator.getD settings.translator
  translatorArguments := chosenOr cs.translatorArguments settings.translatorArguments
  inputs := if cs.inputs = [] then settings.inputs else ",".intercalate cs.inputs
  excluded := cs.excluded.getD settings.excluded
  immutable := cs.immutable.getD settings.immutable
  basePackage := cs.basePackage.getD settings.basePackage
  outputRoot := cs.outputRoot.getD settings.outputRoot
  clearFirst := cs.clearFirst.getD settings.clearFirst
  generator := cs.generator.or settings.generator
  generatorArguments := chosenOr cs.generatorArguments settings.generatorArguments
  secondsAllowed := cs.secondsAllowed.or settings.secondsAllowed

/-- The settings of a build: what is chosen, then the settings file that is chosen, then the
defaults. -/
def toSettings (cs : Choices) (fs : FileSystem) : Except Failure Settings :=
  match cs.settingsFile with
  | .none => .ok (cs.applyTo .defaults)
  | some path => (Settings.ofFile fs path).map cs.applyTo

end Choices

end IdlBuild.CommandLine
