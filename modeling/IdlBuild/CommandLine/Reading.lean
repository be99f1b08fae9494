import IdlBuild.CommandLine.Argument
import IdlBuild.CommandLine.Choices

/-!
# Reading command lines

A command line is read from the left, argument by argument. Each option makes one choice, every
other argument names an input, and the question for help or for the version ends the reading. The
first argument that cannot be understood ends it too.
-/

namespace IdlBuild.CommandLine

open Text (Bytes)

/-! ### Options -/

/-- What an option does. -/
inductive OptionKind where
  | help
  | version
  /-- Takes a value, attached or in the next argument. -/
  | valued (read : Bytes → Except ArgumentFault Choice)
  /-- Takes only an attached value. -/
  | flag (choice : Bool → Choice)

/-- A value that has to be text. -/
def readText (choice : String → Choice) (value : Bytes) : Except ArgumentFault Choice :=
  match Text.decode value with
  | some text => .ok (choice text)
  | none => .error (.notText value)

/-- A value that is a path, which may be any bytes. -/
def readPath (choice : Path → Choice) (value : Bytes) : Except ArgumentFault Choice :=
  .ok (choice ⟨value⟩)

/-- A value that is a number. -/
def readNumber (choice : Nat → Choice) (value : Bytes) : Except ArgumentFault Choice :=
  match Text.decode value with
  | none => .error (.notText value)
  | some text =>
    match Text.readWord text with
    | .ok number => .ok (choice number)
    | .error fault => .error (.notNumber text fault)

/-- The options that there are. -/
def optionKind? : OptionName → Option OptionKind
  | .short 'h' | .long "help" => some .help
  | .short 'V' | .long "version" => some .version
  | .short 'c' | .long "config" => some (.valued (readPath .settingsFile))
  | .short 't' | .long "translator" => some (.valued (readText .translator))
  | .long "translator-arg" => some (.valued (readText .translatorArgument))
  | .short 'i' | .long "idl-files" => some (.valued (readText .input))
  | .short 'x' | .long "exclude" => some (.valued (readText .excluded))
  | .short 'p' | .long "base-package" => some (.valued (readText .basePackage))
  | .short 'o' | .long "output-dir" => some (.valued (readPath .outputRoot))
  | .long "immutable" => some (.flag .immutable)
  | .long "clean" => some (.flag .clearFirst)
  | .short 'g' | .long "generator" => some (.valued (readText .generator))
  | .long "generator-arg" => some (.valued (readText .generatorArgument))
  | .long "timeout" => some (.valued (readNumber .secondsAllowed))
  | _ => none

/-! ### Whole command lines -/

/-- What a command line asks for. -/
inductive Asked where
  | build (choices : Choices)
  | help
  | version
deriving DecidableEq, Repr

/-- Adds the arguments after the end of the options, all of them inputs. -/
def readInputs : Choices → List Bytes → Except ArgumentFault Choices
  | cs, [] => .ok cs
  | cs, text :: rest =>
    match readText .input text with
    | .error fault => .error fault
    | .ok choice => readInputs (cs.add choice) rest

/-- Reads the rest of a command line onto what has been chosen. -/
def readFrom : Choices → List Bytes → Except ArgumentFault Asked
  | cs, [] => .ok (.build cs)
  | cs, text :: rest =>
    match Argument.read text with
    | .terminator => (readInputs cs rest).map .build
    | .positional text =>
      match readText .input text with
      | .error fault => .error fault
      | .ok choice => readFrom (cs.add choice) rest
    | .named name attached =>
      match optionKind? name with
      | none => .error (.unknownOption name)
      | some .help => .ok .help
      | some .version => .ok .version
      | some (.flag choice) =>
        match attached with
        | none => readFrom (cs.add (choice true)) rest
        | some value =>
          match Text.decode value with
          | none => .error (.notText value)
          | some text => readFrom (cs.add (choice (Settings.isSet text))) rest
      | some (.valued read) =>
        match attached with
        | some value =>
          match read value with
          | .error fault => .error fault
          | .ok choice => readFrom (cs.add choice) rest
        | none =>
          match rest with
          | [] => .error (.missingValue name)
          | value :: rest =>
            match read value with
            | .error fault => .error fault
            | .ok choice => readFrom (cs.add choice) rest

theorem readFrom_nil (cs : Choices) : readFrom cs [] = .ok (.build cs) := by
  rw [readFrom]

/-- Reads a command line, the name of the program not included. -/
def read (arguments : List Bytes) : Except ArgumentFault Asked := readFrom .none arguments

end IdlBuild.CommandLine
