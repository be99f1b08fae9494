import IdlBuild.Text.Decimal
import IdlBuild.Text.Fields
import IdlBuild.Text.Quoted

/-!
# Command-line arguments

What one argument of a command line is. An argument that begins with a dash and is not the dash
alone names an option: a long one after two dashes, with a value after an equals sign if there is
one; a short one after one dash, with the rest of the argument, an equals sign in front left out, as
its value. Two dashes alone end the options. All else is positional. Arguments are bytes, for they
need not be well-formed UTF-8.
-/

namespace IdlBuild.CommandLine

open Text (Bytes)

/-- The name of an option as it was written. -/
inductive OptionName where
  | short (letter : Char)
  | long (name : String)
deriving DecidableEq, Repr

/-- An option with its dashes. -/
def OptionName.shown : OptionName → String
  | short letter => "-" ++ letter.toString
  | long name => "--" ++ name

/-- What an argument is. -/
inductive Argument where
  | terminator
  | named (name : OptionName) (attached : Option Bytes)
  | positional (text : Bytes)
deriving DecidableEq, Repr

/-- The byte of a dash. -/
def dash : UInt8 := 0x2D

/-- The byte of an equals sign. -/
def equalsSign : UInt8 := 0x3D

/-- The value that the rest of a short option's argument is. -/
def attachedToShort : Bytes → Option Bytes
  | [] => none
  | b :: rest => if b = equalsSign then some rest else some (b :: rest)

/-- A short option: the first character after the dash, and what it has attached. -/
def Argument.ofShort (after : Bytes) : Argument :=
  match Text.parts after with
  | .char c :: _ => named (.short c) (attachedToShort (after.drop (String.utf8EncodeChar c).length))
  | .broken bytes :: _ =>
    named (.short (Text.Part.broken bytes).replaced) (attachedToShort (after.drop bytes.length))
  | [] => positional [dash]

/-- A long option: the name up to an equals sign, and what it has attached. -/
def Argument.ofLong (after : Bytes) : Argument :=
  match Text.cutFirst equalsSign after with
  | some (name, value) => named (.long (Text.decodeLossy name)) (some value)
  | none => named (.long (Text.decodeLossy after)) none

/-- What an argument is, where options have not ended. -/
def Argument.read (text : Bytes) : Argument :=
  match text with
  | first :: second :: rest =>
    if first = dash then
      if second = dash then (if rest = [] then terminator else ofLong rest)
      else ofShort (second :: rest)
    else positional text
  | _ => positional text

/-! ### Faults -/

/-- Why a command line was not understood. -/
inductive ArgumentFault where
  | missingValue (name : OptionName)
  | unknownOption (name : OptionName)
  | notText (bytes : Bytes)
  | notNumber (text : String) (fault : Text.DecimalFault)
deriving DecidableEq, Repr

/-- How a fault is shown. -/
def ArgumentFault.message : ArgumentFault → String
  | missingValue name => s!"missing argument for option '{name.shown}'"
  | unknownOption name => s!"invalid option '{name.shown}'"
  | notText bytes => s!"argument is invalid unicode: {Text.quotedBytes bytes}"
  | notNumber text fault => s!"cannot parse argument {Text.quoted text}: {fault.message}"

end IdlBuild.CommandLine
