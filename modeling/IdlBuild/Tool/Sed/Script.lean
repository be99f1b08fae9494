import IdlBuild.Tool.Regex.Basic

/-!
# Scripts that edit streams

The commands that are run for each line of a stream, and the lines that each is for. The commands
stand in one row; a block knows where it ends, and a jump where it leads.
-/

namespace IdlBuild.Tool.Sed

open Regex (Expression)

/-! ### Addresses -/

/-- A regular expression of a script; none stands for the one that was used last. -/
structure Sought where
  expression : Option Expression
  folds : Bool
  byLines : Bool
deriving DecidableEq, Repr

/-- The lines that an address stands for. -/
inductive Address where
  | line (n : Nat)
  | stepped (first step : Nat)
  | last
  | found (sought : Sought)
deriving DecidableEq, Repr

/-- Where a range of lines ends. -/
inductive RangeEnd where
  | line (n : Nat)
  | last
  | found (sought : Sought)
  | after (count : Nat)
  | multiple (n : Nat)
deriving DecidableEq, Repr

/-- The lines that a command is for. A range from line 0 may end in the first line. -/
structure Selection where
  first : Option Address
  rangeEnd : Option RangeEnd
  fromZero : Bool
  negated : Bool
deriving DecidableEq, Repr

/-! ### Commands -/

/-- How letters of a replacement are changed. -/
inductive Casing where
  | none
  | upper
  | lower
deriving DecidableEq, Repr

/-- A piece of a replacement. -/
inductive Piece where
  | text (cs : List Char)
  | group (number : Nat)
  /-- Changes all that follows. -/
  | casing (casing : Casing)
  /-- Changes the next letter. -/
  | nextCasing (casing : Casing)
deriving DecidableEq, Repr

/-- A replacement and where it takes place. -/
structure Substitution where
  sought : Sought
  replacement : List Piece
  everywhere : Bool
  /-- The number of the first match that is replaced. -/
  number : Nat
  prints : Bool
  target : Option String
deriving DecidableEq, Repr

/-- What a command does. -/
inductive Action where
  /-- A block: where it ends. -/
  | block (stop : Nat)
  | blockEnd
  | label (name : String)
  | append (text : List Char)
  | insert (text : List Char)
  | change (text : List Char)
  | branch (label : String)
  | branchIf (label : String)
  | branchUnless (label : String)
  | delete
  | deleteFirst
  | takeHold
  | takeHoldMore
  | hold
  | holdMore
  | exchange
  | list (width : Option Nat)
  | next
  | nextMore
  | print
  | printFirst
  | quit (status : Nat)
  | quitQuietly (status : Nat)
  | readFile (path : String)
  | readLine (path : String)
  | substitute (s : Substitution)
  | writeFile (path : String)
  | writeFirst (path : String)
  | exchangeUnits (pairs : List (Char × Char))
  | clear
  | showNumber
  | showName
  | nothing
deriving DecidableEq, Repr

/-- A command with the lines that it is for. -/
structure Command where
  selection : Selection
  action : Action
deriving DecidableEq, Repr

end IdlBuild.Tool.Sed
