import IdlBuild.Tool.Awk.Table
import IdlBuild.Tool.Regex.Basic

/-!
# Programs for records

A program says what to do with the records that fit a pattern, and before and after all of them.
-/

namespace IdlBuild.Tool.Awk

/-! ### Expressions -/

/-- A variable: one of the program, or one of the function that is being run, by its place. -/
inductive Name where
  | ofProgram (name : String)
  | ofFunction (place : Nat)
deriving DecidableEq, Repr, Inhabited

/-- The operations on two numbers. -/
inductive Operation where
  | add
  | subtract
  | multiply
  | divide
  | remainder
  | power
deriving DecidableEq, Repr, Inhabited

/-- The comparisons. -/
inductive Comparison where
  | less
  | atMost
  | equal
  | different
  | greater
  | atLeast
deriving DecidableEq, Repr, Inhabited

/-- An expression. -/
inductive Expr where
  | number (x : Float)
  | text (cs : List Char)
  /-- A regular expression, which alone asks whether it is found in the record. -/
  | pattern (e : Regex.Expression)
  | named (name : Name)
  | element (name : Name) (index : List Expr)
  | field (number : Expr)
  | assign (target value : Expr)
  | update (operation : Operation) (target value : Expr)
  /-- A step up or down, before the value is taken or after it. -/
  | step (up before : Bool) (target : Expr)
  | choice (condition yes no : Expr)
  | conjunction (a b : Expr)
  | disjunction (a b : Expr)
  | negation (a : Expr)
  | isIn (index : List Expr) (name : Name)
  | isFound (negated : Bool) (text pattern : Expr)
  | compare (comparison : Comparison) (a b : Expr)
  | joined (a b : Expr)
  | compute (operation : Operation) (a b : Expr)
  | minus (a : Expr)
  | plus (a : Expr)
  | call (function : String) (arguments : List Expr)
  | builtin (function : String) (arguments : List Expr)
  /-- Takes the next record of the input, of a file or of what a command prints. -/
  | getline (target : Option Expr) (file command : Option Expr)
  /-- Expressions in brackets. -/
  | group (items : List Expr)
deriving Inhabited

/-! ### Statements -/

/-- Where something is printed to. -/
inductive Output where
  | standard
  | file (appends : Bool) (name : Expr)
  | command (name : Expr)
deriving Inhabited

/-- A statement. -/
inductive Statement where
  | expression (e : Expr)
  | print (items : List Expr) (output : Output)
  | format (items : List Expr) (output : Output)
  | condition (test : Expr) (yes : Statement) (no : Option Statement)
  | loop (test : Expr) (body : Statement)
  | loopAfter (body : Statement) (test : Expr)
  | loopFor (start : Option Statement) (test : Option Expr) (next : Option Statement)
      (body : Statement)
  | loopIn (name : Name) (table : Name) (body : Statement)
  | block (statements : List Statement)
  | next
  | nextFile
  | exit (status : Option Expr)
  | giveBack (value : Option Expr)
  | leave
  | resume
  | delete (name : Name) (index : Option (List Expr))
deriving Inhabited

/-- When something is done. -/
inductive Trigger where
  | first
  | last
  | always
  | when (e : Expr)
  | between (start stop : Expr)
deriving Inhabited

/-- What is done, and when. Without a statement the record is printed. -/
structure Rule where
  trigger : Trigger
  action : Option Statement
deriving Inhabited

/-- A function: the number of its parameters, and what it does. -/
structure Function where
  name : String
  parameters : Nat
  body : Statement
deriving Inhabited

/-- A program. -/
structure Program where
  rules : List Rule
  functions : List Function

end IdlBuild.Tool.Awk
