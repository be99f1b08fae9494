/-!
# Scripts

The commands of a POSIX shell as data. A word is a list of pieces, each of which is expanded when
its command is run; a quoted piece is not cut into fields. All texts are texts of units, one
character for each byte.
-/

namespace IdlBuild.Shell

/-- How a redirection opens a file. -/
inductive OpenMode where
  | input
  | output
  /-- For output, even onto a file that must not be lost. -/
  | clobbering
  | appending
  | both
deriving DecidableEq, Repr

mutual

/-- A piece of a word. -/
inductive Piece where
  | text (text : String) (quoted : Bool)
  | parameter (name : String) (use : Use) (quoted : Bool)
  /-- What a script prints. -/
  | capture (script : Command) (quoted : Bool)
  /-- The value of an arithmetic expression. -/
  | sum (expression : List Piece) (quoted : Bool)

/-- What is made of the value of a parameter. -/
inductive Use where
  | value
  | size
  /-- Another word if it is not set; `evenEmpty` treats an empty value as not set. -/
  | orDefault (evenEmpty : Bool) (word : List Piece)
  | orAssign (evenEmpty : Bool) (word : List Piece)
  | orFail (evenEmpty : Bool) (word : List Piece)
  /-- Another word if it is set. -/
  | ifSet (evenEmpty : Bool) (word : List Piece)
  | cutFront (longest : Bool) (pattern : List Piece)
  | cutBack (longest : Bool) (pattern : List Piece)
  /-- Something that is refused when it is expanded. -/
  | unknown

/-- A change of a descriptor. -/
inductive Redirection where
  | file (descriptor : Nat) (mode : OpenMode) (target : List Piece)
  /-- Makes the descriptor the same as another one, or closes it. -/
  | duplicate (descriptor : Nat) (source : List Piece)
  /-- Reads from a text in the script itself. -/
  | document (descriptor : Nat) (content : List Piece)

/-- A command. -/
inductive Command where
  | nothing
  | simple (line : Nat) (assignments : List (String × List Piece)) (words : List (List Piece))
    (redirections : List Redirection)
  | redirected (line : Nat) (body : Command) (redirections : List Redirection)
  | sequence (first second : Command)
  | background (body : Command)
  | conjunction (first second : Command)
  | disjunction (first second : Command)
  | negated (body : Command)
  | pipeline (first second : Command)
  | subshell (body : Command)
  | conditional (condition body otherwise : Command)
  /-- Repeats the body while the condition has the given outcome. -/
  | loop (outcome : Bool) (condition body : Command)
  /-- Runs the body once for each field of the words, or for each argument. -/
  | each (line : Nat) (name : String) (words : Option (List (List Piece))) (body : Command)
  | choice (line : Nat) (subject : List Piece) (clauses : List (List (List Piece) × Command))
  | define (name : String) (body : Command)

end

instance : Inhabited Command := ⟨.nothing⟩

/-- The pieces of a word. -/
abbrev Word := List Piece

end IdlBuild.Shell
