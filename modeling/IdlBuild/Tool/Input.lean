import IdlBuild.Text.Fields
import IdlBuild.Tool.Naming
import IdlBuild.Tool.Options

/-!
# What tools read and write

Where the texts come from that tools work on, how they are cut into lines, and what is said about
operands that cannot be read. All texts are texts of units, kept as lists so that they can be cut.
-/

namespace IdlBuild.Tool

open Shell (Session Call Tool Channel pathOf)
open Text (Bytes)

/-! ### Bytes -/

/-- Bytes as units. -/
def unitsOf (bytes : Bytes) : List Char := bytes.map fun b => Char.ofNat b.toNat

/-- Units as bytes. -/
def bytesOf (cs : List Char) : Bytes := cs.flatMap Text.Units.bytesOfChar

/-- Writes units to a descriptor. -/
def writeTo (descriptor : Nat) (cs : List Char) (s : Session) : Session :=
  s.write descriptor (bytesOf cs)

/-- Prints units. -/
def put (cs : List Char) (s : Session) : Session := writeTo 1 cs s

/-! ### Lines -/

/-- The pieces of a text that marks end, the unfinished one last; what was read so far stands in
reverse. -/
def piecesFrom (mark : Char) : (piece : List Char) → (done : List (List Char)) → List Char →
    List (List Char)
  | piece, done, [] => (if piece.isEmpty then done else piece.reverse :: done).reverse
  | piece, done, c :: cs =>
    if c == mark then piecesFrom mark [] (piece.reverse :: done) cs
    else piecesFrom mark (c :: piece) done cs

/-- The pieces of a text that marks end. -/
def piecesOf (mark : Char) (cs : List Char) : List (List Char) := piecesFrom mark [] [] cs

/-- The lines of a text. -/
def linesOf (cs : List Char) : List (List Char) := piecesOf '\n' cs

/-- Whether the last piece of a text is ended by the mark. -/
def isEnded (mark : Char) (cs : List Char) : Bool := cs.isEmpty || cs.getLast? == some mark

/-- Pieces, each ended by the mark. -/
def ofPieces (mark : Char) (pieces : List (List Char)) : List Char :=
  pieces.flatMap fun piece => piece ++ [mark]

/-- Lines, each ended. -/
def ofLines (lines : List (List Char)) : List Char := ofPieces '\n' lines

/-- The pieces of a text, each with the mark that ends it. -/
def endedPieces (mark : Char) (cs : List Char) : List (List Char) :=
  let pieces := piecesOf mark cs
  if isEnded mark cs then pieces.map (· ++ [mark])
  else pieces.dropLast.map (· ++ [mark]) ++ pieces.getLast?.toList

/-! ### Inputs -/

/-- What a tool gets for an operand. -/
inductive Gotten where
  | content (units : List Char)
  /-- There is nothing to open. -/
  | unopened (fault : IoFault)
  /-- What was opened cannot be read. -/
  | unread (fault : IoFault)
deriving DecidableEq, Repr

/-- The descriptor that an operand names, if it names one. -/
def descriptorOf? (operand : String) : Option Nat :=
  match operand with
  | "-" | "/dev/stdin" => some 0
  | _ =>
    if operand.startsWith "/dev/fd/" then (String.ofList (operand.toList.drop 8)).toNat? else none

/-- Everything that a descriptor has to read. -/
def readDescriptor (descriptor : Nat) (s : Session) : Gotten × Session :=
  match s.channel? descriptor with
  | none => (.unread (.system 9), s)
  | some .directory => (.unread .isDirectory, s)
  | some _ =>
    let (bytes, s) := s.readAll descriptor
    (.content (unitsOf bytes), s)

/-- What an operand names: a dash the input, all else a file. -/
def input (operand : String) (s : Session) : Gotten × Session :=
  match descriptorOf? operand with
  | some descriptor => readDescriptor descriptor s
  | none =>
    match s.machine.openPath .input (pathOf operand) 0 with
    | .error fault => (.unopened fault, s)
    | .ok (.directory, _) => (.unread .isDirectory, s)
    | .ok (channel, machine) =>
      let machine := machine.settled channel
      let bytes := machine.available channel
      (.content (unitsOf bytes), { s with machine := machine.consume bytes.length channel })

/-- How a tool words that an operand cannot be opened, or not read. -/
structure Wording where
  unopened : (operand reason : String) → String
  unread : (operand reason : String) → String

/-- The plain wording: the operand and the reason. -/
def Wording.plain : Wording where
  unopened operand reason := s!"{shownName operand}: {reason}"
  unread operand reason := s!"{shownName operand}: {reason}"

/-- The content of an operand; a complaint if it has none. -/
def inputOr (wording : Wording) (c : Call) (operand : String) (s : Session) :
    Option (List Char) × Session :=
  match input operand s with
  | (.content units, s) => (some units, s)
  | (.unopened fault, s) =>
    (none, complain s s!"{c.name}: {wording.unopened operand fault.reason}")
  | (.unread fault, s) => (none, complain s s!"{c.name}: {wording.unread operand fault.reason}")

/-- The operands of a tool that reads its input when it has none. -/
def orInput (operands : List String) : List String := if operands.isEmpty then ["-"] else operands

/-- Works on the contents of operands in turn; those that have none are complained about. -/
def onInputs (wording : Wording) (c : Call) (operands : List String)
    (f : String → List Char → Session → Session) (s : Session) : Session :=
  (orInput operands).foldl (fun s operand =>
    match inputOr wording c operand s with
    | (some units, s) => f operand units s
    | (none, s) => s) s

/-- The contents of operands that can be read, one behind the other. -/
def allInputs (wording : Wording) (c : Call) (operands : List String) (s : Session) :
    List Char × Session :=
  (orInput operands).foldl (fun (found, s) operand =>
    match inputOr wording c operand s with
    | (some units, s) => (found ++ units, s)
    | (none, s) => (found, s)) ([], s)

/-! ### Output -/

/-- A tool that says so when nothing takes what it prints. -/
def withCheckedOutput (tool : Tool) : Tool := fun c s =>
  if s.canWrite 1 then tool c s
  else
    let reason := if (s.channel? 1).isSome then (IoFault.system 28).reason
      else (IoFault.system 9).reason
    let (channel, machine) := s.machine.openBuffer []
    let done := tool c ({ s with machine }.withChannel 1 (some channel))
    let lost := done.machine.available channel
    let done := { done with descriptors := s.descriptors }
    if lost.isEmpty then done else complain done s!"{c.name}: write error: {reason}"

/-! ### Complaints -/

/-- What is said when an operand is missing. -/
def missingOperand (c : Call) (status : Nat) (s : Session) : Session :=
  misused c status "missing operand" s

/-- What is said when there is an operand too many. -/
def extraOperand (c : Call) (status : Nat) (operand : String) (s : Session) : Session :=
  misused c status s!"extra operand {quotedValue operand}" s

/-- A change of the files, or a complaint. -/
def change (c : Call) (message : String) (s : Session) : Except IoFault FileSystem → Session
  | .ok files => s.withFiles files
  | .error fault => complain s s!"{c.name}: {message}: {fault.reason}"

end IdlBuild.Tool
