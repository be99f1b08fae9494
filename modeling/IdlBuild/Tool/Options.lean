import IdlBuild.Shell.Session

/-!
# Options of programs

How the arguments of a program are read as options and operands. Letters may stand together behind
one dash, long names may be cut short as long as they stay unambiguous, and operands may stand
between options unless the program wants its options first.
-/

namespace IdlBuild.Tool

open Shell (Session Call Tool)

/-- Whether an option comes with a value. -/
inductive Takes where
  | nothing
  | value
  /-- A value only if it is attached. -/
  | perhaps
deriving DecidableEq, Repr

/-- An option that a program knows: its letter, its long names, and whether it takes a value. -/
structure Known where
  letter : Option Char
  long : List String
  takes : Takes
deriving DecidableEq, Repr

/-- An option by its letter. -/
def flag (letter : Char) (long : String) : Known :=
  ⟨some letter, if long.isEmpty then [] else [long], .nothing⟩

/-- An option with a value. -/
def taking (letter : Char) (long : String) : Known :=
  ⟨some letter, if long.isEmpty then [] else [long], .value⟩

/-- An option that has only a long name. -/
def longFlag (long : String) : Known := ⟨none, [long], .nothing⟩

/-- An option with a value that has only a long name. -/
def longTaking (long : String) : Known := ⟨none, [long], .value⟩

/-- An option with a value that may be missing, and that has only a long name. -/
def longPerhaps (long : String) : Known := ⟨none, [long], .perhaps⟩

namespace Known

/-- What an option is known by: its letter, or its long name. -/
def key (k : Known) : String :=
  match k.letter with
  | some letter => String.ofList [letter]
  | none => k.long.head?.getD ""

end Known

/-- What is wrong with the options of a call. -/
inductive OptionFault where
  | unknownLetter (letter : Char)
  | missingForLetter (letter : Char)
  | unknownLong (name : String)
  | missingForLong (name : String)
  | unwantedForLong (name : String)
  | ambiguous (name : String) (candidates : List String)
deriving DecidableEq, Repr

/-- How a fault is worded. -/
def OptionFault.message : OptionFault → String
  | unknownLetter letter => s!"invalid option -- '{letter}'"
  | missingForLetter letter => s!"option requires an argument -- '{letter}'"
  | unknownLong name => s!"unrecognized option '--{name}'"
  | missingForLong name => s!"option '--{name}' requires an argument"
  | unwantedForLong name => s!"option '--{name}' doesn't allow an argument"
  | ambiguous name candidates =>
    s!"option '--{name}' is ambiguous; possibilities:" ++
      String.join (candidates.map fun c => s!" '--{c}'")

/-- The options of a call in order, each with its value, and its operands. -/
structure Options where
  given : List (String × String)
  operands : List String
deriving DecidableEq, Repr

namespace Options

/-- Whether an option was given. -/
def has (o : Options) (key : String) : Bool := o.given.any (·.1 == key)

/-- The last value that was given with an option. -/
def value? (o : Options) (key : String) : Option String :=
  (o.given.reverse.find? (·.1 == key)).map Prod.snd

/-- All values that were given with an option. -/
def values (o : Options) (key : String) : List String :=
  o.given.filterMap fun (k, v) => if k == key then some v else none

/-- The last of some options that was given. -/
def last? (o : Options) (keys : List String) : Option String :=
  (o.given.reverse.find? fun (k, _) => keys.contains k).map Prod.fst

/-- With an option in front. -/
def cons (key value : String) (o : Options) : Options := { o with given := (key, value) :: o.given }

end Options

/-! ### Reading -/

/-- The long option that a name means. -/
def longOption? (known : List Known) (name : String) : Except OptionFault (Known × String) :=
  let all := known.flatMap fun k => k.long.map fun l => (k, l)
  match all.find? (·.2 == name) with
  | some found => .ok found
  | none =>
    match all.filter fun (_, l) => l.startsWith name with
    | [] => .error (.unknownLong name)
    | [found] => .ok found
    | found :: others =>
      if others.all fun (k, _) => k == found.1 then .ok found
      else .error (.ambiguous name (found.2 :: others.map Prod.snd))

/-- Letters behind one dash: the options, and the one that takes its value from the next argument. -/
def readLetters (known : List Known) :
    List Char → Except OptionFault (List (String × String) × Option (Known × Char))
  | [] => .ok ([], none)
  | c :: cs =>
    match known.find? fun k => k.letter == some c with
    | none => .error (.unknownLetter c)
    | some k =>
      match k.takes with
      | .nothing => (readLetters known cs).map fun (given, open') => ((k.key, "") :: given, open')
      | .perhaps => .ok ([(k.key, String.ofList cs)], none)
      | .value => if cs.isEmpty then .ok ([], some (k, c)) else .ok ([(k.key, String.ofList cs)], none)

/-- Reads arguments. With `ordered`, the first operand ends the options. -/
def readOptions (known : List Known) (ordered : Bool) : List String → Except OptionFault Options
  | [] => .ok ⟨[], []⟩
  | argument :: rest =>
    match argument.toList with
    | ['-', '-'] => .ok ⟨[], rest⟩
    | '-' :: '-' :: cs =>
      let name := cs.takeWhile (· != '=')
      let value? := if name.length < cs.length then some (cs.drop (name.length + 1)) else none
      match longOption? known (String.ofList name) with
      | .error fault => .error fault
      | .ok (k, long) =>
        match k.takes, value? with
        | .nothing, some _ => .error (.unwantedForLong long)
        | .nothing, none | .perhaps, none => (readOptions known ordered rest).map (·.cons k.key "")
        | _, some value =>
          (readOptions known ordered rest).map (·.cons k.key (String.ofList value))
        | .value, none =>
          match rest with
          | [] => .error (.missingForLong long)
          | value :: rest => (readOptions known ordered rest).map (·.cons k.key value)
    | '-' :: c :: cs =>
      match readLetters known (c :: cs) with
      | .error fault => .error fault
      | .ok (given, none) =>
        (readOptions known ordered rest).map fun o => { o with given := given ++ o.given }
      | .ok (given, some (k, letter)) =>
        match rest with
        | [] => .error (.missingForLetter letter)
        | value :: rest =>
          (readOptions known ordered rest).map fun o =>
            { o with given := given ++ (k.key, value) :: o.given }
    | _ =>
      if ordered then .ok ⟨[], argument :: rest⟩
      else (readOptions known ordered rest).map fun o =>
        { o with operands := argument :: o.operands }

/-! ### Programs with options -/

/-- A complaint of a program, after which it has failed but goes on. -/
def complain (s : Session) (message : String) : Session := (s.complain message).withStatus 1

/-- What a program says when it is called in a wrong way. -/
def misused (c : Call) (status : Nat) (message : String) (s : Session) : Session :=
  ((s.complain s!"{c.name}: {message}").complain
    s!"Try '{c.name} --help' for more information.").withStatus status

/-- A program that reads its options first. -/
def withOptions (known : List Known) (status : Nat) (tool : Options → Tool) : Tool := fun c s =>
  match readOptions (longFlag "help" :: longFlag "version" :: known) false c.arguments with
  | .error fault => misused c status fault.message s
  | .ok options => tool options c (s.withStatus 0)

/-- A program whose options stand before its operands. -/
def withOrderedOptions (known : List Known) (status : Nat) (tool : Options → Tool) : Tool :=
  fun c s =>
    match readOptions (longFlag "help" :: longFlag "version" :: known) true c.arguments with
    | .error fault => misused c status fault.message s
    | .ok options => tool options c (s.withStatus 0)

end IdlBuild.Tool
