import IdlBuild.Shell.Formats
import IdlBuild.Tool.Counting

/-!
# Replacing units

The tool that replaces, removes or squeezes units. Its operands are sets: units, ranges, classes,
and repeated units, which fill a set up to the length of the other one.
-/

namespace IdlBuild.Tool

open Shell (Session Call Tool)

/-! ### Sets -/

/-- A piece of a set. -/
inductive SetPiece where
  | units (cs : List Char)
  /-- A class of units by its name. -/
  | named (name : String) (cs : List Char)
  /-- One unit, as often as is needed. -/
  | filling (c : Char)
deriving DecidableEq, Repr

/-- All units. -/
def allUnits : List Char := (List.range 0x100).map Char.ofNat

/-- The units of a class. -/
def classUnits? (name : String) : Option (List Char) :=
  let test? : Option (Char → Bool) := match name with
    | "alnum" => some Char.isAlphanum
    | "alpha" => some Char.isAlpha
    | "blank" => some isBlank
    | "cntrl" => some fun c => c.toNat < 0x20 || c.toNat == 0x7F
    | "digit" => some Char.isDigit
    | "graph" => some fun c => isPrintable c && c != ' '
    | "lower" => some Char.isLower
    | "print" => some isPrintable
    | "punct" => some fun c => isPrintable c && c != ' ' && !c.isAlphanum
    | "space" => some isSpace
    | "upper" => some Char.isUpper
    | "xdigit" => some fun c => (Text.ReadReal.digitOf? 16 c).isSome
    | _ => none
  test?.map fun test => allUnits.filter test

/-- Reads units with escapes; each with whether it was escaped. -/
def escapedUnits : (fuel : Nat) → List Char → List (Char × Bool)
  | 0, _ => []
  | _, [] => []
  | fuel + 1, '\\' :: c :: cs =>
    if '0' ≤ c && c ≤ '7' then
      let (value, rest) := Shell.Formats.octalDigits 3 0 (c :: cs)
      (Char.ofNat (value % 0x100), true) :: escapedUnits fuel rest
    else
      let unit := if c == 'e' then 'e' else (Shell.Formats.letterUnit? c).getD c
      (unit, true) :: escapedUnits fuel cs
  | fuel + 1, c :: cs => (c, false) :: escapedUnits fuel cs

/-- What is wrong with a set. -/
inductive SetFault where
  | backwards (low high : Char)
  | unknownClass (name : String)
  | wrongCount (text : String)
deriving DecidableEq, Repr

/-- A unit as it is shown in a complaint. -/
def shownUnit (c : Char) : String :=
  if c == '\\' then "\\\\" else if isPrintable c then String.ofList [c]
  else String.ofList ('\\' :: escapeOf c)

/-- How a fault of a set is worded. -/
def SetFault.message : SetFault → String
  | backwards low high =>
    s!"range-endpoints of '{shownUnit low}-{shownUnit high}' are in reverse collating sequence order"
  | unknownClass name => s!"invalid character class {quotedValue name}"
  | wrongCount text => s!"invalid repeat count {quotedValue text} in [c*n] construct"

/-- The pieces of a set; `fuel` bounds their number. -/
def setPieces : (fuel : Nat) → List (Char × Bool) → Except SetFault (List SetPiece)
  | 0, _ => .ok []
  | _, [] => .ok []
  | fuel + 1, ('[', false) :: (':', false) :: rest =>
    let name := (rest.map Prod.fst).takeWhile (· != ':')
    match rest.drop name.length with
    | (':', false) :: (']', false) :: behind =>
      match classUnits? (String.ofList name) with
      | some cs => (setPieces fuel behind).map (.named (String.ofList name) cs :: ·)
      | none => .error (.unknownClass (String.ofList name))
    | _ => (setPieces fuel ((':', false) :: rest)).map (.units ['['] :: ·)
  | fuel + 1, ('[', false) :: ('=', false) :: (c, _) :: ('=', false) :: (']', false) :: rest =>
    (setPieces fuel rest).map (.units [c] :: ·)
  | fuel + 1, ('[', false) :: (c, e) :: ('*', false) :: rest =>
    let digits := (rest.map Prod.fst).takeWhile (· != ']')
    match rest.drop digits.length with
    | (']', false) :: behind =>
      let value? := if digits.isEmpty then some 0
        else if digits.all Char.isDigit then
          some (digits.foldl (fun n d =>
            n * (if digits.head? == some '0' then 8 else 10) + (d.toNat - 0x30)) 0)
        else none
      match value? with
      | some 0 => (setPieces fuel behind).map (.filling c :: ·)
      | some n => (setPieces fuel behind).map (.units (List.replicate n c) :: ·)
      | none => .error (.wrongCount (String.ofList digits))
    | _ => (setPieces fuel ((c, e) :: ('*', false) :: rest)).map (.units ['['] :: ·)
  | fuel + 1, (low, _) :: ('-', false) :: (high, _) :: rest =>
    if high.toNat < low.toNat then .error (.backwards low high)
    else
      let range := (List.range (high.toNat + 1 - low.toNat)).map fun i => Char.ofNat (low.toNat + i)
      (setPieces fuel rest).map (.units range :: ·)
  | fuel + 1, (c, _) :: rest => (setPieces fuel rest).map (.units [c] :: ·)

/-- Reads a set. -/
def readSet (text : String) : Except SetFault (List SetPiece) :=
  let units := escapedUnits (text.length + 1) text.toList
  setPieces (units.length + 1) units

/-- The units of a set; what fills it up comes to a number of units. -/
def setUnits (pieces : List SetPiece) (wanted : Nat) : List Char :=
  let fixed := pieces.foldl (fun n piece => match piece with
    | .units cs | .named _ cs => n + cs.length
    | .filling _ => n) 0
  pieces.flatMap fun piece => match piece with
    | .units cs | .named _ cs => cs
    | .filling c => List.replicate (wanted - fixed) c

/-! ### Replacing -/

/-- A text in which stretches of one unit of a set are shortened to one. -/
def squeezed (holds : Char → Bool) (cs : List Char) : List Char :=
  withoutRepeats (fun a b => a == b && holds a) cs

/-- Pairs of units that are replaced, classes of letters matched with each other. -/
def pairsOf (first second : List SetPiece) (truncates : Bool) : List (Char × Char) :=
  let upper := (classUnits? "upper").getD []
  let lower := (classUnits? "lower").getD []
  let cased (pieces : List SetPiece) : List SetPiece := pieces.map fun piece => match piece with
    | .named "upper" _ => .units upper
    | .named "lower" _ => .units lower
    | other => other
  let from' := setUnits (cased first) 0
  let target := setUnits (cased second) from'.length
  let filled := if truncates then target
    else target ++ List.replicate (from'.length - target.length) (target.getLast?.getD ' ')
  from'.zip filled

/-- Replaces, removes or squeezes units of what it reads. -/
def tr : Tool :=
  withOrderedOptions [flag 'c' "complement", flag 'C' "", flag 'd' "delete",
      flag 's' "squeeze-repeats", flag 't' "truncate-set1"] 1 fun o c s =>
    let complement := o.has "c" || o.has "C"
    let deletes := o.has "d"
    let squeezes := o.has "s"
    let needsTwo := deletes == squeezes
    match o.operands with
    | [] => missingOperand c 1 s
    | first :: others =>
      let refuse (detail message : String) : Session :=
        let s := s.complain s!"{c.name}: {message}"
        let s := if detail.isEmpty then s else s.complain detail
        (s.complain s!"Try '{c.name} --help' for more information.").withStatus 1
      match others with
      | [] =>
        if needsTwo then
          refuse (if deletes then "Two strings must be given when both deleting and squeezing repeats."
            else "Two strings must be given when translating.")
            s!"missing operand after {quotedValue first}"
        else run o c complement deletes squeezes first none s
      | [second] =>
        if deletes && !squeezes then
          refuse "Only one string may be given when deleting without squeezing repeats."
            s!"extra operand {quotedValue second}"
        else run o c complement deletes squeezes first (some second) s
      | _ :: extra :: _ => extraOperand c 1 extra s
where
  /-- Works on what there is to read. -/
  run (o : Options) (c : Call) (complement deletes squeezes : Bool) (first : String)
      (second? : Option String) (s : Session) : Session :=
    match readSet first, (second?.map readSet).getD (.ok []) with
    | .error fault, _ | _, .error fault => complain s s!"{c.name}: {fault.message}"
    | .ok one, .ok two =>
      let listed := setUnits one 0
      let chosen := if complement then allUnits.filter fun u => !listed.contains u else listed
      let table := allUnits.map fun u => chosen.contains u
      let holds := table.toArray
      let isChosen (u : Char) : Bool := (holds[u.toNat]?).getD complement
      let replaces := second?.isSome && !deletes
      if replaces && (setUnits two 1).isEmpty && !o.has "t" then
        complain s s!"{c.name}: when not truncating set1, string2 must be non-empty"
      else match readDescriptor 0 s with
        | (.unopened fault, s) | (.unread fault, s) =>
          complain s s!"{c.name}: read error: {fault.reason}"
        | (.content content, s) =>
          let kept := if deletes then content.filter fun u => !isChosen u else content
          let pairs := if complement then pairsOf [.units chosen] two (o.has "t")
            else pairsOf one two (o.has "t")
          let targets := (allUnits.map fun u =>
            ((pairs.reverse.find? fun p => p.1 == u).map Prod.snd).getD u).toArray
          let replaced := if replaces then kept.map fun u => (targets[u.toNat]?).getD u else kept
          let last := match second? with
            | some _ => setUnits two (if replaces then chosen.length else 0)
            | none => chosen
          let inLast := (allUnits.map fun u => last.contains u).toArray
          put (if squeezes then squeezed (fun u => (inLast[u.toNat]?).getD false) replaced
            else replaced) s

end IdlBuild.Tool
