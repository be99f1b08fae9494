import IdlBuild.Text.RealReader
import IdlBuild.Tool.Ordering

/-!
# Counting

The tools that count what they read, count numbers up and down, or take numbers apart.
-/

namespace IdlBuild.Tool

open Shell (Session Call Tool pathOf)

/-! ### Lines, words and bytes -/

/-- Whether a unit separates words. -/
def isSpace (c : Char) : Bool := c == ' ' || (9 ≤ c.toNat && c.toNat ≤ 13)

/-- The number of words. -/
def wordCount (cs : List Char) : Nat :=
  (cs.foldl (fun (count, inWord) c =>
    if isSpace c then (count, false) else (if inWord then count else count + 1, true))
    (0, false)).1

/-- The length of the longest line, as it is shown. -/
def longestLine (cs : List Char) : Nat :=
  (linesOf cs).foldl (fun n line =>
    max n (line.foldl (fun w c =>
      if c == '\t' then w - w % 8 + 8 else if isPrintable c then w + 1 else w) 0)) 0

/-- The counts by the letters of the options that ask for them. -/
def countsOf (cs : List Char) : List (Char × Nat) :=
  [('l', cs.count '\n'), ('w', wordCount cs), ('m', cs.length), ('c', cs.length),
    ('L', longestLine cs)]

/-- The least number of columns of counts: as many as the sizes of all files need, seven where
something is no file, and one if a single count is shown. -/
def countWidth (s : Session) (operands : List String) (shown : Nat) : Nat :=
  let sizes := (orInput operands).map fun operand =>
    if operand == "-" then
      match s.channel? 0 with
      | some (.file index) =>
        some (((s.machine.opened[index]?).bind fun file =>
          s.machine.contentAt? file.location).map List.length)
      | _ => some none
    else match s.files.status (pathOf operand) with
      | .ok (_, .file content _) => some (some content.length)
      | .ok _ => some none
      | .error _ => none
  if shown == 1 && sizes.length == 1 then 1
  else
    let total := (sizes.filterMap (·.bind id)).foldl (· + ·) 0
    let least := if sizes.any fun size => size == some none then 7 else 1
    max least (Nat.toDigits 10 total).length

/-- Prints how many lines, words and bytes it reads. -/
def wc : Tool :=
  withOptions [flag 'l' "lines", flag 'w' "words", flag 'c' "bytes", flag 'm' "chars",
      flag 'L' "max-line-length", longTaking "total", longTaking "files0-from"] 1 fun o c s =>
    let letters := ['l', 'w', 'm', 'c', 'L']
    let asked := letters.filter fun letter => o.has (String.ofList [letter])
    let wanted := if asked.isEmpty then ['l', 'w', 'c'] else asked
    let shows := (o.value? "total").getD "auto"
    let width := if shows == "only" then 1 else countWidth s o.operands wanted.length
    let line (counts : List (Char × Nat)) (name : Option String) : List Char :=
      let numbers := wanted.map fun letter => columnOf width ((counts.lookup letter).getD 0)
      [' '].intercalate (numbers ++ (name.map String.toList).toList) ++ ['\n']
    let operands := orInput o.operands
    let nothing := letters.map fun letter => (letter, 0)
    let add (a b : List (Char × Nat)) : List (Char × Nat) :=
      a.map fun (letter, n) =>
        let m := (b.lookup letter).getD 0
        (letter, if letter == 'L' then max n m else n + m)
    let (total, s) := operands.foldl (fun (total, s) operand =>
      let name := if o.operands.isEmpty then none else some operand
      match input operand s with
      | (.content content, s) =>
        let counts := countsOf content
        (add total counts, if shows == "only" then s else put (line counts name) s)
      | (.unopened fault, s) =>
        if operand.isEmpty then (total, complain s s!"{c.name}: invalid zero-length file name")
        else (total, complain s s!"{c.name}: {shownName operand}: {fault.reason}")
      | (.unread fault, s) =>
        (total, put (line nothing name)
          (complain s s!"{c.name}: {shownName operand}: {fault.reason}"))) (nothing, s)
    match shows with
    | "only" => put (line total none) s
    | "never" => s
    | "always" => put (line total (some "total")) s
    | _ => if 1 < operands.length then put (line total (some "total")) s else s

/-! ### Numbers in a row -/

/-- A decimal number: a whole number of units that each are `10 ^ -places`. -/
structure Scaled where
  units : Int
  places : Nat
deriving DecidableEq, Repr

/-- The decimal number that a text is. -/
def Scaled.ofText? (text : String) : Option Scaled :=
  let cs := text.toList.dropWhile isSpace
  let (negative, body) := match cs with
    | '-' :: rest => (true, rest)
    | '+' :: rest => (false, rest)
    | _ => (false, cs)
  match Text.ReadReal.mantissa? 10 body with
  | none => none
  | some (whole, fraction, rest) =>
    let (e, rest) := Text.ReadReal.exponent 'e' 'E' rest
    if !rest.isEmpty || 400 < e || e < -400 then none
    else
      let n : Int := Text.ReadReal.wholeOf 10 (whole ++ fraction)
      let places : Int := fraction.length - e
      let signed := if negative then -n else n
      some (if 0 ≤ places then ⟨signed, places.toNat⟩
        else ⟨signed * Nat.pow 10 (-places).toNat, 0⟩)

/-- The units of a number when it has more places. -/
def Scaled.unitsAt (n : Scaled) (places : Nat) : Int := n.units * Nat.pow 10 (places - n.places)

/-- A number in its places, with zeros in front up to a width. -/
def Scaled.text (places width : Nat) (units : Int) : String :=
  let digits := Text.Directive.pointed false places units.natAbs
  let sign := if units < 0 then ['-'] else []
  String.ofList (sign ++ List.replicate (width - digits.length - sign.length) '0' ++ digits)

/-- Options of `seq` are only those in front of the numbers; a number may begin with a dash. -/
def sequenceArguments : List String → List String × List String
  | [] => ([], [])
  | argument :: rest =>
    match argument.toList with
    | '-' :: c :: _ =>
      if c.isDigit || c == '.' then ([], argument :: rest)
      else if argument == "--" then ([], rest)
      else if argument == "-s" || argument == "-f" then
        match rest with
        | value :: rest =>
          let (options, numbers) := sequenceArguments rest
          (argument :: value :: options, numbers)
        | [] => ([argument], [])
      else
        let (options, numbers) := sequenceArguments rest
        (argument :: options, numbers)
    | _ => ([], argument :: rest)

/-- The parts of a format with one directive for a number: what stands before it, the directive, and
what stands behind it. -/
def numberFormat? (format : String) : Option (List Char × Text.Directive × List Char) :=
  let cs := format.toList
  let front := cs.takeWhile (· != '%')
  match cs.drop front.length with
  | '%' :: rest =>
    let flags := rest.takeWhile fun c => "-+ #0'".toList.contains c
    let rest := rest.drop flags.length
    let width := rest.takeWhile Char.isDigit
    let rest := rest.drop width.length
    let (precision, rest) := match rest with
      | '.' :: more =>
        let ds := more.takeWhile Char.isDigit
        (some (((String.ofList ds).toNat?).getD 0), more.drop ds.length)
      | _ => (none, rest)
    match rest with
    | conversion :: behind =>
      if "aAeEfFgG".toList.contains conversion then
        some (front, ⟨flags, ((String.ofList width).toNat?).getD 0, precision, conversion⟩, behind)
      else none
    | [] => none
  | _ => none

/-- Prints numbers from one to another. -/
def seq : Tool := fun c s =>
  let (arguments, numbers) := sequenceArguments c.arguments
  withOptions [taking 's' "separator", taking 'f' "format", flag 'w' "equal-width"] 1 (fun o c s =>
    let joint := (o.value? "s").getD "\n"
    let wrong := numbers.find? fun text => (Scaled.ofText? text).isNone
    match numbers, wrong with
    | [], _ => missingOperand c 1 s
    | _ :: _ :: _ :: extra :: _, _ => extraOperand c 1 extra s
    | _, some text => misused c 1 s!"invalid floating point argument: {quotedValue text}" s
    | _, none =>
      let values := numbers.filterMap Scaled.ofText?
      let (first, step, last) : Scaled × Scaled × Scaled := match values with
        | [last] => (⟨1, 0⟩, ⟨1, 0⟩, last)
        | [first, last] => (first, ⟨1, 0⟩, last)
        | first :: step :: last :: _ => (first, step, last)
        | [] => (⟨1, 0⟩, ⟨1, 0⟩, ⟨0, 0⟩)
      if step.units = 0 then
        let shown := quotedValue ((numbers[1]?).getD "0")
        misused c 1 s!"invalid Zero increment value: {shown}" s
      else
        let places := max first.places step.places
        let all := max places last.places
        let a := first.unitsAt all
        let d := step.unitsAt all
        let z := last.unitsAt all
        let count := if 0 < d then (z - a + d) / d else (a - z - d) / (-d)
        let count := min count.toNat 0x100000
        let down := Nat.pow 10 (all - places)
        let value (i : Nat) : Int := (a + d * (i : Int)) / (down : Int)
        let width := if o.has "w" then
            max (Scaled.text places 0 (a / down)).length (Scaled.text places 0 (z / down)).length
          else 0
        let show1 : Nat → List Char := match (o.value? "f").bind numberFormat? with
          | some (front, directive, behind) => fun i =>
            let n := a + d * (i : Int)
            front ++ directive.ofReal (.finite (decide (n < 0)) n.natAbs (Nat.pow 10 all)) ++ behind
          | none => fun i => (Scaled.text places width (value i)).toList
        if count = 0 then s
        else put (joint.toList.intercalate ((List.range count).map show1) ++ ['\n']) s)
    { c with arguments } s

/-! ### Factors -/

/-- The prime factors of a number from a candidate on; `fuel` bounds the candidates. -/
def factorsFrom : (fuel : Nat) → (candidate n : Nat) → List Nat
  | 0, _, n => if 1 < n then [n] else []
  | fuel + 1, candidate, n =>
    if n ≤ 1 then []
    else if n < candidate * candidate then [n]
    else if n % candidate = 0 then candidate :: factorsFrom fuel candidate (n / candidate)
    else factorsFrom fuel (candidate + 1) n

/-- Prints numbers as products of primes. -/
def factor : Tool := withOptions [flag 'h' "exponents"] 1 fun o c s =>
  let (words, s) := if o.operands.isEmpty then
      let (content, s) := allInputs .plain c [] s
      (((Text.fields ' ' (content.map fun u => if isSpace u then ' ' else u)).filter
        fun w => !w.isEmpty).map String.ofList, s)
    else (o.operands, s)
  words.foldl (fun s word =>
    match word.toNat? with
    | some n =>
      let factors := factorsFrom 2000000 2 n
      s.printLine (s!"{n}:" ++ String.join (factors.map fun f => s!" {f}"))
    | none => complain s s!"{c.name}: {quotedValue word} is not a valid positive integer") s

end IdlBuild.Tool
