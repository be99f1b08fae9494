import IdlBuild.Text.RealReader
import IdlBuild.Tool.Columns

/-!
# Orders of lines

The tools that bring lines into an order, compare neighbours, or compare ordered texts. A line is
compared by its keys, one after the other; lines with the same keys are compared as a whole.
-/

namespace IdlBuild.Tool

open Shell (Session Call Tool Channel pathOf)

/-! ### Keys -/

/-- A place in a line: a field and a unit in it, both from 0 on. -/
structure KeyPlace where
  field : Nat
  unit : Nat
  skipsBlanks : Bool
deriving DecidableEq, Repr

/-- A part of lines that they are compared by; without an end it goes to the end of the line. -/
structure SortKey where
  start : KeyPlace
  stop : Option KeyPlace
  /-- The letters of the ways to compare. -/
  letters : List Char
deriving DecidableEq, Repr

/-- Whether a unit is a blank. -/
def isBlank (c : Char) : Bool := c == ' ' || c == '\t'

/-- What is left of a line behind a number of fields; `last` says whether the mark that ends the
last of them is passed over as well. -/
def behindFields (mark : Option Char) (last : Bool) : (count : Nat) → List Char → List Char
  | 0, cs => cs
  | count + 1, cs =>
    match mark with
    | none =>
      let rest := (cs.dropWhile isBlank).dropWhile fun c => !isBlank c
      behindFields mark last count rest
    | some m =>
      let rest := cs.dropWhile (· != m)
      behindFields mark last count (if last || 0 < count then rest.drop 1 else rest)

/-- The part of a line that a key names. -/
def keyText (mark : Option Char) (key : SortKey) (line : List Char) : List Char :=
  let skip (place : KeyPlace) (cs : List Char) : List Char :=
    if place.skipsBlanks then cs.dropWhile isBlank else cs
  let front := (skip key.start (behindFields mark true key.start.field line)).drop key.start.unit
  match key.stop with
  | none => front
  | some place =>
    let behind := if place.unit = 0 then behindFields mark false (place.field + 1) line
      else (skip place (behindFields mark true place.field line)).drop place.unit
    front.take (front.length - behind.length)

/-! ### Numbers -/

/-- A decimal number: a sign, and digits before and behind the point. -/
structure LineNumber where
  negative : Bool
  digits : Nat
  places : Nat
deriving DecidableEq, Repr

/-- The number that a text begins with, and what is behind it. -/
def LineNumber.ofText (cs : List Char) : LineNumber × List Char :=
  let cs := cs.dropWhile isBlank
  let (negative, body) := match cs with
    | '-' :: rest => (true, rest)
    | _ => (false, cs)
  let whole := body.takeWhile Char.isDigit
  let (fraction, rest) := match body.drop whole.length with
    | '.' :: more => (more.takeWhile Char.isDigit, more.dropWhile Char.isDigit)
    | rest => ([], rest)
  let value (ds : List Char) : Nat := ds.foldl (fun n d => n * 10 + (d.toNat - 0x30)) 0
  (⟨negative, value (whole ++ fraction), fraction.length⟩, rest)

/-- The order of numbers. -/
def LineNumber.compare (a b : LineNumber) : Ordering :=
  let scaled (x y : LineNumber) : Int :=
    let n : Int := x.digits * Nat.pow 10 y.places
    if x.negative then -n else n
  Ord.compare (scaled a b) (scaled b a)

/-- The order of texts by their units. -/
def compareUnits : List Char → List Char → Ordering
  | [], [] => .eq
  | [], _ => .lt
  | _, [] => .gt
  | a :: as, b :: bs =>
    match Ord.compare a.toNat b.toNat with
    | .eq => compareUnits as bs
    | other => other

/-- The place of a letter for a size, such as `K`, among the others. -/
def sizeRank (c : Option Char) : Nat :=
  match c with
  | some 'k' => 1
  | some letter => " KMGTPEZYRQ".toList.idxOf letter % 11
  | none => 0

/-- The order of numbers with sizes. -/
def compareSizes (a b : List Char) : Ordering :=
  let (x, xs) := LineNumber.ofText a
  let (y, ys) := LineNumber.ofText b
  let signed (n : LineNumber) (rest : List Char) : Int :=
    if n.digits = 0 then 0
    else
      let rank : Int := sizeRank rest.head? + 1
      if n.negative then -rank else rank
  match compare (signed x xs) (signed y ys) with
  | .eq => LineNumber.compare x y
  | other => other

/-- The order of numbers that may have exponents; what is no number comes first. -/
def compareReals (a b : List Char) : Ordering :=
  let rank (cs : List Char) : Nat × Int × Nat :=
    match Text.ReadReal.ofChars? cs with
    | none => (0, 0, 1)
    | some read =>
      match read.value with
      | .undefined _ => (1, 0, 1)
      | .infinite true => (2, 0, 1)
      | .finite negative n d => (3, if negative then -(n : Int) else n, d)
      | .infinite false => (4, 0, 1)
  let (i, n, d) := rank a
  let (j, m, e) := rank b
  match compare i j with
  | .eq => compare (n * e) (m * d)
  | other => other

/-- The number of the month that a text begins with. -/
def monthOf (cs : List Char) : Nat :=
  let word := ((cs.dropWhile isBlank).take 3).map Char.toUpper
  let months := ["JAN", "FEB", "MAR", "APR", "MAY", "JUN", "JUL", "AUG", "SEP", "OCT", "NOV", "DEC"]
  match months.idxOf? (String.ofList word) with
  | some i => i + 1
  | none => 0

/-- The place of a unit in the order of versions: tildes first, then the end, letters, others. -/
def versionRank (c : Option Char) : Nat :=
  match c with
  | none => 1
  | some c => if c == '~' then 0 else if c.isAlpha then c.toNat + 1 else c.toNat + 0x200

/-- The order of versions: texts in which numbers count as numbers; `fuel` bounds their length. -/
def compareVersions : (fuel : Nat) → List Char → List Char → Ordering
  | 0, _, _ => .eq
  | fuel + 1, as, bs =>
    match as, bs with
    | [], [] => .eq
    | _, _ =>
      let isDigit (c : Option Char) : Bool := c.any Char.isDigit
      if isDigit as.head? && isDigit bs.head? then
        let number (cs : List Char) : Nat :=
          (cs.takeWhile Char.isDigit).foldl (fun n d => n * 10 + (d.toNat - 0x30)) 0
        match compare (number as) (number bs) with
        | .eq => compareVersions fuel (as.dropWhile Char.isDigit) (bs.dropWhile Char.isDigit)
        | other => other
      else
        let rank (c : Option Char) : Nat := if isDigit c then 1 else versionRank c
        match compare (rank as.head?) (rank bs.head?) with
        | .eq => if isDigit as.head? || isDigit bs.head? then .eq
          else compareVersions fuel as.tail bs.tail
        | other => other

/-! ### Comparing lines -/

/-- The text of a key as it is compared. -/
def preparedKey (letters : List Char) (cs : List Char) : List Char :=
  let cs := if letters.contains 'd' then cs.filter fun c => c.isAlphanum || isBlank c else cs
  let cs := if letters.contains 'i' then cs.filter isPrintable else cs
  if letters.contains 'f' then cs.map Char.toUpper else cs

/-- The order of the texts of a key. -/
def compareKeys (letters : List Char) (a b : List Char) : Ordering :=
  let order :=
    if letters.contains 'n' then (LineNumber.ofText a).1.compare (LineNumber.ofText b).1
    else if letters.contains 'g' then compareReals a b
    else if letters.contains 'h' then compareSizes a b
    else if letters.contains 'M' then compare (monthOf a) (monthOf b)
    else if letters.contains 'V' then compareVersions (a.length + b.length + 1) a b
    else compareUnits (preparedKey letters a) (preparedKey letters b)
  if letters.contains 'r' then order.swap else order

/-- How lines are ordered. -/
structure SortStyle where
  keys : List SortKey
  mark : Option Char
  reversed : Bool
  stable : Bool
  unique : Bool
deriving DecidableEq, Repr

/-- The order of lines by their keys. -/
def SortStyle.compareByKeys (style : SortStyle) (a b : List Char) : Ordering :=
  style.keys.foldl (fun order key =>
    order.then (compareKeys key.letters (keyText style.mark key a) (keyText style.mark key b))) .eq

/-- The order of lines. -/
def SortStyle.compare (style : SortStyle) (a b : List Char) : Ordering :=
  match style.compareByKeys a b with
  | .eq =>
    if style.stable || style.unique then .eq
    else if style.reversed then (compareUnits a b).swap else compareUnits a b
  | other => other

/-- Lines in order. -/
def SortStyle.sorted (style : SortStyle) (lines : List (List Char)) : List (List Char) :=
  lines.mergeSort fun a b => style.compare a b != .gt

/-- Lists without the elements that are the same as the one before them. -/
def withoutRepeats {α : Type} (same : α → α → Bool) (xs : List α) : List α :=
  (xs.foldl (fun (kept : List α) x =>
    match kept with
    | last :: _ => if same last x then kept else x :: kept
    | [] => [x]) []).reverse

/-! ### Reading keys -/

/-- The letters of ways to compare. -/
def orderLetters : List Char := "bdfghiMnRrV".toList

/-- A complaint about the text of a key. -/
def keyFault (what text : String) : String := s!"{what}: invalid field specification {quotedValue text}"

/-- Reads one place of a key: a field, a unit and letters. -/
def keyPlace (text : String) (isStart : Bool) (cs : List Char) :
    Except String ((Nat × Nat) × List Char × List Char) := do
  let digits := cs.takeWhile Char.isDigit
  if digits.isEmpty then
    throw (if isStart then
        s!"invalid number at field start: invalid count at start of {quotedValue (String.ofList cs)}"
      else
        s!"invalid number after ',': invalid count at start of {quotedValue (String.ofList cs)}")
  let field := (String.ofList digits).toNat?.getD 0
  if field = 0 then throw (keyFault "field number is zero" text)
  let rest := cs.drop digits.length
  let (unit, rest) ← match rest with
    | '.' :: more =>
      let ds := more.takeWhile Char.isDigit
      if ds.isEmpty then
        throw s!"invalid number after '.': invalid count at start of {quotedValue (String.ofList more)}"
      let n := (String.ofList ds).toNat?.getD 0
      if n = 0 && isStart then throw (keyFault "character offset is zero" text)
      pure (n, more.drop ds.length)
    | _ => pure (if isStart then 1 else 0, rest)
  let letters := rest.takeWhile orderLetters.contains
  return ((field, unit), letters, rest.drop letters.length)

/-- Reads a key. Keys without letters are compared as all lines are. -/
def sortKey (common : List Char) (text : String) : Except String SortKey := do
  let ((field, unit), letters, rest) ← keyPlace text true text.toList
  let (stop, more, rest) ← match rest with
    | ',' :: cs =>
      let ((f, u), letters, rest) ← keyPlace text false cs
      pure (some (f, u), letters, rest)
    | _ => pure (none, [], rest)
  if !rest.isEmpty then throw (keyFault "stray character in field spec" text)
  let own := letters ++ more
  let all := if own.isEmpty then common else own
  return {
    start := ⟨field - 1, unit - 1, letters.contains 'b' || (own.isEmpty && common.contains 'b')⟩
    stop := stop.map fun (f, u) =>
      ⟨f - 1, u, more.contains 'b' || (own.isEmpty && common.contains 'b')⟩
    letters := all.filter (· != 'b') }

/-- The letters of two ways to compare that exclude each other, if there are such. -/
def clash? (letters : List Char) : Option String :=
  let kinds := ['g', 'h', 'M', 'n', 'R', 'V'].filter letters.contains
  let plain := ['d', 'i'].filter letters.contains
  if 1 < kinds.length || (!kinds.isEmpty && !plain.isEmpty) then
    some (String.ofList (("dfghiMnRV".toList).filter letters.contains))
  else none

/-- Prints lines in order. -/
def sort : Tool :=
  withOptions ([flag 'b' "ignore-leading-blanks", flag 'd' "dictionary-order",
      flag 'f' "ignore-case", flag 'g' "general-numeric-sort", flag 'i' "ignore-nonprinting",
      flag 'M' "month-sort", flag 'h' "human-numeric-sort", flag 'n' "numeric-sort",
      flag 'R' "random-sort", flag 'r' "reverse", flag 'V' "version-sort", taking 'k' "key",
      taking 't' "field-separator", flag 'u' "unique", flag 's' "stable", flag 'c' "",
      longPerhaps "check", flag 'C' "", taking 'o' "output", flag 'm' "merge",
      flag 'z' "zero-terminated", taking 'S' "buffer-size", taking 'T' "temporary-directory",
      longTaking "parallel", longTaking "sort"]) 2 fun o c s =>
    let fail (s : Session) (message : String) : Session :=
      (s.complain s!"{c.name}: {message}").withStatus 2
    let common := (o.given.filterMap fun (key, _) =>
      match key.toList with
      | [letter] => if orderLetters.contains letter then some letter else none
      | _ => none) ++ (match o.value? "sort" with
        | some "numeric" => ['n']
        | some "general-numeric" => ['g']
        | some "human-numeric" => ['h']
        | some "month" => ['M']
        | some "version" => ['V']
        | _ => [])
    let mark := (o.value? "t").getD ""
    let ending := if o.has "z" then '\x00' else '\n'
    match (o.values "k").mapM (sortKey common) with
    | .error message => fail s message
    | .ok keys =>
      let clash := (common :: keys.map (·.letters)).findSome? clash?
      if o.has "t" && mark.isEmpty then fail s "empty tab"
      else if 1 < mark.length && mark != "\\0" then
        fail s s!"multi-character tab {quotedValue mark}"
      else match clash with
      | some letters => fail s s!"options '-{letters}' are incompatible"
      | none =>
        let whole : SortKey :=
          ⟨⟨0, 0, common.contains 'b'⟩, none, common.filter (· != 'b')⟩
        let style : SortStyle :=
          { keys := if keys.isEmpty then [whole] else keys
            mark := if mark == "\\0" then some '\x00' else mark.toList.head?
            reversed := common.contains 'r'
            stable := o.has "s"
            unique := o.has "u" }
        let wording : Wording :=
          { unopened := fun p reason => s!"cannot read: {shownName p}: {reason}"
            unread := fun p reason => s!"read failed: {shownName p}: {reason}" }
        let operands := orInput o.operands
        let (content?, s) := operands.foldl (fun (content?, s) operand =>
          match (content? : Option (List (List Char))) with
          | none => (none, s)
          | some lines =>
            match inputOr wording c operand s with
            | (some content, s) => (some (lines ++ piecesOf ending content), s)
            | (none, s) => (none, s)) (some [], s)
        match content? with
        | none => s.withStatus 2
        | some lines =>
          if o.has "c" || o.has "C" || o.has "check" then
            let wrong := (lines.zip (lines.drop 1)).zipIdx.find? fun ((a, b), _) =>
              match style.compare a b with
              | .gt => true
              | .eq => o.has "u"
              | .lt => false
            match wrong with
            | none => s
            | some ((_, b), i) =>
              let name := operands.head?.getD "-"
              let quiet := o.has "C" || (o.value? "check").any fun v => v == "quiet" || v == "silent"
              (if quiet then s
                else s.complain s!"{c.name}: {name}:{i + 2}: disorder: {String.ofList b}").withStatus 1
          else
            let ordered := style.sorted lines
            let shown := if o.has "u" then
                withoutRepeats (fun a b => style.compareByKeys a b == .eq) ordered
              else ordered
            let text := ofPieces ending shown
            match o.value? "o" with
            | none => put text s
            | some p =>
              match s.machine.openForOutput (pathOf p) s.newMode true false with
              | .ok (channel, machine) =>
                { s with machine := machine.write (bytesOf text) channel }
              | .error fault => fail s s!"open failed: {shownName p}: {fault.reason}"

/-! ### Neighbours -/

/-- Lines in groups of the same ones, each with its number. -/
def groupsOf (key : List Char → List Char) (lines : List (List Char)) :
    List (List (List Char)) :=
  ((lines.foldl (fun (groups : List (List (List Char))) line =>
    match groups with
    | (last :: others) :: rest =>
      if key last == key line then (line :: last :: others) :: rest
      else [line] :: (last :: others) :: rest
    | _ => [[line]]) []).map List.reverse).reverse

/-- Prints lines without repeats, or what repeats. -/
def uniq : Tool :=
  withOptions [flag 'c' "count", flag 'd' "repeated", flag 'D' "", longPerhaps "all-repeated",
      flag 'u' "unique", flag 'i' "ignore-case", taking 'f' "skip-fields", taking 's' "skip-chars",
      taking 'w' "check-chars", flag 'z' "zero-terminated", longPerhaps "group"] 1 fun o c s =>
    let number? (key : String) : Option Nat := (o.value? key).bind String.toNat?
    let wrong := ["f", "s", "w"].find? fun key => o.has key && (number? key).isNone
    let ending := if o.has "z" then '\x00' else '\n'
    match wrong, o.operands with
    | some key, _ =>
      let what := match key with
        | "f" => "fields to skip"
        | "s" => "bytes to skip"
        | _ => "bytes to compare"
      let value := (o.value? key).getD ""
      complain s s!"{c.name}: {value}: invalid number of {what}"
    | none, _ :: _ :: extra :: _ => extraOperand c 1 extra s
    | none, operands =>
      let key (line : List Char) : List Char :=
        let rest := behindFields none false ((number? "f").getD 0) line
        let rest := rest.drop ((number? "s").getD 0)
        let rest := match number? "w" with
          | some n => rest.take n
          | none => rest
        if o.has "i" then rest.map Char.toLower else rest
      let wording : Wording := { Wording.plain with
        unread := fun p reason => s!"error reading {quotedName p}: {reason}" }
      match inputOr wording c (operands.head?.getD "-") s with
      | (none, s) => s
      | (some content, s) =>
        let groups := groupsOf key (piecesOf ending content)
        let kept := groups.filter fun g =>
          if o.has "d" && o.has "u" then false
          else if o.has "d" || o.has "D" || o.has "all-repeated" then 1 < g.length
          else if o.has "u" then g.length == 1 else true
        let shown := kept.flatMap fun g =>
          if o.has "D" || o.has "all-repeated" then g
          else g.take 1 |>.map fun line =>
            if o.has "c" then columnOf 7 g.length ++ ' ' :: line else line
        let text := ofPieces ending shown
        match operands[1]? with
        | none | some "-" => put text s
        | some p =>
          match s.machine.openForOutput (pathOf p) s.newMode true false with
          | .ok (channel, machine) => { s with machine := machine.write (bytesOf text) channel }
          | .error fault => complain s s!"{c.name}: {shownName p}: {fault.reason}"

/-! ### Ordered texts -/

/-- The lines of two ordered texts in order, each with the column that it belongs to. -/
def mergedLines : (fuel : Nat) → List (List Char) → List (List Char) → List (Nat × List Char)
  | 0, _, _ => []
  | _, [], bs => bs.map fun b => (1, b)
  | _, as, [] => as.map fun a => (0, a)
  | fuel + 1, a :: as, b :: bs =>
    match compareUnits a b with
    | .lt => (0, a) :: mergedLines fuel as (b :: bs)
    | .gt => (1, b) :: mergedLines fuel (a :: as) bs
    | .eq => (2, a) :: mergedLines fuel as bs

/-- Whether lines are in order. -/
def areOrdered (lines : List (List Char)) : Bool :=
  (lines.zip (lines.drop 1)).all fun (a, b) => compareUnits a b != .gt

/-- Compares two ordered texts line by line. -/
def comm : Tool :=
  withOptions [flag '1' "", flag '2' "", flag '3' "", longFlag "check-order",
      longFlag "nocheck-order", longTaking "output-delimiter", longFlag "total",
      flag 'z' "zero-terminated"] 1 fun o c s =>
    match o.operands with
    | [] => missingOperand c 1 s
    | [first] => misused c 1 s!"missing operand after {quotedValue first}" s
    | _ :: _ :: extra :: _ => extraOperand c 1 extra s
    | [first, second] =>
      let ending := if o.has "z" then '\x00' else '\n'
      match inputOr .plain c first s with
      | (none, s) => s
      | (some left, s) =>
        match inputOr .plain c second s with
        | (none, s) => s
        | (some right, s) =>
          let as := piecesOf ending left
          let bs := piecesOf ending right
          let joint := ((o.value? "output-delimiter").getD "\t").toList
          let hidden := ["1", "2", "3"].map o.has
          let rows := mergedLines (as.length + bs.length + 1) as bs
          let shown := rows.filterMap fun (column, line) =>
            if (hidden[column]?).getD false then none
            else
              let before := (hidden.take column).filter not
              some (before.flatMap (fun _ => joint) ++ line)
          let counts := [0, 1, 2].map fun i => (rows.filter fun row => row.1 == i).length
          let total := if o.has "total" then
              [joint.intercalate (counts.map (Nat.toDigits 10) ++ ["total".toList])]
            else []
          let s := put (ofPieces ending (shown ++ total)) s
          if o.has "nocheck-order" then s
          else
            let wrong := (if areOrdered as then [] else [1]) ++ (if areOrdered bs then [] else [2])
            let s := wrong.foldl (fun s i =>
              complain s s!"{c.name}: file {i} is not in sorted order") s
            if wrong.isEmpty then s else complain s s!"{c.name}: input is not in sorted order"

end IdlBuild.Tool
