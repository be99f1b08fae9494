import IdlBuild.Tool.Counting
import IdlBuild.Tool.Differences.Alignment
import IdlBuild.Tool.Listing
import IdlBuild.Tool.Paths

/-!
# How two files differ

`diff` tells which lines of two files differ, in one of several forms, and goes through two
directories; `cmp` tells where two files begin to differ.
-/

namespace IdlBuild.Tool.Differences

open Shell (Session Call Tool pathOf)

/-! ### Two texts -/

/-- What is said when a call makes no sense. -/
def misusedTwice (c : Call) (message : String) (s : Session) : Session :=
  ((s.complain s!"{c.name}: {message}").complain
    s!"{c.name}: Try '{c.name} --help' for more information.").withStatus 2

/-- A line without what does not count, as far as options say. -/
def countedLine (o : Options) (line : List Char) : List Char :=
  let line := if o.has "i" then line.map Char.toLower else line
  let trimmed (cs : List Char) : List Char := (cs.reverse.dropWhile isSpace).reverse
  let rec collapsed : Bool → List Char → List Char
    | _, [] => []
    | blank, c :: cs =>
      if isSpace c then (if blank then collapsed true cs else ' ' :: collapsed true cs)
      else c :: collapsed false cs
  if o.has "w" then line.filter (!isSpace ·)
  else if o.has "b" then collapsed false (trimmed line)
  else if o.has "Z" then trimmed line
  else if o.has "strip-trailing-cr" && line.getLast? == some '\r' then line.dropLast
  else line

/-- The lines of a text as they count; the last one counts differently when it is not ended. -/
def countedLines (o : Options) (text : List Char) : List (List Char) :=
  let lines := linesOf text
  let blanks := o.has "w" || o.has "b" || o.has "Z"
  let counted := lines.map (countedLine o)
  if isEnded '\n' text || blanks then counted
  else counted.dropLast ++ (counted.getLast?.map fun l => l ++ ['\n']).toList

/-- Lines as numbers. -/
def numberedLines (all : List (List Char)) (lines : List (List Char)) : Array Nat :=
  (lines.map fun line => (all.idxOf? line).getD 0).toArray

/-- The changes between two texts. -/
def changesOf (o : Options) (a b : List Char) : List Change :=
  let left := countedLines o a
  let right := countedLines o b
  let all := (left ++ right).eraseDups
  let found := changes ⟨numberedLines all left, numberedLines all right⟩
  if o.has "B" then
    let isBlank (lines : List (List Char)) (start count : Nat) : Bool :=
      ((lines.drop start).take count).all (·.isEmpty)
    found.filter fun change => !(isBlank left change.left change.removed &&
      isBlank right change.right change.added)
  else found

/-! ### Forms -/

/-- Lines with a mark in front of each, from a place on. -/
def markedLines (mark : String) (text : List Char) (start count : Nat) : List Char :=
  let lines := linesOf text
  let total := lines.length
  (((lines.zipIdx).drop start).take count).flatMap fun (line, i) =>
    mark.toList ++ line ++ '\n' ::
      (if i + 1 = total && !isEnded '\n' text then "\\ No newline at end of file\n".toList else [])

/-- A range of lines behind a place. -/
def rangeText (start count : Nat) : String :=
  if count ≤ 1 then toString (start + count) else s!"{start + 1},{start + count}"

/-- A change in the plain form. -/
def plainChange (a b : List Char) (change : Change) : List Char :=
  let letter := if change.removed = 0 then "a" else if change.added = 0 then "d" else "c"
  let front := rangeText change.left change.removed ++ letter ++
    rangeText change.right change.added ++ "\n"
  front.toList ++ markedLines "< " a change.left change.removed ++
    (if change.removed ≠ 0 && change.added ≠ 0 then "---\n".toList else []) ++
    markedLines "> " b change.right change.added

/-- Changes that stand so close to one another that they are shown together. -/
def hunks (context : Nat) : List Change → List (List Change)
  | [] => []
  | change :: rest =>
    match hunks context rest with
    | (next :: others) :: more =>
      if next.left ≤ change.left + change.removed + 2 * context then
        (change :: next :: others) :: more
      else [change] :: (next :: others) :: more
    | found => [change] :: found

/-- The lines that a hunk covers in both texts: where they begin and end. -/
def coverage (context leftSize rightSize : Nat) (hunk : List Change) : (Nat × Nat) × (Nat × Nat) :=
  match hunk.head?, hunk.getLast? with
  | some first, some last =>
    let before := min context first.left
    let stop := last.left + last.removed
    let after := min context (leftSize - stop)
    ((first.left - before, stop + after),
      (first.right - before, min rightSize (last.right + last.added + after)))
  | _, _ => ((0, 0), (0, 0))

/-- A range of lines in the unified form. -/
def unifiedRange (start stop : Nat) : String :=
  if stop - start = 1 then toString (start + 1)
  else if stop = start then s!"{start},0" else s!"{start + 1},{stop - start}"

/-- A hunk in the unified form. -/
def unifiedHunk (context : Nat) (a b : List Char) (hunk : List Change) : List Char :=
  let ((l0, l1), (r0, r1)) := coverage context (linesOf a).length (linesOf b).length hunk
  let title := s!"@@ -{unifiedRange l0 l1} +{unifiedRange r0 r1} @@\n".toList
  let (body, place) := hunk.foldl (fun (body, place) change =>
    (body ++ markedLines " " a place (change.left - place) ++
      markedLines "-" a change.left change.removed ++ markedLines "+" b change.right change.added,
      change.left + change.removed)) (([] : List Char), l0)
  title ++ body ++ markedLines " " a place (l1 - place)

/-- A range of lines in the form with context. -/
def contextRange (start stop : Nat) : String :=
  if stop ≤ start + 1 then toString stop else s!"{start + 1},{stop}"

/-- A hunk in the form with context. -/
def contextHunk (context : Nat) (a b : List Char) (hunk : List Change) : List Char :=
  let ((l0, l1), (r0, r1)) := coverage context (linesOf a).length (linesOf b).length hunk
  let side (text : List Char) (start stop : Nat) (from' : Change → Nat × Nat) (mark : String)
      (isPlain : Change → Bool) : List Char :=
    let (body, place) := hunk.foldl (fun (body, place) change =>
      let (begin', count) := from' change
      (body ++ markedLines "  " text place (begin' - place) ++
        markedLines (if isPlain change then mark ++ " " else "! ") text begin' count,
        begin' + count)) (([] : List Char), start)
    body ++ markedLines "  " text place (stop - place)
  let left := if hunk.all (·.removed = 0) then [] else
    side a l0 l1 (fun change => (change.left, change.removed)) "-" (·.added = 0)
  let right := if hunk.all (·.added = 0) then [] else
    side b r0 r1 (fun change => (change.right, change.added)) "+" (·.removed = 0)
  s!"***************\n*** {contextRange l0 l1} ****\n".toList ++ left ++
    s!"--- {contextRange r0 r1} ----\n".toList ++ right

/-- Changes as commands for an editor, the last one first. -/
def editorCommands (b : List Char) (found : List Change) : List Char :=
  found.reverse.flatMap fun change =>
    let place := rangeText change.left change.removed
    if change.added = 0 then (place ++ "d\n").toList
    else
      let letter := if change.removed = 0 then "a" else "c"
      (place ++ letter ++ "\n").toList ++ markedLines "" b change.right change.added ++ ['.', '\n']

/-- Changes as commands that count lines. -/
def countedCommands (b : List Char) (found : List Change) : List Char :=
  found.flatMap fun change =>
    let deletes := if change.removed = 0 then ""
      else s!"d{change.left + 1} {change.removed}\n"
    let adds := if change.added = 0 then ""
      else s!"a{change.left + change.removed} {change.added}\n"
    (deletes ++ adds).toList ++ markedLines "" b change.right change.added

/-- The number of lines of context that are asked for. -/
def contextOf (o : Options) : Nat :=
  (((o.value? "U").or (o.value? "C")).bind String.toNat?).getD 3

/-- The lines that name both texts. -/
def titles (o : Options) (first second a b : String) : List Char :=
  let labels := o.values "L"
  let day := "\t1970-01-01 00:00:00.000000000 +0000"
  let one := (labels[0]?).getD (a ++ day)
  let other := (labels[1]?).getD (b ++ day)
  s!"{first} {one}\n{second} {other}\n".toList

/-- Whether a text is none of lines. -/
def isBinary (text : List Char) : Bool := text.contains '\x00'

/-- The report about two texts: whether they differ, and what is printed. -/
def compareTexts (o : Options) (nameA nameB : String) (a b : List Char) : Bool × List Char :=
  let brief := s!"Files {nameA} and {nameB} differ\n".toList
  if !o.has "a" && (isBinary a || isBinary b) then
    if a == b then (false, [])
    else (true, if o.has "q" then brief
      else s!"Binary files {nameA} and {nameB} differ\n".toList)
  else
    let found := changesOf o a b
    if found.isEmpty then (false, [])
    else if o.has "q" then (true, brief)
    else
      let context := contextOf o
      (true, match o.last? ["u", "U", "c", "C", "e", "n", "normal"] with
        | some "u" | some "U" =>
          titles o "---" "+++" nameA nameB ++ (hunks context found).flatMap (unifiedHunk context a b)
        | some "c" | some "C" =>
          titles o "***" "---" nameA nameB ++ (hunks context found).flatMap (contextHunk context a b)
        | some "e" => editorCommands b found
        | some "n" => countedCommands b found
        | _ => found.flatMap (plainChange a b))

/-! ### Files and directories -/

/-- The options of `diff`. -/
def diffOptions : List Known :=
  [flag 'q' "brief", flag 's' "report-identical-files", flag 'u' "", taking 'U' "unified",
   flag 'c' "", taking 'C' "context", flag 'e' "ed", flag 'n' "rcs", longFlag "normal",
   flag 'r' "recursive", flag 'N' "new-file", flag 'i' "ignore-case",
   flag 'b' "ignore-space-change", flag 'w' "ignore-all-space", flag 'B' "ignore-blank-lines",
   flag 'Z' "ignore-trailing-space", flag 'E' "ignore-tab-expansion", flag 'a' "text",
   flag 't' "expand-tabs", flag 'T' "initial-tab", flag 'd' "minimal", flag 'H' "", flag 'p' "",
   taking 'L' "label", taking 'x' "exclude", taking 'I' "ignore-matching-lines",
   longFlag "strip-trailing-cr", longPerhaps "color", flag 'y' "side-by-side", taking 'W' "width",
   flag 'l' "paginate", longFlag "no-dereference", longFlag "suppress-common-lines",
   longFlag "speed-large-files", taking 'F' "", taking 'D' "ifdef", taking 'X' "exclude-from",
   taking 'S' "starting-file", flag 'P' ""]

/-- What an operand is. -/
inductive Operand where
  | directory (location : Location)
  | text (content : List Char)
  | absent

/-- What is compared under a name, or a complaint. -/
def operandOf (c : Call) (o : Options) (name : String) (s : Session) : Option Operand × Session :=
  match s.files.status (pathOf name) with
  | .ok (location, .directory) => (some (.directory location), s)
  | _ =>
    match input name s with
    | (.content cs, s) => (some (.text cs), s)
    | (.unopened fault, s) | (.unread fault, s) =>
      if o.has "N" && fault == .noSuchEntry then (some .absent, s)
      else (none, (s.complain s!"{c.name}: {name}: {fault.reason}").withStatus 2)

/-- The status of a comparison that found a difference. -/
def differing (s : Session) : Session := s.withStatus (max 1 s.status)

/-- Compares what stands under two names; `fuel` bounds how deep directories may be. -/
def compareNames (c : Call) (o : Options) (command : List String) : (fuel : Nat) →
    (inside : Bool) → (nameA nameB : String) → Session → Session
  | 0, _, _, _, s => s
  | fuel + 1, inside, nameA, nameB, s =>
    let (a, s) := operandOf c o nameA s
    let (b, s) := operandOf c o nameB s
    let texts (a b : List Char) (s : Session) : Session :=
      let (isDifferent, report) := compareTexts o nameA nameB a b
      if isDifferent then
        let title := if inside && !o.has "q" && !isBinary a && !isBinary b then
            (" ".intercalate (command ++ [nameA, nameB])).toList ++ ['\n']
          else []
        differing (put (title ++ report) s)
      else if o.has "s" then put s!"Files {nameA} and {nameB} are identical\n".toList s
      else s
    match a, b with
    | some (.text a), some (.text b) => texts a b s
    | some .absent, some (.text b) => texts [] b s
    | some (.text a), some .absent => texts a [] s
    | some (.directory l), some (.directory r) =>
      let names (location : Location) : List String :=
        ((s.files.children location).map fun (name, _) => Text.Units.ofBytes name).filter fun name =>
          !(o.values "x").any fun p => Shell.fitsPattern p name
      let left := names l
      let right := names r
      let all := (left ++ right).eraseDups.mergeSort fun a b =>
        compareUnits a.toList b.toList != .gt
      all.foldl (fun s name =>
        let pathA := inDirectory nameA name
        let pathB := inDirectory nameB name
        let only (directory : String) : Session :=
          differing (put s!"Only in {directory}: {name}\n".toList s)
        if !left.contains name && !o.has "N" then only nameB
        else if !right.contains name && !o.has "N" then only nameA
        else
          let kind (location : Location) : Bool :=
            (s.files.node? (location ++ [Text.Units.bytesOf name])) == some .directory
          match kind l, kind r with
          | true, true =>
            if o.has "r" then compareNames c o command fuel true pathA pathB s
            else put s!"Common subdirectories: {pathA} and {pathB}\n".toList s
          | false, false => compareNames c o command fuel true pathA pathB s
          | isLeft, _ =>
            let shown (isDirectory : Bool) : String :=
              if isDirectory then "directory" else "regular file"
            let kindA := shown isLeft
            let kindB := shown !isLeft
            differing (put
              s!"File {pathA} is a {kindA} while file {pathB} is a {kindB}\n".toList s)) s
    | some (.directory _), some (.text _) =>
      if inside then s
      else compareNames c o command fuel false (inDirectory nameA (baseName nameB)) nameB s
    | some (.text _), some (.directory _) =>
      if inside then s
      else compareNames c o command fuel false nameA (inDirectory nameB (baseName nameA)) s
    | _, _ => s

/-- The words of a call without its operands, as they are shown. -/
def commandOf (c : Call) (operands : List String) : List String :=
  (c.name :: c.arguments.filter fun a => !operands.contains a).map shownName

/-- Tells which lines of two files differ. -/
def diff : Tool := fun c s =>
  match readOptions (longFlag "help" :: longFlag "version" :: diffOptions) false c.arguments with
  | .error fault => misusedTwice c fault.message s
  | .ok o =>
    let s := s.withStatus 0
    match o.operands with
    | [a, b] => compareNames c o (commandOf c o.operands) 200 false a b s
    | _ :: _ :: extra :: _ => misusedTwice c s!"extra operand {quotedValue extra}" s
    | operands =>
      let last := (operands.head?).getD ((c.arguments.getLast?).getD c.name)
      misusedTwice c s!"missing operand after {quotedValue last}" s

/-! ### Byte by byte -/

/-- The options of `cmp`. -/
def cmpOptions : List Known :=
  [flag 's' "quiet", longFlag "silent", flag 'l' "verbose", flag 'b' "print-bytes",
   taking 'n' "bytes", taking 'i' "ignore-initial"]

/-- How a unit is shown. -/
def visibleUnit (c : Char) : String :=
  let n := c.toNat
  let (front, n) := if 128 ≤ n then ("M-", n - 128) else ("", n)
  let body := if n < 32 then String.ofList ['^', Char.ofNat (n + 64)]
    else if n = 127 then "^?" else String.ofList [Char.ofNat n]
  front ++ body

/-- A unit by its number in base eight. -/
def octalOf (c : Char) : String := rightAligned 3 (String.ofList (Nat.toDigits 8 c.toNat))

/-- What is told about two texts that are compared byte by byte. -/
def compareBytes (c : Call) (o : Options) (nameA nameB : String) (a b : List Char) (s : Session) :
    Session :=
  let quiet := o.has "s" || o.has "silent"
  let pairs := (a.zip b).zipIdx
  let different := pairs.filter fun ((x, y), _) => x != y
  let ended (s : Session) : Session :=
    if a.length = b.length || quiet then s
    else
      let (name, shorter) := if a.length < b.length then (nameA, a) else (nameB, b)
      let message := if shorter.isEmpty then s!"EOF on {name} which is empty"
        else
          let lines := shorter.count '\n'
          let place := if o.has "l" then ""
            else if shorter.getLast? == some '\n' then s!", line {lines}"
            else s!", in line {lines + 1}"
          s!"EOF on {name} after byte {shorter.length}{place}"
      s.complain s!"{c.name}: {message}"
  if different.isEmpty && a.length = b.length then s
  else
    let s := s.withStatus 1
    if quiet then s
    else if o.has "l" then
      let width := (toString (max a.length b.length)).length
      let body := different.flatMap fun ((x, y), i) =>
        let place := rightAligned width (toString (i + 1))
        let shown := if o.has "b" then
            let first := visibleUnit x
            let second := visibleUnit y
            let fill := String.ofList (List.replicate (4 - first.length) ' ')
            s!"{octalOf x} {first}{fill} {octalOf y} {second}"
          else s!"{octalOf x} {octalOf y}"
        s!"{place} {shown}\n".toList
      ended (put body s)
    else match different with
      | ((x, y), i) :: _ =>
        let line := (a.take i).count '\n' + 1
        if o.has "b" then
          let first := s!"{octalOf x} {visibleUnit x}"
          let second := s!"{octalOf y} {visibleUnit y}"
          s.printLine s!"{nameA} {nameB} differ: byte {i + 1}, line {line} is {first} {second}"
        else s.printLine s!"{nameA} {nameB} differ: char {i + 1}, line {line}"
      | [] => ended s

/-- Tells where two files begin to differ. -/
def cmp : Tool := fun c s =>
  match readOptions (longFlag "help" :: longFlag "version" :: cmpOptions) false c.arguments with
  | .error fault => misusedTwice c fault.message s
  | .ok o =>
    let s := s.withStatus 0
    match o.operands with
    | [] =>
      let last := quotedValue ((c.arguments.getLast?).getD c.name)
      misusedTwice c s!"missing operand after {last}" s
    | nameA :: rest =>
      let nameB := rest.head?.getD "-"
      match (rest.drop 3).head? with
      | some extra => misusedTwice c s!"extra operand {quotedValue extra}" s
      | none =>
        let get (name : String) (s : Session) : Option (List Char) × Session :=
          match input name s with
          | (.content cs, s) => (some cs, s)
          | (.unopened fault, s) | (.unread fault, s) =>
            let quiet := o.has "s" || o.has "silent"
            (none, (if quiet then s else s.complain s!"{c.name}: {name}: {fault.reason}"
              ).withStatus 2)
        let skips := Text.fields ':' ((o.value? "i").getD "0").toList
        let skipOf (i : Nat) : Nat :=
          (((skips[i]?).or (skips[0]?)).bind fun t => (String.ofList t).toNat?).getD 0
        let skipA := ((rest[1]?).bind String.toNat?).getD (skipOf 0)
        let skipB := ((rest[2]?).bind String.toNat?).getD (skipOf 1)
        match get nameA s with
        | (none, s) => s
        | (some a, s) =>
          match get nameB s with
          | (none, s) => s
          | (some b, s) =>
            let limit (cs : List Char) : List Char :=
              match (o.value? "n").bind String.toNat? with
              | some n => cs.take n
              | none => cs
            compareBytes c o nameA nameB (limit (a.drop skipA)) (limit (b.drop skipB)) s

end IdlBuild.Tool.Differences
