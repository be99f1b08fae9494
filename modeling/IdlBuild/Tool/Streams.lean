import IdlBuild.Tool.Entries

/-!
# Streams

The tools that pass on what they read: all of it, its beginning, its end, its lines in reverse, or
pieces of it into files.
-/

namespace IdlBuild.Tool

open Shell (Session Call Tool Channel Machine pathOf)

/-! ### All of it -/

/-- A unit as it is shown when nothing may stay unseen. -/
def visible (c : Char) : List Char :=
  let low (n : Nat) : List Char :=
    if n < 0x20 then ['^', Char.ofNat (n + 0x40)]
    else if n = 0x7F then ['^', '?'] else [Char.ofNat n]
  if c.toNat < 0x80 then low c.toNat else ['M', '-'] ++ low (c.toNat - 0x80)

/-- What `cat` does to what it passes on. -/
structure CatStyle where
  numbers : Bool
  /-- Whether only lines with something in them are numbered. -/
  skipsBlank : Bool
  squeezes : Bool
  showsEnds : Bool
  showsTabs : Bool
  showsAll : Bool
deriving DecidableEq, Repr

/-- How far `cat` has come: the number of the line, how many blank lines came last, and whether a
line begins. -/
structure CatState where
  number : Nat
  blanks : Nat
  begins : Bool
deriving DecidableEq, Repr

/-- A number to the right of a column. -/
def columnOf (width n : Nat) : List Char :=
  let digits := Nat.toDigits 10 n
  List.replicate (width - digits.length) ' ' ++ digits

/-- One piece of a line, which may be ended, as `cat` shows it. -/
def catLine (style : CatStyle) (state : CatState) (line : List Char) : List Char × CatState :=
  let ended := line.getLast? == some '\n'
  let body := if ended then line.dropLast else line
  let blank := state.begins && body.isEmpty && ended
  let blanks := if blank then state.blanks + 1 else 0
  if blank && style.squeezes && 1 < blanks then ([], { state with blanks })
  else
    let numbered := style.numbers && state.begins && !(style.skipsBlank && blank)
    let front := if numbered then columnOf 6 (state.number + 1) ++ ['\t'] else []
    let carriage := style.showsEnds && ended && body.getLast? == some '\r'
    let shown := body.flatMap fun c =>
      if c == '\t' then (if style.showsTabs then ['^', 'I'] else [c])
      else if style.showsAll then visible c else [c]
    let shown := if carriage && !style.showsAll then shown.dropLast ++ ['^', 'M'] else shown
    let ending := if ended then (if style.showsEnds then ['$', '\n'] else ['\n']) else []
    (front ++ shown ++ ending,
      { number := if numbered then state.number + 1 else state.number, blanks, begins := ended })

/-- Whether a channel is the file of an operand, which has something in it. -/
def writesInto (s : Session) (operand : String) (content : List Char) : Bool :=
  match s.channel? 1 with
  | some (.file index) =>
    match s.machine.opened[index]?, s.files.status (pathOf operand) with
    | some file, .ok (location, _) =>
      file.location == location && !content.isEmpty && operand != "-"
    | _, _ => false
  | _ => false

/-- Prints what it reads. -/
def cat : Tool :=
  withOptions [flag 'n' "number", flag 'b' "number-nonblank", flag 's' "squeeze-blank",
      flag 'E' "show-ends", flag 'T' "show-tabs", flag 'v' "show-nonprinting", flag 'A' "show-all",
      flag 'e' "", flag 't' "", flag 'u' ""] 1 fun o c s =>
    let style : CatStyle :=
      { numbers := o.has "n" || o.has "b"
        skipsBlank := o.has "b"
        squeezes := o.has "s"
        showsEnds := o.has "E" || o.has "A" || o.has "e"
        showsTabs := o.has "T" || o.has "A" || o.has "t"
        showsAll := o.has "v" || o.has "A" || o.has "e" || o.has "t" }
    let plain := !(style.numbers || style.squeezes || style.showsEnds || style.showsTabs ||
      style.showsAll)
    let show1 (operand : String) (content : List Char) (acc : CatState × Session) :
        CatState × Session :=
      let (state, s) := acc
      if writesInto s operand content then
        (state, complain s s!"{c.name}: {shownName operand}: input file is output file")
      else if plain then (state, put content s)
      else
        let (shown, state) := (endedPieces '\n' content).foldl (fun (shown, state) line =>
          let (text, state) := catLine style state line
          (text.reverse ++ shown, state)) ([], state)
        (state, put shown.reverse s)
    ((orInput o.operands).foldl (fun (state, s) operand =>
      match inputOr .plain c operand s with
      | (some content, s) => show1 operand content (state, s)
      | (none, s) => (state, s)) ((⟨0, 0, true⟩ : CatState), s)).2

/-- Prints what it reads, and writes it to files as well. -/
def tee : Tool :=
  withOptions [flag 'a' "append", flag 'i' "ignore-interrupts", flag 'p' "",
      longPerhaps "output-error"] 1 fun o c s =>
    let (channels, s) := o.operands.foldl (fun (channels, s) p =>
      match s.machine.openForOutput (pathOf p) s.newMode (!o.has "a") (o.has "a") with
      | .ok (channel, machine) => (channels ++ [channel], { s with machine })
      | .error fault => (channels, complain s s!"{c.name}: {shownName p}: {fault.reason}"))
      (([] : List Channel), s)
    let (bytes, s) := s.readAll 0
    let s := s.write 1 bytes
    channels.foldl (fun s channel =>
      if channel == .full && !bytes.isEmpty then
        complain s s!"{c.name}: /dev/full: No space left on device"
      else { s with machine := s.machine.write bytes channel }) s

/-- Prints the lines of each operand, the last one first. -/
def tac : Tool :=
  withOptions [flag 'b' "before", flag 'r' "regex", taking 's' "separator"] 1 fun o c s =>
    let mark := ((o.value? "s").bind fun v => v.toList.head?).getD '\n'
    let wording : Wording :=
      { unopened := fun p reason => s!"failed to open {quotedName p} for reading: {reason}"
        unread := fun p _ => s!"{shownName p}: read error: Invalid argument" }
    onInputs wording c o.operands (fun _ content s =>
      put (endedPieces mark content).reverse.flatten s) s

/-! ### Beginnings and ends -/

/-- A count with the letter of a unit behind it. -/
def countOf? (text : String) : Option Nat := sizeOf? text.toList

/-- Old ways to write how much is wanted: a number behind a dash, with letters behind it. -/
def oldCount (arguments : List String) : List String :=
  match arguments with
  | [] => []
  | first :: rest =>
    match first.toList with
    | '-' :: d :: more =>
      if !d.isDigit then arguments
      else
        let digits := (d :: more).takeWhile Char.isDigit
        let letters := (d :: more).drop digits.length
        let unit := letters.filter fun l => l == 'b' || l == 'k' || l == 'm'
        let kind := if letters.contains 'c' || !unit.isEmpty then "-c" else "-n"
        let others := (letters.filter fun l => l == 'q' || l == 'v' || l == 'z').map fun l =>
          String.ofList ['-', l]
        [kind, String.ofList (digits ++ unit.take 1)] ++ others ++ rest
    | _ => arguments

/-- What is wrong with the letters behind the number of an old way to write how much is wanted. -/
def oldCountFault? (known : List Char) (arguments : List String) : Option (Char × Char) :=
  match arguments.head?.map String.toList with
  | some ('-' :: d :: more) =>
    if !d.isDigit then none
    else
      let wrong := (more.dropWhile Char.isDigit).find? fun letter => !known.contains letter
      wrong.map fun letter => (d, letter)
  | _ => none

/-- The complaint about an operand that cannot be read. -/
def partWording : Wording where
  unopened p reason := s!"cannot open {quotedName p} for reading: {reason}"
  unread p reason := s!"error reading {quotedName p}: {reason}"

/-- The name of an operand in a heading. -/
def headingName (operand : String) : String :=
  if operand == "-" then "standard input" else operand

/-- Prints a part of each operand, under headings if there are several. -/
def onParts (c : Call) (o : Options) (part : List Char → List Char) (s : Session) : Session :=
  let operands := orInput o.operands
  let headed := match o.last? ["q", "v", "silent"] with
    | some "v" => true
    | some _ => false
    | none => 1 < operands.length
  (operands.foldl (fun (isFirst, s) operand =>
    let gap := if isFirst then "" else "\n"
    let heading := if headed then s!"{gap}==> {headingName operand} <==\n" else ""
    match input operand s with
    | (.content cs, s) => (false, put (heading.toList ++ part cs) s)
    | (.unopened fault, s) =>
      (isFirst, complain s s!"{c.name}: {partWording.unopened operand fault.reason}")
    | (.unread fault, s) =>
      (false, complain (s.print heading) s!"{c.name}: {partWording.unread operand fault.reason}"))
    (true, s)).2

/-- The number of units of the first lines. -/
def lengthOfLines (mark : Char) : (count : Nat) → (length : Nat) → List Char → Nat
  | 0, length, _ => length
  | _, length, [] => length
  | count + 1, length, c :: cs =>
    if c == mark then lengthOfLines mark count (length + 1) cs
    else lengthOfLines mark (count + 1) (length + 1) cs

/-- The number of units that are read at once from what cannot be read again. -/
def blockLength : Nat := 8192

/-- What is counted, in words. -/
def countedUnits (byBytes : Bool) : String := if byBytes then "bytes" else "lines"

/-- Prints the beginning of what it reads. What it reads from a file beyond that is left to be
read. -/
def head : Tool := fun c s =>
  match oldCountFault? "bcklmqvz".toList c.arguments with
  | some (_, letter) => misused c 1 s!"invalid trailing option -- {letter}" s
  | none =>
  withOptions [taking 'n' "lines", taking 'c' "bytes", flag 'q' "quiet", longFlag "silent",
      flag 'v' "verbose", flag 'z' "zero-terminated"] 1 (fun o c s =>
    let byBytes := o.last? ["n", "c"] == some "c"
    let value := (o.value? (if byBytes then "c" else "n")).getD "10"
    let fromEnd := value.startsWith "-"
    let signed := fromEnd || value.startsWith "+"
    let mark := if o.has "z" then '\x00' else '\n'
    match countOf? (if signed then String.ofList value.toList.tail else value) with
    | none =>
      complain s s!"{c.name}: invalid number of {countedUnits byBytes}: {quotedValue value}"
    | some n =>
      let lengthOf (cs : List Char) : Nat :=
        if byBytes then (if fromEnd then cs.length - n else min n cs.length)
        else if fromEnd then lengthOfLines mark ((piecesOf mark cs).length - n) 0 cs
        else lengthOfLines mark n 0 cs
      if (o.operands.isEmpty || o.operands == ["-"]) && !o.has "v" then
        match s.channel? 0 with
        | some (.directory) | none =>
          match readDescriptor 0 s with
          | (.unread fault, s) =>
            complain s s!"{c.name}: error reading 'standard input': {fault.reason}"
          | (_, s) => s
        | some channel =>
          let isFile := match channel with
            | .file _ => true
            | _ => false
          let (bytes, s) := s.readSome 0 fun bytes =>
            let wanted := lengthOf (unitsOf bytes)
            if isFile then wanted
            else if fromEnd then bytes.length
            else min bytes.length ((wanted + blockLength - 1) / blockLength * blockLength)
          let cs := unitsOf bytes
          put (if isFile then cs else cs.take (lengthOf cs)) s
      else onParts c o (fun cs => cs.take (lengthOf cs)) s)
    { c with arguments := oldCount c.arguments } s

/-- Prints the end of what it reads. A file may be waited for to grow. -/
def tail : Tool := fun c s =>
  let arguments := match c.arguments with
    | first :: rest =>
      match first.toList with
      | '+' :: d :: more =>
        if d.isDigit then "-n" :: String.ofList ('+' :: d :: more) :: rest else first :: rest
      | _ => oldCount c.arguments
    | [] => []
  match oldCountFault? "bclf".toList c.arguments with
  | some (digit, _) => complain s s!"{c.name}: option used in invalid context -- {digit}"
  | none =>
  withOptions [taking 'n' "lines", taking 'c' "bytes", flag 'q' "quiet", longFlag "silent",
      flag 'v' "verbose", flag 'z' "zero-terminated", flag 'f' "", flag 'F' "", longTaking "pid",
      taking 's' "sleep-interval", longPerhaps "follow", longFlag "retry"] 1 (fun o c s =>
    let byBytes := o.last? ["n", "c"] == some "c"
    let value := (o.value? (if byBytes then "c" else "n")).getD "10"
    let fromStart := value.startsWith "+"
    let signed := fromStart || value.startsWith "-"
    let mark := if o.has "z" then '\x00' else '\n'
    match countOf? (if signed then String.ofList value.toList.tail else value) with
    | none =>
      complain s s!"{c.name}: invalid number of {countedUnits byBytes}: {quotedValue value}"
    | some n =>
      let skipped (cs : List Char) : Nat :=
        if byBytes then (if fromStart then n - 1 else cs.length - n)
        else if fromStart then lengthOfLines mark (n - 1) 0 cs
        else lengthOfLines mark ((piecesOf mark cs).length - n) 0 cs
      let done := onParts c o (fun cs => cs.drop (skipped cs)) s
      let waits := (o.has "f" || o.has "F" || o.has "follow") && !o.operands.isEmpty
      if waits then done.spend Session.forever else done) { c with arguments } s

/-! ### Blocks -/

/-- The operands of `dd` as names and values. -/
def blockOperands (c : Call) : List String → Session → Except Session (List (String × String))
  | [], _ => .ok []
  | argument :: rest, s =>
    match Text.cutFirst '=' argument.toList with
    | none => .error (misused c 1 s!"unrecognized operand {quotedValue argument}" s)
    | some (name, value) =>
      if ["if", "of", "bs", "ibs", "obs", "count", "skip", "seek", "conv", "status", "iflag",
          "oflag", "cbs"].contains (String.ofList name) then
        (blockOperands c rest s).map ((String.ofList name, String.ofList value) :: ·)
      else .error (misused c 1 s!"unrecognized operand {quotedValue argument}" s)

/-- The number that an operand of `dd` gives; factors stand between crosses. -/
def blockNumber? (text : String) : Option Nat :=
  ((Text.fields 'x' text.toList).mapM sizeOf?).map fun factors => factors.foldl (· * ·) 1

/-- Whole blocks and whether there is a part of one, as they are told. -/
def recordsText (length block : Nat) : String :=
  s!"{length / block}+{if length % block = 0 then 0 else 1}"

/-- Copies blocks of bytes. -/
def dd : Tool := fun c s =>
  match readOptions [longFlag "help", longFlag "version"] false c.arguments with
  | .error fault => misused c 1 fault.message s
  | .ok o =>
    match blockOperands c o.operands (s.withStatus 0) with
    | .error s => s
    | .ok operands =>
      let s := s.withStatus 0
      let number (name : String) (otherwise : Nat) : Nat :=
        ((operands.lookup name).bind blockNumber?).getD otherwise
      let wrong := operands.find? fun (name, value) =>
        ["bs", "ibs", "obs", "count", "skip", "seek"].contains name && (blockNumber? value).isNone
      match wrong with
      | some (_, value) => complain s s!"{c.name}: invalid number: {quotedValue value}"
      | none =>
        let block := max 1 (number "bs" (number "ibs" 512))
        let outBlock := max 1 (number "bs" (number "obs" 512))
        let flags := Text.fields ',' ((operands.lookup "conv").getD "").toList
        let has (name : String) : Bool := flags.contains name.toList
        let source : Except IoFault (Channel × Machine) := match operands.lookup "if" with
          | none => (s.channel? 0).elim (.error (IoFault.system 9)) fun channel =>
              .ok (channel, s.machine)
          | some p => s.machine.openPath .input (pathOf p) 0
        match source with
        | .error fault =>
          let name := quotedName ((operands.lookup "if").getD "")
          complain s s!"{c.name}: failed to open {name}: {fault.reason}"
        | .ok (channel, machine) =>
          let s := { s with machine := machine.settled channel }
          let wanted := (number "skip" 0 + number "count" 0) * block
          let all : Text.Bytes := if channel == .zeros then List.replicate (min wanted 0x4000000) 0
            else s.machine.available channel
          let skipped := all.drop (number "skip" 0 * block)
          let bytes := match operands.lookup "count" with
            | some _ => skipped.take (number "count" 0 * block)
            | none => skipped
          let s := { s with machine :=
            s.machine.consume (min all.length (number "skip" 0 * block + bytes.length)) channel }
          let upper (b : UInt8) : UInt8 := if 0x61 ≤ b && b ≤ 0x7A then b - 0x20 else b
          let lower (b : UInt8) : UInt8 := if 0x41 ≤ b && b ≤ 0x5A then b + 0x20 else b
          let shown := if has "ucase" then bytes.map upper
            else if has "lcase" then bytes.map lower else bytes
          let target : Except IoFault (Channel × Machine) := match operands.lookup "of" with
            | none => (s.channel? 1).elim (.error (IoFault.system 9)) fun channel =>
                .ok (channel, s.machine)
            | some p =>
              let keeps := has "notrunc" || number "seek" 0 != 0
              match s.machine.openForOutput (pathOf p) s.newMode (!keeps) false with
              | .ok (.file index, machine) =>
                let opened := match machine.opened[index]? with
                  | some file =>
                    machine.opened.set index { file with offset := number "seek" 0 * outBlock }
                  | none => machine.opened
                .ok (.file index, { machine with opened })
              | other => other
          match target with
          | .error fault =>
            let name := quotedName ((operands.lookup "of").getD "")
            complain s s!"{c.name}: failed to open {name}: {fault.reason}"
          | .ok (out, machine) =>
            let s := { s with machine }
            let s := if out == .full && !shown.isEmpty then
                complain s s!"{c.name}: error writing 'standard output': No space left on device"
              else { s with machine := s.machine.write shown out }
            match operands.lookup "status" with
            | some "none" => s
            | status? =>
              let s := (s.complain s!"{recordsText bytes.length block} records in").complain
                s!"{recordsText shown.length outBlock} records out"
              if status? == some "noxfer" then s
              else s.complain s!"{bytes.length} bytes copied, 0.001 s, {bytes.length} kB/s"

/-! ### Pieces -/

/-- The ending of a piece by its number: letters or digits, at least as many as are given. -/
def pieceName (digits : Bool) (count n : Nat) : String :=
  let base := if digits then 10 else 26
  let rec go : Nat → Nat → List Char
    | 0, _ => []
    | count + 1, n =>
      go count (n / base) ++ [Char.ofNat ((if digits then 0x30 else 0x61) + n % base)]
  String.ofList (go count n)

/-- Lists of at most some elements that make up a list; `fuel` bounds their number. -/
def chunksOf {α : Type} (count : Nat) : (fuel : Nat) → List α → List (List α)
  | 0, _ => []
  | fuel + 1, xs =>
    if xs.isEmpty then [] else xs.take count :: chunksOf count fuel (xs.drop count)

/-- Writes pieces of what it reads into files. -/
def split : Tool :=
  withOptions [taking 'l' "lines", taking 'b' "bytes", taking 'a' "suffix-length",
      flag 'd' "numeric-suffixes", longTaking "additional-suffix", taking 'C' "line-bytes",
      flag 'e' "elide-empty-files", longFlag "verbose", flag 'x' ""] 1 fun o c s =>
    let byBytes := o.has "b"
    let value := (o.value? (if byBytes then "b" else "l")).getD "1000"
    let count := (countOf? value).getD 0
    let start := if o.operands.length < 2 then "x" else o.operands[1]?.getD "x"
    if count = 0 then
      complain s s!"{c.name}: invalid number of {countedUnits byBytes}: {quotedValue value}"
    else match o.operands with
      | _ :: _ :: extra :: _ => extraOperand c 1 extra s
      | _ =>
        let wording : Wording := { partWording with unread := Wording.plain.unread }
        match inputOr wording c (o.operands.head?.getD "-") s with
        | (none, s) => s
        | (some content, s) =>
          let pieces := if byBytes then chunksOf count (content.length + 1) content
            else
              let lines := endedPieces '\n' content
              (chunksOf count (lines.length + 1) lines).map List.flatten
          let width := ((o.value? "a").bind String.toNat?).getD 2
          pieces.zipIdx.foldl (fun s (piece, i) =>
            let name := start ++ pieceName (o.has "d") width i ++
              (o.value? "additional-suffix").getD ""
            let s := if o.has "verbose" then s.printLine s!"creating file {quotedName name}" else s
            match s.machine.openForOutput (pathOf name) s.newMode true false with
            | .ok (channel, machine) => { s with machine := machine.write (bytesOf piece) channel }
            | .error fault => complain s s!"{c.name}: {shownName name}: {fault.reason}") s

end IdlBuild.Tool
