import IdlBuild.Tool.Streams

/-!
# Columns

The tools that take lines apart and put them together: parts of lines, lines side by side, numbers
before lines, and lines brought to a width.
-/

namespace IdlBuild.Tool

open Shell (Session Call Tool)

/-! ### Ranges -/

/-- What is wrong with a list of ranges. -/
inductive RangeFault where
  | invalid (text : String)
  | zero
  | decreasing
  | noEnds
deriving DecidableEq, Repr

/-- The first and the last number of a range; without a last one it goes to the end. -/
abbrev Range := Nat × Option Nat

/-- Reads one range. -/
def rangeOf (cs : List Char) : Except RangeFault Range := do
  let number (ds : List Char) : Except RangeFault Nat :=
    match (String.ofList ds).toNat? with
    | some 0 => .error .zero
    | some n => .ok n
    | none => .error (.invalid (String.ofList ds))
  match Text.cutFirst '-' cs with
  | none =>
    let n ← number cs
    return (n, some n)
  | some ([], []) => throw .noEnds
  | some (low, high) =>
    let first ← if low.isEmpty then pure 1 else number low
    if high.isEmpty then return (first, none)
    let last ← number high
    if last < first then throw .decreasing
    return (first, some last)

/-- The ranges of a list, which commas or blanks separate. -/
def rangesOf (text : String) : Except RangeFault (List Range) :=
  let marked := text.toList.map fun c => if c == ' ' || c == '\t' then ',' else c
  (Text.fields ',' marked).mapM rangeOf

/-- Whether ranges hold a number. -/
def rangesHold (ranges : List Range) (n : Nat) : Bool :=
  ranges.any fun (first, last) => first ≤ n && last.all (n ≤ ·)

/-- Whether one of some ranges begins at a number. -/
def rangesBegin (ranges : List Range) (n : Nat) : Bool :=
  ranges.any (fun (first, _) => first == n) &&
    !(ranges.any fun (first, last) => first < n && last.all (n ≤ ·))

/-! ### Parts of lines -/

/-- Why a call of `cut` is refused. -/
def cutFault (byFields : Bool) : RangeFault → String
  | .invalid text =>
    if byFields then s!"invalid field value {quotedValue text}"
    else s!"invalid byte/character position {quotedValue text}"
  | .zero =>
    if byFields then "fields are numbered from 1"
    else "byte/character positions are numbered from 1"
  | .decreasing => "invalid decreasing range"
  | .noEnds => "invalid range with no endpoint: -"

/-- Prints parts of each line. -/
def cut : Tool :=
  withOptions [taking 'b' "bytes", taking 'c' "characters", taking 'f' "fields",
      taking 'd' "delimiter", flag 's' "only-delimited", flag 'n' "", longFlag "complement",
      longTaking "output-delimiter", flag 'z' "zero-terminated"] 1 fun o c s =>
    let lists := o.given.filter fun (key, _) => ["b", "c", "f"].contains key
    let byFields := o.has "f"
    let mark := (o.value? "d").getD "\t"
    let ending := if o.has "z" then '\x00' else '\n'
    let refuse (message : String) : Session := misused c 1 message s
    match lists with
    | [] =>
      if 1 < mark.length then refuse "the delimiter must be a single character"
      else refuse "you must specify a list of bytes, characters, or fields"
    | _ :: _ :: _ => refuse "only one list may be specified"
    | [(_, list)] =>
      if 1 < mark.length then refuse "the delimiter must be a single character"
      else if o.has "d" && !byFields then
        refuse "an input delimiter may be specified only when operating on fields"
      else if o.has "s" && !byFields then
        refuse "suppressing non-delimited lines makes sense\n\tonly when operating on fields"
      else match rangesOf list with
        | .error fault => refuse (cutFault byFields fault)
        | .ok ranges =>
          let wanted (n : Nat) : Bool := rangesHold ranges n != o.has "complement"
          let delimiter := mark.toList.head?.getD '\x00'
          let joint := match o.value? "output-delimiter" with
            | some text => if text.isEmpty then ['\x00'] else text.toList
            | none => [delimiter]
          let cutLine (line : List Char) : List Char :=
            if byFields then
              let chosen := (Text.fields delimiter line).zipIdx.filter fun (_, i) => wanted (i + 1)
              joint.intercalate (chosen.map Prod.fst)
            else
              (line.zipIdx.foldl (fun (shown : List Char × Bool) (unit, i) =>
                if !wanted (i + 1) then shown
                else
                  let begins := o.has "output-delimiter" && shown.2 &&
                    (rangesBegin ranges (i + 1) || (o.has "complement" && !wanted i))
                  (unit :: (if begins then joint.reverse ++ shown.1 else shown.1), true))
                ([], false)).1.reverse
          onInputs .plain c o.operands (fun _ content s =>
            let lines := piecesOf ending content
            let shown := lines.filterMap fun line =>
              if byFields && !line.contains delimiter then
                (if o.has "s" then none else some line)
              else some (cutLine line)
            put (ofPieces ending shown) s) s

/-! ### Lines side by side -/

/-- The units that a list of delimiters stands for; `none` for nothing. -/
def delimitersOf : List Char → List (Option Char)
  | [] => []
  | '\\' :: '0' :: cs => none :: delimitersOf cs
  | '\\' :: c :: cs =>
    some (match c with
      | 'n' => '\n'
      | 't' => '\t'
      | 'b' => '\x08'
      | 'f' => '\x0c'
      | 'r' => '\r'
      | 'v' => '\x0b'
      | _ => c) :: delimitersOf cs
  | c :: cs => some c :: delimitersOf cs

/-- Texts with delimiters between them, used in turn. -/
def joinedWith (delimiters : List (Option Char)) (texts : List (List Char)) : List Char :=
  let all := if delimiters.isEmpty then [none] else delimiters
  texts.zipIdx.flatMap fun (text, i) =>
    if i = 0 then text else ((all[(i - 1) % all.length]?).getD none).toList ++ text

/-- Operands with their lines. -/
abbrev Beside := List (String × List (List Char))

/-- How many places of some operands are those of the input. -/
def inputPlaces (contents : Beside) : Nat := contents.countP fun entry => entry.1 == "-"

/-- The lines of operands side by side: those of the input, if it stands several times, are dealt
out among its places. -/
def sideBySide (contents : Beside) : List (List (List Char)) :=
  let dealt : List (List (List Char)) := contents.zipIdx.map fun (entry, i) =>
    if entry.1 != "-" then entry.2
    else
      let place := inputPlaces (contents.take i)
      let lines : List (List Char × Nat) := entry.2.zipIdx
      (lines.filter fun (_, j) => j % inputPlaces contents == place).map Prod.fst
  let height := dealt.foldl (fun n lines => max n lines.length) 0
  (List.range height).map fun j => dealt.map fun lines => lines[j]?.getD []

/-- Prints lines side by side, or the lines of each operand in one. -/
def paste : Tool :=
  withOptions [taking 'd' "delimiters", flag 's' "serial", flag 'z' "zero-terminated"] 1
    fun o c s =>
      let delimiters := delimitersOf ((o.value? "d").getD "\t").toList
      let ending := if o.has "z" then '\x00' else '\n'
      let operands := orInput o.operands
      let first := operands.idxOf "-"
      let add (found : Beside × Session) (entry : String × Nat) : Beside × Session :=
        let (contents, s) := found
        let (operand, i) : String × Nat := entry
        if operand == "-" && i != first then
          let shared := (contents.find? fun entry => entry.1 == "-").map Prod.snd
          (contents ++ [(operand, shared.getD [])], s)
        else match inputOr .plain c operand s with
          | (some content, s) => (contents ++ [(operand, piecesOf ending content)], s)
          | (none, s) =>
            (if s.files.pathExists (Shell.pathOf operand) then contents ++ [(operand, [])]
              else contents, s)
      let (contents, s) := operands.zipIdx.foldl add ([], s)
      let failed := contents.length < operands.length
      if o.has "s" then
        put (ofPieces ending (contents.map fun (_, lines) => joinedWith delimiters lines)) s
      else if failed then s
      else put (ofPieces ending ((sideBySide contents).map (joinedWith delimiters))) s

/-- The fields of a line: at every mark, or at stretches of blanks. -/
def fieldsOf (mark : Option Char) (line : List Char) : List (List Char) :=
  match mark with
  | some m => Text.fields m line
  | none =>
    (Text.fields ' ' (line.map fun c => if c == '\t' then ' ' else c)).filter fun f => !f.isEmpty

/-- What of joined lines is shown: the field that they share, or a field of one of the two. -/
inductive JoinItem where
  | shared
  | field (second : Bool) (number : Nat)
deriving DecidableEq, Repr

/-- Reads a list of what is shown. -/
def joinItems? (text : String) : Option (List JoinItem) :=
  let marked := text.toList.map fun c => if c == ' ' then ',' else c
  (Text.fields ',' marked).mapM fun item =>
    match item with
    | ['0'] => some .shared
    | '1' :: '.' :: ds => (String.ofList ds).toNat?.map (.field false)
    | '2' :: '.' :: ds => (String.ofList ds).toNat?.map (.field true)
    | _ => none

/-- Prints lines of two operands that share a field. -/
def join : Tool :=
  withOptions [taking 't' "", taking '1' "", taking '2' "", taking 'j' "", taking 'a' "",
      taking 'v' "", taking 'o' "", taking 'e' "", flag 'i' "ignore-case", longFlag "check-order",
      longFlag "nocheck-order", longFlag "header"] 1 fun o c s =>
    match o.operands with
    | [] => missingOperand c 1 s
    | [first] => misused c 1 s!"missing operand after {quotedValue first}" s
    | _ :: _ :: extra :: _ => extraOperand c 1 extra s
    | [first, second] =>
      let mark := (o.value? "t").bind fun v => v.toList.head?
      let number (key : String) : Nat :=
        (((o.value? key).or (o.value? "j")).bind String.toNat?).getD 1
      let fold (cs : List Char) : List Char := if o.has "i" then cs.map Char.toLower else cs
      match inputOr .plain c first s with
      | (none, s) => s
      | (some left, s) =>
        match inputOr .plain c second s with
        | (none, s) => s
        | (some right, s) =>
          let rows (content : List Char) (n : Nat) : List (List Char × List (List Char)) :=
            (linesOf content).map fun line =>
              let fields := fieldsOf mark line
              (fields[n - 1]?.getD [], fields)
          let n1 := number "1"
          let n2 := number "2"
          let as := rows left n1
          let bs := rows right n2
          let joint := mark.getD ' '
          let empty := ((o.value? "e").getD "").toList
          let without (fields : List (List Char)) (n : Nat) : List (List Char) :=
            fields.eraseIdx (n - 1)
          let items := (o.value? "o").bind joinItems?
          let shown (key : List Char) (a b : List (List Char)) : List Char :=
            let parts := match items with
              | none => key :: without a n1 ++ without b n2
              | some items => items.map fun item =>
                  let text := match item with
                    | .shared => key
                    | .field false k => a[k - 1]?.getD []
                    | .field true k => b[k - 1]?.getD []
                  if text.isEmpty then empty else text
            [joint].intercalate parts
          let wants (n : String) : Bool := (o.values "a").contains n || (o.values "v").contains n
          let rec merge : (fuel : Nat) → List (List Char × List (List Char)) →
              List (List Char × List (List Char)) → List (List Char)
            | 0, _, _ => []
            | _, [], [] => []
            | fuel + 1, a :: as, [] =>
              (if wants "1" then [shown a.1 a.2 []] else []) ++ merge fuel as []
            | fuel + 1, [], b :: bs =>
              (if wants "2" then [shown b.1 [] b.2] else []) ++ merge fuel [] bs
            | fuel + 1, a :: as, b :: bs =>
              match compare (String.ofList (fold a.1)) (String.ofList (fold b.1)) with
              | .lt => (if wants "1" then [shown a.1 a.2 []] else []) ++ merge fuel as (b :: bs)
              | .gt => (if wants "2" then [shown b.1 [] b.2] else []) ++ merge fuel (a :: as) bs
              | .eq =>
                let same := b :: bs.takeWhile fun x => fold x.1 == fold a.1
                let lefts := a :: as.takeWhile fun x => fold x.1 == fold a.1
                let pairs := lefts.flatMap fun x => same.map fun y => shown x.1 x.2 y.2
                (if o.has "v" then [] else pairs) ++
                  merge fuel (as.drop (lefts.length - 1)) (bs.drop (same.length - 1))
          put (ofLines (merge (as.length + bs.length + 1) as bs)) s

/-! ### Numbers before lines -/

/-- Prints lines with their numbers. -/
def nl : Tool :=
  withOptions [taking 'b' "body-numbering", taking 'n' "number-format", taking 'w' "number-width",
      taking 's' "number-separator", taking 'v' "starting-line-number",
      taking 'i' "line-increment", taking 'f' "footer-numbering", taking 'h' "header-numbering",
      taking 'd' "section-delimiter", taking 'l' "join-blank-lines", flag 'p' "no-renumber"] 1
    fun o c s =>
      let number (key : String) (otherwise : Nat) : Nat :=
        ((o.value? key).bind String.toNat?).getD otherwise
      let width := number "w" 6
      let joint := ((o.value? "s").getD "\t").toList
      let style := (o.value? "b").getD "t"
      let numbered (line : List Char) : Bool :=
        match style with
        | "a" => true
        | "n" => false
        | _ => !line.isEmpty
      let shown (n : Nat) : List Char :=
        let digits := Nat.toDigits 10 n
        match o.value? "n" with
        | some "ln" => digits ++ List.replicate (width - digits.length) ' '
        | some "rz" => List.replicate (width - digits.length) '0' ++ digits
        | _ => columnOf width n
      if !(["a", "n", "t"].contains style) && !style.startsWith "p" then
        misused c 1 s!"invalid body numbering style: {quotedValue style}" s
      else
        let (content, s) := allInputs .plain c o.operands s
        let (lines, _) := (linesOf content).foldl (fun (lines, n) line =>
          if numbered line then ((shown n ++ joint ++ line) :: lines, n + number "i" 1)
          else ((List.replicate (width + joint.length) ' ' ++ line) :: lines, n))
          (([] : List (List Char)), number "v" 1)
        put (ofLines lines.reverse) s

/-! ### Widths -/

/-- Prints lines with tabs made blanks. -/
def expand : Tool :=
  withOptions [taking 't' "tabs", flag 'i' "initial"] 1 fun o c s =>
    let step := max 1 (((o.value? "t").bind String.toNat?).getD 8)
    onInputs .plain c o.operands (fun _ content s =>
      let (shown, _) := content.foldl (fun (shown, column, begins) unit =>
        if unit == '\n' then (unit :: shown, 0, true)
        else if unit == '\t' && (begins || !o.has "i") then
          let count := step - column % step
          (List.replicate count ' ' ++ shown, column + count, begins)
        else (unit :: shown, (if unit == '\x08' then column - 1 else column + 1),
          begins && unit == ' ')) (([] : List Char), 0, true)
      put shown.reverse s) s

/-- Blanks that reach a column, made tabs where those fit. -/
def blanksTo (step : Nat) : (fuel : Nat) → (column target : Nat) → List Char
  | 0, _, _ => []
  | fuel + 1, column, target =>
    let next := column - column % step + step
    if target ≤ column then []
    else if next ≤ target && 1 < target - column then '\t' :: blanksTo step fuel next target
    else List.replicate (target - column) ' '

/-- Prints lines with blanks at their beginning made tabs, or all blanks. -/
def unexpand : Tool :=
  withOptions [flag 'a' "all", taking 't' "tabs", longFlag "first-only"] 1 fun o c s =>
    let step := max 1 (((o.value? "t").bind String.toNat?).getD 8)
    let all := (o.has "a" || o.has "t") && !o.has "first-only"
    let convert (line : List Char) : List Char :=
      let rec go : (fuel : Nat) → (column : Nat) → (begins : Bool) → List Char → List Char
        | 0, _, _, _ => []
        | _, _, _, [] => []
        | fuel + 1, column, begins, unit :: rest =>
          if (unit == ' ' || unit == '\t') && (begins || all) then
            let blanks := (unit :: rest).takeWhile fun u => u == ' ' || u == '\t'
            let target := blanks.foldl (fun n u =>
              if u == '\t' then n - n % step + step else n + 1) column
            blanksTo step (blanks.length + 1) column target ++
              go fuel target begins (rest.drop (blanks.length - 1))
          else unit :: go fuel (column + 1) false rest
      go (line.length + 1) 0 true line
    onInputs .plain c o.operands (fun _ content s =>
      put (Text.intercalated '\n' ((Text.fields '\n' content).map convert)) s) s

/-- A line cut into pieces that fit a width, behind a blank where there is one if that is asked
for; `fuel` bounds their number. -/
def foldLine (width : Nat) (atBlanks : Bool) : (fuel : Nat) → List Char → List (List Char)
  | 0, line => [line]
  | fuel + 1, line =>
    if line.length ≤ width then [line]
    else
      let front := line.take width
      let kept := (front.reverse.dropWhile fun c => c != ' ' && c != '\t').length
      let n := if atBlanks && 0 < kept then kept else width
      line.take n :: foldLine width atBlanks fuel (line.drop n)

/-- Prints lines cut to a width. -/
def fold : Tool := fun c s =>
  let arguments := c.arguments.flatMap fun a =>
    match a.toList with
    | '-' :: ds => if !ds.isEmpty && ds.all Char.isDigit then ["-w", String.ofList ds] else [a]
    | _ => [a]
  withOptions [taking 'w' "width", flag 's' "spaces", flag 'b' "bytes", flag 'c' "characters"] 1
    (fun o c s =>
      let text := (o.value? "w").getD "80"
      match text.toNat? with
      | none | some 0 => complain s s!"{c.name}: invalid number of columns: {quotedValue text}"
      | some width =>
        onInputs .plain c o.operands (fun _ content s =>
          let lines := (Text.fields '\n' content).flatMap fun line =>
            foldLine width (o.has "s") (line.length + 1) line
          put (Text.intercalated '\n' lines) s) s) { c with arguments } s

end IdlBuild.Tool
