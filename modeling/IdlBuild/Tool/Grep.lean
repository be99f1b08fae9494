import IdlBuild.Shell.Pattern
import IdlBuild.Tool.Entries
import IdlBuild.Tool.Regex.Reading

/-!
# Finding lines

The tool that prints the lines in which a pattern is found, or says in which files it is.
-/

namespace IdlBuild.Tool

open Shell (Session Call Tool pathOf)
open Regex (Expression Subject)

namespace Grep

/-! ### Options -/

/-- The options of `grep`. -/
def known : List Known :=
  [flag 'E' "extended-regexp", flag 'F' "fixed-strings", flag 'G' "basic-regexp",
   flag 'P' "perl-regexp", taking 'e' "regexp", taking 'f' "file", flag 'i' "ignore-case",
   flag 'y' "", longFlag "no-ignore-case", flag 'w' "word-regexp", flag 'x' "line-regexp",
   flag 'z' "null-data", flag 's' "no-messages", flag 'v' "invert-match", taking 'm' "max-count",
   flag 'b' "byte-offset", flag 'n' "line-number", longFlag "line-buffered",
   flag 'H' "with-filename", flag 'h' "no-filename", longTaking "label", flag 'o' "only-matching",
   flag 'q' "quiet", longFlag "silent", longTaking "binary-files", flag 'a' "text", flag 'I' "",
   taking 'd' "directories", taking 'D' "devices", flag 'r' "recursive",
   flag 'R' "dereference-recursive", longTaking "include", longTaking "exclude",
   longTaking "exclude-dir", flag 'L' "files-without-match", flag 'l' "files-with-matches",
   flag 'c' "count", flag 'T' "initial-tab", flag 'Z' "null", taking 'B' "before-context",
   taking 'A' "after-context", taking 'C' "context", longPerhaps "color", longPerhaps "colour",
   flag 'U' "binary", flag 'u' "unix-byte-offsets", longFlag "no-group-separator", longTaking "group-separator"]

/-- How `grep` is to be called. -/
def usage (c : Call) (s : Session) : Session :=
  ((s.complain s!"Usage: {c.name} [OPTION]... PATTERNS [FILE]...").complain
    s!"Try '{c.name} --help' for more information.").withStatus 2

/-- A number of lines of context as an option of its own. -/
def contextArgument (argument : String) : List String :=
  match argument.toList with
  | '-' :: ds =>
    if !ds.isEmpty && ds.all Char.isDigit then ["-C", String.ofList ds] else [argument]
  | _ => [argument]

/-! ### Patterns -/

/-- What is looked for, and how. -/
structure Sought where
  expression : Expression
  folds : Bool
  words : Bool
  wholeLines : Bool
  inverted : Bool

/-- The matches of a line: where each begins and ends. -/
def Sought.matchesFrom (sought : Sought) (s : Subject) : (fuel : Nat) → (start : Nat) →
    List (Nat × Nat)
  | 0, _ => []
  | fuel + 1, start =>
    if s.units.size < start then []
    else
      let stops := ((Regex.ends s sought.expression.looksBack sought.expression
        [⟨start, []⟩]).map Regex.Place.index).filter fun stop =>
          (!sought.words || (!s.hasWordBefore start && !s.hasWordAt stop)) &&
          (!sought.wholeLines || (start = 0 && stop = s.units.size))
      match stops with
      | [] => sought.matchesFrom s fuel (start + 1)
      | stop :: _ => (start, stop) :: sought.matchesFrom s fuel (max stop (start + 1))

/-- The subject that a line is. -/
def Sought.subject (sought : Sought) (line : List Char) : Subject :=
  ⟨line.toArray, sought.folds, false⟩

/-- Whether a line is one of those that are looked for. -/
def Sought.selects (sought : Sought) (line : List Char) : Bool :=
  let s := sought.subject line
  let found := if sought.words || sought.wholeLines then
      !(sought.matchesFrom s (s.units.size + 2) 0).isEmpty
    else Regex.isFound sought.expression s
  found != sought.inverted

/-- The expression for several patterns. -/
def expressionOf (read : List Char → Except String Expression) :
    List (List Char) → Except String (Option Expression)
  | [] => .ok none
  | pattern :: rest => do
    let e ← read pattern
    match ← expressionOf read rest with
    | none => return some e
    | some other => return some (.either e other)

/-! ### Files -/

/-- The files below a directory, in the order of the tree; `depth` bounds how deep. -/
def filesBelow (s : Session) (isWanted : Bool → String → Bool) : (depth : Nat) → String →
    List String
  | 0, _ => []
  | depth + 1, p =>
    match s.files.linkStatus (pathOf p) with
    | .ok (location, .directory) =>
      (s.files.children location).flatMap fun (name, node) =>
        let unitName := Text.Units.ofBytes name
        if !isWanted (node == .directory) unitName then []
        else match node with
          | .link _ => []
          | _ => filesBelow s isWanted depth (inDirectory p unitName)
    | _ => [p]

/-! ### Printing -/

/-- How lines that are found are printed. -/
structure Style where
  named : Bool
  numbered : Bool
  counted : Bool
  onlyMatches : Bool
  before : Nat
  after : Nat
  hasContext : Bool
  ending : Char

/-- What stands before a line. -/
def lineStart (style : Style) (name : String) (mark : Char) (number offset : Nat) : List Char :=
  (if style.named then name.toList ++ [mark] else []) ++
    (if style.numbered then Nat.toDigits 10 number ++ [mark] else []) ++
    (if style.counted then Nat.toDigits 10 offset ++ [mark] else [])

/-- A line with its number and the place where it begins, and whether it is selected. -/
structure Row where
  line : List Char
  number : Nat
  offset : Nat
  selected : Bool

/-- Lines with their numbers; no more than a number of them are selected. -/
def rowsOf (sought : Sought) (limit : Option Nat) (lines : List (List Char)) : List Row :=
  (lines.foldl (fun (rows, number, offset, count) line =>
    let open' := match limit with
      | some n => count < n
      | none => true
    let selected := open' && sought.selects line
    (⟨line, number, offset, selected⟩ :: rows, number + 1, offset + line.length + 1,
      if selected then count + 1 else count)) (([] : List Row), 1, 0, 0)).1.reverse

/-- The rows that are printed, each with whether something was left out before it. -/
def shownRows (style : Style) (rows : List Row) : List (Row × Bool) :=
  let chosen := (rows.filter (·.selected)).map (·.number)
  let shown := if !style.hasContext then rows.filter (·.selected) else rows.filter fun row =>
    chosen.any fun n => (n ≤ row.number + style.before && row.number ≤ n) ||
      (n ≤ row.number && row.number ≤ n + style.after)
  (shown.foldl (fun (found, last) row =>
    ((row, last != 0 && last + 1 != row.number) :: found, row.number))
    (([] : List (Row × Bool)), 0)).1.reverse

/-- What is printed of a content. -/
def report (sought : Sought) (style : Style) (name : String) (rows : List Row) : List Char :=
  if style.onlyMatches then
    rows.flatMap fun row =>
      if !row.selected || sought.inverted then []
      else
        let s := sought.subject row.line
        (sought.matchesFrom s (s.units.size + 2) 0).flatMap fun (start, stop) =>
          if start = stop then []
          else lineStart style name ':' row.number (row.offset + start) ++
            (s.units.extract start stop).toList ++ [style.ending]
  else
    (shownRows style rows).flatMap fun (row, apart) =>
      (if apart && style.hasContext then ['-', '-', '\n'] else []) ++
        lineStart style name (if row.selected then ':' else '-') row.number row.offset ++
        row.line ++ [style.ending]

/-- How far a search has come: whether something was found, and whether something went wrong. -/
structure Progress where
  session : Session
  found : Bool
  failed : Bool

/-- Searches one operand. -/
def searchOne (o : Options) (c : Call) (sought : Sought) (style : Style) (p : Progress)
    (operand : String) : Progress :=
  let quiet := o.has "q" || o.has "silent"
  if quiet && p.found then p
  else
    let name := if operand == "-" then (o.value? "label").getD "(standard input)" else operand
    match input operand p.session with
    | (.unopened fault, s) | (.unread fault, s) =>
      { p with
        session := if o.has "s" then s else s.complain s!"{c.name}: {name}: {fault.reason}"
        failed := true }
    | (.content content, s) =>
      let limit := (o.value? "m").bind String.toNat?
      let rows := rowsOf sought limit (piecesOf style.ending content)
      let count := (rows.filter (·.selected)).length
      let found := p.found || 0 < count
      let nameEnd := if o.has "Z" then '\x00' else '\n'
      let binary := content.contains '\x00' && !o.has "a" && !o.has "z" &&
        o.value? "binary-files" != some "text"
      let s :=
        if quiet then s
        else if o.has "l" then
          if 0 < count then put (name.toList ++ [nameEnd]) s else s
        else if o.has "L" then
          if count = 0 then put (name.toList ++ [nameEnd]) s else s
        else if o.has "c" then
          put ((if style.named then name.toList ++ [':'] else []) ++ Nat.toDigits 10 count ++
            ['\n']) s
        else if binary then
          if 0 < count && !o.has "I" then s.complain s!"{c.name}: {name}: binary file matches"
          else s
        else put (report sought style name rows) s
      { session := s, found, failed := p.failed }

/-- Searches operands. -/
def searchAll (o : Options) (c : Call) (sought : Sought) (operands : List String) (s : Session) :
    Session :=
  let deep := o.has "r" || o.has "R" || o.value? "directories" == some "recurse"
  let isWanted (isDirectory : Bool) (name : String) : Bool :=
    if isDirectory then !(o.values "exclude-dir").any (Shell.fitsPattern · name)
    else
      let included := o.values "include"
      (included.isEmpty || included.any (Shell.fitsPattern · name)) &&
        !(o.values "exclude").any (Shell.fitsPattern · name)
  let named := if o.last? ["H", "h"] == some "h" then false
    else o.has "H" || 1 < operands.length ||
      (deep && (operands.isEmpty || operands.any fun p => s.files.isDirectoryPath (pathOf p)))
  let number (key : String) : Option Nat := ((o.value? key).or (o.value? "C")).bind String.toNat?
  let style : Style :=
    { named
      numbered := o.has "n"
      counted := o.has "b"
      onlyMatches := o.has "o"
      before := (number "B").getD 0
      after := (number "A").getD 0
      hasContext := (number "A").isSome || (number "B").isSome
      ending := if o.has "z" then '\x00' else '\n' }
  let depth := s.files.entries.length + 1
  let all := if deep then
      if operands.isEmpty then
        (filesBelow s isWanted depth ".").map fun p => String.ofList (p.toList.drop 2)
      else operands.flatMap fun p =>
        if s.files.isDirectoryPath (pathOf p) then filesBelow s isWanted depth p else [p]
    else orInput operands
  let all := if o.value? "d" == some "skip" then
      all.filter fun p => !s.files.isDirectoryPath (pathOf p)
    else all
  let done := all.foldl (searchOne o c sought style) ⟨s, false, false⟩
  let quiet := o.has "q" || o.has "silent"
  done.session.withStatus (if done.failed && !(quiet && done.found) then 2
    else if done.found then 0 else 1)

/-- The complaint about a class that stands outside of a set. -/
def bareClass? (pattern : List Char) : Bool :=
  match pattern with
  | '[' :: ':' :: rest =>
    rest.getLast? == some ']' && (rest.dropLast).getLast? == some ':'
  | _ => false

end Grep

/-- Prints lines in which patterns are found; `way` says how patterns are read unless an option
does. -/
def grepAs (way : String) : Tool := fun c s =>
  match readOptions (longFlag "help" :: longFlag "version" :: Grep.known) false
      (c.arguments.flatMap Grep.contextArgument) with
  | .error fault => Grep.usage c (s.complain s!"{c.name}: {fault.message}")
  | .ok o =>
    let s := s.withStatus 0
    let fileLines := (o.values "f").foldl (fun (found : Except String (List (List Char))) p => do
      let lines ← found
      match input p s with
      | (.content content, _) => return lines ++ linesOf content
      | (.unopened fault, _) | (.unread fault, _) => throw s!"{p}: {fault.reason}") (.ok [])
    let given := (o.values "e").flatMap fun v => Text.fields '\n' v.toList
    match fileLines with
    | .error message => (s.complain s!"{c.name}: {message}").withStatus 2
    | .ok lines =>
      let fromOptions := o.has "e" || o.has "f"
      match fromOptions, o.operands with
      | false, [] => Grep.usage c s
      | _, _ =>
        let patterns := if fromOptions then given ++ lines
          else Text.fields '\n' (o.operands.head?.getD "").toList
        let operands := if fromOptions then o.operands else o.operands.drop 1
        let way := (o.last? ["E", "F", "G", "P"]).getD way
        let read (pattern : List Char) : Except String Expression :=
          match way with
          | "F" => .ok (Expression.ofUnits pattern)
          | "G" =>
            if Grep.bareClass? pattern then
              .error "character class syntax is [[:space:]], not [:space:]"
            else Regex.read .basic pattern
          | _ =>
            if Grep.bareClass? pattern then
              .error "character class syntax is [[:space:]], not [:space:]"
            else Regex.read (.extendedOf false) pattern
        let wrongNumber := ["A", "B", "C"].find? fun key =>
          (o.value? key).any fun v => v.toNat?.isNone
        let s := if o.has "u" then
            s.complain s!"{c.name}: warning: --unix-byte-offsets (-u) is obsolete"
          else s
        let idle := if way == "E" then
            patterns.flatMap fun p => Regex.idleRepetitions (p.length + 1) true p
          else []
        let s := idle.foldl (fun s text => s.complain s!"{c.name}: warning: {text}") s
        if (o.value? "m").any fun v => v.toInt?.isNone then
          (s.complain s!"{c.name}: invalid max count").withStatus 2
        else match wrongNumber with
        | some key =>
          let value := (o.value? key).getD ""
          (s.complain s!"{c.name}: {value}: invalid context length argument").withStatus 2
        | none =>
          match Grep.expressionOf read patterns with
          | .error message => (s.complain s!"{c.name}: {message}").withStatus 2
          | .ok expression? =>
            let inverted := o.has "v"
            let sought : Grep.Sought :=
              { expression := expression?.getD (.set false [])
                folds := (o.has "i" || o.has "y") && !o.has "no-ignore-case"
                words := o.has "w" && !o.has "x"
                wholeLines := o.has "x"
                inverted }
            Grep.searchAll o c sought operands s

/-- Prints lines in which basic regular expressions are found. -/
def grep : Tool := grepAs "G"

/-- The tool under an old name. -/
def oldGrep (way : String) : Tool := fun c s => grepAs way { c with name := "grep" } s

end IdlBuild.Tool
