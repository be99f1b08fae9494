import IdlBuild.Journal
import IdlBuild.Text.Blank
import IdlBuild.Text.Decimal
import IdlBuild.Text.Fields

/-!
# Journal filters

Which lines of a journal are printed. A filter is a comma-separated list of directives; each sets a
level for the events whose target begins with a text, or for all events. The most specific directive
that fits an event decides. A directive can also name spans and fields; one that names a span fits
no event of this program, which has no spans, and one that names fields fits an event that has them.
-/

namespace IdlBuild.CommandLine

/-- How much is printed, from nothing (0) to everything (5). -/
abbrev Verbosity := Nat

namespace Verbosity

/-- The names of the levels, from 0 on. -/
def names : List String := ["off", "error", "warn", "info", "debug", "trace"]

/-- The level of a name or a number, if it is one. -/
def read? (text : List Char) : Option Verbosity :=
  match Text.readWord (String.ofList text) with
  | .ok n => if n < names.length then some n else none
  | .error _ =>
    if text.isEmpty then some 1 else names.idxOf? (String.ofList (text.map Char.toLower))

/-- The level from which on a line is printed. -/
def ofSeverity : Severity → Verbosity
  | .error => 1
  | .warn => 2
  | .info => 3
  | .debug => 4

end Verbosity

/-! ### Directives -/

/-- One directive of a filter. -/
structure Directive where
  level : Verbosity
  target : Option (List Char)
  span : Option (List Char)
  fields : List (List Char)
deriving DecidableEq, Repr

namespace Directive

/-- What a directive has been read as so far; a stretch is told by the position of its start. -/
inductive Reading where
  | start
  | levelOrTarget (start : Nat)
  | span (start : Nat)
  | field (start : Nat)
  | fields
  | afterSpan
  | level (start : Nat)
deriving DecidableEq, Repr

/-- The characters from a position up to another one. -/
def slice (text : List Char) (first last : Nat) : List Char := (text.drop first).take (last - first)

/-- Whether a directive can start with a character. -/
def canStart (c : Char) : Bool :=
  c == '-' || c == ':' || c == '_' || c.isAlphanum || 0x80 ≤ c.toNat

/-- Reads the character at a position. -/
def readChar (text : List Char) (d : Directive) (reading : Reading) (i : Nat) (c : Char) :
    Option (Directive × Reading) :=
  match reading with
  | .start =>
    if c == '[' then some (d, .span (i + 1))
    else if canStart c then some (d, .levelOrTarget i)
    else none
  | .levelOrTarget start =>
    if c == '=' then some ({ d with target := some (slice text start i) }, .level (i + 1))
    else if c == '[' then some ({ d with target := some (slice text start i) }, .span (i + 1))
    else some (d, reading)
  | .afterSpan => if c == '=' then some (d, .level (i + 1)) else none
  | .span start =>
    if c == ']' then some ({ d with span := some (slice text start i) }, .afterSpan)
    else if c == '\x7b' then
      let name := slice text start i
      some ({ d with span := if name.isEmpty then none else some name }, .field (i + 1))
    else some (d, reading)
  | .field start =>
    let ends := c == '\x7d'
    if ends then
      let name := slice text start i
      if name.isEmpty then none else some ({ d with fields := d.fields ++ [name] }, .fields)
    else some (d, reading)
  | .fields => if c == ']' then some (d, .afterSpan) else none
  | .level _ => some (d, reading)

/-- Reads characters from a position on. -/
def readChars (text : List Char) : Directive → Reading → Nat → List Char →
    Option (Directive × Reading)
  | d, reading, _, [] => some (d, reading)
  | d, reading, i, c :: cs => do
    let (d, reading) ← readChar text d reading i c
    readChars text d reading (i + 1) cs

/-- The directive that a text is. Blanks around it do not help to read it, but are part of the last
stretch. -/
def read? (text : List Char) : Option Directive := do
  let (d, reading) ← readChars text ⟨5, none, none, []⟩ .start 0 (Text.trimmed text)
  match reading with
  | .levelOrTarget start =>
    match Verbosity.read? (text.drop start) with
    | some level => return { d with level }
    | none => return { d with target := some (text.drop start) }
  | .level start =>
    if (text.drop start).isEmpty then return d
    else return { d with level := ← Verbosity.read? (text.drop start) }
  | .afterSpan => return d
  | _ => none

/-- The names of the fields of every event. -/
def eventFields : List String := ["message"]

/-- Whether a directive fits the events of this program. -/
def fits (d : Directive) : Bool :=
  d.span.isNone &&
    d.fields.all (fun name => eventFields.contains (String.ofList name)) &&
    (d.target.getD []).isPrefixOf Journal.target.toList

/-- How specific a directive is: first by its target, then by its fields. -/
def rank (d : Directive) : Nat × Nat :=
  (d.target.elim 0 fun target => target.length + 1, d.fields.length)

/-- Whether a directive is at least as specific as another one. -/
def isAsSpecific (d e : Directive) : Bool :=
  e.rank.1 < d.rank.1 || (e.rank.1 == d.rank.1 && e.rank.2 ≤ d.rank.2)

end Directive

/-! ### Filters -/

/-- A list of directives. -/
structure JournalFilter where
  directives : List Directive

namespace JournalFilter

/-- What is printed when nothing is said. -/
def standard : JournalFilter := ⟨[⟨3, none, none, []⟩]⟩

/-- The filter that a setting asks for, empty pieces left out. One without directives prints
nothing, and one that cannot be read is as none. -/
def ofSetting (setting : Option String) : JournalFilter :=
  match setting with
  | none => standard
  | some text =>
    match ((Text.fields ',' text.toList).filter (· ≠ [])).mapM Directive.read? with
    | some directives => ⟨directives⟩
    | none => standard

/-- The level that the most specific fitting directive sets; of equal ones the last. -/
def level (filter : JournalFilter) : Verbosity :=
  let best := (filter.directives.filter Directive.fits).foldl (fun best d =>
    match best with
    | none => some d
    | some e => if d.isAsSpecific e then some d else some e) none
  best.elim 0 Directive.level

/-- Whether a line is printed. -/
def prints (filter : JournalFilter) (line : Line) : Bool :=
  Verbosity.ofSeverity line.severity ≤ filter.level

end JournalFilter

end IdlBuild.CommandLine
