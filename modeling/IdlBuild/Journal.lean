/-!
# Journals

What a build reports while it runs, line by line in the order of arrival. A line has a severity and
a message; a journal is only ever added to.
-/

namespace IdlBuild

/-- How much a line matters, from least to most. -/
inductive Severity where
  | debug
  | info
  | warn
  | error
deriving DecidableEq, Repr

namespace Severity

/-- The name of a severity. -/
def name : Severity → String
  | debug => "debug"
  | info => "info"
  | warn => "warn"
  | error => "error"

/-- The name of a severity where it heads a printed line. -/
def label : Severity → String
  | debug => "DEBUG"
  | info => "INFO"
  | warn => "WARN"
  | error => "ERROR"

/-- Position in the order of severities. -/
def rank : Severity → Nat
  | debug => 0
  | info => 1
  | warn => 2
  | error => 3

instance : Ord Severity := ⟨fun a b => compare a.rank b.rank⟩

end Severity

/-- One reported line. -/
structure Line where
  severity : Severity
  message : String
deriving DecidableEq, Repr

/-- Whether a text occurs in another one. -/
def occurs (text : List Char) : List Char → Bool
  | [] => text.isEmpty
  | c :: cs => text.isPrefixOf (c :: cs) || occurs text cs

/-- Lines in order of arrival. -/
structure Journal where
  lines : List Line
deriving DecidableEq, Repr

namespace Journal

/-- The journal before anything is reported. -/
def empty : Journal := ⟨[]⟩

/-- A journal with one more line. -/
def add (journal : Journal) (severity : Severity) (message : String) : Journal :=
  ⟨journal.lines ++ [⟨severity, message⟩]⟩

/-- The messages of one severity, in order. -/
def messagesAt (journal : Journal) (severity : Severity) : List String :=
  (journal.lines.filter (·.severity = severity)).map Line.message

/-- Whether a line of the severity holds the text. -/
def mentions (journal : Journal) (severity : Severity) (text : String) : Bool :=
  (journal.messagesAt severity).any fun message => occurs text.toList message.toList

@[simp] theorem lines_add (journal : Journal) (severity : Severity) (message : String) :
    (journal.add severity message).lines = journal.lines ++ [⟨severity, message⟩] := rfl

theorem messagesAt_add (journal : Journal) (severity severity' : Severity) (message : String) :
    (journal.add severity message).messagesAt severity' =
      journal.messagesAt severity' ++ if severity = severity' then [message] else [] := by
  rw [messagesAt, lines_add, List.filter_append, List.map_append]
  by_cases h : severity = severity' <;> simp [messagesAt, h]

/-- The target that every line carries. -/
def target : String := "idl2src"

end Journal

end IdlBuild
