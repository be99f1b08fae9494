import IdlBuild.Shell.Session

/-!
# Listings

What a shell shows of its variables, aliases, options and signals, so that it could be read again.
-/

namespace IdlBuild.Shell

/-! ### Quoting -/

/-- Stretches of a text: characters that are no single quotes, and single quotes, in turn. -/
def quoteStretches : List Char → List (Bool × List Char)
  | [] => []
  | c :: cs =>
    let isQuote := c == '\''
    match quoteStretches cs with
    | (kind, stretch) :: rest =>
      if kind = isQuote then (kind, c :: stretch) :: rest
      else (isQuote, [c]) :: (kind, stretch) :: rest
    | [] => [(isQuote, [c])]

/-- A text between single quotes; single quotes in it stand between double ones. -/
def singleQuoted (text : String) : String :=
  let stretches := quoteStretches text.toList
  if stretches.isEmpty then "''"
  else
    let shown := stretches.flatMap fun (isQuote, cs) =>
      if isQuote then '"' :: cs ++ ['"'] else '\'' :: cs ++ ['\'']
    String.ofList (match stretches with
      | (true, _) :: _ => '\'' :: '\'' :: shown
      | _ => shown)

/-! ### Orders -/

/-- The place of a name among others when names are spread over a number of places. -/
def spread (places : Nat) (name : String) : Nat :=
  match name.toList with
  | [] => 0
  | c :: cs => (c.toNat * 16 + c.toNat + cs.foldl (fun n c => n + c.toNat) 0) % places

/-- Entries in the order of their places; those of one place stand in the order in which they
came. -/
def spreadOrder {α : Type} (places : Nat) (entries : List (String × α)) : List (String × α) :=
  entries.mergeSort fun a b => spread places a.1 ≤ spread places b.1

/-- Entries in the order of their names. -/
def nameOrder {α : Type} (entries : List (String × α)) : List (String × α) :=
  entries.mergeSort fun a b => !(decide (b.1 < a.1))

/-! ### Options -/

/-- The options by name, with the letters of those that have one. -/
def optionNames : List (String × Option Char) :=
  [("errexit", some 'e'), ("noglob", some 'f'), ("ignoreeof", some 'I'), ("interactive", some 'i'),
   ("monitor", some 'm'), ("noexec", some 'n'), ("stdin", some 's'), ("xtrace", some 'x'),
   ("verbose", some 'v'), ("vi", some 'V'), ("emacs", some 'E'), ("noclobber", some 'C'),
   ("allexport", some 'a'), ("notify", some 'b'), ("nounset", some 'u'), ("privileged", some 'p'),
   ("nolog", none), ("debug", none)]

/-- A text with blanks behind it, up to a width. -/
def padRight (width : Nat) (text : String) : String :=
  text ++ String.ofList (List.replicate (width - text.length) ' ')

namespace Session

/-- Shows all options: as a table, or as commands that would set them. -/
def printOptions (s : Session) (asCommands : Bool) : Session :=
  let isOn (letter : Option Char) : Bool := (letter.map s.options.contains).getD false
  if asCommands then
    optionNames.foldl (fun s (name, letter) =>
      s.printLine ((if isOn letter then "set -o " else "set +o ") ++ name)) s
  else
    optionNames.foldl (fun s (name, letter) =>
      s.printLine (padRight 16 name ++ (if isOn letter then "on" else "off")))
      (s.printLine "Current option settings")

/-- Shows names behind a word, with their values if they have one. -/
def printNames (s : Session) (word : String) (names : List String) : Session :=
  let entries := nameOrder (names.eraseDups.map fun name => (name, s.valueOf? name))
  entries.foldl (fun s (name, value) =>
    s.printLine (match value with
      | some value => s!"{word} {name}={singleQuoted value}"
      | none => s!"{word} {name}")) s

/-- Shows all variables with their values. -/
def printVariables (s : Session) : Session :=
  (nameOrder s.bindings).foldl (fun s (name, value) =>
    s.printLine s!"{name}={singleQuoted value}") s

/-- Shows an alias. -/
def printAlias (s : Session) (name text : String) : Session :=
  s.printLine s!"{name}={singleQuoted text}"

end Session

/-! ### Signals -/

/-- The name of a signal, without what all names begin with; 0 is the end of the shell. -/
def signalName? (n : Nat) : Option String :=
  if n = 0 then some "EXIT"
  else match Child.signalName? n with
    | some name => some (String.ofList (name.toList.drop 3))
    | none =>
      if n = 32 || n = 33 then some (toString n)
      else if n = 34 then some "RTMIN"
      else if n = 64 then some "RTMAX"
      else if 34 < n && n ≤ 49 then some s!"RTMIN+{n - 34}"
      else if 49 < n && n < 64 then some s!"RTMAX-{64 - n}" else none

/-- The number of a signal that is given by number or name, in any case; at least `first`. -/
def signalNumber? (first : Nat) (text : String) : Option Nat :=
  let raised := text.map Char.toUpper
  let candidates := (List.range (65 - first)).map (· + first)
  if !text.isEmpty && text.toList.all Char.isDigit then
    let n := text.toNat?.getD 65
    if n < 65 && first ≤ n then some n else none
  else candidates.find? fun n => signalName? n == some raised

/-- What is said of a program that a signal has ended. -/
def signalDescription (n : Nat) : String :=
  let names := ["Hangup", "Interrupt", "Quit", "Illegal instruction", "Trace/breakpoint trap",
    "Aborted", "Bus error", "Floating point exception", "Killed", "User defined signal 1",
    "Segmentation fault", "User defined signal 2", "Broken pipe", "Alarm clock", "Terminated",
    "Stack fault", "Child exited", "Continued", "Stopped (signal)", "Stopped",
    "Stopped (tty input)", "Stopped (tty output)", "Urgent I/O condition",
    "CPU time limit exceeded", "File size limit exceeded", "Virtual timer expired",
    "Profiling timer expired", "Window changed", "I/O possible", "Power failure",
    "Bad system call"]
  if 34 ≤ n then s!"Real-time signal {n - 34}"
  else (names[n - 1]?).getD s!"Unknown signal {n}"

/-- Whether the end by a signal is passed over in silence. -/
def isSilentSignal (n : Nat) : Bool := n == 2 || n == 13

end IdlBuild.Shell
