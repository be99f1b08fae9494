import IdlBuild.Child.Supervision
import IdlBuild.FileSystem.Basic

/-!
# Accounts of child programs

What is known of a program that was started: its course, who took turns with it while it ran, and
how it ended. How programs are started is left open (`Launcher`): a child may do anything to the
files.
-/

namespace IdlBuild.Child

/-! ### Endings -/

/-- How a program ended. -/
inductive Ending where
  | exited (status : Nat)
  | signalled (number : Nat)
  /-- It was killed when its time was over. -/
  | overtime
  /-- It was killed because it could not be waited for. -/
  | unwaited (fault : IoFault)
deriving DecidableEq, Repr

/-- The names of the signals, from 1 on. -/
def signalNames : Array String :=
  #["SIGHUP", "SIGINT", "SIGQUIT", "SIGILL", "SIGTRAP", "SIGABRT", "SIGBUS", "SIGFPE", "SIGKILL",
    "SIGUSR1", "SIGSEGV", "SIGUSR2", "SIGPIPE", "SIGALRM", "SIGTERM", "SIGSTKFLT", "SIGCHLD",
    "SIGCONT", "SIGSTOP", "SIGTSTP", "SIGTTIN", "SIGTTOU", "SIGURG", "SIGXCPU", "SIGXFSZ",
    "SIGVTALRM", "SIGPROF", "SIGWINCH", "SIGIO", "SIGPWR", "SIGSYS"]

/-- The name of a signal, if it has one. -/
def signalName? : Nat → Option String
  | 0 => none
  | n + 1 => signalNames[n]?

/-- A length of time in milliseconds: whole seconds as seconds. -/
def durationText (milliseconds : Nat) : String :=
  if milliseconds % 1000 = 0 then s!"{milliseconds / 1000}s" else s!"{milliseconds}ms"

/-- What is said of an ending that is no success. The time limit is in milliseconds. -/
def Ending.failure? (limit : Option Nat) : Ending → Option String
  | exited 0 => none
  | exited status => some s!"exited with exit status: {status}"
  | signalled number =>
    some (match signalName? number with
      | some name => s!"exited with signal: {number} ({name})"
      | none => s!"exited with signal: {number}")
  | overtime => some s!"timed out after {durationText (limit.getD 0)}"
  | unwaited fault => some s!"failed waiting for exit: {fault.message}"

/-! ### Accounts -/

/-- What a program did that can be seen from outside. -/
structure Account where
  /-- What it and what it has started did while anyone was listening. -/
  course : Course
  /-- The turns that were taken at first; the others follow in the usual order. -/
  turns : List Supervision.Turn
  ending : Ending
  /-- The streams that are still open when a bounded wait for them is given up. -/
  heldOpen : List Stream
deriving DecidableEq, Repr

/-- What is done until the wait is over. Only a wait with a time limit is given up. -/
def Account.awaited (limit : Option Nat) (account : Account) : List Deed :=
  if limit.isSome then account.course.holding account.heldOpen else account.course.deeds

/-- Starts the program that a command line names, waits at most the given number of milliseconds for
it, and kills it if it has not ended then. -/
abbrev Launcher (σ : Type) :=
  List String → Option Nat → FileSystem → σ → Except IoFault Account × FileSystem × σ

end IdlBuild.Child
