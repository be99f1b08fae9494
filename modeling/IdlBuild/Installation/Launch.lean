import IdlBuild.Installation.Tree

/-!
# Launching

Programs started on a file system in memory that holds an installation. A program has nothing to
read; what it writes on its two streams is what its account tells.

This launcher, the shell and the standard tools stand in for those of a real machine, so that builds
which call them can be run. What is proved of builds is proved for every launcher, and nothing is
proved of this one.
-/

namespace IdlBuild.Installation

open Shell (Session Call Machine)

/-- The microseconds that waiting for the output of a program is bounded to, when its time is
limited. -/
def grace : Nat := 1000000

/-- The number of bytes that one argument stays below. -/
def argumentLimit : Nat := 131072

/-- The number that a child is known by. -/
def childNumber : Nat := 4711

/-- The variables that a child gets. -/
def environment : List (String × String) :=
  [("HOME", "/root"), ("PATH", Shell.Programs.standardDirectories)]

/-- The machine on which a child starts; its time is limited in milliseconds. -/
def startedMachine (files : FileSystem) (limit : Option Nat) : Machine where
  files
  clock := 0
  deadline := limit.map (· * 1000)
  writes := []
  opened := []
  buffers := []
  held := []
  jobs := []
  nextNumber := childNumber
  stamps := []

/-- A child that has just been started. -/
def startedSession (files : FileSystem) (limit : Option Nat) : Session where
  machine := startedMachine files limit
  descriptors := [(0, .nowhere), (1, .stream .output), (2, .stream .errors)]
  bindings := environment
  exported := environment.map Prod.fst
  fixed := []
  functions := []
  aliases := []
  name := ""
  arguments := []
  status := 0
  captured := 0
  flow := .going
  line := 1
  within := none
  options := []
  locals := none
  loops := 0
  traps := []
  number := childNumber
  lastJob := none
  optionPlace := (1, none)
  directory := Shell.unitsOfPath (FileSystem.pathOf files.workingDirectory)
  mask := 0o022
  remembered := []

/-- What can be told of a program that has ended. -/
def accountOf (limit : Option Nat) (s : Session) : Child.Account :=
  let ended := s.machine.clock
  let heard := s.machine.writes.reverse.mergeSort fun a b => a.1 ≤ b.1
  let inTime := if limit.isSome then heard.filter fun w => w.1 ≤ ended + grace else heard
  { course := .plain (inTime.map Prod.snd)
    turns := []
    ending := match s.flow with
      | .killed ending => ending
      | _ => .exited (s.status % 256)
    heldOpen := Child.Stream.all.filter fun stream =>
      s.machine.held.any fun (held, until', _) => held == stream && ended + grace < until' }

/-- Starts programs on the files of a build. -/
def launcher {σ : Type} : Child.Launcher σ := fun line limit files callees =>
  match line.map Text.Units.ofText with
  | [] => (.error .noSuchEntry, files, callees)
  | name :: arguments =>
    if (name :: arguments).any fun a => argumentLimit ≤ a.length then
      (.error (.system 7), files, callees)
    else
      let call : Call := ⟨name, arguments⟩
      match Shell.Programs.start files Shell.Programs.standardDirectories call with
      | .error fault => (.error fault, files, callees)
      | .ok (image, call) =>
        let started := (startedSession files limit).spend Shell.Run.programTime
        let runner := Shell.run toolbox Shell.depth
        let done := if started.flow != .going then started
          else
            Shell.Run.callImage toolbox runner
              (Shell.Run.callProgram toolbox runner Shell.Run.callDepth) image call started
        (.ok (accountOf limit done), done.machine.files.enter files.workingDirectory, callees)

end IdlBuild.Installation
