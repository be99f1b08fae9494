import IdlBuild.Child.Account
import IdlBuild.FileSystem.Requests
import IdlBuild.Shell.Script
import IdlBuild.Text.Units

/-!
# Machines

What all commands act on: the files, a clock in microseconds, the files that are open, the bytes on
the way from one command to another, and what has been written on the two streams so far. Paths and
names come as texts of units.

The shell and the tools that act on a machine are there so that builds which call them can be run;
no theorem is about them.
-/

namespace IdlBuild.Shell

open Text (Bytes)

/-- The path that a text of units names. -/
def pathOf (text : String) : Path := ⟨Text.Units.bytesOf text⟩

/-- The text of units of a path. -/
def unitsOfPath (p : Path) : String := Text.Units.ofBytes p.bytes

/-! ### What is open -/

/-- An open file and the place in it where the next byte is read or written. -/
structure OpenFile where
  location : Location
  offset : Nat
  /-- Whether every write goes to the end. -/
  appends : Bool
deriving DecidableEq, Repr

/-- What a descriptor stands for. -/
inductive Channel where
  /-- Takes everything and holds nothing. -/
  | nowhere
  /-- Holds zero bytes without end. -/
  | zeros
  /-- Takes nothing. -/
  | full
  | stream (stream : Child.Stream)
  | file (index : Nat)
  | directory
  /-- Bytes on the way from one command to another. -/
  | buffer (index : Nat)
deriving DecidableEq, Repr

/-- Bytes that wait to be read: those in front, and behind them what was written later, newest
first. -/
structure Buffer where
  front : Bytes
  back : List Bytes
  /-- The number of bytes behind. -/
  behind : Nat
deriving DecidableEq, Repr

namespace Buffer

/-- A buffer that holds some bytes. -/
def ofBytes (bytes : Bytes) : Buffer := ⟨bytes, [], 0⟩

/-- All bytes of a buffer. -/
def content (b : Buffer) : Bytes := b.front ++ b.back.reverse.flatten

/-- The buffer with bytes behind the others. -/
def push (b : Buffer) (bytes : Bytes) : Buffer :=
  { b with back := bytes :: b.back, behind := b.behind + bytes.length }

/-- The same bytes, all of them in front. -/
def settled (b : Buffer) : Buffer := if b.back.isEmpty then b else ofBytes b.content

end Buffer

/-- A command in the background. -/
structure Job where
  number : Nat
  status : Nat
  finish : Nat
  /-- How many writes there were before it began and after it had ended. -/
  writes : Nat × Nat
deriving DecidableEq, Repr

/-- What all commands share. -/
structure Machine where
  files : FileSystem
  clock : Nat
  /-- When the child is killed. -/
  deadline : Option Nat
  /-- What was written on the streams and when, newest first. -/
  writes : List (Nat × Child.Write)
  opened : List OpenFile
  buffers : List Buffer
  /-- Until when commands in the background hold a stream open, by their numbers. -/
  held : List (Child.Stream × Nat × Nat)
  jobs : List Job
  /-- The number that the next process gets. -/
  nextNumber : Nat
  /-- When entries were last changed, in microseconds from the start of the child. -/
  stamps : List (Location × Int)

namespace Machine

/-! ### Devices -/

/-- What is opened in place of a file that is a device. -/
def device? (location : Location) : Option (Except IoFault Channel) :=
  match location with
  | ["dev", "null"] => some (.ok .nowhere)
  | ["dev", "zero"] => some (.ok .zeros)
  | ["dev", "full"] => some (.ok .full)
  | ["dev", "tty"] => some (.error (.system 6))
  | _ => none

/-- Whether an entry is a device. -/
def isDevice (location : Location) : Bool :=
  match location with
  | ["dev", _] => true
  | _ => false

/-! ### Times of change -/

/-- When an entry was last changed. -/
def stampOf (m : Machine) (location : Location) : Int := (m.stamps.lookup location).getD 0

/-- The machine on which an entry was changed at a time. -/
def stampedAt (m : Machine) (location : Location) (time : Int) : Machine :=
  { m with stamps := (location, time) :: m.stamps.filter (·.1 != location) }

/-- The machine on which an entry was changed just now. -/
def stamped (m : Machine) (location : Location) : Machine := m.stampedAt location (m.clock + 1)

/-! ### Opening -/

/-- The number of bytes that a source without end gives at once. -/
def endlessBytes : Nat := 1048576

/-- The content of a location, if it is a file. -/
def contentAt? (m : Machine) (location : Location) : Option Bytes :=
  match m.files.node? location with
  | some (.file content _) => some content
  | _ => none

/-- Opens the file at a location. -/
def openAt (m : Machine) (location : Location) (appends : Bool) : Channel × Machine :=
  (.file m.opened.length, { m with opened := m.opened ++ [⟨location, 0, appends⟩] })

/-- Opens a file for output. A new one gets the mode that is given. -/
def openForOutput (m : Machine) (p : Path) (newMode : Nat) (truncates appends : Bool) :
    Except IoFault (Channel × Machine) := do
  let old := match m.files.status p with
    | .ok (location, .file content mode) => some (location, content, mode)
    | _ => none
  match old with
  | some (location, _, mode) =>
    match device? location with
    | some channel => return (← channel, m)
    | none =>
      let files := if truncates then m.files.overwrite location [] mode else m.files
      return ({ m with files }.stamped location).openAt location appends
  | none =>
    let files ← m.files.writeFile p []
    let (location, _) ← files.status p
    return ({ m with files := files.overwrite location [] newMode }.stamped location).openAt location
      appends

/-- Opens a path. A new file gets the mode that is given. -/
def openPath (m : Machine) (mode : OpenMode) (p : Path) (newMode : Nat) :
    Except IoFault (Channel × Machine) := do
  match mode with
  | .input =>
    match ← m.files.status p with
    | (location, .file ..) =>
      match device? location with
      | some channel => return (← channel, m)
      | none => return m.openAt location false
    | _ => return (.directory, m)
  | .output | .clobbering => m.openForOutput p newMode true false
  | .appending => m.openForOutput p newMode false true
  | .both => m.openForOutput p newMode false false

/-- A new buffer. -/
def openBuffer (m : Machine) (bytes : Bytes) : Channel × Machine :=
  (.buffer m.buffers.length, { m with buffers := m.buffers ++ [.ofBytes bytes] })

/-! ### Writing -/

/-- A content with bytes written over it from an offset on. -/
def overwritten (content : Bytes) (offset : Nat) (bytes : Bytes) : Bytes :=
  if content.length ≤ offset then
    content ++ List.replicate (offset - content.length) 0 ++ bytes
  else content.take offset ++ bytes ++ content.drop (offset + bytes.length)

/-- Writes bytes to a channel. -/
def write (m : Machine) (bytes : Bytes) : Channel → Machine
  | .nowhere | .zeros | .full | .directory => m
  | .stream stream => { m with writes := (m.clock, ⟨stream, bytes⟩) :: m.writes }
  | .buffer index =>
    match m.buffers[index]? with
    | none => m
    | some buffer => { m with buffers := m.buffers.set index (buffer.push bytes) }
  | .file index =>
    match m.opened[index]? with
    | none => m
    | some file =>
      match m.files.node? file.location with
      | some (.file content mode) =>
        let offset := if file.appends then content.length else file.offset
        { m with
          files := m.files.overwrite file.location (overwritten content offset bytes) mode
          opened := m.opened.set index { file with offset := offset + bytes.length } }.stamped
            file.location
      | _ => m

/-- How many bytes may wait in a buffer that more are written to: whoever still writes then is not
heard to the end. -/
def patience : Nat := 1048576

/-- Whether nobody waits for what is written to a channel. -/
def isOverrun (m : Machine) : Channel → Bool
  | .buffer index =>
    match m.buffers[index]? with
    | some buffer => patience ≤ buffer.behind
    | none => false
  | _ => false

/-! ### Reading -/

/-- The machine after the bytes that wait in a channel have been put in order. -/
def settled (m : Machine) : Channel → Machine
  | .buffer index =>
    match m.buffers[index]? with
    | some buffer =>
      if buffer.back.isEmpty then m else { m with buffers := m.buffers.set index buffer.settled }
    | none => m
  | _ => m

/-- What can be read from a channel. -/
def available (m : Machine) : Channel → Bytes
  | .nowhere | .full | .stream _ | .directory => []
  | .zeros => List.replicate endlessBytes 0
  | .buffer index =>
    match m.buffers[index]? with
    | some buffer => if buffer.back.isEmpty then buffer.front else buffer.content
    | none => []
  | .file index =>
    match m.opened[index]? with
    | none => []
    | some file => ((m.contentAt? file.location).getD []).drop file.offset

/-- Passes over bytes that were read from a channel. -/
def consume (m : Machine) (count : Nat) : Channel → Machine
  | .nowhere | .zeros | .full | .stream _ | .directory => m
  | .buffer index =>
    match m.buffers[index]? with
    | some buffer =>
      { m with buffers := m.buffers.set index (.ofBytes (buffer.settled.front.drop count)) }
    | none => m
  | .file index =>
    match m.opened[index]? with
    | none => m
    | some file =>
      { m with opened := m.opened.set index { file with offset := file.offset + count } }

/-! ### Commands in the background -/

/-- Until when commands in the background run. -/
def busyUntil (m : Machine) : Nat := m.jobs.foldl (fun n job => max n job.finish) 0

/-- The machine on which a command in the background has ended before its time: what it would have
written later is not written. -/
def endJob (m : Machine) (number status : Nat) : Machine :=
  match m.jobs.find? (·.number == number) with
  | none => m
  | some job =>
    if job.finish ≤ m.clock then m
    else
      let total := m.writes.length
      let kept := m.writes.zipIdx.filter fun ((time, _), index) =>
        let place := total - index
        !(job.writes.1 < place && place ≤ job.writes.2 && m.clock < time)
      { m with
        writes := kept.map Prod.fst
        jobs := m.jobs.map fun other =>
          if other.number == number then { other with status, finish := m.clock } else other
        held := m.held.filter fun (_, _, holder) => holder != number }

end Machine

end IdlBuild.Shell
