import IdlBuild.Child.Course
import IdlBuild.Child.Lines

/-!
# Supervision

How the output of a running child reaches the journal. The child writes into two pipes, which hold
only so many bytes; for each pipe a forwarder reads what is there and reports it line by line; a
waiter waits for the child to end and then for the forwarders to finish. The child, the two
forwarders and the waiter take turns in any order: `step` says what a turn does and when it can be
taken. `supervise` takes turns until none can be taken; `weight` bounds their number.
-/

namespace IdlBuild.Child

open Text (Bytes)

/-! ### States -/

/-- One value for each stream. -/
structure PerStream (α : Type) where
  output : α
  errors : α
deriving DecidableEq, Repr

namespace PerStream

variable {α : Type}

/-- What belongs to a stream. -/
def get (p : PerStream α) : Stream → α
  | .output => p.output
  | .errors => p.errors

/-- With another value for one stream. -/
def set (p : PerStream α) (value : α) : Stream → PerStream α
  | .output => { p with output := value }
  | .errors => { p with errors := value }

theorem get_set (p : PerStream α) (value : α) (s t : Stream) :
    (p.set value s).get t = if t = s then value else p.get t := by
  cases s <;> cases t <;> rfl

theorem set_get (p : PerStream α) (s : Stream) : p.set (p.get s) s = p := by
  cases s <;> rfl

/-- What a new value has in common with the old one stays. -/
theorem apply_get_set {β : Type} (f : α → β) (p : PerStream α) (value : α) (s : Stream)
    (h : f value = f (p.get s)) (t : Stream) : f ((p.set value s).get t) = f (p.get t) := by
  rw [get_set]
  split
  · rename_i hs
    rw [h, hs]
  · rfl

end PerStream

/-- A pipe between the child and a forwarder. -/
structure Pipe where
  capacity : Nat
  /-- What was written and not read yet. -/
  pending : Bytes
  /-- Whether nothing more will be written. -/
  closed : Bool
deriving DecidableEq, Repr

/-- The number of bytes that fit into a pipe. -/
def Pipe.room (p : Pipe) : Nat := p.capacity - p.pending.length

/-- A forwarder between two turns. -/
structure Forwarder where
  /-- What was read and ends no line yet. -/
  kept : Bytes
  /-- The lines that were read and are not reported yet. -/
  ready : List String
  finished : Bool
deriving DecidableEq, Repr

/-- What the waiter waits for. -/
inductive Waiter where
  | child
  | forwarders (streams : List Stream)
  | nothing
deriving DecidableEq, Repr

/-- The child, the pipes, the forwarders, the waiter and what has been reported. -/
structure Supervision where
  /-- What the child, and what it has started, has still to do. -/
  deeds : List Deed
  exited : Bool
  pipes : PerStream Pipe
  forwarders : PerStream Forwarder
  waiter : Waiter
  /-- What was reported, the newest line first. -/
  reported : List Line
deriving DecidableEq, Repr

namespace Supervision

/-- A child that has been started and has done nothing yet. -/
def start (capacities : PerStream Nat) (deeds : List Deed) : Supervision where
  deeds := deeds
  exited := false
  pipes := ⟨⟨capacities.output, [], false⟩, ⟨capacities.errors, [], false⟩⟩
  forwarders := ⟨⟨[], [], false⟩, ⟨[], [], false⟩⟩
  waiter := .child
  reported := []

/-! ### Turns -/

/-- A turn of one of them. -/
inductive Turn where
  /-- The child writes some bytes of its next write. -/
  | write (count : Nat)
  /-- The child does what it does next, which is no write. -/
  | proceed
  /-- A forwarder reads some bytes. -/
  | read (stream : Stream) (count : Nat)
  /-- A forwarder reports a line. -/
  | report (stream : Stream)
  /-- A forwarder meets the end of its pipe. -/
  | meetEnd (stream : Stream)
  /-- The waiter notices that the child has ended. -/
  | noticeExit
  /-- The wait for the child fails; it is killed, and its course is what it has done by then. -/
  | failWait
  /-- The waiter notices that the next forwarder has finished. -/
  | noticeForwarder
  /-- The waiter has nothing left to wait for. -/
  | stop
deriving DecidableEq, Repr

/-- What is left to do when `count` bytes of a write have been written. -/
def afterWriting (count : Nat) (w : Write) (rest : List Deed) : List Deed :=
  if w.bytes.drop count = [] then rest else .write ⟨w.stream, w.bytes.drop count⟩ :: rest

/-- A write of `count` bytes, which have to fit into the pipe. Only a write of nothing writes no
bytes. -/
def write (st : Supervision) (count : Nat) : Option Supervision :=
  match st.deeds with
  | .write w :: rest =>
    let pipe := st.pipes.get w.stream
    if (0 < count ∨ w.bytes = []) ∧ count ≤ w.bytes.length ∧ count ≤ pipe.room then
      some { st with
        deeds := afterWriting count w rest
        pipes := st.pipes.set { pipe with pending := pipe.pending ++ w.bytes.take count } w.stream }
    else none
  | _ => none

/-- A stream is closed, or the child ends. -/
def proceed (st : Supervision) : Option Supervision :=
  match st.deeds with
  | .close stream :: rest =>
    some { st with
      deeds := rest
      pipes := st.pipes.set { st.pipes.get stream with closed := true } stream }
  | .exit :: rest => some { st with deeds := rest, exited := true }
  | _ => none

/-- A read of `count` bytes. A forwarder that has lines to report does not read. -/
def read (st : Supervision) (stream : Stream) (count : Nat) : Option Supervision :=
  let pipe := st.pipes.get stream
  let forwarder := st.forwarders.get stream
  if 0 < count ∧ count ≤ pipe.pending.length ∧ forwarder.ready = [] ∧ !forwarder.finished then
    let (lines, kept) := Lines.completeLines (forwarder.kept ++ pipe.pending.take count)
    some { st with
      pipes := st.pipes.set { pipe with pending := pipe.pending.drop count } stream
      forwarders := st.forwarders.set
        { forwarder with kept, ready := lines.map Lines.lineText } stream }
  else none

/-- One line is reported. -/
def report (st : Supervision) (stream : Stream) : Option Supervision :=
  let forwarder := st.forwarders.get stream
  match forwarder.ready with
  | [] => none
  | line :: ready => some { st with
      forwarders := st.forwarders.set { forwarder with ready } stream
      reported := ⟨stream.severity, line⟩ :: st.reported }

/-- The end of a closed pipe: first what was kept becomes a line, then the forwarder
finishes. -/
def meetEnd (st : Supervision) (stream : Stream) : Option Supervision :=
  let pipe := st.pipes.get stream
  let forwarder := st.forwarders.get stream
  if pipe.closed ∧ pipe.pending = [] ∧ forwarder.ready = [] ∧ !forwarder.finished then
    let next : Forwarder :=
      if forwarder.kept = [] then { forwarder with finished := true }
      else { forwarder with kept := [], ready := [Lines.lineText forwarder.kept] }
    some { st with forwarders := st.forwarders.set next stream }
  else none

/-- What a turn does, if it can be taken. -/
def step (st : Supervision) : Turn → Option Supervision
  | .write count => st.write count
  | .proceed => st.proceed
  | .read stream count => st.read stream count
  | .report stream => st.report stream
  | .meetEnd stream => st.meetEnd stream
  | .noticeExit =>
    if st.waiter = .child ∧ st.exited then some { st with waiter := .forwarders Stream.all }
    else none
  | .failWait =>
    if st.waiter = .child then some { st with waiter := .forwarders Stream.all } else none
  | .noticeForwarder =>
    match st.waiter with
    | .forwarders (stream :: rest) =>
      if (st.forwarders.get stream).finished then some { st with waiter := .forwarders rest }
      else none
    | _ => none
  | .stop => if st.waiter = .forwarders [] then some { st with waiter := .nothing } else none

/-- The states that can follow one another. -/
inductive Reaches : Supervision → Supervision → Prop where
  | refl (st : Supervision) : Reaches st st
  | tail {first st next : Supervision} (turn : Turn) :
    Reaches first st → st.step turn = some next → Reaches first next

/-! ### Weight -/

/-- The weight of what the waiter waits for. -/
def Waiter.weight : Waiter → Nat
  | .child => 4
  | .forwarders streams => streams.length + 1
  | .nothing => 0

/-- The weight of a stream: each byte in its pipe, each byte that was kept, each line to report and
the end of the forwarder. -/
def streamWeight (pipe : Pipe) (forwarder : Forwarder) : Nat :=
  3 * pipe.pending.length + 2 * forwarder.kept.length + forwarder.ready.length
    + (if forwarder.finished then 0 else 1)

/-- The weight of what is left to do: each deed, and each byte that is still to be written. -/
def deedsWeight : List Deed → Nat
  | [] => 0
  | .write w :: rest => 4 * w.bytes.length + 1 + deedsWeight rest
  | _ :: rest => 1 + deedsWeight rest

/-- A number that every turn makes smaller. -/
def weight (st : Supervision) : Nat :=
  deedsWeight st.deeds + streamWeight st.pipes.output st.forwarders.output
    + streamWeight st.pipes.errors st.forwarders.errors + Waiter.weight st.waiter

/-! ### Runs -/

/-- The turns that are tried, in this order: forwarders before the child, the waiter last. -/
def candidates (st : Supervision) : List Turn :=
  [.report .output, .report .errors,
   .read .output (st.pipes.output.pending.length), .read .errors (st.pipes.errors.pending.length),
   .meetEnd .output, .meetEnd .errors] ++
  (match st.deeds with
    | .write w :: _ => [.write (min w.bytes.length (st.pipes.get w.stream).room)]
    | _ => [.proceed]) ++
  [.noticeExit, .noticeForwarder, .stop]

/-- The state after the first turn that can be taken. -/
def next? (st : Supervision) : Option Supervision := st.candidates.findSome? st.step

/-- The state after some turns; one that cannot be taken is passed over. -/
def take (turns : List Turn) (st : Supervision) : Supervision :=
  turns.foldl (fun st turn => (st.step turn).getD st) st

/-- The state after at most `turns` turns. -/
def runFor : (turns : Nat) → Supervision → Supervision
  | 0, st => st
  | turns + 1, st =>
    match st.next? with
    | none => st
    | some st => runFor turns st

/-- The state when no turn is left. -/
def finish (st : Supervision) : Supervision := st.runFor st.weight

/-- What a supervision has reported, oldest line first. -/
def lines (st : Supervision) : List Line := st.reported.reverse

/-- The number of bytes that a pipe holds. -/
def pipeCapacity : Nat := 65536

end Supervision

/-- What is reported of a child, and of what it has started, when some turns are taken first. -/
def supervise (turns : List Supervision.Turn) (deeds : List Deed) : List Line :=
  let capacities := ⟨Supervision.pipeCapacity, Supervision.pipeCapacity⟩
  ((Supervision.start capacities deeds).take turns).finish.lines

end IdlBuild.Child
