import IdlBuild.Journal
import IdlBuild.Text.Utf8

/-!
# What children do

A child writes on two streams, closes them and ends. What it has started may hold its streams open
and go on when it has ended, so that these things happen in many orders; but nothing is written on
a stream that the last of them has closed. A course says what all of them do from the start to the
end.
-/

namespace IdlBuild.Child

open Text (Bytes)

/-! ### Streams -/

/-- The streams that a program writes on. -/
inductive Stream where
  | output
  | errors
deriving DecidableEq, Repr

namespace Stream

/-- The name of a stream. -/
def name : Stream → String
  | output => "stdout"
  | errors => "stderr"

/-- The severity at which the lines of a stream are reported. -/
def severity : Stream → Severity
  | output => .info
  | errors => .error

/-- Both streams, in the order in which they are waited for. -/
def all : List Stream := [output, errors]

@[simp] theorem mem_all (s : Stream) : s ∈ all := by
  cases s <;> decide

theorem severity_injective {s t : Stream} (h : s.severity = t.severity) : s = t := by
  cases s <;> cases t <;> first | rfl | cases h

end Stream

/-! ### Deeds -/

/-- Bytes written at once. -/
structure Write where
  stream : Stream
  bytes : Bytes
deriving DecidableEq, Repr

/-- Something that a child, or what it has started, does. -/
inductive Deed where
  | write (w : Write)
  /-- The last one that holds the stream open closes it. -/
  | close (stream : Stream)
  /-- The child itself ends. -/
  | exit
deriving DecidableEq, Repr

/-- Nothing is written on a stream after it has been closed. -/
def Deed.MayPrecede : Deed → Deed → Prop
  | close stream, write w => w.stream ≠ stream
  | _, _ => True

/-- Everything that some deeds put on one stream. -/
def written (stream : Stream) : List Deed → Bytes
  | [] => []
  | .write w :: rest => (if w.stream = stream then w.bytes else []) ++ written stream rest
  | _ :: rest => written stream rest

theorem written_eq_nil {stream : Stream} {deeds : List Deed}
    (h : ∀ w, .write w ∈ deeds → w.stream ≠ stream) : written stream deeds = [] := by
  induction deeds with
  | nil => rfl
  | cons deed rest ih =>
    have hrest := ih fun w hw => h w (List.mem_cons_of_mem _ hw)
    cases deed with
    | write w =>
      have hother := h w (List.mem_cons_self ..)
      rw [written, if_neg hother, hrest, List.append_nil]
    | close other => exact hrest
    | exit => exact hrest

/-! ### Courses -/

/-- Everything that a child, and what it has started, does, in the order of doing. -/
structure Course where
  deeds : List Deed
  orderly : deeds.Pairwise Deed.MayPrecede
  exits : .exit ∈ deeds
  closes : ∀ stream, .close stream ∈ deeds
deriving DecidableEq, Repr

/-- The course of a child that makes some writes, closes both streams and ends. -/
def Course.plain (writes : List Write) : Course where
  deeds := writes.map .write ++ [.close .output, .close .errors, .exit]
  orderly := by
    rw [List.pairwise_append, List.pairwise_map]
    refine ⟨List.pairwise_of_forall fun _ _ => trivial, by simp [Deed.MayPrecede], ?_⟩
    intro deed hdeed _ _
    obtain ⟨w, _, rfl⟩ := List.mem_map.1 hdeed
    trivial
  exits := by simp
  closes stream := by cases stream <;> simp

/-- What is done of a course while nobody closes some of the streams. -/
def Course.holding (course : Course) (held : List Stream) : List Deed :=
  course.deeds.filter fun deed => ∀ stream ∈ held, deed ≠ .close stream

end IdlBuild.Child
