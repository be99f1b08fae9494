import IdlBuild.Proofs.Child.Turns

/-!
# Supervision comes to its end

A full pipe has a forwarder that reads it, and a forwarder finishes only when nothing more can come;
so some turn can be taken until the waiter has nothing left to wait for (`exists_candidate`). Every
turn makes `weight` smaller (`weight_lt_of_taken`). Hence every run ends, with everything read.
-/

namespace IdlBuild.Child.Supervision

variable {st next : Supervision} {turn : Turn}

/-! ### Weight -/

def streamsWeight (pipes : PerStream Pipe) (forwarders : PerStream Forwarder) : Nat :=
  streamWeight pipes.output forwarders.output + streamWeight pipes.errors forwarders.errors

theorem weight_eq (st : Supervision) :
    st.weight = deedsWeight st.deeds + streamsWeight st.pipes st.forwarders
      + Waiter.weight st.waiter := by
  simp only [weight, streamsWeight]
  omega

theorem streamsWeight_set (pipes : PerStream Pipe) (forwarders : PerStream Forwarder) (pipe : Pipe)
    (forwarder : Forwarder) (s : Stream) :
    streamsWeight (pipes.set pipe s) (forwarders.set forwarder s)
        + streamWeight (pipes.get s) (forwarders.get s)
      = streamsWeight pipes forwarders + streamWeight pipe forwarder := by
  cases s with
  | output =>
    simp only [streamsWeight, PerStream.set, PerStream.get]
    omega
  | errors =>
    simp only [streamsWeight, PerStream.set, PerStream.get]
    omega

theorem streamsWeight_set_pipe (pipes : PerStream Pipe) (forwarders : PerStream Forwarder)
    (pipe : Pipe) (s : Stream) :
    streamsWeight (pipes.set pipe s) forwarders + streamWeight (pipes.get s) (forwarders.get s)
      = streamsWeight pipes forwarders + streamWeight pipe (forwarders.get s) := by
  have hset := streamsWeight_set pipes forwarders pipe (forwarders.get s) s
  rwa [PerStream.set_get] at hset

theorem streamsWeight_set_forwarder (pipes : PerStream Pipe) (forwarders : PerStream Forwarder)
    (forwarder : Forwarder) (s : Stream) :
    streamsWeight pipes (forwarders.set forwarder s)
        + streamWeight (pipes.get s) (forwarders.get s)
      = streamsWeight pipes forwarders + streamWeight (pipes.get s) forwarder := by
  have hset := streamsWeight_set pipes forwarders (pipes.get s) forwarder s
  rwa [PerStream.set_get] at hset

/-- A written byte weighs less in the pipe than in the write. -/
theorem deedsWeight_afterWriting {count : Nat} {w : Write} (rest : List Deed)
    (hcount : 0 < count ∨ w.bytes = []) (hlength : count ≤ w.bytes.length) :
    deedsWeight (afterWriting count w rest) + 3 * count < deedsWeight (.write w :: rest) := by
  unfold afterWriting
  split
  · rename_i hdrop
    have hall : w.bytes.length ≤ count := List.drop_eq_nil_iff.1 hdrop
    simp only [deedsWeight]
    omega
  · rename_i hdrop
    have hpos : 0 < count := by
      refine hcount.resolve_right fun hempty => hdrop ?_
      rw [hempty, List.drop_nil]
    simp only [deedsWeight, List.length_drop]
    omega

theorem weight_lt_of_taken (h : Taken st turn next) : next.weight < st.weight := by
  rw [weight_eq, weight_eq]
  cases h with
  | @wrote w rest count hdeeds hcount hlength hroom =>
    have hless := deedsWeight_afterWriting rest hcount hlength
    have hstreams := streamsWeight_set_pipe st.pipes st.forwarders
      { st.pipes.get w.stream with
        pending := (st.pipes.get w.stream).pending ++ w.bytes.take count } w.stream
    have htake : (w.bytes.take count).length = count := by
      rw [List.length_take, Nat.min_eq_left hlength]
    simp only [streamWeight, List.length_append, htake] at hstreams
    rw [hdeeds]
    dsimp only
    omega
  | @closed stream rest hdeeds =>
    have hstreams := streamsWeight_set_pipe st.pipes st.forwarders
      { st.pipes.get stream with closed := true } stream
    simp only [streamWeight] at hstreams
    simp only [hdeeds, deedsWeight]
    omega
  | exited hdeeds =>
    simp only [hdeeds, deedsWeight]
    omega
  | @read stream count hcount hpending hready hfinished =>
    -- what is read weighs 3 a byte in the pipe and at most 2 a byte afterwards
    have hlines := Lines.length_completeLines_le
      ((st.forwarders.get stream).kept ++ (st.pipes.get stream).pending.take count)
    have hstreams := streamsWeight_set st.pipes st.forwarders
      { st.pipes.get stream with pending := (st.pipes.get stream).pending.drop count }
      { st.forwarders.get stream with
        kept := (Lines.completeLines ((st.forwarders.get stream).kept
          ++ (st.pipes.get stream).pending.take count)).2
        ready := (Lines.completeLines ((st.forwarders.get stream).kept
          ++ (st.pipes.get stream).pending.take count)).1.map Lines.lineText } stream
    rw [List.length_append, List.length_take, Nat.min_eq_left hpending] at hlines
    simp only [streamWeight, hready, List.length_map, List.length_drop, List.length_nil]
      at hstreams
    dsimp only
    omega
  | @reported stream line ready hready =>
    have hstreams := streamsWeight_set_forwarder st.pipes st.forwarders
      { st.forwarders.get stream with ready } stream
    simp only [streamWeight, hready, List.length_cons] at hstreams
    dsimp only
    omega
  | @completed stream hclosed hpending hready hfinished hkept =>
    have hpos : 0 < (st.forwarders.get stream).kept.length := List.length_pos_iff.2 hkept
    have hstreams := streamsWeight_set_forwarder st.pipes st.forwarders
      { st.forwarders.get stream with
        kept := []
        ready := [Lines.lineText (st.forwarders.get stream).kept] } stream
    simp only [streamWeight, hready, List.length_cons, List.length_nil] at hstreams
    dsimp only
    omega
  | @finished stream hclosed hpending hready hfinished hkept =>
    have hstreams := streamsWeight_set_forwarder st.pipes st.forwarders
      { st.forwarders.get stream with finished := true } stream
    simp only [streamWeight, hfinished, if_true, Bool.false_eq_true, if_false] at hstreams
    dsimp only
    omega
  | noticedExit hwaiter hexited =>
    simp only [hwaiter, Waiter.weight, Stream.all, List.length_cons, List.length_nil]
    omega
  | failedWait hwaiter =>
    simp only [hwaiter, Waiter.weight, Stream.all, List.length_cons, List.length_nil]
    omega
  | noticedForwarder hwaiter hfinished =>
    simp only [hwaiter, Waiter.weight, List.length_cons]
    omega
  | stopped hwaiter =>
    simp only [hwaiter, Waiter.weight]
    omega

/-! ### Progress -/

/-- Pipes that hold something at all. -/
def Roomy (st : Supervision) : Prop := ∀ s, 0 < (st.pipes.get s).capacity

theorem capacity_of_taken (h : Taken st turn next) (s : Stream) :
    (next.pipes.get s).capacity = (st.pipes.get s).capacity := by
  cases h with
  | wrote hdeeds hcount hlength hroom =>
    exact PerStream.apply_get_set Pipe.capacity st.pipes _ _ (by rfl) s
  | closed hdeeds => exact PerStream.apply_get_set Pipe.capacity st.pipes _ _ (by rfl) s
  | read hcount hpending hready hfinished =>
    exact PerStream.apply_get_set Pipe.capacity st.pipes _ _ (by rfl) s
  | exited | reported | completed | finished | noticedExit | failedWait | noticedForwarder
  | stopped => rfl

theorem Roomy.taken (h : Roomy st) (ht : Taken st turn next) : Roomy next := fun s =>
  (capacity_of_taken ht s).symm ▸ h s

/-- Some turn can be taken that is tried. -/
def Moves (st : Supervision) : Prop := ∃ turn ∈ st.candidates, (st.step turn).isSome

theorem moves_of_ready {s : Stream} (h : (st.forwarders.get s).ready ≠ []) : Moves st := by
  obtain ⟨line, ready, hready⟩ := List.exists_cons_of_ne_nil h
  refine ⟨.report s, by cases s <;> simp [candidates], ?_⟩
  simp [step, report, hready]

/-- What a pipe holds can be read. -/
theorem moves_of_pending {s : Stream} (hfinished : (st.forwarders.get s).finished = false)
    (hpending : (st.pipes.get s).pending ≠ []) : Moves st := by
  by_cases hready : (st.forwarders.get s).ready = []
  · have hpos := List.length_pos_iff.2 hpending
    refine ⟨.read s (st.pipes.get s).pending.length, ?_, ?_⟩
    · cases s <;> simp [candidates, PerStream.get]
    · simp [step, read, hready, hfinished, hpos]
  · exact moves_of_ready hready

/-- The child can go on, or the pipe is full and can be read. -/
theorem moves_of_deeds (h : Sound st) (hroomy : Roomy st) (hdeeds : st.deeds ≠ []) : Moves st := by
  obtain ⟨deed, rest, heq⟩ := List.exists_cons_of_ne_nil hdeeds
  cases deed with
  | close stream => exact ⟨.proceed, by simp [candidates, heq], by simp [step, proceed, heq]⟩
  | exit => exact ⟨.proceed, by simp [candidates, heq], by simp [step, proceed, heq]⟩
  | write w =>
    by_cases hwrite : 0 < min w.bytes.length (st.pipes.get w.stream).room ∨ w.bytes = []
    · refine ⟨.write (min w.bytes.length (st.pipes.get w.stream).room), ?_, ?_⟩
      · simp [candidates, heq]
      · simp only [step, write, heq]
        rw [if_pos ⟨hwrite, Nat.min_le_left .., Nat.min_le_right ..⟩]
        rfl
    · rw [not_or] at hwrite
      have hbytes := List.length_pos_iff.2 hwrite.2
      have hcapacity := hroomy w.stream
      have hfull : (st.pipes.get w.stream).pending ≠ [] := by
        rw [← List.length_pos_iff]
        have hroom := hwrite.1
        unfold Pipe.room at hroom
        omega
      refine moves_of_pending (s := w.stream) ?_ hfull
      rw [← Bool.not_eq_true]
      intro hfinished
      exact h.silent _ (h.drained _ hfinished).closed w (by simp [heq]) rfl

/-- A forwarder that has not finished can go on, or the child can. -/
theorem moves_of_unfinished (h : Sound st) (hroomy : Roomy st) {s : Stream}
    (hfinished : (st.forwarders.get s).finished = false) : Moves st := by
  by_cases hpending : (st.pipes.get s).pending = []
  · by_cases hready : (st.forwarders.get s).ready = []
    · rcases h.closes s with hclosed | hclose
      · refine ⟨.meetEnd s, by cases s <;> simp [candidates], ?_⟩
        simp [step, meetEnd, hclosed, hpending, hready, hfinished]
      · exact moves_of_deeds h hroomy (List.ne_nil_of_mem hclose)
    · exact moves_of_ready hready
  · exact moves_of_pending hfinished hpending

/-- Some turn can be taken as long as the waiter waits. -/
theorem exists_candidate (h : Sound st) (hroomy : Roomy st) (hwaits : st.waiter ≠ .nothing) :
    Moves st := by
  cases hwaiter : st.waiter with
  | child =>
    rcases h.exits with hexited | hexit
    · exact ⟨.noticeExit, by simp [candidates], by simp [step, hwaiter, hexited]⟩
    · exact moves_of_deeds h hroomy (List.ne_nil_of_mem hexit)
  | forwarders streams =>
    cases streams with
    | nil => exact ⟨.stop, by simp [candidates], by simp [step, hwaiter]⟩
    | cons s rest =>
      cases hfinished : (st.forwarders.get s).finished with
      | true =>
        exact ⟨.noticeForwarder, by simp [candidates], by simp [step, hwaiter, hfinished]⟩
      | false => exact moves_of_unfinished h hroomy hfinished
  | nothing => exact absurd hwaiter hwaits

theorem failWait_not_mem_candidates (st : Supervision) : Turn.failWait ∉ st.candidates := by
  unfold candidates
  cases st.deeds with
  | nil => simp
  | cons deed rest => cases deed <;> simp

/-- Nothing is left of either stream when the waiter has nothing left to wait for. -/
theorem Sound.all_drained (h : Sound st) (hwaiter : st.waiter = .nothing) (s : Stream) :
    Drained st s := by
  have hawaited := h.awaited s
  rw [hwaiter] at hawaited
  exact h.drained s (hawaited.resolve_left List.not_mem_nil)

/-! ### Runs -/

/-- Turns one after another, as long as one can be taken. -/
structure Run (first : Supervision) where
  state : Nat → Supervision
  starts : state 0 = first
  goes : ∀ n, (∃ turn, (state n).step turn = some (state (n + 1))) ∨
    (∀ turn, (state n).step turn = none) ∧ state (n + 1) = state n

namespace Run

variable {first : Supervision}

theorem reaches (run : Run first) (n : Nat) : Reaches first (run.state n) := by
  induction n with
  | zero =>
    rw [run.starts]
    exact .refl first
  | succ n ih =>
    rcases run.goes n with ⟨turn, hstep⟩ | ⟨-, hsame⟩
    · exact .tail turn ih hstep
    · rwa [hsame]

/-- No more turns are taken than the weight at first. -/
theorem stops (run : Run first) :
    ∃ n ≤ first.weight, ∀ turn, (run.state n).step turn = none := by
  refine Classical.byContradiction fun hgoes => ?_
  have hturn : ∀ n ≤ first.weight, (run.state (n + 1)).weight < (run.state n).weight := by
    intro n hn
    rcases run.goes n with ⟨turn, hstep⟩ | ⟨hnone, -⟩
    · exact weight_lt_of_taken (taken_of_step hstep)
    · exact absurd ⟨n, hn, hnone⟩ hgoes
  have hweight : ∀ n ≤ first.weight, (run.state n).weight + n ≤ first.weight := by
    intro n
    induction n with
    | zero =>
      intro _
      rw [run.starts]
      exact Nat.le_refl _
    | succ n ih =>
      intro hn
      have hless := hturn n (by omega)
      have hbefore := ih (by omega)
      omega
  have hlast := hturn first.weight (Nat.le_refl _)
  have hempty := hweight first.weight (Nat.le_refl _)
  omega

end Run

theorem roomy_start {capacities : PerStream Nat} (h : ∀ s, 1 ≤ capacities.get s)
    (deeds : List Deed) : Roomy (start capacities deeds) := by
  intro s
  have hs := h s
  cases s <;> exact hs

/-! ### The usual order -/

theorem reaches_take (turns : List Turn) (st : Supervision) : Reaches st (st.take turns) := by
  induction turns generalizing st with
  | nil => exact .refl st
  | cons turn rest ih =>
    rw [take, List.foldl_cons]
    cases hstep : st.step turn with
    | none => exact ih st
    | some next =>
      have hfirst : Reaches st next := .tail turn (.refl st) hstep
      exact hfirst.trans (ih next)

theorem exists_step_of_next (h : st.next? = some next) : ∃ turn, st.step turn = some next := by
  obtain ⟨turn, -, hstep⟩ := List.exists_of_findSome?_eq_some h
  exact ⟨turn, hstep⟩

theorem Moves.next_ne_none (h : Moves st) : st.next? ≠ none := by
  obtain ⟨turn, hmem, hsome⟩ := h
  intro hnone
  rw [List.findSome?_eq_none_iff.1 hnone turn hmem] at hsome
  cases hsome

theorem reaches_runFor (n : Nat) (st : Supervision) : Reaches st (st.runFor n) := by
  induction n generalizing st with
  | zero => exact .refl st
  | succ n ih =>
    rw [runFor]
    cases hnext : st.next? with
    | none => exact .refl st
    | some next =>
      obtain ⟨turn, hstep⟩ := exists_step_of_next hnext
      have hfirst : Reaches st next := .tail turn (.refl st) hstep
      exact hfirst.trans (ih next)

theorem next_runFor {n : Nat} (h : st.weight ≤ n) : (st.runFor n).next? = none := by
  induction n generalizing st with
  | zero =>
    cases hnext : st.next? with
    | none => exact hnext
    | some next =>
      obtain ⟨turn, hstep⟩ := exists_step_of_next hnext
      have hless := weight_lt_of_taken (taken_of_step hstep)
      omega
  | succ n ih =>
    rw [runFor]
    cases hnext : st.next? with
    | none => exact hnext
    | some next =>
      obtain ⟨turn, hstep⟩ := exists_step_of_next hnext
      have hless := weight_lt_of_taken (taken_of_step hstep)
      exact ih (by omega)

/-- Whatever turns are taken first, the usual order leads to the return. -/
theorem finish_returns {capacities : PerStream Nat} (hcapacities : ∀ s, 1 ≤ capacities.get s)
    (course : Course) (turns : List Turn) :
    Reaches (start capacities course.deeds)
        ((start capacities course.deeds).take turns).finish ∧
      ((start capacities course.deeds).take turns).finish.waiter = .nothing := by
  have hreach : Reaches (start capacities course.deeds)
      ((start capacities course.deeds).take turns).finish :=
    (reaches_take turns _).trans (reaches_runFor _ _)
  have hroomy := hreach.induct (roomy_start hcapacities _) Roomy.taken
  refine ⟨hreach, Classical.byContradiction fun hwaits => ?_⟩
  exact (exists_candidate hreach.sound hroomy hwaits).next_ne_none (next_runFor (Nat.le_refl _))

/-! ### Every order -/

/-- However the turns are taken, a supervised child cannot block for good: until the waiter returns
some turn can be taken, and without the wait having to fail; every turn makes the weight smaller; and
every run comes to the return, when both streams have been read to the end. -/
theorem supervision_returns (capacities : PerStream Nat) (hcapacities : ∀ s, 1 ≤ capacities.get s)
    (writes : List Write) :
    (∀ st, Reaches (start capacities (Course.plain writes).deeds) st →
      (st.waiter ≠ .nothing → ∃ turn next, turn ≠ .failWait ∧ st.step turn = some next) ∧
      (∀ turn next, st.step turn = some next → next.weight < st.weight)) ∧
    ∀ run : Run (start capacities (Course.plain writes).deeds),
      ∃ n ≤ (start capacities (Course.plain writes).deeds).weight,
        (run.state n).waiter = .nothing ∧ ∀ s, Drained (run.state n) s := by
  have hroomy : ∀ {st}, Reaches (start capacities (Course.plain writes).deeds) st → Roomy st :=
    fun hreach => hreach.induct (roomy_start hcapacities _) Roomy.taken
  have hprogress : ∀ {st}, Reaches (start capacities (Course.plain writes).deeds) st →
      st.waiter ≠ .nothing → ∃ turn next, turn ≠ .failWait ∧ st.step turn = some next := by
    intro st hreach hwaits
    obtain ⟨turn, hmem, hsome⟩ := exists_candidate hreach.sound (hroomy hreach) hwaits
    obtain ⟨next, hstep⟩ := Option.isSome_iff_exists.1 hsome
    refine ⟨turn, next, ?_, hstep⟩
    rintro rfl
    exact failWait_not_mem_candidates st hmem
  refine ⟨fun st hreach => ⟨hprogress hreach, fun turn next hstep => ?_⟩, fun run => ?_⟩
  · exact weight_lt_of_taken (taken_of_step hstep)
  · obtain ⟨n, hn, hnone⟩ := run.stops
    have hreach := run.reaches n
    have hwaiter : (run.state n).waiter = .nothing := by
      refine Classical.byContradiction fun hwaits => ?_
      obtain ⟨turn, next, -, hstep⟩ := hprogress hreach hwaits
      rw [hnone turn] at hstep
      cases hstep
    exact ⟨n, hn, hwaiter, hreach.sound.all_drained hwaiter⟩

/-- Pipes for a single byte are enough. -/
theorem narrow_returns :
    (∀ s, 1 ≤ (PerStream.mk 1 1).get s) ∧
      ∃ turn next, turn ≠ .failWait ∧
        (start ⟨1, 1⟩ (Course.plain [⟨.errors, [104, 105, 10]⟩]).deeds).step turn = some next := by
  have hone : ∀ s, 1 ≤ (PerStream.mk 1 1).get s := fun s => by cases s <;> decide
  have hstart := (supervision_returns ⟨1, 1⟩ hone [⟨.errors, [104, 105, 10]⟩]).1 _ (.refl _)
  exact ⟨hone, hstart.1 (by decide)⟩

end IdlBuild.Child.Supervision
