import IdlBuild.Child.Supervision

/-!
# What a turn does

`Taken` says for each turn what it needs and what it leaves, and `taken_of_step` that a step does
nothing else. Every reachable state is `Sound`: what a closed pipe still holds is all that is left to
read, a forwarder has finished only when nothing is left at all, and the waiter waits for every
forwarder that has not.
-/

namespace IdlBuild.Child

/-- The forwarders that are still to be waited for. -/
def Waiter.streams : Waiter → List Stream
  | child => Stream.all
  | forwarders streams => streams
  | nothing => []

namespace Supervision

/-! ### Turns that can be taken -/

/-- A turn that can be taken and the state after it. -/
inductive Taken (st : Supervision) : Turn → Supervision → Prop where
  | wrote {w : Write} {rest : List Deed} {count : Nat} (hdeeds : st.deeds = .write w :: rest)
      (hcount : 0 < count ∨ w.bytes = []) (hlength : count ≤ w.bytes.length)
      (hroom : count ≤ (st.pipes.get w.stream).room) :
      Taken st (.write count) { st with
        deeds := afterWriting count w rest
        pipes := st.pipes.set { st.pipes.get w.stream with
          pending := (st.pipes.get w.stream).pending ++ w.bytes.take count } w.stream }
  | closed {stream : Stream} {rest : List Deed} (hdeeds : st.deeds = .close stream :: rest) :
      Taken st .proceed { st with
        deeds := rest
        pipes := st.pipes.set { st.pipes.get stream with closed := true } stream }
  | exited {rest : List Deed} (hdeeds : st.deeds = .exit :: rest) :
      Taken st .proceed { st with deeds := rest, exited := true }
  | read {stream : Stream} {count : Nat} (hcount : 0 < count)
      (hpending : count ≤ (st.pipes.get stream).pending.length)
      (hready : (st.forwarders.get stream).ready = [])
      (hfinished : (st.forwarders.get stream).finished = false) :
      Taken st (.read stream count) { st with
        pipes := st.pipes.set { st.pipes.get stream with
          pending := (st.pipes.get stream).pending.drop count } stream
        forwarders := st.forwarders.set { st.forwarders.get stream with
          kept := (Lines.completeLines ((st.forwarders.get stream).kept
            ++ (st.pipes.get stream).pending.take count)).2
          ready := (Lines.completeLines ((st.forwarders.get stream).kept
            ++ (st.pipes.get stream).pending.take count)).1.map Lines.lineText } stream }
  | reported {stream : Stream} {line : String} {ready : List String}
      (hready : (st.forwarders.get stream).ready = line :: ready) :
      Taken st (.report stream) { st with
        forwarders := st.forwarders.set { st.forwarders.get stream with ready } stream
        reported := ⟨stream.severity, line⟩ :: st.reported }
  | completed {stream : Stream} (hclosed : (st.pipes.get stream).closed = true)
      (hpending : (st.pipes.get stream).pending = [])
      (hready : (st.forwarders.get stream).ready = [])
      (hfinished : (st.forwarders.get stream).finished = false)
      (hkept : (st.forwarders.get stream).kept ≠ []) :
      Taken st (.meetEnd stream) { st with
        forwarders := st.forwarders.set { st.forwarders.get stream with
          kept := []
          ready := [Lines.lineText (st.forwarders.get stream).kept] } stream }
  | finished {stream : Stream} (hclosed : (st.pipes.get stream).closed = true)
      (hpending : (st.pipes.get stream).pending = [])
      (hready : (st.forwarders.get stream).ready = [])
      (hfinished : (st.forwarders.get stream).finished = false)
      (hkept : (st.forwarders.get stream).kept = []) :
      Taken st (.meetEnd stream) { st with
        forwarders := st.forwarders.set { st.forwarders.get stream with finished := true } stream }
  | noticedExit (hwaiter : st.waiter = .child) (hexited : st.exited = true) :
      Taken st .noticeExit { st with waiter := .forwarders Stream.all }
  | failedWait (hwaiter : st.waiter = .child) :
      Taken st .failWait { st with waiter := .forwarders Stream.all }
  | noticedForwarder {stream : Stream} {rest : List Stream}
      (hwaiter : st.waiter = .forwarders (stream :: rest))
      (hfinished : (st.forwarders.get stream).finished = true) :
      Taken st .noticeForwarder { st with waiter := .forwarders rest }
  | stopped (hwaiter : st.waiter = .forwarders []) :
      Taken st .stop { st with waiter := .nothing }

variable {st next : Supervision}

theorem taken_of_step {turn : Turn} (h : st.step turn = some next) : Taken st turn next := by
  cases turn with
  | write count =>
    simp only [step, write] at h
    split at h
    · rename_i w rest hdeeds
      split at h
      · rename_i hguard
        cases h
        exact .wrote hdeeds hguard.1 hguard.2.1 hguard.2.2
      · cases h
    · cases h
  | proceed =>
    simp only [step, proceed] at h
    split at h
    · rename_i stream rest hdeeds
      cases h
      exact .closed hdeeds
    · rename_i rest hdeeds
      cases h
      exact .exited hdeeds
    · cases h
  | read stream count =>
    simp only [step, read] at h
    split at h
    · rename_i hguard
      obtain ⟨hcount, hpending, hready, hfinished⟩ := hguard
      cases h
      exact .read hcount hpending hready (by simpa using hfinished)
    · cases h
  | report stream =>
    simp only [step, report] at h
    split at h
    · cases h
    · rename_i line ready hready
      cases h
      exact .reported hready
  | meetEnd stream =>
    simp only [step, meetEnd] at h
    split at h
    · rename_i hguard
      obtain ⟨hclosed, hpending, hready, hfinished⟩ := hguard
      cases h
      split
      · rename_i hkept
        exact .finished hclosed hpending hready (by simpa using hfinished) hkept
      · rename_i hkept
        exact .completed hclosed hpending hready (by simpa using hfinished) hkept
    · cases h
  | noticeExit =>
    simp only [step] at h
    split at h
    · rename_i hguard
      cases h
      exact .noticedExit hguard.1 hguard.2
    · cases h
  | failWait =>
    simp only [step] at h
    split at h
    · rename_i hwaiter
      cases h
      exact .failedWait hwaiter
    · cases h
  | noticeForwarder =>
    simp only [step] at h
    split at h
    · rename_i stream rest hwaiter
      split at h
      · rename_i hfinished
        cases h
        exact .noticedForwarder hwaiter hfinished
      · cases h
    · cases h
  | stop =>
    simp only [step] at h
    split at h
    · rename_i hwaiter
      cases h
      exact .stopped hwaiter
    · cases h

/-- What holds at first and after every turn holds of every state that is reached. -/
theorem Reaches.induct {P : Supervision → Prop} {first : Supervision} (h : Reaches first st)
    (hfirst : P first)
    (hturn : ∀ {st next : Supervision} {turn : Turn}, P st → Taken st turn next → P next) : P st := by
  induction h with
  | refl => exact hfirst
  | tail turn _ hstep ih => exact hturn ih (taken_of_step hstep)

theorem Reaches.trans {first later : Supervision} (h : Reaches first st)
    (hlater : Reaches st later) : Reaches first later := by
  induction hlater with
  | refl => exact h
  | tail turn _ hstep ih => exact .tail turn ih hstep

/-! ### Sound states -/

/-- What is left of a stream when its forwarder has finished: nothing. -/
structure Drained (st : Supervision) (s : Stream) : Prop where
  written : written s st.deeds = []
  closed : (st.pipes.get s).closed = true
  pending : (st.pipes.get s).pending = []
  kept : (st.forwarders.get s).kept = []
  ready : (st.forwarders.get s).ready = []
  finished : (st.forwarders.get s).finished = true

/-- What holds of a supervised child in every state. -/
structure Sound (st : Supervision) : Prop where
  orderly : st.deeds.Pairwise Deed.MayPrecede
  exits : st.exited = true ∨ .exit ∈ st.deeds
  closes : ∀ s, (st.pipes.get s).closed = true ∨ .close s ∈ st.deeds
  silent : ∀ s, (st.pipes.get s).closed = true → ∀ w, .write w ∈ st.deeds → w.stream ≠ s
  drained : ∀ s, (st.forwarders.get s).finished = true → Drained st s
  awaited : ∀ s, s ∈ st.waiter.streams ∨ (st.forwarders.get s).finished = true

theorem sound_start (capacities : PerStream Nat) (course : Course) :
    Sound (start capacities course.deeds) where
  orderly := course.orderly
  exits := .inr course.exits
  closes s := .inr (course.closes s)
  silent s := by cases s <;> simp [start, PerStream.get]
  drained s := by cases s <;> simp [start, PerStream.get]
  awaited s := .inl (Stream.mem_all s)

theorem mem_of_mem_afterWriting {count : Nat} {w : Write} {rest : List Deed} {deed : Deed}
    (h : deed ∈ afterWriting count w rest) :
    deed ∈ rest ∨ deed = .write ⟨w.stream, w.bytes.drop count⟩ := by
  unfold afterWriting at h
  split at h
  · exact .inl h
  · exact (List.mem_cons.1 h).symm

theorem mem_afterWriting {count : Nat} {w : Write} {rest : List Deed} {deed : Deed}
    (h : deed ∈ rest) : deed ∈ afterWriting count w rest := by
  unfold afterWriting
  split
  · exact h
  · exact List.mem_cons_of_mem _ h

/-- Writing in pieces writes the same. -/
theorem written_afterWriting (s : Stream) (count : Nat) (w : Write) (rest : List Deed) :
    (if w.stream = s then w.bytes.take count else []) ++ written s (afterWriting count w rest)
      = written s (.write w :: rest) := by
  have hbytes := List.take_append_drop count w.bytes
  unfold afterWriting
  by_cases hdrop : w.bytes.drop count = []
  · rw [hdrop, List.append_nil] at hbytes
    rw [if_pos hdrop, written, hbytes]
  · rw [if_neg hdrop, written, written, ← List.append_assoc]
    split
    · rw [hbytes]
    · rfl

theorem Drained.of_eq {s : Stream} (h : Drained st s)
    (hwritten : Child.written s next.deeds = Child.written s st.deeds)
    (hpipe : next.pipes.get s = st.pipes.get s)
    (hforwarder : next.forwarders.get s = st.forwarders.get s) : Drained next s where
  written := hwritten ▸ h.written
  closed := hpipe ▸ h.closed
  pending := hpipe ▸ h.pending
  kept := hforwarder ▸ h.kept
  ready := hforwarder ▸ h.ready
  finished := hforwarder ▸ h.finished

namespace Sound

variable {turn : Turn} {w : Write} {rest : List Deed} {count : Nat} {stream : Stream}

theorem wrote (h : Sound st) (hdeeds : st.deeds = .write w :: rest) (pending : Text.Bytes) :
    Sound { st with
      deeds := afterWriting count w rest
      pipes := st.pipes.set { st.pipes.get w.stream with pending } w.stream } := by
  have hmem : Deed.write w ∈ st.deeds := by simp [hdeeds]
  have hopen : ∀ s, (st.pipes.get s).closed = true → w.stream ≠ s := fun s hclosed =>
    h.silent s hclosed w hmem
  have hclosed := PerStream.apply_get_set Pipe.closed st.pipes
    { st.pipes.get w.stream with pending } w.stream rfl
  obtain ⟨horderly, hexits, hcloses, hsilent, hdrained, hawaited⟩ := h
  rw [hdeeds] at horderly hexits
  simp only [hdeeds] at hcloses
  refine ⟨?_, ?_, ?_, ?_, ?_, hawaited⟩
  · unfold afterWriting
    split
    · exact horderly.tail
    · exact List.pairwise_cons.2 ⟨fun _ _ => trivial, horderly.tail⟩
  · exact hexits.imp_right fun hexit => mem_afterWriting (by simpa using hexit)
  · intro s
    rw [hclosed]
    exact (hcloses s).imp_right fun hclose => mem_afterWriting (by simpa using hclose)
  · intro s hs v hv
    rw [hclosed] at hs
    rcases mem_of_mem_afterWriting hv with hrest | hwrite
    · exact hsilent s hs v (by simp [hdeeds, hrest])
    · cases hwrite
      exact hopen s hs
  · intro s hfinished
    have hs := hdrained s hfinished
    have hne : w.stream ≠ s := hopen s hs.closed
    refine hs.of_eq ?_ ?_ rfl
    · have hwritten := written_afterWriting s count w rest
      rwa [if_neg hne, List.nil_append, ← hdeeds] at hwritten
    · simp only [PerStream.get_set]
      rw [if_neg (Ne.symm hne)]

theorem closed (h : Sound st) (hdeeds : st.deeds = .close stream :: rest) :
    Sound { st with
      deeds := rest
      pipes := st.pipes.set { st.pipes.get stream with closed := true } stream } := by
  obtain ⟨horderly, hexits, hcloses, hsilent, hdrained, hawaited⟩ := h
  rw [hdeeds] at horderly hexits
  simp only [hdeeds] at hcloses hsilent
  have hlater := (List.pairwise_cons.1 horderly).1
  refine ⟨horderly.tail, ?_, ?_, ?_, ?_, hawaited⟩
  · exact hexits.imp_right fun hexit => by simpa using hexit
  · intro s
    simp only [PerStream.get_set]
    by_cases hs : s = stream
    · simp [hs]
    · rw [if_neg hs]
      exact (hcloses s).imp_right fun hclose => by simpa [hs] using hclose
  · intro s hclosed v hv
    simp only [PerStream.get_set] at hclosed
    by_cases hs : s = stream
    · subst hs
      exact hlater _ hv
    · rw [if_neg hs] at hclosed
      exact hsilent s hclosed v (List.mem_cons_of_mem _ hv)
  · intro s hfinished
    have hs := hdrained s hfinished
    have hpipe : (st.pipes.set { st.pipes.get stream with closed := true } stream).get s
        = st.pipes.get s := by
      rw [PerStream.get_set]
      split
      · rename_i heq
        rw [← heq, ← hs.closed]
      · rfl
    exact hs.of_eq (by rw [hdeeds]; rfl) hpipe rfl

theorem exited (h : Sound st) (hdeeds : st.deeds = .exit :: rest) :
    Sound { st with deeds := rest, exited := true } := by
  obtain ⟨horderly, hexits, hcloses, hsilent, hdrained, hawaited⟩ := h
  rw [hdeeds] at horderly
  simp only [hdeeds] at hcloses hsilent
  refine ⟨horderly.tail, .inl rfl, ?_, ?_, ?_, hawaited⟩
  · intro s
    exact (hcloses s).imp_right fun hclose => by simpa using hclose
  · intro s hclosed v hv
    exact hsilent s hclosed v (List.mem_cons_of_mem _ hv)
  · intro s hfinished
    exact (hdrained s hfinished).of_eq (by rw [hdeeds]; rfl) rfl rfl

/-- A forwarder that has not finished may read, and change what it keeps. -/
theorem forwarded (h : Sound st) (hfinished : (st.forwarders.get stream).finished = false)
    (pending kept : Text.Bytes) (ready : List String) (reported : List Line) :
    Sound { st with
      pipes := st.pipes.set { st.pipes.get stream with pending } stream
      forwarders := st.forwarders.set { st.forwarders.get stream with kept, ready } stream
      reported } := by
  have hclosed := PerStream.apply_get_set Pipe.closed st.pipes
    { st.pipes.get stream with pending } stream rfl
  have hover := PerStream.apply_get_set Forwarder.finished st.forwarders
    { st.forwarders.get stream with kept, ready } stream rfl
  refine ⟨h.orderly, h.exits, ?_, ?_, ?_, ?_⟩
  · intro s
    rw [hclosed]
    exact h.closes s
  · intro s hs
    rw [hclosed] at hs
    exact h.silent s hs
  · intro s hs
    rw [hover] at hs
    have hne : s ≠ stream := by
      rintro rfl
      rw [hfinished] at hs
      cases hs
    refine (h.drained s hs).of_eq rfl ?_ ?_
    · simp [PerStream.get_set, hne]
    · simp [PerStream.get_set, hne]
  · intro s
    rw [hover]
    exact h.awaited s

/-- The same without a read. -/
theorem forwarded_kept (h : Sound st) (hfinished : (st.forwarders.get stream).finished = false)
    (kept : Text.Bytes) (ready : List String) (reported : List Line) :
    Sound { st with
      forwarders := st.forwarders.set { st.forwarders.get stream with kept, ready } stream
      reported } := by
  have hpipes := PerStream.set_get st.pipes stream
  have hnext := h.forwarded hfinished (st.pipes.get stream).pending kept ready reported
  rwa [hpipes] at hnext

theorem unfinished_of_ready (h : Sound st) {line : String} {ready : List String}
    (hready : (st.forwarders.get stream).ready = line :: ready) :
    (st.forwarders.get stream).finished = false := by
  rw [← Bool.not_eq_true]
  intro hfinished
  have hnone := (h.drained stream hfinished).ready
  rw [hready] at hnone
  cases hnone

theorem finished (h : Sound st) (hclosed : (st.pipes.get stream).closed = true)
    (hpending : (st.pipes.get stream).pending = [])
    (hready : (st.forwarders.get stream).ready = [])
    (hkept : (st.forwarders.get stream).kept = []) :
    Sound { st with
      forwarders := st.forwarders.set { st.forwarders.get stream with finished := true } stream } := by
  refine ⟨h.orderly, h.exits, h.closes, h.silent, ?_, ?_⟩
  · intro s hs
    by_cases heq : s = stream
    · subst heq
      have hwritten := written_eq_nil (h.silent s hclosed)
      exact ⟨hwritten, hclosed, hpending, by simp [PerStream.get_set, hkept],
        by simp [PerStream.get_set, hready], by simp [PerStream.get_set]⟩
    · simp only [PerStream.get_set, if_neg heq] at hs
      exact (h.drained s hs).of_eq rfl rfl (by simp [PerStream.get_set, heq])
  · intro s
    simp only [PerStream.get_set]
    split
    · exact .inr rfl
    · exact h.awaited s

theorem waiting (h : Sound st) {waiter : Waiter}
    (hstreams : ∀ s ∈ st.waiter.streams, s ∈ waiter.streams ∨ (st.forwarders.get s).finished = true) :
    Sound { st with waiter } :=
  ⟨h.orderly, h.exits, h.closes, h.silent,
    fun s hs => (h.drained s hs).of_eq rfl rfl rfl,
    fun s => (h.awaited s).elim (hstreams s) .inr⟩

/-- Every turn leaves a sound state sound. -/
theorem taken (h : Sound st) (ht : Taken st turn next) : Sound next := by
  cases ht with
  | wrote hdeeds hcount hlength hroom => exact h.wrote hdeeds _
  | closed hdeeds => exact h.closed hdeeds
  | exited hdeeds => exact h.exited hdeeds
  | read hcount hpending hready hfinished => exact h.forwarded hfinished _ _ _ _
  | reported hready => exact h.forwarded_kept (h.unfinished_of_ready hready) _ _ _
  | completed hclosed hpending hready hfinished hkept => exact h.forwarded_kept hfinished _ _ _
  | finished hclosed hpending hready hfinished hkept =>
    exact h.finished hclosed hpending hready hkept
  | noticedExit hwaiter hexited => exact h.waiting fun s _ => .inl (Stream.mem_all s)
  | failedWait hwaiter => exact h.waiting fun s _ => .inl (Stream.mem_all s)
  | noticedForwarder hwaiter hfinished =>
    refine h.waiting fun s hs => ?_
    rw [hwaiter] at hs
    rcases List.mem_cons.1 hs with rfl | hs
    · exact .inr hfinished
    · exact .inl hs
  | stopped hwaiter =>
    refine h.waiting fun s hs => ?_
    rw [hwaiter] at hs
    exact absurd hs (List.not_mem_nil)

end Sound

theorem Reaches.sound {capacities : PerStream Nat} {course : Course}
    (h : Reaches (start capacities course.deeds) st) : Sound st :=
  h.induct (sound_start capacities course) Sound.taken

end Supervision

end IdlBuild.Child
