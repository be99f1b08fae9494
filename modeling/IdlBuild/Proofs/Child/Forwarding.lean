import IdlBuild.Proofs.Child.Progress

/-!
# Every line is reported once

What has been reported of a stream, the lines that are ready, and the lines that the rest of its bytes
make are together the lines of all that is written on it; every turn keeps this
(`promised_of_taken`). When the waiter returns, nothing is ready and no bytes are left, so the report
is a merge of the lines of the two streams (`merges_of_returned`), and nothing is reported later
(`lines_of_returned`).
-/

namespace IdlBuild.Child

/-! ### Merges -/

/-- Two lists put together, each in its own order. -/
inductive Merges {α : Type} : List α → List α → List α → Prop where
  | nil : Merges [] [] []
  | left {x : α} {xs ys zs : List α} (h : Merges xs ys zs) : Merges (x :: xs) ys (x :: zs)
  | right {y : α} {xs ys zs : List α} (h : Merges xs ys zs) : Merges xs (y :: ys) (y :: zs)

/-- A list is a merge of the elements of two kinds when there is no other kind. -/
theorem merges_filter {α : Type} {p q : α → Bool} {zs : List α}
    (h : ∀ z ∈ zs, p z = !q z) : Merges (zs.filter p) (zs.filter q) zs := by
  induction zs with
  | nil => exact .nil
  | cons z zs ih =>
    have hrest := ih fun z hz => h z (List.mem_cons_of_mem _ hz)
    have hfirst := h z (List.mem_cons_self ..)
    cases hq : q z with
    | true =>
      rw [hq] at hfirst
      rw [List.filter_cons_of_pos hq, List.filter_cons_of_neg (by simp [hfirst])]
      exact .right hrest
    | false =>
      rw [hq] at hfirst
      rw [List.filter_cons_of_pos hfirst]
      rw [List.filter_cons_of_neg (by simp [hq] : ¬ q z = true)]
      exact .left hrest

namespace Supervision

variable {st next : Supervision} {turn : Turn}

/-! ### What is promised of a stream -/

/-- What has been reported of a stream. -/
def told (st : Supervision) (s : Stream) : List String :=
  (Journal.mk st.lines).messagesAt s.severity

/-- The bytes of a stream that end no line that has been read. -/
def unread (st : Supervision) (s : Stream) : Text.Bytes :=
  (st.forwarders.get s).kept ++ (st.pipes.get s).pending ++ written s st.deeds

/-- All that will have been reported of a stream. -/
def promised (st : Supervision) (s : Stream) : List String :=
  st.told s ++ (st.forwarders.get s).ready ++ Lines.ofBytes (st.unread s)

theorem told_reported (st : Supervision) (stream : Stream) (line : String)
    (forwarders : PerStream Forwarder) (s : Stream) :
    told { st with forwarders, reported := ⟨stream.severity, line⟩ :: st.reported } s
      = st.told s ++ if s = stream then [line] else [] := by
  simp only [told, lines, Journal.messagesAt, List.reverse_cons, List.filter_append,
    List.map_append]
  by_cases hs : s = stream
  · subst hs
    simp
  · have hseverity : stream.severity ≠ s.severity := fun h => hs (Stream.severity_injective h.symm)
    simp [hs, hseverity]

/-- A line that ends no earlier turn begins it. -/
def Whole (st : Supervision) : Prop := ∀ s, Lines.lineFeed ∉ (st.forwarders.get s).kept

theorem Whole.taken (h : Whole st) (ht : Taken st turn next) : Whole next := by
  intro s
  have hs := h s
  cases ht with
  | @read stream count hcount hpending hready hfinished =>
    simp only [PerStream.get_set]
    split
    · exact Lines.not_mem_kept _
    · exact hs
  | completed hclosed hpending hready hfinished hkept =>
    simp only [PerStream.get_set]
    split
    · exact List.not_mem_nil
    · exact hs
  | reported hready =>
    rwa [PerStream.apply_get_set Forwarder.kept st.forwarders _ _ (by rfl)]
  | finished hclosed hpending hready hfinished hkept =>
    rwa [PerStream.apply_get_set Forwarder.kept st.forwarders _ _ (by rfl)]
  | wrote | closed | exited | noticedExit | failedWait | noticedForwarder | stopped => exact hs

theorem unread_of_wrote {w : Write} {rest : List Deed} (hdeeds : st.deeds = .write w :: rest)
    (count : Nat) (s : Stream) :
    unread { st with
      deeds := afterWriting count w rest
      pipes := st.pipes.set { st.pipes.get w.stream with
        pending := (st.pipes.get w.stream).pending ++ w.bytes.take count } w.stream } s
      = st.unread s := by
  have hwritten := written_afterWriting s count w rest
  rw [← hdeeds] at hwritten
  simp only [unread, PerStream.get_set, ← hwritten]
  by_cases hs : s = w.stream
  · subst hs
    simp
  · simp [hs, Ne.symm hs]

/-- What is read of a stream begins with what was kept and goes on in what is left. -/
theorem ofBytes_unread_of_read (st : Supervision) (stream : Stream) (count : Nat) :
    Lines.ofBytes (st.unread stream) =
      (Lines.completeLines ((st.forwarders.get stream).kept
          ++ (st.pipes.get stream).pending.take count)).1.map Lines.lineText ++
        Lines.ofBytes ((Lines.completeLines ((st.forwarders.get stream).kept
          ++ (st.pipes.get stream).pending.take count)).2
            ++ ((st.pipes.get stream).pending.drop count ++ written stream st.deeds)) := by
  have hpending := List.take_append_drop count (st.pipes.get stream).pending
  have hunread : st.unread stream =
      ((st.forwarders.get stream).kept ++ (st.pipes.get stream).pending.take count)
        ++ ((st.pipes.get stream).pending.drop count ++ written stream st.deeds) := by
    rw [List.append_assoc, ← List.append_assoc (List.take count _), hpending, unread,
      List.append_assoc]
  rw [hunread, Lines.ofBytes_append]

/-- No turn changes what is promised. -/
theorem promised_of_taken (h : Sound st) (hwhole : Whole st) (ht : Taken st turn next)
    (s : Stream) : next.promised s = st.promised s := by
  cases ht with
  | @wrote w rest count hdeeds hcount hlength hroom =>
    have hunread := unread_of_wrote hdeeds count s
    exact congrArg (st.told s ++ (st.forwarders.get s).ready ++ Lines.ofBytes ·) hunread
  | @closed stream rest hdeeds =>
    have hpending := PerStream.apply_get_set Pipe.pending st.pipes
      { st.pipes.get stream with closed := true } stream rfl s
    simp only [promised, unread, hpending, hdeeds]
    rfl
  | exited hdeeds =>
    simp only [promised, unread, hdeeds]
    rfl
  | @read stream count hcount hpending hready hfinished =>
    by_cases hs : s = stream
    · subst hs
      rw [promised, promised, ofBytes_unread_of_read st s count, hready]
      simp only [unread, PerStream.get_set, if_true, List.append_nil, List.append_assoc]
      rfl
    · simp only [promised, unread, PerStream.get_set, if_neg hs]
      rfl
  | @reported stream line ready hready =>
    have htold := told_reported st stream line
      (st.forwarders.set { st.forwarders.get stream with ready } stream) s
    by_cases hs : s = stream
    · subst hs
      simp only [promised, unread, PerStream.get_set, if_true] at htold ⊢
      rw [htold, hready]
      simp
    · simp only [promised, unread, PerStream.get_set, if_neg hs] at htold ⊢
      rw [htold, List.append_nil]
  | @completed stream hclosed hpending hready hfinished hkept =>
    by_cases hs : s = stream
    · subst hs
      have hwritten := written_eq_nil (h.silent s hclosed)
      have hlast := Lines.ofBytes_of_not_mem (hwhole s)
      rw [Lines.lastLine, if_neg hkept] at hlast
      have hnone : Lines.ofBytes [] = [] := rfl
      simp only [promised, unread, PerStream.get_set, if_true, hpending, hwritten,
        List.append_nil, hready, hlast, hnone]
      rfl
    · simp only [promised, unread, PerStream.get_set, if_neg hs]
      rfl
  | @finished stream hclosed hpending hready hfinished hkept =>
    by_cases hs : s = stream
    · subst hs
      simp only [promised, unread, PerStream.get_set, if_true]
      rfl
    · simp only [promised, unread, PerStream.get_set, if_neg hs]
      rfl
  | noticedExit | failedWait | noticedForwarder | stopped => rfl

/-! ### What is reported in the end -/

theorem reaches_promised {capacities : PerStream Nat} {course : Course}
    (h : Reaches (start capacities course.deeds) st) (s : Stream) :
    st.promised s = Lines.ofBytes (written s course.deeds) := by
  have hall : Sound st ∧ Whole st ∧ ∀ s, st.promised s = Lines.ofBytes (written s course.deeds) := by
    refine h.induct (P := fun st => Sound st ∧ Whole st ∧
      ∀ s, st.promised s = Lines.ofBytes (written s course.deeds))
      ⟨sound_start capacities course, ?_, ?_⟩ ?_
    · intro s
      cases s <;> exact List.not_mem_nil
    · intro s
      cases s <;> rfl
    · intro before after turn hbefore htaken
      obtain ⟨hsound, hwhole, hpromised⟩ := hbefore
      refine ⟨hsound.taken htaken, hwhole.taken htaken, fun s => ?_⟩
      rw [promised_of_taken hsound hwhole htaken s, hpromised s]
  exact hall.2.2 s

/-- Every line that is reported is one of a stream. -/
theorem reaches_severities {capacities : PerStream Nat} {deeds : List Deed}
    (h : Reaches (start capacities deeds) st) :
    ∀ line ∈ st.lines, line.severity = .info ∨ line.severity = .error := by
  refine h.induct (P := fun st => ∀ line ∈ st.lines, line.severity = .info ∨ line.severity = .error)
    ?_ ?_
  · intro line hline
    cases hline
  · intro before after turn hbefore htaken
    cases htaken with
    | @reported stream text ready hready =>
      intro line hline
      simp only [lines, List.reverse_cons, List.mem_append, List.mem_singleton] at hline
      rcases hline with hline | rfl
      · exact hbefore line hline
      · cases stream
        · exact .inl rfl
        · exact .inr rfl
    | wrote | closed | exited | read | completed | finished | noticedExit | failedWait
    | noticedForwarder | stopped => exact hbefore

theorem map_messagesAt (journal : Journal) (severity : Severity) :
    (journal.messagesAt severity).map (Line.mk severity)
      = journal.lines.filter (·.severity = severity) := by
  rw [Journal.messagesAt, List.map_map]
  have hline : ∀ line ∈ journal.lines.filter (·.severity = severity),
      (Line.mk severity ∘ Line.message) line = line := by
    intro line hline
    have hseverity := (List.mem_filter.1 hline).2
    rw [decide_eq_true_eq] at hseverity
    rw [Function.comp_apply, ← hseverity]
  rw [List.map_congr_left hline, List.map_id']

/-- The lines of a stream as they are reported. -/
def linesOf (s : Stream) (bytes : Text.Bytes) : List Line :=
  (Lines.ofBytes bytes).map (Line.mk s.severity)

theorem filter_lines_of_drained {capacities : PerStream Nat} {course : Course}
    (h : Reaches (start capacities course.deeds) st) {s : Stream} (hs : Drained st s) :
    st.lines.filter (·.severity = s.severity) = linesOf s (written s course.deeds) := by
  have hpromised := reaches_promised h s
  have hnone : Lines.ofBytes [] = [] := rfl
  rw [promised, unread, hs.kept, hs.pending, hs.ready, hs.written, List.append_nil,
    List.append_nil, List.append_nil, hnone, List.append_nil] at hpromised
  rw [linesOf, ← hpromised, told, map_messagesAt]

/-- When the waiter has returned, the report is a merge of the lines of the two streams. -/
theorem merges_of_returned {capacities : PerStream Nat} {course : Course}
    (h : Reaches (start capacities course.deeds) st) (hwaiter : st.waiter = .nothing) :
    Merges (linesOf .output (written .output course.deeds))
      (linesOf .errors (written .errors course.deeds)) st.lines := by
  have hdrained := h.sound.all_drained hwaiter
  rw [← filter_lines_of_drained h (hdrained .output),
    ← filter_lines_of_drained h (hdrained .errors)]
  apply merges_filter
  intro line hline
  rcases reaches_severities h line hline with hinfo | herror
  · simp [hinfo, Stream.severity]
  · simp [herror, Stream.severity]

/-- Once it has returned, nothing more is reported. -/
theorem lines_of_returned {later : Supervision} (hsound : Sound st)
    (hwaiter : st.waiter = .nothing) (h : Reaches st later) : later.lines = st.lines := by
  have hall : Sound later ∧ later.waiter = .nothing ∧ later.lines = st.lines := by
    refine h.induct (P := fun later =>
      Sound later ∧ later.waiter = .nothing ∧ later.lines = st.lines) ⟨hsound, hwaiter, rfl⟩ ?_
    intro before after turn hbefore htaken
    obtain ⟨hsound, hwaiter, hlines⟩ := hbefore
    refine ⟨hsound.taken htaken, ?_⟩
    cases htaken with
    | @reported stream line ready hready =>
      have hnone := (hsound.all_drained hwaiter stream).ready
      rw [hready] at hnone
      cases hnone
    | wrote | closed | exited | read | completed | finished => exact ⟨hwaiter, hlines⟩
    | noticedExit hchild | failedWait hchild | noticedForwarder hchild | stopped hchild =>
      rw [hwaiter] at hchild
      cases hchild
  exact hall.2.2

/-- Whatever turns are taken, a whole supervision reports every line of either stream once. -/
theorem supervise_merges (turns : List Turn) (course : Course) :
    Merges (linesOf .output (written .output course.deeds))
      (linesOf .errors (written .errors course.deeds)) (supervise turns course.deeds) := by
  have hcapacities : ∀ s, 1 ≤ (PerStream.mk pipeCapacity pipeCapacity).get s := fun s => by
    cases s <;> decide
  obtain ⟨hreach, hwaiter⟩ := finish_returns hcapacities course turns
  exact merges_of_returned hreach hwaiter

end Supervision

end IdlBuild.Child
