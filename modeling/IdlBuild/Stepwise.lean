/-!
# Steps in turn

A step changes a state and may fail. Steps for the elements of a list are taken in turn, and the
first that fails is the last that is taken (`inTurn_append`); the changes made until then stay.
-/

namespace IdlBuild

/-! ### Two steps -/

theorem bind_eq_ok_iff {α β ε : Type} {result : Except ε α} {next : α → Except ε β} {b : β} :
    result >>= next = .ok b ↔ ∃ a, result = .ok a ∧ next a = .ok b := by
  cases result with
  | error fault => simp [bind, Except.bind]
  | ok a => simp [bind, Except.bind]

theorem bind_eq_error_iff {α β ε : Type} {result : Except ε α} {next : α → Except ε β} {e : ε} :
    result >>= next = .error e ↔ result = .error e ∨ ∃ a, result = .ok a ∧ next a = .error e := by
  cases result with
  | error fault => simp [bind, Except.bind]
  | ok a => simp [bind, Except.bind]

/-! ### Steps for a list -/

/-- Takes a step for each element until one fails. -/
def inTurn {σ α ε : Type} (step : σ → α → Except ε Unit × σ) : σ → List α → Except ε Unit × σ
  | state, [] => (.ok (), state)
  | state, a :: rest =>
    match step state a with
    | (.ok (), state) => inTurn step state rest
    | (.error e, state) => (.error e, state)

theorem inTurn_nil {σ α ε : Type} (step : σ → α → Except ε Unit × σ) (state : σ) :
    inTurn step state [] = (.ok (), state) := rfl

theorem inTurn_cons {σ α ε : Type} (step : σ → α → Except ε Unit × σ) (state : σ) (a : α)
    (rest : List α) :
    inTurn step state (a :: rest) =
      match step state a with
      | (.ok (), state) => inTurn step state rest
      | (.error e, state) => (.error e, state) := rfl

/-- The elements of a second list are reached when no step of the first fails. -/
theorem inTurn_append {σ α ε : Type} (step : σ → α → Except ε Unit × σ) (state : σ)
    (as bs : List α) :
    inTurn step state (as ++ bs) =
      match inTurn step state as with
      | (.ok (), after) => inTurn step after bs
      | (.error e, after) => (.error e, after) := by
  induction as generalizing state with
  | nil => rfl
  | cons a as ih =>
    simp only [List.cons_append, inTurn_cons]
    split
    · exact ih _
    · rfl

/-- Steps that keep two states related and end alike do so over a whole list. -/
theorem inTurn_related {σ τ α ε : Type} {R : σ → τ → Prop} {step : σ → α → Except ε Unit × σ}
    {step' : τ → α → Except ε Unit × τ}
    (h : ∀ s t a, R s t → (step s a).1 = (step' t a).1 ∧ R (step s a).2 (step' t a).2)
    (as : List α) {s : σ} {t : τ} (hst : R s t) :
    (inTurn step s as).1 = (inTurn step' t as).1 ∧
      R (inTurn step s as).2 (inTurn step' t as).2 := by
  induction as generalizing s t with
  | nil => exact ⟨rfl, hst⟩
  | cons a as ih =>
    obtain ⟨hresult, hafter⟩ := h s t a hst
    rcases hs : step s a with ⟨e | ⟨⟩, s'⟩ <;> rcases ht : step' t a with ⟨e' | ⟨⟩, t'⟩ <;>
      simp only [hs, ht] at hresult hafter
    · simp only [inTurn_cons, hs, ht]
      exact ⟨hresult, hafter⟩
    · exact absurd hresult (by simp)
    · exact absurd hresult (by simp)
    · simp only [inTurn_cons, hs, ht]
      exact ih hafter

/-- No step fails when none fails for its element, whatever was done before. -/
theorem inTurn_ok_iff {σ α ε : Type} {Fine : α → Prop} {step : σ → α → Except ε Unit × σ}
    (h : ∀ s a, (step s a).1 = .ok () ↔ Fine a) (as : List α) (s : σ) :
    (inTurn step s as).1 = .ok () ↔ ∀ a ∈ as, Fine a := by
  induction as generalizing s with
  | nil => simp [inTurn_nil]
  | cons a as ih =>
    have hfirst := h s a
    rcases hstep : step s a with ⟨e | ⟨⟩, s'⟩
    · rw [hstep] at hfirst
      simp only [inTurn_cons, hstep, reduceCtorEq, false_iff] at hfirst ⊢
      exact fun hall => hfirst (hall a (List.mem_cons_self ..))
    · rw [hstep] at hfirst
      simp only [inTurn_cons, hstep, ih, List.forall_mem_cons, hfirst.1 rfl, true_and]

/-- An element whose step always fails is not passed. -/
theorem inTurn_ne_ok {σ α ε : Type} {step : σ → α → Except ε Unit × σ} {a : α}
    (h : ∀ s, (step s a).1 ≠ .ok ()) {as : List α} (ha : a ∈ as) (s : σ) :
    (inTurn step s as).1 ≠ .ok () := by
  induction as generalizing s with
  | nil => cases ha
  | cons b as ih =>
    rcases hstep : step s b with ⟨e | ⟨⟩, s'⟩
    · simp [inTurn_cons, hstep]
    · simp only [inTurn_cons, hstep]
      rcases List.mem_cons.1 ha with rfl | ha
      · exact absurd (congrArg Prod.fst hstep) (h s)
      · exact ih ha s'

/-- A failure is that of an element in front of which no step fails. -/
theorem exists_of_inTurn_error {σ α ε : Type} {step : σ → α → Except ε Unit × σ} {as : List α}
    {s : σ} {e : ε} (h : (inTurn step s as).1 = .error e) :
    ∃ front a rest middle, as = front ++ a :: rest ∧ inTurn step s front = (.ok (), middle) ∧
      (step middle a).1 = .error e := by
  induction as generalizing s with
  | nil => cases h
  | cons a as ih =>
    rcases hstep : step s a with ⟨e' | ⟨⟩, s'⟩
    · simp only [inTurn_cons, hstep] at h
      exact ⟨[], a, as, s, rfl, rfl, by rw [hstep, h]⟩
    · simp only [inTurn_cons, hstep] at h
      obtain ⟨front, b, rest, middle, rfl, hfront, hfailed⟩ := ih h
      exact ⟨a :: front, b, rest, middle, rfl, by simp only [inTurn_cons, hstep, hfront], hfailed⟩

/-- When steps only add to what holds of a state, then all that they add holds in the end. -/
theorem inTurn_adds {σ α β ε : Type} {Holds : σ → β → Prop} {Adds : α → β → Prop}
    {step : σ → α → Except ε Unit × σ}
    (h : ∀ s a, (step s a).1 = .ok () → ∀ b, Holds (step s a).2 b ↔ Holds s b ∨ Adds a b)
    (as : List α) {s : σ} (hok : (inTurn step s as).1 = .ok ()) (b : β) :
    Holds (inTurn step s as).2 b ↔ Holds s b ∨ ∃ a ∈ as, Adds a b := by
  induction as generalizing s with
  | nil => simp [inTurn_nil]
  | cons a as ih =>
    have hfirst := h s a
    rcases hstep : step s a with ⟨e | ⟨⟩, s'⟩
    · simp [inTurn_cons, hstep] at hok
    · simp only [inTurn_cons, hstep] at hok ⊢
      rw [hstep] at hfirst
      rw [ih hok, hfirst rfl b]
      simp only [List.mem_cons, or_and_right, exists_or, exists_eq_left, or_assoc]

/-- When each step writes something behind what was written, then all of it stands there in order. -/
theorem inTurn_writes {σ α β ε : Type} (written : σ → List β) {writes : α → List β}
    {step : σ → α → Except ε Unit × σ}
    (h : ∀ s a, (step s a).1 = .ok () → written (step s a).2 = written s ++ writes a)
    (as : List α) {s : σ} (hok : (inTurn step s as).1 = .ok ()) :
    written (inTurn step s as).2 = written s ++ as.flatMap writes := by
  induction as generalizing s with
  | nil => simp [inTurn_nil]
  | cons a as ih =>
    have hfirst := h s a
    rcases hstep : step s a with ⟨e | ⟨⟩, s'⟩
    · simp [inTurn_cons, hstep] at hok
    · simp only [inTurn_cons, hstep] at hok ⊢
      rw [hstep] at hfirst
      rw [ih hok, hfirst rfl, List.flatMap_cons, List.append_assoc]

/-- What every step keeps holds after a whole list. -/
theorem inTurn_keeps {σ α ε : Type} {P : σ → Prop} {step : σ → α → Except ε Unit × σ} (as : List α)
    (h : ∀ s, ∀ a ∈ as, P s → P (step s a).2) {s : σ} (hs : P s) : P (inTurn step s as).2 := by
  induction as generalizing s with
  | nil => exact hs
  | cons a as ih =>
    have hafter := h s a (List.mem_cons_self ..) hs
    have hrest := fun t b hb => h t b (List.mem_cons_of_mem a hb)
    rcases hstep : step s a with ⟨e | ⟨⟩, s'⟩
    · simp only [inTurn_cons, hstep]
      rwa [hstep] at hafter
    · simp only [inTurn_cons, hstep]
      rw [hstep] at hafter
      exact ih hrest hafter

end IdlBuild
