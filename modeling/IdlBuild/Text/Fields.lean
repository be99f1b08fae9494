/-!
# Fields between separators

A text cut at every occurrence of one separator. `fields` never drops a piece: a list with `n`
separators has `n + 1` fields, empty ones included, and putting the separator back between them
gives the list again (`intercalated_fields`). Cutting a concatenation at a separator that stands
between two lists gives the fields of the one followed by those of the other (`fields_append`).
-/

namespace IdlBuild.Text

variable {α : Type} [DecidableEq α]

/-! ### Cutting -/

/-- The pieces between the occurrences of `sep`, in order. -/
def fields (sep : α) : List α → List (List α)
  | [] => [[]]
  | c :: cs =>
    if c = sep then [] :: fields sep cs
    else match fields sep cs with
      | [] => [[c]]
      | piece :: pieces => (c :: piece) :: pieces

theorem fields_nil (sep : α) : fields sep [] = [[]] := rfl

theorem fields_cons (sep c : α) (cs : List α) :
    fields sep (c :: cs) =
      if c = sep then [] :: fields sep cs
      else match fields sep cs with
        | [] => [[c]]
        | piece :: pieces => (c :: piece) :: pieces := rfl

/-- The pieces with `sep` between each two neighbours. -/
def intercalated (sep : α) : List (List α) → List α
  | [] => []
  | [piece] => piece
  | piece :: next :: pieces => piece ++ sep :: intercalated sep (next :: pieces)

theorem fields_ne_nil (sep : α) (cs : List α) : fields sep cs ≠ [] := by
  cases cs with
  | nil => simp [fields_nil]
  | cons c cs =>
    simp only [fields_cons]
    split
    · simp
    · split <;> simp

theorem fields_cons_of_ne {sep c : α} (h : c ≠ sep) (cs : List α) :
    ∃ piece pieces, fields sep cs = piece :: pieces ∧
      fields sep (c :: cs) = (c :: piece) :: pieces := by
  cases hf : fields sep cs with
  | nil => exact absurd hf (fields_ne_nil sep cs)
  | cons piece pieces => exact ⟨piece, pieces, rfl, by simp [fields_cons, h, hf]⟩

/-- Cutting loses nothing. -/
theorem intercalated_fields (sep : α) (cs : List α) : intercalated sep (fields sep cs) = cs := by
  induction cs with
  | nil => rfl
  | cons c cs ih =>
    by_cases h : c = sep
    · subst h
      cases hf : fields c cs with
      | nil => exact absurd hf (fields_ne_nil c cs)
      | cons piece pieces =>
        rw [hf] at ih
        simp [fields_cons, hf, intercalated, ih]
    · obtain ⟨piece, pieces, hf, hc⟩ := fields_cons_of_ne h cs
      rw [hf] at ih
      rw [hc]
      cases pieces with
      | nil => simpa [intercalated] using ih
      | cons next rest => simpa [intercalated] using ih

/-- A separator between two lists is a cut. -/
theorem fields_append (sep : α) (as bs : List α) :
    fields sep (as ++ sep :: bs) = fields sep as ++ fields sep bs := by
  induction as with
  | nil => simp [fields_nil, fields_cons]
  | cons a as ih =>
    by_cases h : a = sep
    · simp [fields_cons, h, ih]
    · obtain ⟨piece, pieces, hf, hc⟩ := fields_cons_of_ne h as
      simp [fields_cons, h, ih, hf]

/-- The last piece of a list goes on in the list that follows. -/
theorem fields_append_last (sep : α) (as bs : List α) :
    fields sep (as ++ bs) =
      (fields sep as).dropLast ++ fields sep ((fields sep as).getLast?.getD [] ++ bs) := by
  induction as with
  | nil => rfl
  | cons a as ih =>
    by_cases h : a = sep
    · subst h
      cases hf : fields a as with
      | nil => exact absurd hf (fields_ne_nil a as)
      | cons piece pieces =>
        rw [hf] at ih
        simp [fields_cons, hf, ih]
    · obtain ⟨piece, pieces, hf, hc⟩ := fields_cons_of_ne h as
      rw [hf] at ih
      rw [hc, List.cons_append]
      cases pieces with
      | nil =>
        simp only [List.dropLast_singleton, List.nil_append, List.getLast?_singleton,
          Option.getD_some] at ih ⊢
        rw [List.cons_append, fields_cons, fields_cons, if_neg h, if_neg h, ih]
      | cons next rest =>
        simp only [List.dropLast_cons_cons, List.cons_append, List.getLast?_cons_cons] at ih ⊢
        rw [fields_cons, if_neg h, ih]

/-- The pieces and the separators between them have the length of the list. -/
theorem length_flatten_fields (sep : α) (cs : List α) :
    (fields sep cs).flatten.length + (fields sep cs).length = cs.length + 1 := by
  induction cs with
  | nil => rfl
  | cons c cs ih =>
    by_cases h : c = sep
    · simp only [fields_cons, h, if_true, List.flatten_cons, List.length_append, List.length_cons,
        List.length_nil]
      omega
    · obtain ⟨piece, pieces, hf, hc⟩ := fields_cons_of_ne h cs
      rw [hf] at ih
      rw [hc]
      simp only [List.flatten_cons, List.length_append, List.length_cons] at ih ⊢
      omega

/-- There is a field more than there are separators. -/
theorem length_fields_le (sep : α) (cs : List α) : (fields sep cs).length ≤ cs.length + 1 := by
  induction cs with
  | nil => exact Nat.le_refl _
  | cons c cs ih =>
    by_cases h : c = sep
    · simp [fields_cons, h, ih]
    · obtain ⟨piece, pieces, hf, hc⟩ := fields_cons_of_ne h cs
      rw [hf] at ih
      rw [hc]
      exact Nat.le_succ_of_le ih

omit [DecidableEq α] in
theorem intercalate_eq_intercalated (sep : α) (pieces : List (List α)) :
    [sep].intercalate pieces = intercalated sep pieces := by
  induction pieces with
  | nil => rfl
  | cons piece pieces ih =>
    cases pieces with
    | nil => simp [intercalated]
    | cons next rest => simp [intercalated, ← ih]

/-- No piece holds the separator. -/
theorem not_mem_of_mem_fields {sep : α} {cs piece : List α} (h : piece ∈ fields sep cs) :
    sep ∉ piece := by
  induction cs generalizing piece with
  | nil => simp_all [fields_nil]
  | cons c cs ih =>
    by_cases hc : c = sep
    · subst hc
      simp only [fields_cons, if_true, List.mem_cons] at h
      rcases h with h | h
      · simp [h]
      · exact ih h
    · obtain ⟨first, rest, hf, hcons⟩ := fields_cons_of_ne hc cs
      rw [hcons, List.mem_cons] at h
      rw [hf] at ih
      rcases h with h | h
      · subst h
        have hfirst := ih (List.mem_cons_self ..)
        simp [hfirst, Ne.symm hc]
      · exact ih (List.mem_cons_of_mem _ h)

/-- The pieces hold nothing new. -/
theorem mem_of_mem_fields {sep a : α} {cs piece : List α} (h : piece ∈ fields sep cs)
    (ha : a ∈ piece) : a ∈ cs := by
  induction cs generalizing piece with
  | nil => simp_all [fields_nil]
  | cons c cs ih =>
    by_cases hc : c = sep
    · simp only [fields_cons, hc, if_true, List.mem_cons] at h
      rcases h with rfl | h
      · simp at ha
      · exact List.mem_cons_of_mem _ (ih h ha)
    · obtain ⟨first, rest, hf, hcons⟩ := fields_cons_of_ne hc cs
      rw [hcons, List.mem_cons] at h
      rw [hf] at ih
      rcases h with rfl | h
      · rcases List.mem_cons.1 ha with rfl | ha
        · exact List.mem_cons_self ..
        · exact List.mem_cons_of_mem _ (ih (List.mem_cons_self ..) ha)
      · exact List.mem_cons_of_mem _ (ih (List.mem_cons_of_mem _ h) ha)

/-- A list without the separator is one field. -/
theorem fields_of_not_mem {sep : α} {cs : List α} (h : sep ∉ cs) : fields sep cs = [cs] := by
  induction cs with
  | nil => rfl
  | cons c cs ih =>
    simp only [List.mem_cons, not_or] at h
    simp [fields_cons, Ne.symm h.1, ih h.2]

/-- Pieces without the separator are found again. -/
theorem fields_intercalated {sep : α} {pieces : List (List α)} (hne : pieces ≠ [])
    (h : ∀ piece ∈ pieces, sep ∉ piece) : fields sep (intercalated sep pieces) = pieces := by
  induction pieces with
  | nil => exact absurd rfl hne
  | cons piece pieces ih =>
    have hpiece : sep ∉ piece := h piece (List.mem_cons_self ..)
    cases pieces with
    | nil => exact fields_of_not_mem hpiece
    | cons next rest =>
      have hrest := ih (by simp) fun q hq => h q (List.mem_cons_of_mem _ hq)
      simp only [intercalated]
      rw [fields_append, fields_of_not_mem hpiece, hrest]
      rfl

/-! ### The first and the last cut -/

/-- The part before the first `sep` and the part after it. -/
def cutFirst (sep : α) : List α → Option (List α × List α)
  | [] => none
  | c :: cs =>
    if c = sep then some ([], cs)
    else (cutFirst sep cs).map fun (before, after) => (c :: before, after)

/-- The part before the last `sep` and the part after it. -/
def cutLast (sep : α) : List α → Option (List α × List α)
  | [] => none
  | c :: cs =>
    match cutLast sep cs with
    | some (before, after) => some (c :: before, after)
    | none => if c = sep then some ([], cs) else none

theorem cutFirst_nil (sep : α) : cutFirst sep [] = none := rfl

theorem cutFirst_cons (sep c : α) (cs : List α) :
    cutFirst sep (c :: cs) =
      if c = sep then some ([], cs)
      else (cutFirst sep cs).map fun (before, after) => (c :: before, after) := rfl

theorem cutLast_nil (sep : α) : cutLast sep [] = none := rfl

theorem cutLast_cons (sep c : α) (cs : List α) :
    cutLast sep (c :: cs) =
      match cutLast sep cs with
      | some (before, after) => some (c :: before, after)
      | none => if c = sep then some ([], cs) else none := rfl

theorem cutFirst_eq_none_iff {sep : α} {cs : List α} : cutFirst sep cs = none ↔ sep ∉ cs := by
  induction cs with
  | nil => simp [cutFirst_nil]
  | cons c cs ih =>
    by_cases h : c = sep
    · simp [cutFirst_cons, h]
    · simp [cutFirst_cons, h, ih, Ne.symm h]

/-- The first cut is at a separator with none before it. -/
theorem cutFirst_append {sep : α} {before : List α} (h : sep ∉ before) (after : List α) :
    cutFirst sep (before ++ sep :: after) = some (before, after) := by
  induction before with
  | nil => simp [cutFirst_cons]
  | cons b before ih =>
    simp only [List.mem_cons, not_or] at h
    simp [cutFirst_cons, Ne.symm h.1, ih h.2]

theorem cutLast_eq_none_iff {sep : α} {cs : List α} : cutLast sep cs = none ↔ sep ∉ cs := by
  induction cs with
  | nil => simp [cutLast_nil]
  | cons c cs ih =>
    cases hl : cutLast sep cs with
    | none =>
      have hn := ih.1 hl
      by_cases h : c = sep
      · simp [cutLast_cons, hl, h]
      · simp [cutLast_cons, hl, h, hn, Ne.symm h]
    | some cut =>
      have hm : sep ∈ cs := by
        rcases Classical.em (sep ∈ cs) with hm | hm
        · exact hm
        · rw [ih.2 hm] at hl
          cases hl
      simp [cutLast_cons, hl, hm]

/-- The last cut is at a separator with none after it. -/
theorem cutLast_append {sep : α} {after : List α} (h : sep ∉ after) (before : List α) :
    cutLast sep (before ++ sep :: after) = some (before, after) := by
  induction before with
  | nil => simp [cutLast_cons, cutLast_eq_none_iff.2 h]
  | cons b before ih => simp [cutLast_cons, ih]

/-- The last cut puts the list back together, and nothing after it is a separator. -/
theorem eq_of_cutLast_eq_some {sep : α} {cs before after : List α}
    (h : cutLast sep cs = some (before, after)) : cs = before ++ sep :: after ∧ sep ∉ after := by
  induction cs generalizing before with
  | nil => simp [cutLast_nil] at h
  | cons c cs ih =>
    cases hl : cutLast sep cs with
    | none =>
      by_cases hc : c = sep
      · simp only [cutLast_cons, hl, hc, if_true, Option.some.injEq, Prod.mk.injEq] at h
        obtain ⟨rfl, rfl⟩ := h
        exact ⟨by simp [hc], cutLast_eq_none_iff.1 hl⟩
      · simp [cutLast_cons, hl, hc] at h
    | some cut =>
      obtain ⟨b, a⟩ := cut
      simp only [cutLast_cons, hl, Option.some.injEq, Prod.mk.injEq] at h
      obtain ⟨rfl, rfl⟩ := h
      have hrec := ih hl
      exact ⟨by simp [← hrec.1], hrec.2⟩

end IdlBuild.Text
