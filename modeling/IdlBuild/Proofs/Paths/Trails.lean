import IdlBuild.Proofs.FileSystem.Leading
import IdlBuild.Proofs.Paths.Components

/-!
# Trails

The trail of a path is what it says between its slashes, as pieces for a walk. A path that ends with
the piece that means something last (`EndsWith`) is followed along its trail, and so is its parent
along all of the trail but the last piece (`endsWith_parent`). The paths that parents lead to are
the ancestors of a path. Dots in front of a path do not change where it ends (`endsWith_dotted`).
-/

namespace IdlBuild

namespace Path

open Text (Bytes)

/-! ### Ends -/

theorem bytes_ofPiece {piece : Bytes} {c : Component}
    (h : Component.ofPiece? piece = some c) : c.bytes = piece := by
  unfold Component.ofPiece? at h
  split_ifs at h with hidle hup
  · cases h
    rw [hup]
    decide
  · rw [← Option.some.inj h, Component.bytes]

theorem ofPiece_ne_nil {piece : Bytes} {c : Component}
    (h : Component.ofPiece? piece = some c) : piece ≠ [] ∧ piece ≠ [dot] := by
  unfold Component.ofPiece? at h
  split_ifs at h with hidle hup
  · rw [hup]
    decide
  · exact not_or.1 hidle

/-- Whether the last piece of a path means something. -/
structure EndsWith (p : Path) (front : List Component) (last : Component) : Prop where
  body : p.body = front ++ [last]
  pieces : ∃ init, p.pieces = init ++ [last.bytes]

/-- The names between the slashes, for a walk. -/
def named (p : Path) : List FileName := p.pieces.filter (· ≠ [])

theorem filter_named (pieces : List Bytes) :
    (pieces.filter (· ≠ [])).filter (· ≠ [dot])
      = (pieces.filterMap Component.ofPiece?).map Component.bytes := by
  induction pieces with
  | nil => rfl
  | cons piece pieces ih =>
    cases hpiece : Component.ofPiece? piece with
    | none =>
      have hidle : piece = [] ∨ piece = [dot] := by
        unfold Component.ofPiece? at hpiece
        split_ifs at hpiece with h
        exact h
      rw [List.filterMap_cons_none hpiece]
      rcases hidle with rfl | rfl
      · simpa using ih
      · simpa using ih
    | some c =>
      obtain ⟨hne, hdot⟩ := ofPiece_ne_nil hpiece
      rw [List.filterMap_cons_some hpiece, List.filter_cons_of_pos (by simpa using hne),
        List.map_cons, List.filter_cons_of_pos (by simpa using hdot), ih, bytes_ofPiece hpiece]

namespace EndsWith

variable {p q : Path} {front : List Component} {last : Component}

theorem ofPiece_last (h : p.EndsWith front last) :
    Component.ofPiece? last.bytes = some last := by
  have hmem : last ∈ p.body := by
    rw [h.body]
    simp
  obtain ⟨piece, -, hpiece⟩ := List.mem_filterMap.1 hmem
  rwa [bytes_ofPiece hpiece]

theorem bytes_ne (h : p.EndsWith front last) : last.bytes ≠ [] ∧ last.bytes ≠ [dot] :=
  ofPiece_ne_nil h.ofPiece_last

theorem isPlain {name : FileName} (h : p.EndsWith front (.name name)) : IsPlain name := by
  have hmem : .name name ∈ p.components := by
    rw [components_eq, h.body]
    simp
  exact isPlain_of_name_mem hmem

theorem bytes_ne_nil (h : p.EndsWith front last) : p.bytes ≠ [] := by
  intro hbytes
  have hbody := h.body
  rw [Path.body, Path.pieces, hbytes, show Text.fields slash [] = [[]] by decide] at hbody
  simp [Component.ofPiece?] at hbody

/-- The names of a path that ends with a piece that means something: the front, with dots, and that
piece. -/
theorem named_eq (h : p.EndsWith front last) :
    ∃ init, p.named = init ++ [last.bytes] ∧
      init.filter (· ≠ [dot]) = front.map Component.bytes := by
  obtain ⟨init, hinit⟩ := h.pieces
  have hne : last.bytes ≠ [] := (ofPiece_ne_nil h.ofPiece_last).1
  refine ⟨init.filter (· ≠ []), ?_, ?_⟩
  · simp [named, hinit, List.filter_append, hne]
  · rw [filter_named]
    have hbody := h.body
    rw [Path.body, hinit, List.filterMap_append, List.filterMap_cons_some h.ofPiece_last,
      List.filterMap_nil] at hbody
    rw [List.append_cancel_right hbody]

theorem endsWithSlash (h : p.EndsWith front last) : p.endsWithSlash = false := by
  obtain ⟨init, hinit⟩ := h.pieces
  by_contra hslash
  have hlast : p.bytes.getLast? = some slash := by simpa [Path.endsWithSlash] using hslash
  obtain ⟨before, hbefore⟩ := List.getLast?_eq_some_iff.1 hlast
  rw [Path.pieces, hbefore, Text.fields_append, Text.fields] at hinit
  have hempty : [] = last.bytes := by simpa using congrArg List.getLast? hinit
  exact (ofPiece_ne_nil h.ofPiece_last).1 hempty.symm

theorem steps_eq (h : p.EndsWith front last) : FileSystem.steps p = p.named := by
  simp [FileSystem.steps, named, h.endsWithSlash]

end EndsWith

theorem body_eq_filter (p : Path) :
    p.body = p.components.filter fun c => c ≠ .root ∧ c ≠ .here := by
  have hhead : (if p.isAbsolute then [Component.root]
      else if p.inner.head? = some [dot] then [Component.here] else []).filter
        (fun c => decide (c ≠ .root ∧ c ≠ .here)) = [] := by
    split_ifs <;> rfl
  have hbody : p.body.filter (fun c => decide (c ≠ .root ∧ c ≠ .here)) = p.body := by
    rw [List.filter_eq_self]
    intro c hc
    simpa using ne_of_mem_body hc
  rw [components_eq, List.filter_append, hhead, hbody, List.nil_append]

theorem endsWith_join_name (p : Path) {s : FileName} (h : IsPlain s) :
    (p.join ⟨s⟩).EndsWith p.body (.name s) where
  body := by
    rw [body_eq_filter, components_join_name p h, List.filter_append, ← body_eq_filter]
    rfl
  pieces := by
    by_cases hp : p.bytes = []
    · rw [join_of_empty hp]
      exact ⟨[], pieces_of_isPlain h⟩
    · obtain ⟨front, -, hjoin, -⟩ := pieces_join hp (isAbsolute_of_isPlain h)
      exact ⟨front, by rw [hjoin, pieces_of_isPlain h]; rfl⟩

theorem EndsWith.join {q : Path} {front : List Component} {last : Component} (p : Path)
    (hq : q.isAbsolute = false) (h : q.EndsWith front last) :
    (p.join q).EndsWith (p.body ++ front) last := by
  by_cases hp : p.bytes = []
  · have hbody : p.body = [] := by rw [body_eq_filter, components_of_empty hp, List.filter_nil]
    rw [join_of_empty hp, hbody]
    exact h
  · obtain ⟨front', -, hjoin, -⟩ := pieces_join hp hq
    obtain ⟨init, hinit⟩ := h.pieces
    refine ⟨?_, front' ++ init, by rw [hjoin, hinit, List.append_assoc]⟩
    have hkept : q.body.filter (fun c => decide (c ≠ .root ∧ c ≠ .here)) = q.body := by
      rw [List.filter_eq_self]
      intro c hc
      simpa using ne_of_mem_body hc
    rw [body_eq_filter, components_join hp hq, List.filter_append, ← body_eq_filter, hkept, h.body,
      List.append_assoc]

/-! ### Parents -/

theorem pieces_eq (p : Path) : p.pieces = (if p.isAbsolute then [[]] else []) ++ p.inner := by
  by_cases h : p.isAbsolute = true
  · obtain ⟨rest, hrest⟩ := bytes_of_isAbsolute h
    simp [inner, h, pieces, hrest, Text.fields]
  · simp [inner, h]

theorem body_parent {p q : Path} (h : p.parent? = some q) : q.body = p.body.dropLast := by
  rw [body_eq_filter q, components_parent h, components_eq p]
  cases hbody : p.body using List.reverseRecOn with
  | nil =>
    rw [List.append_nil, List.dropLast_nil]
    split_ifs <;> rfl
  | append_singleton front last =>
    rw [← List.append_assoc, List.dropLast_concat, List.dropLast_concat, List.filter_append]
    have hkept : front.filter (fun c => decide (c ≠ .root ∧ c ≠ .here)) = front := by
      rw [List.filter_eq_self]
      intro c hc
      have hmem : c ∈ p.body := by
        rw [hbody]
        exact List.mem_append_left _ hc
      simpa using ne_of_mem_body hmem
    rw [hkept]
    split_ifs <;> rfl

/-- Parents end with a piece that means something, if there is one. -/
theorem endsWith_parent {p q : Path} (h : p.parent? = some q) {front : List Component}
    {last : Component} (hbody : q.body = front ++ [last]) : q.EndsWith front last := by
  obtain ⟨before, idle, piece, rest, hcut⟩ := exists_cut h
  have hqinner := hcut.inner_parent (isAbsolute_parent h)
  have hqbody := hcut.body_parent (isAbsolute_parent h)
  rw [hqbody] at hbody
  cases before using List.reverseRecOn with
  | nil => simp at hbody
  | append_singleton init x =>
    rw [Text.fields_intercalated (by simp) hcut.not_mem_slash] at hqinner
    rw [List.filterMap_append] at hbody
    have hx : Component.ofPiece? x = some last := by
      rcases hcut.tidy init x rfl with hsome | ⟨-, rfl, rfl⟩
      · obtain ⟨c, hc⟩ := Option.isSome_iff_exists.1 hsome
        rw [List.filterMap_cons_some hc, List.filterMap_nil] at hbody
        rw [hc, (List.append_inj' hbody rfl).2 |> List.singleton_inj.1]
      · simp [Component.ofPiece?] at hbody
    refine ⟨by rw [hqbody, List.filterMap_append, hbody], ?_⟩
    rw [pieces_eq, hqinner, bytes_ofPiece hx]
    exact ⟨_, (List.append_assoc _ _ _).symm⟩

theorem exists_parent {p : Path} {front : List Component} {last : Component}
    (hbody : p.body = front ++ [last]) : ∃ q, p.parent? = some q ∧ q.body = front := by
  cases hparent : p.parent? with
  | none =>
    rw [body_eq_filter] at hbody
    rcases components_of_parent_eq_none hparent with hnil | hroot
    · rw [hnil] at hbody
      simp at hbody
    · rw [hroot] at hbody
      simp at hbody
  | some q => exact ⟨q, rfl, by rw [body_parent hparent, hbody, List.dropLast_concat]⟩

/-- The paths that parents lead to. -/
inductive Ancestor : Path → Path → Prop where
  | parent {p q : Path} (h : p.parent? = some q) : Ancestor q p
  | further {p q r : Path} (h : p.parent? = some q) (hr : Ancestor r q) : Ancestor r p

theorem ancestor_iff {p q r : Path} (h : p.parent? = some q) :
    Ancestor r p ↔ r = q ∨ Ancestor r q := by
  constructor
  · intro hr
    cases hr with
    | parent h' => exact Or.inl (Option.some.inj (h'.symm.trans h))
    | further h' hr => exact Or.inr (Option.some.inj (h'.symm.trans h) ▸ hr)
  · rintro (rfl | hr)
    · exact .parent h
    · exact .further h hr

/-- An ancestor says the front of what the path says. -/
theorem Ancestor.body_isPrefix {p q : Path} (h : Ancestor q p) : q.body <+: p.body.dropLast := by
  induction h with
  | parent h => rw [body_parent h]
  | further h hr ih =>
    rw [← body_parent h]
    exact ih.trans (List.dropLast_prefix _)

theorem not_ancestor {p r : Path} (h : p.parent? = none) : ¬ Ancestor r p := by
  intro hr
  cases hr with
  | parent h' =>
    rw [h] at h'
    cases h'
  | further h' hr =>
    rw [h] at h'
    cases h'

/-! ### Dots in front -/

/-- A path with a number of dots before it. -/
def dotted : Nat → Path → Path
  | 0, p => p
  | n + 1, p => ⟨dot :: slash :: (dotted n p).bytes⟩

section Dotted

variable {p : Path} {front : List Component} {last : Component}

theorem bytes_dotted (n : Nat) (p : Path) :
    (dotted (n + 1) p).bytes = dot :: slash :: (dotted n p).bytes :=
  rfl

theorem pieces_dotted (n : Nat) (p : Path) :
    (dotted (n + 1) p).pieces = [dot] :: (dotted n p).pieces := by
  rw [pieces, bytes_dotted]
  rfl

theorem length_dotted (n : Nat) (p : Path) :
    (dotted n p).bytes.length = 2 * n + p.bytes.length := by
  induction n with
  | zero => simp [dotted]
  | succ n ih =>
    rw [bytes_dotted, List.length_cons, List.length_cons, ih]
    omega

theorem not_mem_dotted (n : Nat) (h : nul ∉ p.bytes) :
    nul ∉ (dotted n p).bytes := by
  induction n with
  | zero => exact h
  | succ n ih =>
    rw [bytes_dotted, List.mem_cons, List.mem_cons]
    rintro (hdot | hslash | hmem)
    · exact absurd hdot (by decide)
    · exact absurd hslash (by decide)
    · exact ih hmem

theorem endsWith_dotted (n : Nat) (h : p.EndsWith front last) :
    (dotted n p).EndsWith front last := by
  induction n with
  | zero => exact h
  | succ n ih =>
    obtain ⟨init, hinit⟩ := ih.pieces
    refine ⟨?_, [dot] :: init, by rw [pieces_dotted, hinit, List.cons_append]⟩
    rw [body, pieces_dotted]
    exact ih.body

theorem endsWithSlash_dotted (n : Nat) (h : p.endsWithSlash = true) :
    (dotted n p).endsWithSlash = true := by
  induction n with
  | zero => exact h
  | succ n ih =>
    unfold endsWithSlash at ih ⊢
    rw [bytes_dotted, List.getLast?_cons_cons, List.getLast?_cons]
    rw [beq_iff_eq] at ih ⊢
    rw [ih]
    rfl

theorem bytes_dotted_append (n : Nat) (p q : Path) :
    (dotted n p).bytes ++ q.bytes = (dotted n ⟨p.bytes ++ q.bytes⟩).bytes := by
  induction n with
  | zero => rfl
  | succ n ih => rw [bytes_dotted, bytes_dotted, List.cons_append, List.cons_append, ih]

theorem join_dotted (n : Nat) {q : Path} (h : p.endsWithSlash = true) (hq : q.isAbsolute = false) :
    (dotted n p).join q = dotted n ⟨p.bytes ++ q.bytes⟩ := by
  unfold join
  rw [hq, endsWithSlash_dotted n h, Bool.or_true, bytes_dotted_append]
  rfl

end Dotted

end Path

end IdlBuild
