import IdlBuild.Path.Basic
import Mathlib.Data.List.Infix
import Mathlib.Tactic.SplitIfs

/-!
# Components of built paths

What joining, taking the parent and making absolute do to the components of a path. Joining a name
adds it behind the components (`components_join_name`), the parent is the path without its last
component (`components_parent`), and a path made absolute keeps its file name
(`fileName_absoluteFrom`).
-/

namespace IdlBuild.Path

open Text (Bytes)

/-! ### Plain names -/

/-- Whether some bytes stand for one name when they are written between slashes. -/
def IsPlain (s : FileName) : Prop := s ≠ [] ∧ s ≠ [dot] ∧ s ≠ [dot, dot] ∧ slash ∉ s

instance (s : FileName) : Decidable (IsPlain s) := inferInstanceAs (Decidable (_ ∧ _))

/-- The components between the slashes, without what stands for the start. -/
def body (p : Path) : List Component := p.pieces.filterMap Component.ofPiece?

theorem length_body_le (p : Path) : p.body.length ≤ p.bytes.length + 1 := by
  have hpieces := Text.length_fields_le slash p.bytes
  exact (List.length_filterMap_le _ _).trans hpieces

theorem ofPiece_of_isPlain {s : FileName} (h : IsPlain s) :
    Component.ofPiece? s = some (.name s) := by
  obtain ⟨hne, hdot, hup, -⟩ := h
  unfold Component.ofPiece?
  rw [if_neg (not_or.2 ⟨hne, hdot⟩), if_neg hup]

theorem pieces_of_isPlain {s : FileName} (h : IsPlain s) : (Path.mk s).pieces = [s] :=
  Text.fields_of_not_mem h.2.2.2

theorem isAbsolute_of_isPlain {s : FileName} (h : IsPlain s) : (Path.mk s).isAbsolute = false := by
  simp only [isAbsolute, beq_eq_false_iff_ne, ne_eq]
  intro hs
  exact h.2.2.2 (List.mem_of_mem_head? hs)

theorem body_of_isPlain {s : FileName} (h : IsPlain s) : (Path.mk s).body = [.name s] := by
  simp [body, pieces_of_isPlain h, ofPiece_of_isPlain h]

theorem components_of_isPlain {s : FileName} (h : IsPlain s) :
    (Path.mk s).components = [.name s] := by
  simp [components, isAbsolute_of_isPlain h, pieces_of_isPlain h, ofPiece_of_isPlain h, h.2.1]

/-! ### Joining -/

/-- Joining a relative path puts its pieces behind those of the first path; a slash that the first
path ends with is not doubled. -/
theorem pieces_join {p q : Path} (hp : p.bytes ≠ []) (hq : q.isAbsolute = false) :
    ∃ front, front ≠ [] ∧ (p.join q).pieces = front ++ q.pieces ∧
      (p.pieces = front ∨ p.pieces = front ++ [[]]) := by
  by_cases hs : p.endsWithSlash = true
  · have hlast : p.bytes.getLast? = some slash := by simpa [endsWithSlash] using hs
    obtain ⟨init, hinit⟩ := List.getLast?_eq_some_iff.1 hlast
    refine ⟨Text.fields slash init, Text.fields_ne_nil _ _, ?_, Or.inr ?_⟩
    · simp [join, hq, hs, pieces, hinit, Text.fields_append]
    · simp [pieces, hinit, Text.fields_append, Text.fields]
  · refine ⟨p.pieces, Text.fields_ne_nil _ _, ?_, Or.inl rfl⟩
    simp [join, hq, hs, hp, pieces, Text.fields_append]

theorem isAbsolute_join {p q : Path} (hp : p.bytes ≠ []) (hq : q.isAbsolute = false) :
    (p.join q).isAbsolute = p.isAbsolute := by
  have hbytes : ∃ rest, (p.join q).bytes = p.bytes ++ rest := by
    by_cases hs : p.endsWithSlash = true
    · exact ⟨q.bytes, by simp [join, hq, hs]⟩
    · exact ⟨slash :: q.bytes, by simp [join, hq, hs, hp]⟩
  obtain ⟨rest, hrest⟩ := hbytes
  simp only [isAbsolute, hrest, List.head?_append_of_ne_nil _ hp]

theorem components_join {p q : Path} (hp : p.bytes ≠ []) (hq : q.isAbsolute = false) :
    (p.join q).components = p.components ++ q.body := by
  obtain ⟨front, hfront, hjoin, hpieces⟩ := pieces_join hp hq
  have hhead : (p.join q).pieces.head? = p.pieces.head? := by
    rw [hjoin, List.head?_append_of_ne_nil _ hfront]
    rcases hpieces with h | h <;> simp [h, List.head?_append_of_ne_nil _ hfront]
  have hbody : (p.join q).pieces.filterMap Component.ofPiece?
      = p.pieces.filterMap Component.ofPiece? ++ q.body := by
    rw [hjoin, List.filterMap_append]
    rcases hpieces with h | h <;> simp [h, body, Component.ofPiece?]
  simp only [components, isAbsolute_join hp hq, hhead, hbody]
  split_ifs <;> rfl

theorem join_of_empty {p q : Path} (hp : p.bytes = []) : p.join q = q := by
  by_cases hq : q.isAbsolute = true
  · simp [join, hq]
  · simp [join, hq, hp]

theorem components_of_empty {p : Path} (h : p.bytes = []) : p.components = [] := by
  cases p
  simp only at h
  subst h
  decide

theorem components_join_name {s : FileName} (p : Path) (h : IsPlain s) :
    (p.join ⟨s⟩).components = p.components ++ [.name s] := by
  by_cases hp : p.bytes = []
  · rw [join_of_empty hp, components_of_empty hp, components_of_isPlain h, List.nil_append]
  · rw [components_join hp (isAbsolute_of_isPlain h), body_of_isPlain h]

theorem bytes_join_ne_nil {s : FileName} (p : Path) (h : s ≠ []) : (p.join ⟨s⟩).bytes ≠ [] := by
  unfold join
  split_ifs
  · exact h
  · exact List.append_ne_nil_of_right_ne_nil _ h
  · exact List.append_ne_nil_of_right_ne_nil _ (List.cons_ne_nil _ _)

/-! ### Parents -/

/-- Dropping idle pieces leaves a front of the pieces, and what is dropped means nothing. -/
theorem dropIdle_append (isHead : Bytes → Bool) (pieces : List Bytes) :
    ∃ idle, pieces = dropIdle isHead pieces ++ idle ∧
      idle.filterMap Component.ofPiece? = [] := by
  induction pieces generalizing isHead with
  | nil => exact ⟨[], rfl, rfl⟩
  | cons piece rest ih =>
    obtain ⟨idle, hrest, hidle⟩ := ih fun _ => false
    unfold dropIdle
    split
    · next hnil =>
      rw [hnil, List.nil_append] at hrest
      split_ifs with h
      · exact ⟨rest, rfl, hrest ▸ hidle⟩
      · have hnone : Component.ofPiece? piece = none := by simp_all
        exact ⟨piece :: rest, rfl, by simp [hnone, hrest, hidle]⟩
    · exact ⟨idle, by rw [List.cons_append, ← hrest], hidle⟩

theorem filterMap_dropIdle (isHead : Bytes → Bool) (pieces : List Bytes) :
    (dropIdle isHead pieces).filterMap Component.ofPiece?
      = pieces.filterMap Component.ofPiece? := by
  obtain ⟨idle, hpieces, hidle⟩ := dropIdle_append isHead pieces
  conv => rhs; rw [hpieces]
  rw [List.filterMap_append, hidle, List.append_nil]

/-- The last piece that is kept means something, or it is the head of the path. -/
theorem getLast_dropIdle {isHead : Bytes → Bool} {pieces front : List Bytes}
    {last : Bytes} (h : dropIdle isHead pieces = front ++ [last]) :
    (Component.ofPiece? last).isSome ∨ (front = [] ∧ isHead last = true) := by
  induction pieces generalizing isHead front with
  | nil => simp [dropIdle] at h
  | cons piece rest ih =>
    unfold dropIdle at h
    split at h
    · split_ifs at h with hm
      · obtain ⟨rfl, rfl⟩ : front = [] ∧ piece = last := by
          cases front with
          | nil => simpa using h
          | cons a b => simp at h
        rcases Bool.or_eq_true _ _ ▸ hm with hm | hm
        · exact Or.inr ⟨rfl, hm⟩
        · exact Or.inl hm
      · simp at h
    · next kept hkept =>
      cases front with
      | nil =>
        simp only [List.nil_append, List.cons.injEq] at h
        exact absurd h.2 hkept
      | cons a b =>
        simp only [List.cons_append, List.cons.injEq] at h
        rcases ih h.2 with hlast | ⟨-, hfalse⟩
        · exact Or.inl hlast
        · exact Bool.noConfusion hfalse

/-- A piece that counts as the head is kept where it is the head. -/
theorem dropIdle_ne_nil {isHead : Bytes → Bool} {piece : Bytes} (rest : List Bytes)
    (h : isHead piece = true) : dropIdle isHead (piece :: rest) ≠ [] := by
  unfold dropIdle
  split
  · simp [h]
  · simp

theorem intercalated_append_isPrefix (front back : List Bytes) :
    Text.intercalated slash front <+: Text.intercalated slash (front ++ back) := by
  induction front with
  | nil => exact List.nil_prefix
  | cons piece rest ih =>
    cases rest with
    | nil =>
      cases back with
      | nil => exact List.prefix_rfl
      | cons next back => exact List.prefix_append _ _
    | cons next rest =>
      simp only [List.cons_append, Text.intercalated] at ih ⊢
      exact List.prefix_append_right_inj _ |>.2 (List.cons_prefix_cons.2 ⟨rfl, ih⟩)

theorem filterMap_fields_intercalated {pieces : List Bytes}
    (h : ∀ piece ∈ pieces, slash ∉ piece) :
    (Text.fields slash (Text.intercalated slash pieces)).filterMap Component.ofPiece?
      = pieces.filterMap Component.ofPiece? := by
  cases pieces with
  | nil => rfl
  | cons piece rest => rw [Text.fields_intercalated (by simp) h]

def lead (p : Path) : Bytes := if p.isAbsolute then [slash] else []

/-- The pieces behind that slash. -/
def inner (p : Path) : List Bytes := if p.isAbsolute then p.pieces.tail else p.pieces

theorem bytes_of_isAbsolute {p : Path} (h : p.isAbsolute = true) :
    ∃ rest, p.bytes = slash :: rest := by
  have hhead : p.bytes.head? = some slash := by simpa [isAbsolute] using h
  exact ⟨_, List.eq_cons_of_mem_head? hhead⟩

theorem bytes_eq_lead_append (p : Path) :
    p.bytes = p.lead ++ Text.intercalated slash p.inner := by
  by_cases h : p.isAbsolute = true
  · obtain ⟨rest, hrest⟩ := bytes_of_isAbsolute h
    simp [lead, inner, h, pieces, hrest, Text.fields, Text.intercalated_fields]
  · simp [lead, inner, h, pieces, Text.intercalated_fields]

theorem not_mem_of_mem_inner {p : Path} {piece : Bytes} (h : piece ∈ p.inner) :
    slash ∉ piece := by
  unfold inner at h
  split_ifs at h
  · exact Text.not_mem_of_mem_fields (List.mem_of_mem_tail h)
  · exact Text.not_mem_of_mem_fields h

theorem body_eq (p : Path) : p.body = p.inner.filterMap Component.ofPiece? := by
  by_cases h : p.isAbsolute = true
  · obtain ⟨rest, hrest⟩ := bytes_of_isAbsolute h
    simp [body, inner, h, pieces, hrest, Text.fields, Component.ofPiece?]
  · simp [body, inner, h]

/-- What a path says: where it starts, then what stands between the slashes. -/
theorem components_eq (p : Path) :
    p.components = (if p.isAbsolute then [.root]
      else if p.inner.head? = some [dot] then [.here] else []) ++ p.body := by
  unfold components
  by_cases h : p.isAbsolute = true
  · simp [h, body]
  · by_cases hd : p.pieces.head? = some [dot] <;> simp [h, hd, body, inner]

theorem getLast_components_of_body {p : Path} {front : List Component} {last : Component}
    (h : p.body = front ++ [last]) : p.components.getLast? = some last := by
  rw [components_eq, h, ← List.append_assoc, List.getLast?_concat]

theorem ne_of_mem_body {p : Path} {c : Component} (h : c ∈ p.body) : c ≠ .root ∧ c ≠ .here := by
  obtain ⟨piece, -, hc⟩ := List.mem_filterMap.1 h
  unfold Component.ofPiece? at hc
  split_ifs at hc <;> cases hc <;> exact ⟨by simp, by simp⟩

theorem isPlain_of_name_mem {p : Path} {s : FileName} (h : .name s ∈ p.components) : IsPlain s := by
  rw [components_eq] at h
  have hbody : .name s ∈ p.body := by
    rcases List.mem_append.1 h with h | h
    · split_ifs at h <;> simp at h
    · exact h
  obtain ⟨piece, hpiece, hs⟩ := List.mem_filterMap.1 hbody
  unfold Component.ofPiece? at hs
  split_ifs at hs with hidle hup
  · cases hs
  · rw [← Component.name.inj (Option.some.inj hs)]
    exact ⟨fun h => hidle (.inl h), fun h => hidle (.inr h), hup,
      Text.not_mem_of_mem_fields hpiece⟩

theorem fileName_eq_some_iff {p : Path} {s : FileName} :
    p.fileName? = some s ↔ p.components.getLast? = some (.name s) := by
  unfold fileName?
  split
  · next name hlast => simp [hlast]
  · next hlast =>
    constructor
    · intro h
      cases h
    · exact fun h => absurd h (hlast s)

theorem fileName_join_name (p : Path) {s : FileName} (h : IsPlain s) :
    (p.join ⟨s⟩).fileName? = some s := by
  rw [fileName_eq_some_iff, components_join_name p h, List.getLast?_concat]

theorem isPlain_fileName {p : Path} {s : FileName} (h : p.fileName? = some s) : IsPlain s :=
  isPlain_of_name_mem (List.mem_of_getLast? (fileName_eq_some_iff.1 h))

theorem root_mem_of_isAbsolute {p : Path} (h : p.isAbsolute = true) : .root ∈ p.components := by
  rw [components_eq, if_pos h]
  exact List.mem_cons_self ..

theorem body_eq_components {p : Path} (hroot : .root ∉ p.components)
    (hhere : .here ∉ p.components) : p.body = p.components := by
  rw [components_eq] at hroot hhere ⊢
  split_ifs with ha hd
  · simp [ha] at hroot
  · simp [ha, hd] at hhere
  · rfl

theorem components_join_names (p : Path) {q : Path} {names : List FileName}
    (h : q.components = names.map .name) :
    (p.join q).components = p.components ++ names.map .name := by
  have hroot : .root ∉ q.components := by simp [h]
  have hhere : .here ∉ q.components := by simp [h]
  by_cases hp : p.bytes = []
  · rw [join_of_empty hp, components_of_empty hp, h, List.nil_append]
  · have hrelative : q.isAbsolute = false := by
      by_contra ha
      exact hroot (root_mem_of_isAbsolute (by simpa using ha))
    rw [components_join hp hrelative, body_eq_components hroot hhere, h]

/-- Whether a piece says something just by being the first. -/
def isHead (p : Path) : Bytes → Bool := if p.isAbsolute then fun _ => false else (· == [dot])

theorem isHead_iff {p : Path} {piece : Bytes} :
    p.isHead piece = true ↔ p.isAbsolute = false ∧ piece = [dot] := by
  unfold isHead
  by_cases ha : p.isAbsolute = true <;> simp [ha]

theorem bytes_of_parent {p q : Path} (h : p.parent? = some q) :
    dropIdle p.isHead p.inner ≠ [] ∧ q.bytes =
      p.lead ++ Text.intercalated slash (dropIdle p.isHead (dropIdle p.isHead p.inner).dropLast) := by
  unfold parent? at h
  by_cases ha : p.isAbsolute = true
  · simp only [ha, if_true] at h
    split at h
    · exact absurd h (by simp)
    · next hne =>
      refine ⟨by simpa [isHead, inner, ha] using hne, ?_⟩
      split at h <;> cases h
      · next hnil => simp [isHead, lead, inner, ha, hnil, Text.intercalated]
      · simp [isHead, lead, inner, ha]
  · simp only [ha, Bool.false_eq_true, if_false] at h
    split at h
    · exact absurd h (by simp)
    · next hne =>
      refine ⟨by simpa [isHead, inner, ha] using hne, ?_⟩
      cases h
      simp [isHead, lead, inner, ha]

/-- How a parent is cut off: behind the pieces that it keeps stand some that say nothing, then the
last piece that says something, then more that say nothing. -/
structure Cut (p q : Path) (front idle : List Bytes) (last : Bytes)
    (rest : List Bytes) : Prop where
  inner_eq : p.inner = front ++ (idle ++ last :: rest)
  bytes_eq : q.bytes = p.lead ++ Text.intercalated slash front
  idle_silent : idle.filterMap Component.ofPiece? = []
  rest_silent : rest.filterMap Component.ofPiece? = []
  head : p.isAbsolute = false → front = [] → idle.head? ≠ some [dot]
  spoken : (Component.ofPiece? last).isSome ∨
    (p.isAbsolute = false ∧ front = [] ∧ idle = [] ∧ last = [dot])
  tidy : ∀ init x, front = init ++ [x] → (Component.ofPiece? x).isSome ∨
    (p.isAbsolute = false ∧ init = [] ∧ x = [dot])

theorem exists_cut {p q : Path} (h : p.parent? = some q) :
    ∃ front idle last rest, Cut p q front idle last rest := by
  obtain ⟨hne, hbytes⟩ := bytes_of_parent h
  obtain ⟨rest, hinner, hrest⟩ := dropIdle_append p.isHead p.inner
  generalize hkept : dropIdle p.isHead p.inner = kept at hne hbytes hinner
  obtain ⟨idle, hinit, hidle⟩ := dropIdle_append p.isHead kept.dropLast
  obtain ⟨init, last, rfl⟩ : ∃ init last, kept = init ++ [last] :=
    ⟨_, _, (List.dropLast_append_getLast hne).symm⟩
  rw [List.dropLast_concat] at hinit hbytes
  refine ⟨dropIdle p.isHead init, idle, last, rest, ?_, hbytes, hidle, hrest, ?_, ?_, ?_⟩
  · rw [hinner, hinit, List.append_assoc, List.append_assoc, ← hinit]
    rfl
  · intro ha hfront hdot
    rw [hfront, List.nil_append] at hinit
    obtain ⟨more, hmore⟩ : ∃ more, idle = [dot] :: more := ⟨_, List.eq_cons_of_mem_head? hdot⟩
    rw [hinit, hmore] at hfront
    exact dropIdle_ne_nil more (isHead_iff.2 ⟨ha, rfl⟩) hfront
  · rcases getLast_dropIdle hkept with hlast | ⟨hinitnil, hlast⟩
    · exact Or.inl hlast
    · obtain ⟨ha, hdot⟩ := isHead_iff.1 hlast
      subst hinitnil
      exact Or.inr ⟨ha, rfl, (List.append_eq_nil_iff.1 hinit.symm).2, hdot⟩
  · intro before x hx
    rcases getLast_dropIdle hx with hlast | ⟨hnil, hlast⟩
    · exact Or.inl hlast
    · obtain ⟨ha, hdot⟩ := isHead_iff.1 hlast
      exact Or.inr ⟨ha, hnil, hdot⟩

theorem parent_isPrefix {p q : Path} (h : p.parent? = some q) :
    q.bytes <+: p.bytes := by
  obtain ⟨front, idle, last, rest, hcut⟩ := exists_cut h
  rw [bytes_eq_lead_append p, hcut.bytes_eq, hcut.inner_eq]
  exact (List.prefix_append_right_inj _).2 (intercalated_append_isPrefix _ _)

theorem isAbsolute_parent {p q : Path} (h : p.parent? = some q) :
    q.isAbsolute = p.isAbsolute := by
  obtain ⟨front, idle, last, rest, hcut⟩ := exists_cut h
  by_cases ha : p.isAbsolute = true
  · rw [ha, isAbsolute, hcut.bytes_eq, lead, if_pos ha]
    rfl
  · obtain ⟨back, hback⟩ := parent_isPrefix h
    cases hq : q.bytes with
    | nil => simp [isAbsolute, hq] at ha ⊢; exact ha
    | cons c cs =>
      rw [hq] at hback
      simp [isAbsolute, hq, ← hback]

namespace Cut

variable {p q : Path} {front idle rest : List Bytes} {last : Bytes}

theorem not_mem_slash (h : Cut p q front idle last rest) : ∀ piece ∈ front, slash ∉ piece :=
  fun _ hp => not_mem_of_mem_inner (h.inner_eq ▸ List.mem_append_left _ hp)

theorem inner_parent (h : Cut p q front idle last rest) (ha : q.isAbsolute = p.isAbsolute) :
    q.inner = Text.fields slash (Text.intercalated slash front) := by
  by_cases hp : p.isAbsolute = true
  · simp [Path.inner, ha, hp, pieces, h.bytes_eq, lead, Text.fields]
  · simp [Path.inner, ha, hp, pieces, h.bytes_eq, lead]

theorem body_parent (h : Cut p q front idle last rest) (ha : q.isAbsolute = p.isAbsolute) :
    q.body = front.filterMap Component.ofPiece? := by
  rw [body_eq, h.inner_parent ha, filterMap_fields_intercalated h.not_mem_slash]

theorem body (h : Cut p q front idle last rest) :
    p.body = front.filterMap Component.ofPiece? ++ (Component.ofPiece? last).toList := by
  rw [body_eq, h.inner_eq]
  simp [h.idle_silent, List.filterMap_cons, h.rest_silent]
  cases Component.ofPiece? last <;> rfl

theorem head_iff (h : Cut p q front idle last rest) (ha : q.isAbsolute = p.isAbsolute)
    (hp : p.isAbsolute = false) (hlast : (Component.ofPiece? last).isSome) :
    p.inner.head? = some [dot] ↔ q.inner.head? = some [dot] := by
  cases front with
  | cons first more =>
    rw [h.inner_parent ha, h.inner_eq, Text.fields_intercalated (by simp) h.not_mem_slash]
    simp
  | nil =>
    have hqdot : q.inner.head? ≠ some [dot] := by
      rw [h.inner_parent ha]
      simp [Text.intercalated, Text.fields]
    have hpdot : p.inner.head? ≠ some [dot] := by
      rw [h.inner_eq]
      cases idle with
      | nil =>
        rintro hdot
        simp only [List.nil_append, List.head?_cons, Option.some.injEq] at hdot
        simp [hdot, Component.ofPiece?] at hlast
      | cons i more => simpa using h.head hp rfl
    exact iff_of_false hpdot hqdot

end Cut

theorem components_parent {p q : Path} (h : p.parent? = some q) :
    q.components = p.components.dropLast := by
  obtain ⟨front, idle, last, rest, hcut⟩ := exists_cut h
  have ha := isAbsolute_parent h
  rw [components_eq p, components_eq q, hcut.body_parent ha, hcut.body, ha]
  rcases hcut.spoken with hlast | ⟨hp, rfl, rfl, rfl⟩
  · obtain ⟨c, hc⟩ := Option.isSome_iff_exists.1 hlast
    rw [hc, Option.toList_some, ← List.append_assoc, List.dropLast_concat]
    by_cases hp : p.isAbsolute = true
    · simp [hp]
    · simp [hp, hcut.head_iff ha (by simpa using hp) hlast]
  · simp [hp, hcut.inner_eq, Component.ofPiece?, Text.intercalated, Text.fields,
      hcut.inner_parent ha]

/-- A name behind the parent of a path makes the path again only if it is the last name. -/
theorem same_join_parent_iff {p parent : Path} {name name' : FileName}
    (hparent : p.parent? = some parent) (hname : p.fileName? = some name)
    (hplain : IsPlain name') : (parent.join ⟨name'⟩).Same p ↔ name' = name := by
  obtain ⟨init, hinit⟩ := List.getLast?_eq_some_iff.1 (fileName_eq_some_iff.1 hname)
  rw [Same, components_join_name parent hplain, components_parent hparent, hinit,
    List.dropLast_concat, List.append_cancel_left_eq, List.cons.injEq, Component.name.injEq]
  simp

/-- Only the root and the path that says nothing have no parent. -/
theorem components_of_parent_eq_none {p : Path} (h : p.parent? = none) :
    p.components = [] ∨ p.components = [.root] := by
  unfold parent? at h
  by_cases ha : p.isAbsolute = true
  · simp only [ha, if_true] at h
    split at h
    · next hnil =>
      have hbody := filterMap_dropIdle (fun _ => false) p.pieces.tail
      rw [hnil] at hbody
      right
      rw [components_eq, body_eq, if_pos ha]
      simp only [inner, ha, if_true, ← hbody, List.filterMap_nil, List.append_nil]
    · split at h <;> exact absurd h (by simp)
  · simp only [ha, Bool.false_eq_true, if_false] at h
    split at h
    · next hnil =>
      have hbody := filterMap_dropIdle (· == [dot]) p.pieces
      rw [hnil] at hbody
      have hdot : p.inner.head? ≠ some [dot] := by
        intro hd
        simp only [inner, ha, Bool.false_eq_true, if_false] at hd
        obtain ⟨more, hmore⟩ : ∃ more, p.pieces = [dot] :: more := ⟨_, List.eq_cons_of_mem_head? hd⟩
        rw [hmore] at hnil
        exact dropIdle_ne_nil more (by decide) hnil
      left
      rw [components_eq, body_eq, if_neg ha, if_neg hdot]
      simp only [inner, ha, Bool.false_eq_true, if_false, ← hbody, List.filterMap_nil,
        List.append_nil]
    · exact absurd h (by simp)

/-! ### Absolute paths -/

theorem fileName_absoluteFrom {p : Path} {s : FileName} (directory : Path)
    (h : p.fileName? = some s) : (absoluteFrom directory p).fileName? = some s := by
  have hplain := isPlain_fileName h
  have hextended : ∀ (start : Path) (keep : Component → Bool), keep (.name s) = true →
      ∃ front : Path, extend start (p.components.filter keep) = front.join ⟨s⟩ := by
    intro start keep hkeep
    obtain ⟨init, hinit⟩ := List.getLast?_eq_some_iff.1 (fileName_eq_some_iff.1 h)
    refine ⟨extend start (init.filter keep), ?_⟩
    rw [hinit, List.filter_append, List.filter_singleton, hkeep]
    simp [extend, Component.bytes]
  simp only [absoluteFrom]
  generalize (p.bytes.take 2 == [slash, slash] && p.bytes.take 3 != [slash, slash, slash])
    = doubled
  obtain ⟨front, hfront⟩ := hextended
    (if doubled then ⟨[slash, slash]⟩ else if p.isAbsolute then ⟨[]⟩ else directory)
    (fun c => !(c == .here || (doubled && c == .root))) (by simp)
  simp only [hfront]
  split_ifs
  · have hempty : (Path.mk []).body = [] := by decide
    rw [fileName_eq_some_iff, components_join (bytes_join_ne_nil front hplain.1) (by decide),
      hempty, List.append_nil]
    exact fileName_eq_some_iff.1 (fileName_join_name front hplain)
  · exact fileName_join_name front hplain

end IdlBuild.Path
