import IdlBuild.Proofs.FileSystem.Ordering

/-!
# Contents first

The entries at and below a location with the contents of each directory before the directory and the
entries of one directory in the order of their names. There is one such order (`ContentsFirst`), and
`contentsFirst` goes through a tree in it.
-/

namespace IdlBuild.FileSystem

/-! ### The order -/

/-- Whether one way comes before another when contents come first: what is inside an entry before
the entry, and where two ways part, by the bytes of their names. -/
inductive ComesFirst : List FileName → List FileName → Prop where
  | inside {name : FileName} {way : List FileName} : ComesFirst (name :: way) []
  | beside {name name' : FileName} {way way' : List FileName}
      (hlt : name < name') : ComesFirst (name :: way) (name' :: way')
  | deeper {name : FileName} {way way' : List FileName} (h : ComesFirst way way') :
      ComesFirst (name :: way) (name :: way')

theorem ComesFirst.irrefl (way : List FileName) : ¬ ComesFirst way way := by
  intro h
  induction way with
  | nil => cases h
  | cons name way ih =>
    cases h with
    | beside hlt => exact List.lt_irrefl _ hlt
    | deeper h => exact ih h

theorem ComesFirst.asymm {way way' : List FileName} (h : ComesFirst way way') :
    ¬ ComesFirst way' way := by
  intro h'
  induction h with
  | inside => cases h'
  | beside hlt =>
    cases h' with
    | beside hlt' => exact List.lt_asymm hlt hlt'
    | deeper h' => exact List.lt_irrefl _ hlt
  | deeper h ih =>
    cases h' with
    | beside hlt' => exact List.lt_irrefl _ hlt'
    | deeper h' => exact ih h'

/-- An entry does not come before what is inside it. -/
theorem not_comesFirst_append (way : List FileName) (name : FileName) (more : List FileName) :
    ¬ ComesFirst way (way ++ name :: more) := by
  intro h
  induction way with
  | nil => cases h
  | cons first way ih =>
    cases h with
    | beside hlt => exact List.lt_irrefl _ hlt
    | deeper h => exact ih h

/-- Whether the ways are those to all that is at and below a location, contents first. -/
structure ContentsFirst (fs : FileSystem) (location : Location) (ways : List (List FileName)) :
    Prop where
  all : ∀ way, way ∈ ways ↔ ∃ node, fs.node? (location ++ way) = some node
  sorted : ways.Pairwise ComesFirst

namespace ContentsFirst

variable {fs : FileSystem} {location : Location} {ways ways' : List (List FileName)}

theorem nodup (h : ContentsFirst fs location ways) : ways.Nodup := by
  refine h.sorted.imp fun {way way'} hfirst hsame => ?_
  rw [hsame] at hfirst
  exact ComesFirst.irrefl way' hfirst

/-- There is one order in which contents come first. -/
theorem unique (h : ContentsFirst fs location ways) (h' : ContentsFirst fs location ways') :
    ways = ways' := by
  have hperm : ways.Perm ways' := (List.perm_ext_iff_of_nodup h.nodup h'.nodup).2 fun way =>
    (h.all way).trans (h'.all way).symm
  exact hperm.eq_of_pairwise (fun way way' _ _ hfirst hlater => absurd hlater hfirst.asymm)
    h.sorted h'.sorted

end ContentsFirst

/-! ### Trees -/

/-- The ways to what is at and below a location, down to a depth. -/
def contentsFirst (fs : FileSystem) : (depth : Nat) → Location → Node → List (List FileName)
  | 0, _, _ => [[]]
  | depth + 1, location, node =>
    if node = .directory then
      (sortedByName (fs.children location)).flatMap (fun entry =>
        (contentsFirst fs depth (location ++ [entry.1]) entry.2).map (entry.1 :: ·)) ++ [[]]
    else [[]]

section Trees

variable {fs : FileSystem} {location : Location} {node : Node} {depth : Nat} {way : List FileName}

theorem contentsFirst_of_ne (fs : FileSystem) (depth : Nat) (location : Location)
    (hne : node ≠ .directory) : fs.contentsFirst depth location node = [[]] := by
  cases depth with
  | zero => rfl
  | succ depth => exact if_neg hne

theorem contentsFirst_directory (fs : FileSystem) (depth : Nat) (location : Location) :
    fs.contentsFirst (depth + 1) location .directory =
      (sortedByName (fs.children location)).flatMap (fun entry =>
        (fs.contentsFirst depth (location ++ [entry.1]) entry.2).map (entry.1 :: ·)) ++ [[]] :=
  if_pos rfl

theorem directory_of_append {inner : Node} (hway : way ≠ [])
    (hinner : fs.node? (location ++ way) = some inner) :
    fs.node? location = some .directory := by
  by_cases hroot : location = []
  · rw [hroot]
    rfl
  · have hmem := (node?_eq_some_iff fs (by simp [hway])).1 hinner
    refine (node?_eq_some_iff fs hroot).2 (mem_of_isPrefix hmem hroot (List.prefix_append _ _) ?_)
    exact fun hsame => hway (List.self_eq_append_right.1 hsame)

/-- Whether nothing at or below a location is as deep as a bound. -/
def ShallowerThan (fs : FileSystem) (location : Location) (depth : Nat) : Prop :=
  ∀ way node, fs.node? (location ++ way) = some node → way.length < depth

theorem ShallowerThan.child {name : FileName} (h : ShallowerThan fs location (depth + 1)) :
    ShallowerThan fs (location ++ [name]) depth := by
  intro way node hnode
  rw [List.append_assoc] at hnode
  have hlength := h ([name] ++ way) node hnode
  rw [List.length_append, List.length_singleton] at hlength
  omega

theorem shallowerThan_entries (fs : FileSystem) (location : Location) :
    ShallowerThan fs location (fs.entries.length + 1) := by
  intro way node hnode
  by_cases hroot : location ++ way = []
  · rw [(List.append_eq_nil_iff.1 hroot).2]
    exact Nat.succ_pos _
  · have hlength := length_le_entries ((node?_eq_some_iff fs hroot).1 hnode)
    rw [List.length_append] at hlength
    omega

theorem mem_contentsFirst (hshallow : ShallowerThan fs location depth)
    (hnode : fs.node? location = some node) (way : List FileName) :
    way ∈ fs.contentsFirst depth location node ↔
      ∃ inner, fs.node? (location ++ way) = some inner := by
  induction depth generalizing location node way with
  | zero => exact absurd (hshallow [] node (by rwa [List.append_nil])) (Nat.not_lt_zero _)
  | succ depth ih =>
    have hself : ∃ inner, fs.node? (location ++ []) = some inner := ⟨node, by rwa [List.append_nil]⟩
    by_cases hdirectory : node = .directory
    · subst hdirectory
      have hmem : ∀ entry, entry ∈ sortedByName (fs.children location) ↔
          fs.node? (location ++ [entry.1]) = some entry.2 := fun entry =>
        (sortedByName_perm _).mem_iff.trans mem_children
      simp only [contentsFirst_directory, List.mem_append, List.mem_flatMap, List.mem_map,
        List.mem_singleton]
      constructor
      · rintro (⟨entry, hentry, rest, hrest, rfl⟩ | rfl)
        · rw [ih hshallow.child ((hmem entry).1 hentry) rest, List.append_assoc] at hrest
          exact hrest
        · exact hself
      · rintro ⟨inner, hinner⟩
        cases way with
        | nil => exact Or.inr rfl
        | cons name rest =>
          rw [List.append_cons] at hinner
          obtain ⟨child, hchild⟩ : ∃ child, fs.node? (location ++ [name]) = some child := by
            by_cases hrest : rest = []
            · exact ⟨inner, by rwa [hrest, List.append_nil] at hinner⟩
            · exact ⟨.directory, directory_of_append hrest hinner⟩
          refine Or.inl ⟨(name, child), (hmem _).2 hchild, rest, ?_, rfl⟩
          rw [ih hshallow.child hchild rest]
          exact ⟨inner, hinner⟩
    · rw [contentsFirst_of_ne fs _ location hdirectory, List.mem_singleton]
      constructor
      · rintro rfl
        exact hself
      · rintro ⟨inner, hinner⟩
        by_contra hway
        have hthere := directory_of_append hway hinner
        rw [hnode] at hthere
        exact hdirectory (Option.some.inj hthere)

theorem pairwise_contentsFirst (fs : FileSystem) (depth : Nat) (location : Location) (node : Node) :
    (fs.contentsFirst depth location node).Pairwise ComesFirst := by
  induction depth generalizing location node with
  | zero => exact List.pairwise_singleton _ _
  | succ depth ih =>
    by_cases hdirectory : node = .directory
    · rw [hdirectory, contentsFirst_directory, List.pairwise_append, List.pairwise_flatMap]
      refine ⟨⟨fun entry _ => ?_, ?_⟩, List.pairwise_singleton _ _, fun way hway last hlast => ?_⟩
      · exact List.pairwise_map.2 ((ih _ _).imp .deeper)
      · -- ways through two entries part at the names of the entries
        refine (pairwise_lt_sortedByName (nodup_children fs location)).imp fun {entry other} hlt => ?_
        intro way hway way' hway'
        obtain ⟨rest, -, rfl⟩ := List.mem_map.1 hway
        obtain ⟨rest', -, rfl⟩ := List.mem_map.1 hway'
        exact .beside hlt
      · obtain ⟨entry, -, hentry⟩ := List.mem_flatMap.1 hway
        obtain ⟨rest, -, rfl⟩ := List.mem_map.1 hentry
        rw [List.mem_singleton.1 hlast]
        exact .inside
    · rw [contentsFirst_of_ne fs _ location hdirectory]
      exact List.pairwise_singleton _ _

/-- Going through a tree with the contents of each directory first meets all of it in order. -/
theorem ContentsFirst.of_node (hnode : fs.node? location = some node)
    (hshallow : ShallowerThan fs location depth) :
    ContentsFirst fs location (fs.contentsFirst depth location node) :=
  ⟨mem_contentsFirst hshallow hnode, pairwise_contentsFirst fs depth location node⟩

end Trees

end IdlBuild.FileSystem
