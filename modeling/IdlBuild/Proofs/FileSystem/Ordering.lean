import IdlBuild.Proofs.FileSystem.Alike
import IdlBuild.Proofs.FileSystem.Walking

/-!
# The order of walks

A walk takes the entries of a directory in the order of their names and each directory before its
contents, so the ways from its root to what it visits increase, name by name in the order of their
bytes (`exists_ways_walkBelow`). No path is visited twice (`InOrder.nodup`).
-/

namespace IdlBuild

namespace Path

/-- The path of names below another path, each inside the one before. -/
def descend (p : Path) (names : List FileName) : Path := names.foldl (fun p name => p.join ⟨name⟩) p

theorem components_descend (p : Path) {names : List FileName} (h : ∀ name ∈ names, IsPlain name) :
    (p.descend names).components = p.components ++ names.map .name := by
  induction names generalizing p with
  | nil => simp [descend]
  | cons name names ih =>
    obtain ⟨hname, hnames⟩ := List.forall_mem_cons.1 h
    have hrest := ih (p.join ⟨name⟩) hnames
    rw [components_join_name p hname, List.append_assoc] at hrest
    exact hrest

/-- Other names lead to another path. -/
theorem eq_of_descend_eq {p : Path} {names names' : List FileName} (h : ∀ name ∈ names, IsPlain name)
    (h' : ∀ name ∈ names', IsPlain name) (heq : p.descend names = p.descend names') :
    names = names' := by
  have hcomponents := congrArg components heq
  rw [components_descend p h, components_descend p h'] at hcomponents
  have hnames := List.append_cancel_left hcomponents
  exact List.map_injective_iff.2 (fun _ _ hc => Component.name.inj hc) hnames

end Path

namespace FileSystem

/-! ### Ways -/

/-- Whether one way comes before another: they are compared name by name, and names byte by byte. -/
def Precedes (way way' : List FileName) : Prop :=
  List.Lex (fun name name' => name < name') way way'

theorem Precedes.irrefl (way : List FileName) : ¬ Precedes way way := by
  intro h
  induction way with
  | nil => cases h
  | cons name way ih =>
    cases h with
    | rel hlt => exact List.lt_irrefl _ hlt
    | cons hrest => exact ih hrest

/-- What a visit is made for. -/
def Visit.path : Visit → Path
  | .entry path _ => path
  | .fault (.request path _) => path
  | .fault (.loop _ child) => child

/-- Whether visits are made along ways from a path, in the order of the ways. -/
structure InOrder (root : Path) (visits : List Visit) (ways : List (List FileName)) : Prop where
  increasing : ways.Pairwise Precedes
  named : ∀ way ∈ ways, way ≠ [] ∧ ∀ name ∈ way, IsName name
  paths : visits.map Visit.path = ways.map root.descend

namespace InOrder

variable {root : Path} {visits visits' : List Visit} {ways ways' : List (List FileName)}
  {name : FileName} {visit : Visit}

theorem nil (root : Path) : InOrder root [] [] := ⟨.nil, by simp, rfl⟩

theorem append (h : InOrder root visits ways) (h' : InOrder root visits' ways')
    (hlt : ∀ way ∈ ways, ∀ way' ∈ ways', Precedes way way') :
    InOrder root (visits ++ visits') (ways ++ ways') := by
  refine ⟨List.pairwise_append.2 ⟨h.increasing, h'.increasing, hlt⟩, fun way hway => ?_, ?_⟩
  · exact (List.mem_append.1 hway).elim (h.named way) (h'.named way)
  · rw [List.map_append, List.map_append, h.paths, h'.paths]

/-- An entry comes before what is below it. -/
theorem below (h : InOrder (root.join ⟨name⟩) visits ways) (hname : IsName name)
    (hvisit : visit.path = root.join ⟨name⟩) :
    InOrder root (visit :: visits) ([name] :: ways.map (name :: ·)) := by
  refine ⟨List.pairwise_cons.2 ⟨?_, ?_⟩, ?_, ?_⟩
  · intro way hway
    obtain ⟨rest, hrest, rfl⟩ := List.mem_map.1 hway
    obtain ⟨first, more, rfl⟩ := List.exists_cons_of_ne_nil (h.named rest hrest).1
    exact .cons .nil
  · exact List.pairwise_map.2 (h.increasing.imp .cons)
  · intro way hway
    rcases List.mem_cons.1 hway with rfl | hway
    · exact ⟨by simp, by simpa using hname⟩
    · obtain ⟨rest, hrest, rfl⟩ := List.mem_map.1 hway
      exact ⟨by simp, List.forall_mem_cons.2 ⟨hname, (h.named rest hrest).2⟩⟩
  · rw [List.map_cons, List.map_cons, h.paths, hvisit, List.map_map]
    rfl

theorem nodup (h : InOrder root visits ways) : (visits.map Visit.path).Nodup := by
  rw [h.paths]
  have hways : ways.Nodup := by
    refine h.increasing.imp fun {way way'} hlt heq => ?_
    rw [heq] at hlt
    exact Precedes.irrefl way' hlt
  refine (List.nodup_map_iff_inj_on hways).2 fun way hway way' hway' heq => ?_
  exact Path.eq_of_descend_eq (fun name hname => isPlain_of_isName ((h.named way hway).2 name hname))
    (fun name hname => isPlain_of_isName ((h.named way' hway').2 name hname)) heq

end InOrder

/-! ### Walks -/

section Walks

variable {fs : FileSystem} {root : Path} {directory inner : OpenDirectory}
  {opened : List OpenDirectory} {child : Path} {node : Node}

theorem pairwise_lt_sortedByName {α : Type} {entries : List (FileName × α)}
    (h : (entries.map Prod.fst).Nodup) : (sortedByName entries).Pairwise (·.1 < ·.1) := by
  have hnodup : ((sortedByName entries).map Prod.fst).Nodup :=
    ((sortedByName_perm entries).map Prod.fst).nodup_iff.2 h
  refine (pairwise_sortedByName entries).imp₂ ?_ (List.pairwise_map.1 hnodup)
  exact fun a b hle hne => (List.le_iff_lt_or_eq.1 hle).resolve_right hne

theorem path_visitEntry (fs : FileSystem) (opened : List OpenDirectory) (child : Path)
    (node : Node) : (visitEntry fs opened child node).1.path = child ∧
      ∀ inner, (visitEntry fs opened child node).2 = some inner → inner.path = child := by
  unfold visitEntry
  cases node with
  | file content mode => exact ⟨rfl, by simp⟩
  | directory =>
    rcases fs.status child with fault | ⟨location, found⟩
    · exact ⟨rfl, by simp⟩
    · exact ⟨rfl, by rintro inner ⟨⟩; rfl⟩
  | link target =>
    rcases fs.status child with fault | ⟨location, found⟩
    · exact ⟨rfl, by simp⟩
    · cases found with
      | file content mode => exact ⟨rfl, by simp⟩
      | link further => exact ⟨rfl, by simp⟩
      | directory =>
        dsimp only
        cases openAt? opened location with
        | some ancestor => exact ⟨rfl, by simp⟩
        | none => exact ⟨rfl, by rintro inner ⟨⟩; rfl⟩

/-- The visits of sorted entries are in order when those below each of them are. -/
theorem exists_ways_entries (depth : Nat) {entries : List (FileName × Node)}
    (hsorted : entries.Pairwise (·.1 < ·.1)) (hnames : ∀ entry ∈ entries, IsName entry.1)
    (hbelow : ∀ entry ∈ entries, ∀ inner,
      (visitEntry fs (directory :: opened) (directory.path.join ⟨entry.1⟩) entry.2).2 = some inner →
        ∃ ways, InOrder inner.path (fs.visitBelow depth inner (directory :: opened)) ways) :
    ∃ ways, InOrder directory.path (entries.flatMap (entryVisits fs depth directory opened)) ways ∧
      ∀ way ∈ ways, ∃ entry ∈ entries, way.head? = some entry.1 := by
  induction entries with
  | nil => exact ⟨[], .nil _, by simp⟩
  | cons entry entries ih =>
    obtain ⟨hfirst, hsorted⟩ := List.pairwise_cons.1 hsorted
    obtain ⟨hname, hnames⟩ := List.forall_mem_cons.1 hnames
    obtain ⟨hinner, hbelow⟩ := List.forall_mem_cons.1 hbelow
    obtain ⟨ways, hways, hheads⟩ := ih hsorted hnames hbelow
    obtain ⟨hpath, hopen⟩ := path_visitEntry fs (directory :: opened)
      (directory.path.join ⟨entry.1⟩) entry.2
    have hself : ∃ inside : List (List FileName),
        InOrder directory.path (entryVisits fs depth directory opened entry)
          ([entry.1] :: inside.map (entry.1 :: ·)) := by
      unfold entryVisits
      rcases hentry : visitEntry fs (directory :: opened) (directory.path.join ⟨entry.1⟩) entry.2
        with ⟨visit, _ | inner⟩
      · exact ⟨[], (InOrder.nil _).below hname (by simpa [hentry] using hpath)⟩
      · obtain ⟨inside, hinside⟩ := hinner inner (by rw [hentry])
        rw [hopen inner (by rw [hentry])] at hinside
        exact ⟨inside, hinside.below hname (by simpa [hentry] using hpath)⟩
    obtain ⟨inside, hinside⟩ := hself
    -- All ways through this entry come before those through a later one by their first names.
    refine ⟨_, hinside.append hways fun way hway way' hway' => ?_, fun way hway => ?_⟩
    · obtain ⟨rest, rfl⟩ : ∃ rest, way = entry.1 :: rest := by
        rcases List.mem_cons.1 hway with rfl | hway
        · exact ⟨[], rfl⟩
        · obtain ⟨rest, -, rfl⟩ := List.mem_map.1 hway
          exact ⟨rest, rfl⟩
      obtain ⟨other, hother, hhead⟩ := hheads way' hway'
      rw [List.eq_cons_of_mem_head? hhead]
      exact .rel (hfirst other hother)
    · rcases List.mem_append.1 hway with hway | hway
      · refine ⟨entry, List.mem_cons_self .., ?_⟩
        rcases List.mem_cons.1 hway with rfl | hway
        · rfl
        · obtain ⟨rest, -, rfl⟩ := List.mem_map.1 hway
          rfl
      · obtain ⟨other, hother, hhead⟩ := hheads way hway
        exact ⟨other, List.mem_cons_of_mem _ hother, hhead⟩

/-- A walk below an open directory makes its visits in the order of their ways. -/
theorem exists_ways_visitBelow (depth : Nat) (h : Opens fs root directory opened) :
    ∃ ways, InOrder directory.path (fs.visitBelow depth directory opened) ways := by
  induction depth generalizing directory opened with
  | zero => exact ⟨[], .nil _⟩
  | succ depth ih =>
    have hnode : ∀ entry ∈ sortedByName (fs.children directory.location),
        fs.node? (directory.location ++ [entry.1]) = some entry.2 :=
      fun entry hentry => mem_children.1 ((sortedByName_perm _).mem_iff.1 hentry)
    rw [visitBelow_succ h]
    obtain ⟨ways, hways, -⟩ := exists_ways_entries depth
      (pairwise_lt_sortedByName (nodup_children fs directory.location))
      (fun entry hentry => (isName_of_node (hnode entry hentry)).1)
      fun entry hentry inner hinner => ih (opens_of_visitEntry h (hnode entry hentry) hinner)
    exact ⟨ways, hways⟩

/-- A walk makes its visits in the order of their ways. -/
theorem exists_ways_walkBelow {location : Location}
    (hroot : fs.status root = .ok (location, .directory)) :
    ∃ ways, InOrder root (fs.walkBelow root) ways := by
  unfold walkBelow
  rw [hroot]
  exact exists_ways_visitBelow fs.depthBound (.root hroot)

end Walks

end FileSystem

end IdlBuild
