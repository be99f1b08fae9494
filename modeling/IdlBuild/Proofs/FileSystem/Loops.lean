import IdlBuild.Proofs.FileSystem.Ordering

/-!
# Walks and links

A walk follows links, so it is one through an unfolding of the file system. `Walked` says what it
visits without a bound on its depth: it ends in every file system and in one way, and the bounded
walk is that one (`walked_iff`). Every entry of a directory that is opened is visited once
(`visited_once`), and a link to a directory that is open is not opened again
(`not_opens_of_loop`).
-/

namespace IdlBuild.FileSystem

/-! ### Single entries -/

/-- What a walk makes of an entry while directories are open, and the directory that it enters. -/
inductive Met (fs : FileSystem) (opened : List OpenDirectory) (child : Path) :
    Node → Visit → Option OpenDirectory → Prop where
  | file {content : Text.Bytes} {mode : Nat} :
      Met fs opened child (.file content mode) (.entry child .file) none
  | directory {location : Location} {found : Node}
      (hstatus : fs.status child = .ok (location, found)) :
      Met fs opened child .directory (.entry child .directory) (some ⟨location, child⟩)
  | linked {target : Path} {location : Location} {found : Node}
      (hstatus : fs.status child = .ok (location, found)) (hne : found ≠ .directory) :
      Met fs opened child (.link target) (.entry child .file) none
  | through {target : Path} {location : Location}
      (hstatus : fs.status child = .ok (location, .directory))
      (hfree : ∀ other ∈ opened, other.location ≠ location) :
      Met fs opened child (.link target) (.entry child .directory) (some ⟨location, child⟩)
  /-- A link to a directory that is open is reported with the innermost one there. -/
  | loop {target : Path} {location : Location} {ancestor : OpenDirectory}
      (hstatus : fs.status child = .ok (location, .directory))
      (hopen : openAt? opened location = some ancestor) :
      Met fs opened child (.link target) (.fault (.loop ancestor.path child)) none
  /-- A link that leads nowhere is one of those that cannot be read. -/
  | unread {node : Node} {fault : IoFault} (hne : ∀ content mode, node ≠ .file content mode)
      (hstatus : fs.status child = .error fault) :
      Met fs opened child node (.fault (.request child fault)) none

section Entries

variable {fs : FileSystem} {opened : List OpenDirectory} {child : Path} {node : Node}
  {visit : Visit} {inner? : Option OpenDirectory}

theorem met_visitEntry (fs : FileSystem) (opened : List OpenDirectory) (child : Path)
    (node : Node) :
    Met fs opened child node (visitEntry fs opened child node).1
      (visitEntry fs opened child node).2 := by
  unfold visitEntry
  cases node with
  | file content mode => exact .file
  | directory =>
    rcases hstatus : fs.status child with fault | ⟨location, found⟩
    · exact .unread (by simp) hstatus
    · exact .directory hstatus
  | link target =>
    rcases hstatus : fs.status child with fault | ⟨location, found⟩
    · exact .unread (by simp) hstatus
    · cases found with
      | file content mode => exact .linked hstatus (by simp)
      | link further => exact .linked hstatus (by simp)
      | directory =>
        dsimp only
        cases hopen : openAt? opened location with
        | some ancestor => exact .loop hstatus hopen
        | none => exact .through hstatus (openAt_eq_none_iff.1 hopen)

theorem Met.visitEntry (h : Met fs opened child node visit inner?) :
    visitEntry fs opened child node = (visit, inner?) := by
  cases h with
  | file => rfl
  | directory hstatus => simp only [FileSystem.visitEntry, hstatus]
  | @linked target location found hstatus hne =>
    cases found with
    | directory => exact absurd rfl hne
    | file content mode => simp only [FileSystem.visitEntry, hstatus]
    | link further => simp only [FileSystem.visitEntry, hstatus]
  | through hstatus hfree =>
    simp only [FileSystem.visitEntry, hstatus, openAt_eq_none_iff.2 hfree]
  | loop hstatus hopen => simp only [FileSystem.visitEntry, hstatus, hopen]
  | unread hne hstatus =>
    cases node with
    | file content mode => exact absurd rfl (hne content mode)
    | directory => simp only [FileSystem.visitEntry, hstatus]
    | link target => simp only [FileSystem.visitEntry, hstatus]

end Entries

/-! ### Whole walks -/

/-- The visits of a walk to the entries of an open directory and below them, however deep it goes.
Only a directory that is entered has visits below it; whatever an entry turns out to be, the walk
goes on with the next one. -/
inductive Walked (fs : FileSystem) :
    OpenDirectory → List OpenDirectory → List (FileName × Node) → List Visit → Prop where
  | done {directory : OpenDirectory} {opened : List OpenDirectory} :
      Walked fs directory opened [] []
  | passed {directory : OpenDirectory} {opened : List OpenDirectory} {name : FileName} {node : Node}
      {rest : List (FileName × Node)} {visit : Visit} {visits : List Visit}
      (hmet : Met fs (directory :: opened) (directory.path.join ⟨name⟩) node visit none)
      (hrest : Walked fs directory opened rest visits) :
      Walked fs directory opened ((name, node) :: rest) (visit :: visits)
  | entered {directory inner : OpenDirectory} {opened : List OpenDirectory} {name : FileName}
      {node : Node} {rest : List (FileName × Node)} {visit : Visit} {below visits : List Visit}
      (hmet : Met fs (directory :: opened) (directory.path.join ⟨name⟩) node visit (some inner))
      (hbelow : Walked fs inner (directory :: opened)
        (sortedByName (fs.children inner.location)) below)
      (hrest : Walked fs directory opened rest visits) :
      Walked fs directory opened ((name, node) :: rest) (visit :: (below ++ visits))

section Walks

variable {fs : FileSystem} {root : Path} {directory inner : OpenDirectory}
  {opened opened' : List OpenDirectory} {entries : List (FileName × Node)} {name : FileName}
  {node : Node} {visits visits' : List Visit} {visit : Visit} {location : Location}

theorem Walked.unique (h : Walked fs directory opened entries visits)
    (h' : Walked fs directory opened entries visits') : visits = visits' := by
  induction h generalizing visits' with
  | done =>
    cases h'
    rfl
  | passed hmet hrest ih =>
    cases h' with
    | passed hmet' hrest' =>
      cases hmet.visitEntry.symm.trans hmet'.visitEntry
      rw [ih hrest']
    | entered hmet' hbelow' hrest' => cases hmet.visitEntry.symm.trans hmet'.visitEntry
  | entered hmet hbelow hrest ihbelow ihrest =>
    cases h' with
    | passed hmet' hrest' => cases hmet.visitEntry.symm.trans hmet'.visitEntry
    | entered hmet' hbelow' hrest' =>
      cases hmet.visitEntry.symm.trans hmet'.visitEntry
      rw [ihbelow hbelow', ihrest hrest']

theorem walked_entries {depth : Nat}
    (h : ∀ entry ∈ entries, ∀ inner,
      (visitEntry fs (directory :: opened) (directory.path.join ⟨entry.1⟩) entry.2).2 = some inner →
        Walked fs inner (directory :: opened) (sortedByName (fs.children inner.location))
          (fs.visitBelow depth inner (directory :: opened))) :
    Walked fs directory opened entries
      (entries.flatMap (entryVisits fs depth directory opened)) := by
  induction entries with
  | nil => exact .done
  | cons entry entries ih =>
    obtain ⟨hfirst, hrest⟩ := List.forall_mem_cons.1 h
    have hwalked := ih hrest
    have hmet := met_visitEntry fs (directory :: opened) (directory.path.join ⟨entry.1⟩) entry.2
    rw [List.flatMap_cons, entryVisits]
    rcases hentry : visitEntry fs (directory :: opened) (directory.path.join ⟨entry.1⟩) entry.2
      with ⟨visit, _ | inner⟩
    · rw [hentry] at hmet
      exact .passed hmet hwalked
    · rw [hentry] at hmet
      exact .entered hmet (hfirst inner (by rw [hentry])) hwalked

theorem walked_visitBelow (depth : Nat) (h : Opens fs root directory opened)
    (hdepth : fs.depthBound ≤ opened.length + depth) :
    Walked fs directory opened (sortedByName (fs.children directory.location))
      (fs.visitBelow depth directory opened) := by
  -- The depth is used up only when more directories are open than a walk can open.
  induction depth generalizing directory opened with
  | zero => exact absurd h.length_lt (by omega)
  | succ depth ih =>
    rw [visitBelow_succ h]
    apply walked_entries
    intro entry hentry inner hinner
    have hnode := mem_children.1 ((sortedByName_perm _).mem_iff.1 hentry)
    apply ih (opens_of_visitEntry h hnode hinner)
    rw [List.length_cons]
    omega

/-- A walk ends, in one way, whatever links there are, and the bound on its depth is none. -/
theorem walked_iff (hroot : fs.status root = .ok (location, .directory)) (visits : List Visit) :
    Walked fs ⟨location, root⟩ [] (sortedByName (fs.children location)) visits ↔
      visits = fs.walkBelow root := by
  have hwalked := walked_visitBelow fs.depthBound (Opens.root hroot) (Nat.le_add_left ..)
  have hwalk : fs.walkBelow root = fs.visitBelow fs.depthBound ⟨location, root⟩ [] := by
    unfold walkBelow
    rw [hroot]
  rw [hwalk]
  constructor
  · intro h
    exact h.unique hwalked
  · rintro rfl
    exact hwalked

/-! ### Every entry once -/

theorem nodup_walkBelow (h : Opens fs root directory opened) :
    ((fs.walkBelow root).map Visit.path).Nodup := by
  obtain ⟨location, hroot⟩ := h.status_root
  obtain ⟨ways, hways⟩ := exists_ways_walkBelow hroot
  exact hways.nodup

/-- Each entry of a directory that a walk opens is visited once, as what it turns out to be. -/
theorem visited_once (h : Opens fs root directory opened)
    (hnode : fs.node? (directory.location ++ [name]) = some node) :
    ∃ before visit inner? after, fs.walkBelow root = before ++ visit :: after ∧
      Met fs (directory :: opened) (directory.path.join ⟨name⟩) node visit inner? ∧
      ∀ other ∈ before ++ after, other.path ≠ directory.path.join ⟨name⟩ := by
  obtain ⟨before, after, hwalk⟩ := List.append_of_mem (mem_walkBelow_visitEntry h hnode)
  refine ⟨before, _, _, after, hwalk, met_visitEntry fs _ _ _, ?_⟩
  intro other hother hsame
  have hnodup := nodup_walkBelow h
  have hpath := (path_visitEntry fs (directory :: opened) (directory.path.join ⟨name⟩) node).1
  rw [hwalk, List.map_append, List.map_cons, hpath, List.nodup_middle, List.nodup_cons,
    ← List.map_append] at hnodup
  exact hnodup.1 (List.mem_map.2 ⟨other, hother, hsame⟩)

theorem entry_of_opens (h : Opens fs root inner opened') :
    inner.path = root ∨ .entry inner.path .directory ∈ fs.walkBelow root := by
  cases h with
  | root hstatus => exact Or.inl rfl
  | into hopen hnode hstatus =>
    have hmem := mem_walkBelow_visitEntry hopen hnode
    simp only [visitEntry, hstatus] at hmem
    exact Or.inr hmem
  | through hopen hnode hstatus hfree =>
    have hmem := mem_walkBelow_visitEntry hopen hnode
    simp only [visitEntry, hstatus, openAt_eq_none_iff.2 hfree] at hmem
    exact Or.inr hmem

theorem path_ne_root (h : Opens fs root directory opened) (hvisit : visit ∈ fs.walkBelow root) :
    visit.path ≠ root := by
  obtain ⟨location, hroot⟩ := h.status_root
  obtain ⟨ways, hways⟩ := exists_ways_walkBelow hroot
  have hpath : visit.path ∈ ways.map root.descend := hways.paths ▸ List.mem_map.2 ⟨_, hvisit, rfl⟩
  obtain ⟨way, hway, hway'⟩ := List.mem_map.1 hpath
  obtain ⟨hne, hnames⟩ := hways.named way hway
  rw [← hway']
  intro heq
  have hnone : way = [] := Path.eq_of_descend_eq (p := root)
    (fun name hname => isPlain_of_isName (hnames name hname)) (by simp) heq
  exact hne hnone

/-- A link to a directory that is open is not opened: it is no directory that a walk goes into. -/
theorem not_opens_of_loop {target : Path} (h : Opens fs root directory opened)
    (hnode : fs.node? (directory.location ++ [name]) = some (.link target))
    (hstatus : fs.status (directory.path.join ⟨name⟩) = .ok (location, .directory))
    (hopen : ∃ other ∈ directory :: opened, other.location = location)
    (hinner : Opens fs root inner opened') : inner.path ≠ directory.path.join ⟨name⟩ := by
  obtain ⟨ancestor, hancestor⟩ : ∃ ancestor, openAt? (directory :: opened) location
      = some ancestor := by
    rw [← Option.ne_none_iff_exists']
    intro hnone
    obtain ⟨other, hother, hlocation⟩ := hopen
    exact openAt_eq_none_iff.1 hnone other hother hlocation
  have hloop := mem_walkBelow_visitEntry h hnode
  simp only [visitEntry, hstatus, hancestor] at hloop
  -- Entering it would be another visit of the same path.
  intro hpath
  rcases entry_of_opens hinner with hroot | hentry
  · exact path_ne_root h hloop (hpath.symm.trans hroot)
  · have heq := List.inj_on_of_nodup_map (nodup_walkBelow h) hentry hloop hpath
    cases heq

end Walks

end IdlBuild.FileSystem
