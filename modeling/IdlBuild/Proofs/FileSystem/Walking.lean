import IdlBuild.FileSystem.Walk
import IdlBuild.Proofs.FileSystem.Shrinking

/-!
# What a walk visits

`Opens` says which directories a walk opens and what is open around each of them: the entries of an
open directory are opened in turn, a link only when the directory behind it is not open already. The
files among the visits of a walk are those in the directories that it opens (`mem_walkBelow_iff`);
the bound on its depth leaves none out (`Opens.length_lt`).
-/

namespace IdlBuild.FileSystem

/-- Whether a walk from a path opens a directory while others are open, the innermost first. -/
inductive Opens (fs : FileSystem) (root : Path) : OpenDirectory → List OpenDirectory → Prop where
  | root {location : Location} (hstatus : fs.status root = .ok (location, .directory)) :
      Opens fs root ⟨location, root⟩ []
  | into {directory : OpenDirectory} {opened : List OpenDirectory} {name : FileName}
      {location : Location} (hopen : Opens fs root directory opened)
      (hnode : fs.node? (directory.location ++ [name]) = some .directory)
      (hstatus : fs.status (directory.path.join ⟨name⟩) = .ok (location, .directory)) :
      Opens fs root ⟨location, directory.path.join ⟨name⟩⟩ (directory :: opened)
  | through {directory : OpenDirectory} {opened : List OpenDirectory} {name : FileName}
      {target : Path} {location : Location} (hopen : Opens fs root directory opened)
      (hnode : fs.node? (directory.location ++ [name]) = some (.link target))
      (hstatus : fs.status (directory.path.join ⟨name⟩) = .ok (location, .directory))
      (hfree : ∀ other ∈ directory :: opened, other.location ≠ location) :
      Opens fs root ⟨location, directory.path.join ⟨name⟩⟩ (directory :: opened)

/-- Whether a name in an open directory is that of a file, or of a link to something that is there
and is no directory. -/
inductive HoldsFile (fs : FileSystem) (directory : OpenDirectory) (name : FileName) : Prop where
  | file {content : Text.Bytes} {mode : Nat}
      (hnode : fs.node? (directory.location ++ [name]) = some (.file content mode))
  | link {target : Path} {location : Location} {node : Node}
      (hnode : fs.node? (directory.location ++ [name]) = some (.link target))
      (hstatus : fs.status (directory.path.join ⟨name⟩) = .ok (location, node))
      (hne : node ≠ .directory)

/-! ### Where open directories are -/

section Places

variable {fs : FileSystem} {root p : Path} {directory inner : OpenDirectory}
  {opened : List OpenDirectory} {location location' : Location} {name : FileName} {node : Node}
  {visit : Visit}

theorem Points.status (h : Points fs p location) (hstatus : fs.status p = .ok (location', node)) :
    location' = location ∧ node = .directory := by
  obtain ⟨start, hstart, hfollow⟩ := status_eq_ok hstatus
  obtain ⟨links, hleads⟩ := h.leads start hstart
  rcases steps_eq_or p with hsteps | hsteps
  · rw [hsteps, ← List.append_nil p.named, follow_of_leads hleads (Or.inr rfl), follow_nil]
      at hfollow
    cases hfollow
    exact ⟨rfl, rfl⟩
  · rw [hsteps, follow_of_leads hleads (Or.inr rfl), follow_here, follow_nil] at hfollow
    cases hfollow
    exact ⟨rfl, rfl⟩

theorem Points.status_file (h : Points fs p location) {content : Text.Bytes} {mode : Nat}
    (hnode : fs.node? (location ++ [name]) = some (.file content mode))
    (hstatus : fs.status (p.join ⟨name⟩) = .ok (location', node)) :
    location' = location ++ [name] ∧ node = .file content mode := by
  have hplain := isPlain_of_isName (isName_of_node hnode).1
  obtain ⟨start, hstart, hfollow⟩ := status_eq_ok hstatus
  obtain ⟨links, hleads⟩ := h.leads start (h.start_of_join hplain hstart)
  rw [(p.endsWith_join_name hplain).steps_eq, named_join_name h.bytes_ne_nil hplain,
    follow_of_leads hleads (Or.inr rfl), follow_found_last hnode (by simp) (by simp)] at hfollow
  cases hfollow
  exact ⟨rfl, rfl⟩

theorem HoldsFile.exists_node (h : HoldsFile fs directory name) :
    ∃ node, fs.node? (directory.location ++ [name]) = some node := by
  cases h with
  | file hnode => exact ⟨_, hnode⟩
  | link hnode hstatus hne => exact ⟨_, hnode⟩

theorem points_of_status (h : fs.status p = .ok (location, .directory)) : Points fs p location := by
  obtain ⟨start, links, hstart, hleads⟩ := leads_of_status_directory h
  exact .of_start hstart hleads

theorem IsDirectory.length_le (h : fs.IsDirectory location) :
    location.length ≤ fs.entries.length := by
  rcases h with rfl | hmem
  · exact Nat.zero_le _
  · exact length_le_entries hmem

namespace Opens

theorem status (h : Opens fs root directory opened) :
    fs.status directory.path = .ok (directory.location, .directory) := by
  cases h with
  | root hstatus => exact hstatus
  | into hopen hnode hstatus => exact hstatus
  | through hopen hnode hstatus hfree => exact hstatus

theorem readDirectory (h : Opens fs root directory opened) :
    fs.readDirectory directory.path = .ok (fs.children directory.location) := by
  unfold FileSystem.readDirectory
  rw [h.status]
  rfl

theorem status_root (h : Opens fs root directory opened) :
    ∃ location, fs.status root = .ok (location, .directory) := by
  induction h with
  | root hstatus => exact ⟨_, hstatus⟩
  | into hopen hnode hstatus ih => exact ih
  | through hopen hnode hstatus hfree ih => exact ih

theorem child (h : Opens fs root directory opened)
    (hnode : fs.node? (directory.location ++ [name]) = some .directory)
    (hstatus : fs.status (directory.path.join ⟨name⟩) = .ok (location, node)) :
    location = directory.location ++ [name] ∧ node = .directory :=
  ((points_of_status h.status).child hnode).status hstatus

theorem isDirectory (h : Opens fs root directory opened) :
    ∀ other ∈ opened, fs.IsDirectory other.location := by
  induction h with
  | root hstatus => simp
  | into hopen hnode hstatus ih =>
    exact List.forall_mem_cons.2 ⟨isDirectory_of_node hnode, ih⟩
  | through hopen hnode hstatus hfree ih =>
    exact List.forall_mem_cons.2 ⟨isDirectory_of_node hnode, ih⟩

/-! ### How deep a walk goes -/

/-- Along the open directories, those entered through links stand at locations of their own, and
between two of them the locations grow by one name each. -/
theorem exists_heads (h : Opens fs root directory opened) :
    ∃ heads : List Location, heads.Nodup ∧
      heads ⊆ (directory :: opened).map OpenDirectory.location ∧
      opened.length + (fs.entries.length + 1)
        ≤ heads.length * (fs.entries.length + 1) + directory.location.length := by
  induction h with
  | @root location hstatus =>
    refine ⟨[location], by simp, by simp, ?_⟩
    simp only [List.length_nil, List.length_singleton]
    omega
  | into hopen hnode hstatus ih =>
    obtain ⟨heads, hnodup, hheads, hlength⟩ := ih
    obtain ⟨rfl, -⟩ := hopen.child hnode hstatus
    refine ⟨heads, hnodup, List.subset_cons_of_subset _ hheads, ?_⟩
    simp only [List.length_cons, List.length_append, List.length_nil]
    omega
  | @through directory opened name target location hopen hnode hstatus hfree ih =>
    obtain ⟨heads, hnodup, hheads, hlength⟩ := ih
    have hnew : location ∉ heads := by
      intro hmem
      obtain ⟨other, hother, hsame⟩ := List.mem_map.1 (hheads hmem)
      exact hfree other hother hsame
    refine ⟨location :: heads, List.nodup_cons.2 ⟨hnew, hnodup⟩, ?_, ?_⟩
    · exact List.cons_subset_cons _ hheads
    · have hshort := (isDirectory_of_node hnode).length_le
      simp only [List.length_cons, Nat.succ_mul]
      omega

/-- Each directory entered through a link is another one, and there are no more than entries and the
root. -/
theorem length_le (h : Opens fs root directory opened)
    (hdirectory : fs.IsDirectory directory.location) :
    opened.length + 1 ≤ (fs.entries.length + 1) * (fs.entries.length + 1) := by
  obtain ⟨heads, hnodup, hheads, hlength⟩ := h.exists_heads
  have hplaces : heads ⊆ [] :: fs.entries.map Prod.fst := by
    intro head hhead
    obtain ⟨other, hother, rfl⟩ := List.mem_map.1 (hheads hhead)
    have hd : fs.IsDirectory other.location := by
      rcases List.mem_cons.1 hother with rfl | hother
      · exact hdirectory
      · exact h.isDirectory other hother
    rcases hd with hroot | hmem
    · rw [hroot]
      exact List.mem_cons_self ..
    · exact List.mem_cons_of_mem _ (List.mem_map.2 ⟨_, hmem, rfl⟩)
  have hcount := (List.subperm_of_subset hnodup hplaces).length_le
  rw [List.length_cons, List.length_map] at hcount
  have hrows := Nat.mul_le_mul_right (fs.entries.length + 1) hcount
  have hshort := hdirectory.length_le
  omega

theorem length_lt (h : Opens fs root directory opened) : opened.length < fs.depthBound := by
  have hsquare : (fs.entries.length + 1) * (fs.entries.length + 1) < fs.depthBound :=
    Nat.mul_self_lt_mul_self (Nat.lt_succ_self _)
  cases h with
  | root hstatus => exact Nat.lt_of_le_of_lt (Nat.zero_le _) hsquare
  | into hopen hnode hstatus =>
    exact Nat.lt_of_le_of_lt (hopen.length_le (isDirectory_of_node hnode)) hsquare
  | through hopen hnode hstatus hfree =>
    exact Nat.lt_of_le_of_lt (hopen.length_le (isDirectory_of_node hnode)) hsquare

end Opens

/-! ### Visits -/

theorem openAt_eq_none_iff :
    openAt? opened location = none ↔ ∀ other ∈ opened, other.location ≠ location := by
  simp [openAt?, List.find?_eq_none]

/-- The directory that a walk goes on into is one that it opens. -/
theorem opens_of_visitEntry (h : Opens fs root directory opened)
    (hnode : fs.node? (directory.location ++ [name]) = some node)
    (hinner : (visitEntry fs (directory :: opened) (directory.path.join ⟨name⟩) node).2
      = some inner) : Opens fs root inner (directory :: opened) := by
  cases node with
  | file content mode => simp [visitEntry] at hinner
  | directory =>
    rcases hstatus : fs.status (directory.path.join ⟨name⟩) with fault | ⟨location, found⟩
    · simp [visitEntry, hstatus] at hinner
    · obtain ⟨-, rfl⟩ := h.child hnode hstatus
      simp only [visitEntry, hstatus, Option.some.injEq] at hinner
      subst hinner
      exact .into h hnode hstatus
  | link target =>
    rcases hstatus : fs.status (directory.path.join ⟨name⟩) with fault | ⟨location, found⟩
    · simp [visitEntry, hstatus] at hinner
    · cases found with
      | file content mode => simp [visitEntry, hstatus] at hinner
      | link further => simp [visitEntry, hstatus] at hinner
      | directory =>
        cases hopenAt : openAt? (directory :: opened) location with
        | some ancestor => simp [visitEntry, hstatus, hopenAt] at hinner
        | none =>
          simp only [visitEntry, hstatus, hopenAt, Option.some.injEq] at hinner
          subst hinner
          exact .through h hnode hstatus (openAt_eq_none_iff.1 hopenAt)

/-- The entries that a walk visits as files. -/
theorem visitEntry_file_iff
    (hnode : fs.node? (directory.location ++ [name]) = some node) :
    (visitEntry fs (directory :: opened) (directory.path.join ⟨name⟩) node).1 = .entry p .file ↔
      HoldsFile fs directory name ∧ p = directory.path.join ⟨name⟩ := by
  constructor
  · intro hvisit
    cases node with
    | file content mode =>
      simp only [visitEntry, Visit.entry.injEq, and_true] at hvisit
      exact ⟨.file hnode, hvisit.symm⟩
    | directory =>
      rcases hstatus : fs.status (directory.path.join ⟨name⟩) with fault | ⟨location, found⟩ <;>
        simp [visitEntry, hstatus] at hvisit
    | link target =>
      rcases hstatus : fs.status (directory.path.join ⟨name⟩) with fault | ⟨location, found⟩
      · simp [visitEntry, hstatus] at hvisit
      · cases found with
        | directory =>
          cases hopenAt : openAt? (directory :: opened) location <;>
            simp [visitEntry, hstatus, hopenAt] at hvisit
        | file content mode =>
          simp only [visitEntry, hstatus, Visit.entry.injEq, and_true] at hvisit
          exact ⟨.link hnode hstatus (by simp), hvisit.symm⟩
        | link further =>
          simp only [visitEntry, hstatus, Visit.entry.injEq, and_true] at hvisit
          exact ⟨.link hnode hstatus (by simp), hvisit.symm⟩
  · rintro ⟨hfile, rfl⟩
    cases hfile with
    | file hfile =>
      obtain rfl := Option.some.inj (hnode.symm.trans hfile)
      rfl
    | @link target location found hlink hstatus hne =>
      obtain rfl := Option.some.inj (hnode.symm.trans hlink)
      cases found with
      | directory => exact absurd rfl hne
      | file content mode => simp only [visitEntry, hstatus]
      | link further => simp only [visitEntry, hstatus]

/-- The visits that one entry of an open directory brings: its own and those below it. -/
def entryVisits (fs : FileSystem) (depth : Nat) (directory : OpenDirectory)
    (opened : List OpenDirectory) (entry : FileName × Node) : List Visit :=
  let (visit, inner?) :=
    visitEntry fs (directory :: opened) (directory.path.join ⟨entry.1⟩) entry.2
  visit :: (inner?.map (visitBelow fs depth · (directory :: opened))).getD []

/-- A walk below an open directory brings the visits of its entries, in the order of their names. -/
theorem visitBelow_succ (h : Opens fs root directory opened) (depth : Nat) :
    fs.visitBelow (depth + 1) directory opened =
      (sortedByName (fs.children directory.location)).flatMap
        (entryVisits fs depth directory opened) := by
  conv => lhs; unfold visitBelow
  simp only [h.readDirectory]
  refine List.flatMap_congr fun entry _ => ?_
  unfold entryVisits
  rcases visitEntry fs (directory :: opened) (directory.path.join ⟨entry.1⟩) entry.2 with
    ⟨visit, inner | _⟩
  · rfl
  · rfl

theorem mem_entryVisits {entry : FileName × Node} {depth : Nat} :
    visit ∈ entryVisits fs depth directory opened entry ↔
      visit = (visitEntry fs (directory :: opened) (directory.path.join ⟨entry.1⟩) entry.2).1 ∨
        ∃ inner, (visitEntry fs (directory :: opened) (directory.path.join ⟨entry.1⟩) entry.2).2
          = some inner ∧ visit ∈ fs.visitBelow depth inner (directory :: opened) := by
  unfold entryVisits
  rcases visitEntry fs (directory :: opened) (directory.path.join ⟨entry.1⟩) entry.2 with
    ⟨here, inner | _⟩
  · simp
  · simp

/-- A walk below an open directory visits its entries, and goes on into those that it opens. -/
theorem mem_visitBelow_succ (h : Opens fs root directory opened) (depth : Nat) :
    visit ∈ fs.visitBelow (depth + 1) directory opened ↔
      ∃ name node, fs.node? (directory.location ++ [name]) = some node ∧
        (visit = (visitEntry fs (directory :: opened) (directory.path.join ⟨name⟩) node).1 ∨
          ∃ inner, (visitEntry fs (directory :: opened) (directory.path.join ⟨name⟩) node).2
            = some inner ∧ visit ∈ fs.visitBelow depth inner (directory :: opened)) := by
  simp only [visitBelow_succ h, List.mem_flatMap, (sortedByName_perm _).mem_iff, Prod.exists,
    mem_children, mem_entryVisits]

theorem eq_fault_of_mem_visitBelow {depth : Nat} {fault : IoFault}
    (hread : fs.readDirectory directory.path = .error fault)
    (hvisit : visit ∈ fs.visitBelow depth directory opened) :
    visit = .fault (.request directory.path fault) := by
  unfold visitBelow at hvisit
  cases depth with
  | zero => cases hvisit
  | succ depth =>
    simp only [hread] at hvisit
    exact List.mem_singleton.1 hvisit

theorem file_of_mem_visitBelow (depth : Nat) (h : Opens fs root directory opened)
    (hvisit : .entry p .file ∈ fs.visitBelow depth directory opened) :
    ∃ directory opened name, Opens fs root directory opened ∧ HoldsFile fs directory name ∧
      p = directory.path.join ⟨name⟩ := by
  induction depth generalizing directory opened with
  | zero =>
    unfold visitBelow at hvisit
    cases hvisit
  | succ depth ih =>
    obtain ⟨name, node, hnode, hhere | ⟨inner, hinner, hbelow⟩⟩ :=
      (mem_visitBelow_succ h depth).1 hvisit
    · exact ⟨directory, opened, name, h, (visitEntry_file_iff hnode).1 hhere.symm⟩
    · exact ih (opens_of_visitEntry h hnode hinner) hbelow

/-- A walk reaches every directory that it opens before its depth is used up. -/
theorem mem_walkBelow_of_mem_visitBelow (h : Opens fs root directory opened)
    (hvisit : visit ∈ fs.visitBelow (fs.depthBound - opened.length) directory opened) :
    visit ∈ fs.walkBelow root := by
  have hgoesOn : ∀ {directory inner : OpenDirectory} {opened : List OpenDirectory} {name : FileName}
      {node : Node}, Opens fs root directory opened →
      fs.node? (directory.location ++ [name]) = some node →
      (visitEntry fs (directory :: opened) (directory.path.join ⟨name⟩) node).2 = some inner →
      visit ∈ fs.visitBelow (fs.depthBound - (directory :: opened).length) inner
        (directory :: opened) →
      visit ∈ fs.visitBelow (fs.depthBound - opened.length) directory opened := by
    intro directory inner opened name node hopen hnode hinner hmem
    have hdepth : fs.depthBound - opened.length
        = fs.depthBound - (directory :: opened).length + 1 := by
      have hlength := hopen.length_lt
      rw [List.length_cons]
      omega
    rw [hdepth]
    exact (mem_visitBelow_succ hopen _).2 ⟨name, node, hnode, Or.inr ⟨inner, hinner, hmem⟩⟩
  induction h with
  | root hstatus =>
    unfold walkBelow
    rw [hstatus]
    exact hvisit
  | into hopen hnode hstatus ih =>
    exact ih (hgoesOn hopen hnode (by simp only [visitEntry, hstatus]) hvisit)
  | through hopen hnode hstatus hfree ih =>
    have hopenAt := openAt_eq_none_iff.2 hfree
    exact ih (hgoesOn hopen hnode (by simp only [visitEntry, hstatus, hopenAt]) hvisit)

theorem mem_walkBelow_visitEntry (h : Opens fs root directory opened)
    (hnode : fs.node? (directory.location ++ [name]) = some node) :
    (visitEntry fs (directory :: opened) (directory.path.join ⟨name⟩) node).1
      ∈ fs.walkBelow root := by
  apply mem_walkBelow_of_mem_visitBelow h
  obtain ⟨depth, hdepth⟩ := Nat.exists_eq_succ_of_ne_zero (Nat.sub_ne_zero_of_lt h.length_lt)
  rw [hdepth]
  exact (mem_visitBelow_succ h depth).2 ⟨name, node, hnode, Or.inl rfl⟩

/-- The files that a walk visits are those in the directories that it opens. -/
theorem mem_walkBelow_iff :
    .entry p .file ∈ fs.walkBelow root ↔
      ∃ directory opened name, Opens fs root directory opened ∧ HoldsFile fs directory name ∧
        p = directory.path.join ⟨name⟩ := by
  constructor
  · intro hvisit
    unfold walkBelow at hvisit
    rcases hstatus : fs.status root with fault | ⟨location, node⟩
    · simp [hstatus] at hvisit
    · simp only [hstatus] at hvisit
      by_cases hdirectory : node = .directory
      · subst hdirectory
        exact file_of_mem_visitBelow _ (.root hstatus) hvisit
      · have hread : fs.readDirectory (OpenDirectory.mk location root).path
            = .error .notDirectory := by
          unfold readDirectory
          rw [hstatus]
          cases node with
          | directory => exact absurd rfl hdirectory
          | file content mode => rfl
          | link target => rfl
        have hfault := eq_fault_of_mem_visitBelow hread hvisit
        cases hfault
  · rintro ⟨directory, opened, name, hopen, hfile, rfl⟩
    obtain ⟨node, hnode⟩ := hfile.exists_node
    have hvisit : (visitEntry fs (directory :: opened) (directory.path.join ⟨name⟩) node).1
        = .entry (directory.path.join ⟨name⟩) .file := (visitEntry_file_iff hnode).2 ⟨hfile, rfl⟩
    rw [← hvisit]
    exact mem_walkBelow_visitEntry hopen hnode

end Places

end IdlBuild.FileSystem
