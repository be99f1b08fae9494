import IdlBuild.FileSystem.Walk
import IdlBuild.Proofs.FileSystem.Growth

/-!
# File systems that are alike

The entries of a file system stand in a list, but what is found there does not depend on their order.
Two file systems are alike when the same stands at every location and they are seen from the same
working directory. Everything that can be asked of them then has the same answer, walks meet the same
entries in the same order, since those of a directory are sorted (`sortedByName_congr`), and every
request ends alike: with the same fault, or with file systems that are alike again.
-/

namespace IdlBuild.FileSystem

/-- Whether two file systems hold the same entries and are seen from the same working directory. -/
structure Alike (fs fs' : FileSystem) : Prop where
  node : ∀ location, fs.node? location = fs'.node? location
  workingDirectory : fs.workingDirectory = fs'.workingDirectory

/-! ### Sorted entries -/

section Sorting

variable {κ α : Type} [LE κ] [DecidableLE κ] [Std.IsLinearOrder κ]

theorem pairwise_insertByName (entry : κ × α) {entries : List (κ × α)}
    (h : entries.Pairwise (·.1 ≤ ·.1)) : (insertByName entry entries).Pairwise (·.1 ≤ ·.1) := by
  induction entries with
  | nil => exact List.pairwise_singleton _ _
  | cons first rest ih =>
    rw [List.pairwise_cons] at h
    unfold insertByName
    split
    · next hle =>
      refine List.pairwise_cons.2 ⟨fun other hother => ?_, ih h.2⟩
      rcases List.mem_cons.1 ((insertByName_perm entry rest).mem_iff.1 hother) with rfl | hother
      · exact hle
      · exact h.1 other hother
    · next hlt =>
      have hfirst : entry.1 ≤ first.1 := Std.le_total.resolve_left hlt
      refine List.pairwise_cons.2 ⟨fun other hother => ?_, List.pairwise_cons.2 h⟩
      rcases List.mem_cons.1 hother with rfl | hother
      · exact hfirst
      · exact Std.le_trans hfirst (h.1 other hother)

theorem pairwise_sortedByName (entries : List (κ × α)) :
    (sortedByName entries).Pairwise (·.1 ≤ ·.1) := by
  induction entries with
  | nil => exact List.Pairwise.nil
  | cons entry rest ih => exact pairwise_insertByName entry ih

/-- Entries with distinct names have one sorted order. -/
theorem sortedByName_eq {entries sorted : List (κ × α)}
    (hperm : entries.Perm sorted) (hsorted : sorted.Pairwise (·.1 ≤ ·.1))
    (hdistinct : (entries.map Prod.fst).Nodup) : sortedByName entries = sorted := by
  have hall : (sortedByName entries).Perm sorted := (sortedByName_perm entries).trans hperm
  refine hall.eq_of_pairwise (fun a b ha hb hab hba => ?_) (pairwise_sortedByName entries) hsorted
  have hmema := (sortedByName_perm entries).mem_iff.1 ha
  have hmemb := hperm.mem_iff.2 hb
  exact List.inj_on_of_nodup_map hdistinct hmema hmemb (Std.le_antisymm hab hba)

theorem sortedByName_congr {entries entries' : List (κ × α)}
    (hperm : entries.Perm entries') (hdistinct : (entries.map Prod.fst).Nodup) :
    sortedByName entries = sortedByName entries' :=
  sortedByName_eq (hperm.trans (sortedByName_perm entries').symm) (pairwise_sortedByName entries')
    hdistinct

end Sorting

namespace Alike

variable {fs fs' fs'' : FileSystem}

theorem refl (fs : FileSystem) : Alike fs fs := ⟨fun _ => rfl, rfl⟩

theorem symm (h : Alike fs fs') : Alike fs' fs :=
  ⟨fun location => (h.node location).symm, h.workingDirectory.symm⟩

theorem trans (h : Alike fs fs') (h' : Alike fs' fs'') : Alike fs fs'' :=
  ⟨fun location => (h.node location).trans (h'.node location),
    h.workingDirectory.trans h'.workingDirectory⟩

theorem keptIn (h : Alike fs fs') : KeptIn fs fs' :=
  ⟨fun hnode => (h.node _).symm.trans hnode, h.workingDirectory.symm⟩

theorem mem_iff (h : Alike fs fs') (e : Location × Node) : e ∈ fs.entries ↔ e ∈ fs'.entries :=
  ⟨fun he => h.keptIn.mem he, fun he => h.symm.keptIn.mem he⟩

theorem isDirectory_iff (h : Alike fs fs') (location : Location) :
    fs.IsDirectory location ↔ fs'.IsDirectory location :=
  ⟨fun hd => h.keptIn.isDirectory hd, fun hd => h.symm.keptIn.isDirectory hd⟩

/-! ### Entries -/

theorem perm_locations (h : Alike fs fs') :
    (fs.entries.map Prod.fst).Perm (fs'.entries.map Prod.fst) := by
  rw [List.perm_ext_iff_of_nodup fs.distinct fs'.distinct]
  intro location
  simp only [List.mem_map, h.mem_iff]

theorem depthBound (h : Alike fs fs') : fs.depthBound = fs'.depthBound := by
  have hlength := h.perm_locations.length_eq
  rw [List.length_map, List.length_map] at hlength
  unfold FileSystem.depthBound
  rw [hlength]

theorem perm_children (h : Alike fs fs') (location : Location) :
    (fs.children location).Perm (fs'.children location) := by
  rw [List.perm_ext_iff_of_nodup (nodup_children fs location).of_map
    (nodup_children fs' location).of_map]
  rintro ⟨name, node⟩
  rw [mem_children, mem_children, h.node]

theorem sortedByName_children (h : Alike fs fs') (location : Location) :
    sortedByName (fs.children location) = sortedByName (fs'.children location) :=
  sortedByName_congr (h.perm_children location) (nodup_children fs location)

/-! ### Paths -/

theorem walk (h : Alike fs fs') (followLast : Bool) (directory : Location) (pieces : List FileName) :
    fs.walk followLast directory pieces = fs'.walk followLast directory pieces := by
  induction pieces generalizing directory with
  | nil => rfl
  | cons piece rest ih =>
    unfold FileSystem.walk
    simp only [h.node, ih]

theorem follow (h : Alike fs fs') (followLast : Bool) (links : Nat) (directory : Location)
    (pieces : List FileName) :
    fs.follow followLast links directory pieces = fs'.follow followLast links directory pieces := by
  induction links generalizing directory pieces with
  | zero =>
    unfold FileSystem.follow
    rw [h.walk]
  | succ links ih =>
    unfold FileSystem.follow
    rw [h.walk]
    simp only [ih]

theorem start (h : Alike fs fs') (p : Path) : fs.start p = fs'.start p :=
  (h.keptIn.start p).symm

theorem locate (h : Alike fs fs') (followLast : Bool) (p : Path) :
    fs.locate followLast p = fs'.locate followLast p := by
  unfold FileSystem.locate
  simp only [h.start, h.follow]

theorem locateLast (h : Alike fs fs') (p : Path) : fs.locateLast p = fs'.locateLast p := by
  unfold FileSystem.locateLast
  simp only [h.start, h.follow]

theorem status (h : Alike fs fs') (p : Path) : fs.status p = fs'.status p := by
  unfold FileSystem.status
  rw [h.locate]

theorem linkStatus (h : Alike fs fs') (p : Path) : fs.linkStatus p = fs'.linkStatus p := by
  unfold FileSystem.linkStatus
  rw [h.locate]

theorem pathExists (h : Alike fs fs') (p : Path) : fs.pathExists p = fs'.pathExists p := by
  unfold FileSystem.pathExists
  rw [h.status]

theorem isDirectoryPath (h : Alike fs fs') (p : Path) :
    fs.isDirectoryPath p = fs'.isDirectoryPath p := by
  unfold FileSystem.isDirectoryPath
  rw [h.status]

theorem absolute (h : Alike fs fs') (p : Path) : fs.absolute p = fs'.absolute p := by
  unfold FileSystem.absolute
  rw [h.workingDirectory]

theorem readFile (h : Alike fs fs') (p : Path) : fs.readFile p = fs'.readFile p := by
  unfold FileSystem.readFile
  rw [h.status]

/-! ### Walks -/

/-- The entries of a directory are read in some order. -/
theorem readDirectory (h : Alike fs fs') (p : Path) :
    (∃ fault, fs.readDirectory p = .error fault ∧ fs'.readDirectory p = .error fault) ∨
      ∃ location, fs.readDirectory p = .ok (fs.children location) ∧
        fs'.readDirectory p = .ok (fs'.children location) := by
  unfold FileSystem.readDirectory
  rw [h.status]
  rcases fs'.status p with fault | ⟨location, node⟩
  · exact Or.inl ⟨fault, rfl, rfl⟩
  · cases node with
    | directory => exact Or.inr ⟨location, rfl, rfl⟩
    | file content mode => exact Or.inl ⟨.notDirectory, rfl, rfl⟩
    | link target => exact Or.inl ⟨.notDirectory, rfl, rfl⟩

theorem visitEntry (h : Alike fs fs') (opened : List OpenDirectory) (child : Path) (node : Node) :
    fs.visitEntry opened child node = fs'.visitEntry opened child node := by
  cases node with
  | directory =>
    unfold FileSystem.visitEntry
    rw [h.status]
  | file content mode => rfl
  | link target =>
    unfold FileSystem.visitEntry
    rw [h.status]

theorem visitBelow (h : Alike fs fs') (depth : Nat) (directory : OpenDirectory)
    (opened : List OpenDirectory) :
    fs.visitBelow depth directory opened = fs'.visitBelow depth directory opened := by
  induction depth generalizing directory opened with
  | zero => rfl
  | succ depth ih =>
    unfold FileSystem.visitBelow
    rcases h.readDirectory directory.path with ⟨fault, hread, hread'⟩ | ⟨location, hread, hread'⟩
    · rw [hread, hread']
    · simp only [hread, hread', h.sortedByName_children, h.visitEntry, ih]

theorem walkBelow (h : Alike fs fs') (p : Path) : fs.walkBelow p = fs'.walkBelow p := by
  unfold FileSystem.walkBelow
  simp only [h.status, h.depthBound, h.visitBelow]

theorem listEntry (h : Alike fs fs') (directory : OpenDirectory) (name : FileName) (node : Node) :
    fs.listEntry directory name node = fs'.listEntry directory name node := by
  unfold FileSystem.listEntry
  rw [h.visitEntry]

theorem list (h : Alike fs fs') (p : Path) : fs.list p = fs'.list p := by
  unfold FileSystem.list
  rw [h.status]
  rcases h.readDirectory p with ⟨fault, hread, hread'⟩ | ⟨location, hread, hread'⟩
  · rw [hread, hread']
  · simp only [hread, hread', h.sortedByName_children, h.listEntry]

/-! ### Changes -/

theorem of_mem (hmem : ∀ e, e ∈ fs.entries ↔ e ∈ fs'.entries)
    (hdirectory : fs.workingDirectory = fs'.workingDirectory) : Alike fs fs' :=
  ⟨fun location => node?_congr fun node => hmem (location, node), hdirectory⟩

theorem add (h : Alike fs fs') (directory : Location) (name : FileName) (node : Node) :
    Alike (fs.add directory name node) (fs'.add directory name node) := by
  have hfree : (fs.IsDirectory directory ∧ IsName name ∧ node.IsSound ∧
        directory ++ [name] ∉ fs.entries.map Prod.fst) ↔
      fs'.IsDirectory directory ∧ IsName name ∧ node.IsSound ∧
        directory ++ [name] ∉ fs'.entries.map Prod.fst := by
    rw [h.isDirectory_iff, h.perm_locations.mem_iff]
  refine of_mem (fun e => ?_) ?_
  · unfold FileSystem.add
    by_cases hadd : fs.IsDirectory directory ∧ IsName name ∧ node.IsSound ∧
        directory ++ [name] ∉ fs.entries.map Prod.fst
    · rw [dif_pos hadd, dif_pos (hfree.1 hadd)]
      simp only [List.mem_append, h.mem_iff]
    · rw [dif_neg hadd, dif_neg fun hadd' => hadd (hfree.2 hadd')]
      exact h.mem_iff e
  · rw [workingDirectory_add, workingDirectory_add, h.workingDirectory]

theorem overwrite (h : Alike fs fs') (location : Location) (content : Text.Bytes) (mode : Nat) :
    Alike (fs.overwrite location content mode) (fs'.overwrite location content mode) := by
  refine of_mem (fun e => ?_) h.workingDirectory
  simp only [FileSystem.overwrite, List.mem_map, h.mem_iff]

theorem erase (h : Alike fs fs') (location : Location) :
    Alike (fs.erase location) (fs'.erase location) := by
  have hbare : (location ≠ [] ∧ ∀ e ∈ fs.entries, e.1.dropLast ≠ location) ↔
      location ≠ [] ∧ ∀ e ∈ fs'.entries, e.1.dropLast ≠ location := by
    simp only [h.mem_iff]
  unfold FileSystem.erase
  by_cases hgo : location ≠ [] ∧ ∀ e ∈ fs.entries, e.1.dropLast ≠ location
  · rw [dif_pos hgo, dif_pos (hbare.1 hgo)]
    refine of_mem (fun e => ?_) ?_
    · simp only [List.mem_filter, h.mem_iff]
    · simp only [h.workingDirectory]
  · rw [dif_neg hgo, dif_neg fun hgo' => hgo (hbare.2 hgo')]
    exact h

end Alike

/-- Whether two requests end alike: with the same fault, or with file systems that are alike. -/
inductive EndAlike : Except IoFault FileSystem → Except IoFault FileSystem → Prop where
  | failed (fault : IoFault) : EndAlike (.error fault) (.error fault)
  | done {fs fs' : FileSystem} (h : Alike fs fs') : EndAlike (.ok fs) (.ok fs')

/-- Whether two steps give the same result and leave file systems that are alike. -/
inductive LeaveAlike {α : Type} : α × FileSystem → α × FileSystem → Prop where
  | same (result : α) {fs fs' : FileSystem} (h : Alike fs fs') :
      LeaveAlike (result, fs) (result, fs')

theorem LeaveAlike.both {α : Type} {end₁ end₂ : α × FileSystem} (h : LeaveAlike end₁ end₂) :
    end₁.1 = end₂.1 ∧ Alike end₁.2 end₂.2 := by
  cases h with
  | same result h => exact ⟨rfl, h⟩

namespace Alike

variable {fs fs' : FileSystem}

theorem makeDirectory (h : Alike fs fs') (p : Path) :
    EndAlike (fs.makeDirectory p) (fs'.makeDirectory p) := by
  unfold FileSystem.makeDirectory
  rw [h.locateLast]
  rcases fs'.locateLast p with fault | ⟨directory, last⟩
  · exact .failed fault
  · cases last with
    | root => exact .failed .fileExists
    | here => exact .failed .fileExists
    | up => exact .failed .fileExists
    | name name =>
      simp only [bind, Except.bind, h.node]
      cases fs'.node? (directory ++ [name]) with
      | some node => exact .failed .fileExists
      | none => exact .done (h.add directory name .directory)

theorem makeDirectoriesWithin (h : Alike fs fs') (depth : Nat) (p : Path) :
    LeaveAlike (fs.makeDirectoriesWithin depth p) (fs'.makeDirectoriesWithin depth p) := by
  induction depth generalizing fs fs' p with
  | zero => exact .same _ h
  | succ depth ih =>
    have hself := h.makeDirectory p
    unfold FileSystem.makeDirectoriesWithin
    by_cases hempty : p.bytes.isEmpty = true
    · rw [if_pos hempty, if_pos hempty]
      exact .same _ h
    rw [if_neg hempty, if_neg hempty]
    generalize fs.makeDirectory p = made, fs'.makeDirectory p = made' at hself
    cases hself with
    | done hmade => exact .same _ hmade
    | failed fault =>
      dsimp only
      by_cases hthere : (!fault.isMissing) = true
      · rw [if_pos hthere, if_pos hthere, h.isDirectoryPath]
        exact .same _ h
      rw [if_neg hthere, if_neg hthere]
      cases p.parent? with
      | none => exact .same _ h
      | some parent =>
        have hparents := ih h parent
        dsimp only
        generalize fs.makeDirectoriesWithin depth parent = inside,
          fs'.makeDirectoriesWithin depth parent = inside' at hparents
        cases hparents with
        | @same result grown grown' hgrown =>
          rcases result with fault | ⟨⟩
          · exact .same _ hgrown
          · have hagain := hgrown.makeDirectory p
            dsimp only
            generalize grown.makeDirectory p = made, grown'.makeDirectory p = made' at hagain
            cases hagain with
            | done hmade => exact .same _ hmade
            | failed fault =>
              dsimp only
              rw [hgrown.isDirectoryPath]
              exact .same _ hgrown

theorem makeDirectories (h : Alike fs fs') (p : Path) :
    LeaveAlike (fs.makeDirectories p) (fs'.makeDirectories p) :=
  h.makeDirectoriesWithin _ p

theorem writeFile (h : Alike fs fs') (p : Path) (content : Text.Bytes) :
    EndAlike (fs.writeFile p content) (fs'.writeFile p content) := by
  unfold FileSystem.writeFile
  rw [h.locateLast, h.locate]
  by_cases hslash : hasTrailingSlash p = true
  · rw [if_pos hslash, if_pos hslash]
    rcases fs'.locateLast p with fault | last
    · exact .failed fault
    · exact .failed .isDirectory
  · rw [if_neg hslash, if_neg hslash]
    rcases fs'.locate true p with fault | place
    · exact .failed fault
    · cases place with
      | vacant directory name => exact .done (h.add directory name _)
      | found location node =>
        cases node with
        | directory => exact .failed .isDirectory
        | file old mode => exact .done (h.overwrite location content mode)
        | link target => exact .failed .tooManyLinks

theorem removeFile (h : Alike fs fs') (p : Path) :
    EndAlike (fs.removeFile p) (fs'.removeFile p) := by
  unfold FileSystem.removeFile
  rw [h.locateLast]
  rcases fs'.locateLast p with fault | ⟨directory, last⟩
  · exact .failed fault
  · cases last with
    | root => exact .failed .isDirectory
    | here => exact .failed .isDirectory
    | up => exact .failed .isDirectory
    | name name =>
      simp only [bind, Except.bind, h.node]
      cases fs'.node? (directory ++ [name]) with
      | none => exact .failed .noSuchEntry
      | some node =>
        by_cases hslash : hasTrailingSlash p = true
        · cases node with
          | directory => exact .failed .isDirectory
          | file content mode => simpa only [if_pos hslash] using .failed .notDirectory
          | link target => simpa only [if_pos hslash] using .failed .notDirectory
        · cases node with
          | directory => exact .failed .isDirectory
          | file content mode => simpa only [if_neg hslash] using .done (h.erase _)
          | link target => simpa only [if_neg hslash] using .done (h.erase _)

end Alike

end IdlBuild.FileSystem
