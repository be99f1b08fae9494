import IdlBuild.Proofs.FileSystem.Listings
import IdlBuild.Proofs.FileSystem.Ordering
import IdlBuild.Proofs.Inputs.Membership

/-!
# The order of the selected files

A directory adds its files in the order of the ways to them, name by name and names by their bytes,
and it adds the same files in the same order however the entries of each directory are listed
(`considerInput_ordered`).
-/

namespace IdlBuild

open FileSystem

/-! ### Listings -/

section Listings

variable {fs fs' : FileSystem}

theorem Finding.addPath_alike (h : Alike fs fs') (finding : Finding) (p : Path) :
    finding.addPath fs p = finding.addPath fs' p := by
  unfold Finding.addPath InputFile.ofPath
  rw [h.absolute]

theorem considerVisit_alike (h : Alike fs fs') (directory : Path) (exclusions : Exclusions) :
    considerVisit fs directory exclusions = considerVisit fs' directory exclusions := by
  funext finding visit
  cases visit with
  | fault fault => rfl
  | entry p kind =>
    cases kind with
    | directory => rfl
    | file => simp only [considerVisit, Finding.addPath_alike h]

theorem considerInput_alike (h : Alike fs fs') (exclusions : Exclusions) :
    considerInput fs exclusions = considerInput fs' exclusions := by
  funext finding input
  unfold considerInput
  simp only [h.pathExists, h.isDirectoryPath, h.walkBelow, considerVisit_alike h,
    Finding.addPath_alike h]

/-- The same files are found in file systems that are alike, and the same is said of them. -/
theorem selectInputs_alike (h : Alike fs fs') (inputs : String) (exclusions : Exclusions)
    (journal : Journal) :
    selectInputs fs inputs exclusions journal = selectInputs fs' inputs exclusions journal := by
  unfold selectInputs
  rw [considerInput_alike h]

end Listings

/-! ### Files in order -/

section Order

variable {fs : FileSystem} {root : Path} {exclusions : Exclusions}

/-- Whether a file is what a walk has visited along a way from its root. -/
def IsVisited (fs : FileSystem) (root : Path) (visits : List Visit) (way : List FileName)
    (file : InputFile) : Prop :=
  .entry (root.descend way) .file ∈ visits ∧ fs.absolute (root.descend way) = .ok file.path

theorem files_considerVisit (fs : FileSystem) (directory : Path) (exclusions : Exclusions)
    (finding : Finding) (visit : Visit) :
    (considerVisit fs directory exclusions finding visit).2.files = finding.files ∨
      (considerVisit fs directory exclusions finding visit).1 = .ok () ∧
        ∃ p file, visit = .entry p .file ∧ fs.absolute p = .ok file.path ∧
          (considerVisit fs directory exclusions finding visit).2.files
            = finding.files ++ [file] := by
  by_cases htaken : ∃ p, IsTaken exclusions visit p
  · obtain ⟨p, hp⟩ := htaken
    rw [considerVisit_taken hp, Finding.addPath, InputFile.ofPath]
    rcases habsolute : fs.absolute p with fault | absolute
    · exact Or.inl rfl
    · dsimp only
      unfold Finding.add
      split_ifs
      · exact Or.inl rfl
      · exact Or.inr ⟨rfl, p, ⟨absolute⟩, hp.1, habsolute, rfl⟩
  · exact Or.inl (considerVisit_passed (not_exists.1 htaken)).2

theorem exists_added {visits : List Visit} {ways : List (List FileName)}
    (h : visits.map Visit.path = ways.map root.descend) (finding : Finding) :
    ∃ taken added, taken.Sublist ways ∧ List.Forall₂ (IsVisited fs root visits) taken added ∧
      (inTurn (considerVisit fs root exclusions) finding visits).2.files
        = finding.files ++ added := by
  induction visits generalizing ways finding with
  | nil => exact ⟨[], [], List.nil_sublist _, .nil, (List.append_nil _).symm⟩
  | cons visit visits ih =>
    cases ways with
    | nil => cases h
    | cons way ways =>
      rw [List.map_cons, List.map_cons] at h
      obtain ⟨hpath, hpaths⟩ := List.cons.inj h
      have hfiles := files_considerVisit fs root exclusions finding visit
      rcases hstep : considerVisit fs root exclusions finding visit with ⟨failure | ⟨⟩, after⟩
      · -- The run ends here, and a step that fails adds nothing.
        rw [hstep] at hfiles
        have hsame : after.files = finding.files := hfiles.resolve_right (by simp)
        simp only [inTurn_cons, hstep]
        exact ⟨[], [], List.nil_sublist _, .nil, by rw [hsame, List.append_nil]⟩
      · obtain ⟨taken, added, hsublist, hbelow, hrest⟩ := ih hpaths after
        have hvisited : List.Forall₂ (IsVisited fs root (visit :: visits)) taken added := by
          refine hbelow.imp ?_
          intro way file hfile
          exact ⟨List.mem_cons_of_mem _ hfile.1, hfile.2⟩
        rw [hstep] at hfiles
        simp only [inTurn_cons, hstep]
        rcases hfiles with hsame | ⟨-, p, file, rfl, habsolute, hadded⟩
        · refine ⟨taken, added, hsublist.cons way, hvisited, ?_⟩
          rw [hrest, hsame]
        · change p = root.descend way at hpath
          subst hpath
          refine ⟨way :: taken, file :: added, hsublist.cons_cons way, ?_, ?_⟩
          · exact .cons ⟨List.mem_cons_self .., habsolute⟩ hvisited
          · rw [hrest, hadded, List.append_assoc, List.singleton_append]

end Order

/-! ### Directories -/

/-- A directory adds files along ways that increase, and it adds the same ones in the same order
however its entries and those of the directories below are listed; so a whole list of inputs selects
the same. Every order of listing is that of a file system with the same entries. -/
theorem considerInput_ordered {fs : FileSystem} {input : String}
    (h : fs.isDirectoryPath (.ofText input) = true) (exclusions : Exclusions) (finding : Finding) :
    (∃ ways added, ways.Pairwise Precedes ∧
      (∀ way ∈ ways, way ≠ [] ∧ ∀ name ∈ way, IsName name) ∧
      List.Forall₂ (IsVisited fs (.ofText input) (fs.walkBelow (.ofText input))) ways added ∧
      (considerInput fs exclusions finding input).2.files = finding.files ++ added) ∧
    (∀ fs' : FileSystem, fs'.entries.Perm fs.entries →
      fs'.workingDirectory = fs.workingDirectory →
      considerInput fs' exclusions finding input = considerInput fs exclusions finding input ∧
      ∀ inputs journal, selectInputs fs' inputs exclusions journal
        = selectInputs fs inputs exclusions journal) ∧
    ∀ listing : Location → List (FileName × Node),
      (∀ directory, (listing directory).Perm (fs.children directory)) →
      ∃ fs' : FileSystem, fs'.entries.Perm fs.entries ∧
        fs'.workingDirectory = fs.workingDirectory ∧
        ∀ directory, fs'.children directory = listing directory := by
  refine ⟨?_, fun fs' hperm hdirectory => ?_, fun listing => exists_reordered⟩
  · obtain ⟨location, hstatus⟩ :
        ∃ location, fs.status (.ofText input) = .ok (location, .directory) := by
      unfold isDirectoryPath at h
      split at h
      · next location hstatus => exact ⟨location, hstatus⟩
      · cases h
    obtain ⟨ways, hways⟩ := exists_ways_walkBelow hstatus
    rw [considerInput_of_directory hstatus]
    obtain ⟨taken, added, hsublist, hvisited, hadded⟩ := exists_added hways.paths finding
    refine ⟨taken, added, hways.increasing.sublist hsublist, ?_, hvisited, hadded⟩
    intro way hway
    exact hways.named way (hsublist.subset hway)
  · have halike : Alike fs' fs := .of_mem (fun e => hperm.mem_iff) hdirectory
    refine ⟨?_, fun inputs journal => ?_⟩
    · rw [considerInput_alike halike]
    · rw [selectInputs_alike halike]

/-- A directory whose name is the beginning of the names of files beside it. -/
def nested : FileSystem :=
  FileSystem.empty
    |>.add [] "d" .directory
    |>.add ["d"] "a.idl" (.file [0x31] 0o644)
    |>.add ["d"] "a-b.idl" (.file [0x32] 0o644)
    |>.add ["d"] "a" .directory
    |>.add ["d", "a"] "z.idl" (.file [0x33] 0o644)

theorem nested_ordered :
    nested.isDirectoryPath ⟨"d"⟩ = true ∧
    (considerInput nested ⟨[]⟩ ⟨[], .empty⟩ "d").2.files
      = [⟨⟨"/d/a/z.idl"⟩⟩, ⟨⟨"/d/a-b.idl"⟩⟩, ⟨⟨"/d/a.idl"⟩⟩] ∧
    ∃ ways added, ways.Pairwise Precedes ∧
      (∀ way ∈ ways, way ≠ [] ∧ ∀ name ∈ way, IsName name) ∧
      List.Forall₂ (IsVisited nested ⟨"d"⟩ (nested.walkBelow ⟨"d"⟩)) ways added ∧
      (considerInput nested ⟨[]⟩ ⟨[], .empty⟩ "d").2.files = [] ++ added := by
  have hdirectory : nested.isDirectoryPath ⟨"d"⟩ = true := by decide +kernel
  refine ⟨hdirectory, by decide +kernel, ?_⟩
  exact (considerInput_ordered hdirectory ⟨[]⟩ ⟨[], .empty⟩).1

end IdlBuild
