import IdlBuild.Inputs.Selection
import IdlBuild.Proofs.FileSystem.Walking

/-!
# Which files are selected

The files that a list of inputs stands for are those that it names and those that walks of the
directories in it find (`selectInputs_set`). What was found before decides neither whether an entry
of the list can be taken nor what it adds, so the order of the list does not matter for the set.
-/

namespace IdlBuild

open FileSystem

/-! ### What an entry stands for -/

/-- Whether a path is what another one is when it is made absolute. -/
def IsAbsoluteForm (fs : FileSystem) (p q : Path) : Prop :=
  ∃ absolute, fs.absolute p = .ok absolute ∧ absolute.Same q

/-- Whether a path is the absolute form of one at which there is something that is no directory. -/
def IsNamed (fs : FileSystem) (named p : Path) : Prop :=
  ∃ location node, fs.status named = .ok (location, node) ∧ node ≠ .directory ∧
    IsAbsoluteForm fs named p

/-- Whether a path is the absolute form of an IDL file in a directory that a walk opens, one whose
name is not left out. -/
def IsFoundBelow (fs : FileSystem) (exclusions : Exclusions) (root p : Path) : Prop :=
  ∃ directory opened name, Opens fs root directory opened ∧ HoldsFile fs directory name ∧
    hasIdlSuffix (Text.decodeLossy name) = true ∧
    exclusions.contains (Text.decodeLossy name) = false ∧
    IsAbsoluteForm fs (directory.path.join ⟨name⟩) p

/-! ### Findings -/

namespace Finding

/-- Whether a file at a path has been found. -/
def Holds (finding : Finding) (p : Path) : Prop := ∃ file ∈ finding.files, file.path.Same p

/-- Whether no file has been found twice. -/
def IsDistinct (finding : Finding) : Prop :=
  finding.files.Pairwise fun file other => ¬ file.path.Same other.path

variable {finding : Finding} {file : InputFile} {p : Path}

theorem any_same_iff :
    (finding.files.any fun found => decide (found.path.Same file.path)) = true
      ↔ finding.Holds file.path := by
  simp [Holds]

theorem holds_add : (finding.add file).Holds p ↔ finding.Holds p ∨ file.path.Same p := by
  unfold add
  split
  · next hfound =>
    refine ⟨Or.inl, fun h => h.elim id fun hsame => ?_⟩
    obtain ⟨found, hmem, hfound⟩ := any_same_iff.1 hfound
    exact ⟨found, hmem, hfound.trans hsame⟩
  · simp [Holds, or_and_right, exists_or]

theorem IsDistinct.add (h : finding.IsDistinct) : (finding.add file).IsDistinct := by
  unfold Finding.add
  split
  · exact h
  · next hnew =>
    rw [any_same_iff] at hnew
    refine List.pairwise_append.2 ⟨h, List.pairwise_singleton _ _, ?_⟩
    intro found hfound other hother hsame
    obtain rfl := List.mem_singleton.1 hother
    exact hnew ⟨found, hfound, hsame⟩

theorem addPath_ok_iff (fs : FileSystem) (finding : Finding) (p : Path) :
    (finding.addPath fs p).1 = .ok () ↔ ∃ absolute, fs.absolute p = .ok absolute := by
  unfold addPath InputFile.ofPath
  cases fs.absolute p <;> simp

theorem holds_addPath (fs : FileSystem) {q : Path} (hok : (finding.addPath fs p).1 = .ok ()) :
    (finding.addPath fs p).2.Holds q ↔ finding.Holds q ∨ IsAbsoluteForm fs p q := by
  obtain ⟨absolute, habsolute⟩ := (addPath_ok_iff fs finding p).1 hok
  simp only [addPath, InputFile.ofPath, habsolute, holds_add, IsAbsoluteForm, Except.ok.injEq,
    exists_eq_left']

theorem IsDistinct.addPath (fs : FileSystem) (h : finding.IsDistinct) (p : Path) :
    (finding.addPath fs p).2.IsDistinct := by
  unfold Finding.addPath
  split
  · exact h.add
  · exact h

end Finding

/-! ### Steps of a walk -/

section Visits

variable {fs : FileSystem} {root : Path} {exclusions : Exclusions} {finding : Finding}
  {visit : Visit}

/-- The paths of the visited files that are taken. -/
def IsTaken (exclusions : Exclusions) (visit : Visit) (p : Path) : Prop :=
  visit = .entry p .file ∧ hasIdlSuffix (Text.decodeLossy (p.fileName?.getD p.bytes)) = true ∧
    exclusions.contains (Text.decodeLossy (p.fileName?.getD p.bytes)) = false

theorem considerVisit_taken {p : Path} (h : IsTaken exclusions visit p) :
    considerVisit fs root exclusions finding visit = finding.addPath fs p := by
  obtain ⟨rfl, hsuffix, hkept⟩ := h
  simp [considerVisit, hsuffix, hkept]

theorem considerVisit_passed (h : ∀ p, ¬ IsTaken exclusions visit p) :
    (considerVisit fs root exclusions finding visit).1 = .ok () ∧
      (considerVisit fs root exclusions finding visit).2.files = finding.files := by
  cases visit with
  | fault fault => exact ⟨rfl, rfl⟩
  | entry p kind =>
    cases kind with
    | directory => exact ⟨rfl, rfl⟩
    | file =>
      by_cases hsuffix : hasIdlSuffix (Text.decodeLossy (p.fileName?.getD p.bytes)) = true
      · have hleft : exclusions.contains (Text.decodeLossy (p.fileName?.getD p.bytes)) = true := by
          by_contra hkept
          exact h p ⟨rfl, hsuffix, by simpa using hkept⟩
        simp [considerVisit, hsuffix, hleft, Finding.note]
      · simp [considerVisit, hsuffix]

theorem considerVisit_ok_iff (fs : FileSystem) (root : Path) (exclusions : Exclusions)
    (finding : Finding) (visit : Visit) :
    (considerVisit fs root exclusions finding visit).1 = .ok () ↔
      ∀ p, IsTaken exclusions visit p → ∃ absolute, fs.absolute p = .ok absolute := by
  by_cases htaken : ∃ p, IsTaken exclusions visit p
  · obtain ⟨p, hp⟩ := htaken
    rw [considerVisit_taken hp, Finding.addPath_ok_iff]
    refine ⟨fun h q hq => ?_, fun h => h p hp⟩
    cases hp.1.symm.trans hq.1
    exact h
  · have hpassed := not_exists.1 htaken
    exact iff_of_true (considerVisit_passed hpassed).1 fun p hp => absurd hp (hpassed p)

theorem holds_considerVisit (fs : FileSystem) (root : Path) (exclusions : Exclusions)
    (finding : Finding) (visit : Visit)
    (hok : (considerVisit fs root exclusions finding visit).1 = .ok ()) (q : Path) :
    (considerVisit fs root exclusions finding visit).2.Holds q ↔
      finding.Holds q ∨ ∃ p, IsTaken exclusions visit p ∧ IsAbsoluteForm fs p q := by
  by_cases htaken : ∃ p, IsTaken exclusions visit p
  · obtain ⟨p, hp⟩ := htaken
    rw [considerVisit_taken hp] at hok ⊢
    rw [Finding.holds_addPath fs hok]
    refine or_congr_right ⟨fun h => ⟨p, hp, h⟩, ?_⟩
    rintro ⟨p', hp', hform⟩
    cases hp.1.symm.trans hp'.1
    exact hform
  · have hnone : ¬ ∃ p, IsTaken exclusions visit p ∧ IsAbsoluteForm fs p q :=
      fun ⟨p, hp, _⟩ => htaken ⟨p, hp⟩
    unfold Finding.Holds
    rw [(considerVisit_passed (not_exists.1 htaken)).2, or_iff_left hnone]

theorem isDistinct_considerVisit (h : finding.IsDistinct) :
    (considerVisit fs root exclusions finding visit).2.IsDistinct := by
  by_cases htaken : ∃ p, IsTaken exclusions visit p
  · obtain ⟨p, hp⟩ := htaken
    rw [considerVisit_taken hp]
    exact h.addPath fs p
  · unfold Finding.IsDistinct
    rwa [(considerVisit_passed (not_exists.1 htaken)).2]

/-- What the visits of a walk have in them to take. -/
theorem exists_taken_iff {q : Path} :
    (∃ visit ∈ fs.walkBelow root, ∃ p, IsTaken exclusions visit p ∧ IsAbsoluteForm fs p q) ↔
      IsFoundBelow fs exclusions root q := by
  have hname : ∀ {directory : OpenDirectory} {name : FileName}, HoldsFile fs directory name →
      (directory.path.join ⟨name⟩).fileName? = some name := by
    intro directory name hfile
    obtain ⟨node, hnode⟩ := hfile.exists_node
    exact Path.fileName_join_name _ (isPlain_of_isName (isName_of_node hnode).1)
  constructor
  · rintro ⟨visit, hvisit, p, ⟨rfl, hsuffix, hkept⟩, hform⟩
    obtain ⟨directory, opened, name, hopen, hfile, rfl⟩ := mem_walkBelow_iff.1 hvisit
    rw [hname hfile, Option.getD_some] at hsuffix hkept
    exact ⟨directory, opened, name, hopen, hfile, hsuffix, hkept, hform⟩
  · rintro ⟨directory, opened, name, hopen, hfile, hsuffix, hkept, hform⟩
    refine ⟨_, mem_walkBelow_iff.2 ⟨directory, opened, name, hopen, hfile, rfl⟩, _,
      ⟨rfl, ?_, ?_⟩, hform⟩
    · rwa [hname hfile, Option.getD_some]
    · rwa [hname hfile, Option.getD_some]

end Visits

/-! ### Entries of a list -/

section Lists

variable {fs : FileSystem} {exclusions : Exclusions} {finding : Finding} {input : String}

/-- Whether an entry of a list can be taken: it is there, and the files that it stands for can be
made absolute. -/
def IsSelectable (fs : FileSystem) (exclusions : Exclusions) (input : String) : Prop :=
  match fs.status (.ofText input) with
  | .error _ => False
  | .ok (_, .directory) =>
    ∀ visit ∈ fs.walkBelow (.ofText input), ∀ p, IsTaken exclusions visit p →
      ∃ absolute, fs.absolute p = .ok absolute
  | .ok _ => ∃ absolute, fs.absolute (.ofText input) = .ok absolute

theorem considerInput_of_directory {location : Location}
    (h : fs.status (.ofText input) = .ok (location, .directory)) :
    considerInput fs exclusions finding input =
      inTurn (considerVisit fs (.ofText input) exclusions) finding (fs.walkBelow (.ofText input)) := by
  simp [considerInput, pathExists, isDirectoryPath, h, Except.toBool]

theorem considerInput_of_named {location : Location} {node : Node}
    (h : fs.status (.ofText input) = .ok (location, node)) (hne : node ≠ .directory) :
    considerInput fs exclusions finding input = finding.addPath fs (.ofText input) := by
  cases node with
  | directory => exact absurd rfl hne
  | file content mode => simp [considerInput, pathExists, isDirectoryPath, h, Except.toBool]
  | link target => simp [considerInput, pathExists, isDirectoryPath, h, Except.toBool]

theorem considerInput_of_missing {fault : IoFault} (h : fs.status (.ofText input) = .error fault) :
    considerInput fs exclusions finding input = (.error (.missingInput (.ofText input)), finding) := by
  simp [considerInput, pathExists, h, Except.toBool]

theorem considerInput_ok_iff (fs : FileSystem) (exclusions : Exclusions) (finding : Finding)
    (input : String) :
    (considerInput fs exclusions finding input).1 = .ok () ↔ IsSelectable fs exclusions input := by
  unfold IsSelectable
  rcases hstatus : fs.status (.ofText input) with fault | ⟨location, node⟩
  · simp [considerInput_of_missing hstatus]
  · by_cases hdirectory : node = .directory
    · subst hdirectory
      rw [considerInput_of_directory hstatus]
      exact inTurn_ok_iff (considerVisit_ok_iff fs (.ofText input) exclusions) _ _
    · rw [considerInput_of_named hstatus hdirectory, Finding.addPath_ok_iff]
      cases node with
      | directory => exact absurd rfl hdirectory
      | file content mode => rfl
      | link target => rfl

theorem holds_considerInput (fs : FileSystem) (exclusions : Exclusions) (finding : Finding)
    (input : String) (hok : (considerInput fs exclusions finding input).1 = .ok ()) (q : Path) :
    (considerInput fs exclusions finding input).2.Holds q ↔
      finding.Holds q ∨
        (IsNamed fs (.ofText input) q ∨ IsFoundBelow fs exclusions (.ofText input) q) := by
  rcases hstatus : fs.status (.ofText input) with fault | ⟨location, node⟩
  · simp [considerInput_of_missing hstatus] at hok
  by_cases hdirectory : node = .directory
  · subst hdirectory
    have hnamed : ¬ IsNamed fs (.ofText input) q := by
      rintro ⟨found, node, hfound, hne, -⟩
      cases hstatus.symm.trans hfound
      exact hne rfl
    rw [considerInput_of_directory hstatus] at hok ⊢
    rw [inTurn_adds (holds_considerVisit fs (.ofText input) exclusions) _ hok, exists_taken_iff,
      or_iff_right hnamed]
  · have hbelow : ¬ IsFoundBelow fs exclusions (.ofText input) q := by
      rintro ⟨directory, opened, name, hopen, -⟩
      obtain ⟨found, hfound⟩ := hopen.status_root
      cases hstatus.symm.trans hfound
      exact hdirectory rfl
    have hnamed : IsNamed fs (.ofText input) q ↔ IsAbsoluteForm fs (.ofText input) q := by
      refine ⟨fun ⟨_, _, _, _, hform⟩ => hform, fun hform => ?_⟩
      exact ⟨location, node, hstatus, hdirectory, hform⟩
    rw [considerInput_of_named hstatus hdirectory] at hok ⊢
    rw [Finding.holds_addPath fs hok, or_iff_left hbelow, hnamed]

theorem isDistinct_considerInput (h : finding.IsDistinct) :
    (considerInput fs exclusions finding input).2.IsDistinct := by
  rcases hstatus : fs.status (.ofText input) with fault | ⟨location, node⟩
  · rwa [considerInput_of_missing hstatus]
  · by_cases hdirectory : node = .directory
    · subst hdirectory
      rw [considerInput_of_directory hstatus]
      exact inTurn_keeps _ (fun _ _ _ => isDistinct_considerVisit) h
    · rw [considerInput_of_named hstatus hdirectory]
      exact h.addPath fs _

end Lists

/-! ### The whole selection -/

section Selection

variable {fs : FileSystem} {inputs : String} {exclusions : Exclusions} {journal : Journal}
  {files : List InputFile}

theorem exists_finding (h : (selectInputs fs inputs exclusions journal).1 = .ok files) :
    ∃ start finding, start.files = [] ∧ finding.files = files ∧
      inTurn (considerInput fs exclusions) start (commaList inputs) = (.ok (), finding) := by
  refine ⟨⟨[], journal.add .debug s!"Tokenizing idl-files={inputs}"⟩, ?_⟩
  simp only [selectInputs] at h
  rcases hturn : inTurn (considerInput fs exclusions)
      ⟨[], journal.add .debug s!"Tokenizing idl-files={inputs}"⟩ (commaList inputs) with
    ⟨failure | ⟨⟩, finding⟩
  · simp [hturn] at h
  · rw [hturn] at h
    exact ⟨finding, rfl, Except.ok.inj h, rfl⟩

/-- A list of inputs stands for files when each of its entries can be taken. -/
theorem selectInputs_ok_iff :
    (∃ files, (selectInputs fs inputs exclusions journal).1 = .ok files) ↔
      ∀ input ∈ commaList inputs, IsSelectable fs exclusions input := by
  rw [← inTurn_ok_iff (considerInput_ok_iff fs exclusions) (commaList inputs)
    ⟨[], journal.add .debug s!"Tokenizing idl-files={inputs}"⟩]
  simp only [selectInputs]
  rcases inTurn (considerInput fs exclusions)
      ⟨[], journal.add .debug s!"Tokenizing idl-files={inputs}"⟩ (commaList inputs) with
    ⟨failure | ⟨⟩, finding⟩
  · simp
  · simp

theorem mem_selected_iff (h : (selectInputs fs inputs exclusions journal).1 = .ok files)
    (p : Path) :
    (∃ file ∈ files, file.path.Same p) ↔
      ∃ input ∈ commaList inputs,
        IsNamed fs (.ofText input) p ∨ IsFoundBelow fs exclusions (.ofText input) p := by
  obtain ⟨start, finding, hstart, rfl, hturn⟩ := exists_finding h
  have hholds := inTurn_adds (holds_considerInput fs exclusions) (commaList inputs)
    (congrArg Prod.fst hturn) p
  have hnone : ¬ start.Holds p := by simp [Finding.Holds, hstart]
  rwa [hturn, or_iff_right hnone] at hholds

/-- The files that a list of inputs stands for: something there that is no directory is taken under
any name, and below a directory the IDL files that are not left out. No file is selected twice, and
a list with the same entries in another order selects the same files. -/
theorem selectInputs_set (fs : FileSystem) (inputs : String) (exclusions : Exclusions)
    (journal : Journal) {files : List InputFile}
    (h : (selectInputs fs inputs exclusions journal).1 = .ok files) :
    (∀ p : Path, (∃ file ∈ files, file.path.Same p) ↔
      ∃ input ∈ commaList inputs,
        IsNamed fs (.ofText input) p ∨ IsFoundBelow fs exclusions (.ofText input) p) ∧
    (files.Pairwise fun file other => ¬ file.path.Same other.path) ∧
    ∀ inputs' journal', (commaList inputs').Perm (commaList inputs) →
      ∃ files', (selectInputs fs inputs' exclusions journal').1 = .ok files' ∧
        ∀ p : Path, (∃ file ∈ files', file.path.Same p) ↔ ∃ file ∈ files, file.path.Same p := by
  refine ⟨mem_selected_iff h, ?_, fun inputs' journal' hperm => ?_⟩
  · obtain ⟨start, finding, hstart, rfl, hturn⟩ := exists_finding h
    have hdistinct : start.IsDistinct := by
      unfold Finding.IsDistinct
      rw [hstart]
      exact List.Pairwise.nil
    have hkept : (inTurn (considerInput fs exclusions) start (commaList inputs)).2.IsDistinct :=
      inTurn_keeps _ (fun _ _ _ => isDistinct_considerInput) hdistinct
    rwa [hturn] at hkept
  · have hselectable := selectInputs_ok_iff.1 ⟨files, h⟩
    obtain ⟨files', h'⟩ := selectInputs_ok_iff.2 fun input hinput =>
      hselectable input (hperm.mem_iff.1 hinput)
    refine ⟨files', h', fun p => ?_⟩
    rw [mem_selected_iff h, mem_selected_iff h']
    simp only [hperm.mem_iff]

end Selection

/-! ### A directory opened again -/

/-- A directory with a link to the one around it. -/
def looped : FileSystem :=
  FileSystem.empty
    |>.add [] "x" .directory
    |>.add ["x"] "root" .directory
    |>.add ["x", "root"] "a.idl" (.file [0x31] 0o644)
    |>.add ["x", "root"] "up" (.link ⟨".."⟩)

/-- The file in that directory, reached at once and through the link. -/
def loopedFiles : List InputFile := [⟨⟨"/x/root/a.idl"⟩⟩, ⟨⟨"/x/root/up/root/a.idl"⟩⟩]

theorem looped_selected :
    (selectInputs looped "x/root,./x//root/a.idl" ⟨[]⟩ .empty).1 = .ok loopedFiles ∧
      ∀ p : Path, (∃ file ∈ loopedFiles, file.path.Same p) ↔
        ∃ input ∈ commaList "x/root,./x//root/a.idl",
          IsNamed looped (.ofText input) p ∨ IsFoundBelow looped ⟨[]⟩ (.ofText input) p := by
  have hfiles : (selectInputs looped "x/root,./x//root/a.idl" ⟨[]⟩ .empty).1 = .ok loopedFiles := by
    decide +kernel
  exact ⟨hfiles, (selectInputs_set looped "x/root,./x//root/a.idl" ⟨[]⟩ .empty hfiles).1⟩

section Looped

variable {directory : OpenDirectory} {opened : List OpenDirectory} {name : FileName} {node : Node}

theorem looped_root : looped.status ⟨"x/root"⟩ = .ok (["x", "root"], .directory) := rfl

theorem looped_up : looped.status ⟨"x/root/up"⟩ = .ok (["x"], .directory) := rfl

theorem looped_inRoot (h : looped.node? ((["x", "root"] : Location) ++ [name]) = some node) :
    name = "a.idl" ∧ node = .file [0x31] 0o644 ∨ name = "up" ∧ node = .link ⟨".."⟩ := by
  have hchildren : looped.children ["x", "root"]
      = ([("a.idl", .file [0x31] 0o644), ("up", .link ⟨".."⟩)] : List (FileName × Node)) := rfl
  have hmem := mem_children.2 h
  rw [hchildren] at hmem
  simpa using hmem

theorem looped_inX (h : looped.node? ((["x"] : Location) ++ [name]) = some node) :
    name = "root" ∧ node = .directory := by
  have hchildren : looped.children ["x"] =
      ([("root", .directory)] : List (FileName × Node)) := rfl
  have hmem := mem_children.2 h
  rw [hchildren] at hmem
  simpa using hmem

/-- With no directory open twice, a walk opens the directory and the one around it. -/
theorem looped_opens (h : Opens looped ⟨"x/root"⟩ directory opened)
    (honce : ((directory :: opened).map OpenDirectory.location).Nodup) :
    directory = ⟨["x", "root"], ⟨"x/root"⟩⟩ ∧ opened = [] ∨
      directory = ⟨["x"], ⟨"x/root/up"⟩⟩ ∧ opened = [⟨["x", "root"], ⟨"x/root"⟩⟩] := by
  induction h with
  | root hstatus =>
    cases looped_root.symm.trans hstatus
    exact Or.inl ⟨rfl, rfl⟩
  | into hopen hnode hstatus ih =>
    rcases ih (List.nodup_cons.1 honce).2 with ⟨rfl, rfl⟩ | ⟨rfl, rfl⟩
    · rcases looped_inRoot hnode with ⟨-, hfile⟩ | ⟨-, hlink⟩
      · cases hfile
      · cases hlink
    · obtain ⟨rfl, -⟩ := looped_inX hnode
      obtain ⟨rfl, -⟩ := hopen.child hnode hstatus
      exact absurd honce (by decide)
  | through hopen hnode hstatus hfree ih =>
    rcases ih (List.nodup_cons.1 honce).2 with ⟨rfl, rfl⟩ | ⟨rfl, rfl⟩
    · rcases looped_inRoot hnode with ⟨-, hfile⟩ | ⟨rfl, -⟩
      · cases hfile
      · cases looped_up.symm.trans hstatus
        exact Or.inr ⟨rfl, rfl⟩
    · obtain ⟨-, hlink⟩ := looped_inX hnode
      cases hlink

end Looped

/-- A file is selected for which every way opens a directory that is open already. -/
theorem looped_again :
    ∃ files p, (selectInputs looped "x/root" ⟨[]⟩ .empty).1 = .ok files ∧
      (∃ file ∈ files, file.path.Same p) ∧
      ¬ ∃ input ∈ commaList "x/root", IsNamed looped (.ofText input) p ∨
        ∃ directory opened name, Opens looped (.ofText input) directory opened ∧
          ((directory :: opened).map OpenDirectory.location).Nodup ∧
          HoldsFile looped directory name ∧ hasIdlSuffix (Text.decodeLossy name) = true ∧
          IsAbsoluteForm looped (directory.path.join ⟨name⟩) p := by
  refine ⟨loopedFiles, ⟨"/x/root/up/root/a.idl"⟩, by decide +kernel, by decide +kernel, ?_⟩
  rintro ⟨input, hinput, hway⟩
  have hlist : commaList "x/root" = ["x/root"] := rfl
  rw [hlist, List.mem_singleton] at hinput
  subst hinput
  rcases hway with ⟨location, node, hstatus, hne, -⟩ |
    ⟨directory, opened, name, hopen, honce, hfile, -, absolute, habsolute, hsame⟩
  · cases looped_root.symm.trans hstatus
    exact hne rfl
  · rcases looped_opens hopen honce with ⟨rfl, rfl⟩ | ⟨rfl, rfl⟩
    · cases hfile with
      | file hnode =>
        rcases looped_inRoot hnode with ⟨rfl, -⟩ | ⟨-, hlink⟩
        · have hdirect : looped.absolute ((⟨"x/root"⟩ : Path).join ⟨"a.idl"⟩)
              = .ok ⟨"/x/root/a.idl"⟩ := rfl
          cases hdirect.symm.trans habsolute
          exact absurd hsame (by decide +kernel)
        · cases hlink
      | link hnode hstatus hne =>
        rcases looped_inRoot hnode with ⟨-, hfile⟩ | ⟨rfl, -⟩
        · cases hfile
        · cases looped_up.symm.trans hstatus
          exact hne rfl
    · cases hfile with
      | file hnode => cases (looped_inX hnode).2
      | link hnode hstatus hne => cases (looped_inX hnode).2

end IdlBuild
