import IdlBuild.Proofs.FileSystem.Loops
import IdlBuild.Proofs.Inputs.Concatenation
import IdlBuild.Proofs.Paths.Texts

/-!
# Links among the inputs

Links that lead back or nowhere do no harm to a selection: it warns of each of them where a walk
comes by, takes what it takes without them, and never fails because of one
(`selectInputs_loops`).
-/

namespace IdlBuild

open FileSystem

/-! ### Warnings -/

/-- What a step of a walk below an entry of the list warns of: an entry that cannot be visited. -/
def visitWarnings (input : String) : Visit → List String
  | .entry .. => []
  | .fault fault => [s!"Skipping unreadable entry under {input}: {fault.message}"]

/-- What an entry of the list warns of: if it is a directory, what its walk does. -/
def inputWarnings (fs : FileSystem) (input : String) : List String :=
  if fs.isDirectoryPath (.ofText input) then
    (fs.walkBelow (.ofText input)).flatMap (visitWarnings input)
  else []

/-- The warnings so far. -/
def Finding.warnings (finding : Finding) : List String := finding.journal.messagesAt .warn

section Warnings

variable {fs : FileSystem} {exclusions : Exclusions} {finding : Finding} {input inputs : String}
  {journal : Journal} {files : List InputFile}

theorem journal_addPath (fs : FileSystem) (finding : Finding) (p : Path) :
    (finding.addPath fs p).2.journal = finding.journal := by
  unfold Finding.addPath
  cases InputFile.ofPath fs p with
  | error failure => rfl
  | ok file =>
    dsimp only
    unfold Finding.add
    split_ifs <;> rfl

theorem warnings_considerVisit (fs : FileSystem) (exclusions : Exclusions) (input : String)
    (finding : Finding) (visit : Visit) :
    (considerVisit fs (.ofText input) exclusions finding visit).2.warnings =
      finding.warnings ++ visitWarnings input visit := by
  unfold Finding.warnings
  cases visit with
  | fault fault => simp [considerVisit, Finding.note, Journal.messagesAt_add, visitWarnings]
  | entry p kind =>
    cases kind with
    | directory => simp [considerVisit, visitWarnings]
    | file =>
      simp only [considerVisit]
      split_ifs
      · simp [visitWarnings]
      · simp [Finding.note, Journal.messagesAt_add, visitWarnings]
      · simp [journal_addPath, visitWarnings]

theorem warnings_considerInput (fs : FileSystem) (exclusions : Exclusions) (finding : Finding)
    (input : String) (hok : (considerInput fs exclusions finding input).1 = .ok ()) :
    (considerInput fs exclusions finding input).2.warnings =
      finding.warnings ++ inputWarnings fs input := by
  rcases hstatus : fs.status (.ofText input) with fault | ⟨location, node⟩
  · rw [considerInput_of_missing hstatus] at hok
    cases hok
  by_cases hdirectory : node = .directory
  · subst hdirectory
    have hwarned : inputWarnings fs input
        = (fs.walkBelow (.ofText input)).flatMap (visitWarnings input) := by
      simp [inputWarnings, isDirectoryPath, hstatus]
    rw [considerInput_of_directory hstatus] at hok ⊢
    rw [hwarned]
    refine inTurn_writes Finding.warnings (fun finding visit _ => ?_) _ hok
    exact warnings_considerVisit fs exclusions input finding visit
  · have hnone : inputWarnings fs input = [] := by
      cases node with
      | directory => exact absurd rfl hdirectory
      | file content mode => simp [inputWarnings, isDirectoryPath, hstatus]
      | link target => simp [inputWarnings, isDirectoryPath, hstatus]
    rw [considerInput_of_named hstatus hdirectory, hnone, List.append_nil]
    unfold Finding.warnings
    rw [journal_addPath]

theorem warnings_selectInputs (h : (selectInputs fs inputs exclusions journal).1 = .ok files) :
    (selectInputs fs inputs exclusions journal).2.messagesAt .warn =
      journal.messagesAt .warn ++ (commaList inputs).flatMap (inputWarnings fs) := by
  have hstart : (Finding.mk [] (journal.add .debug s!"Tokenizing idl-files={inputs}")).warnings
      = journal.messagesAt .warn := by simp [Finding.warnings, Journal.messagesAt_add]
  have hwritten := inTurn_writes Finding.warnings (warnings_considerInput fs exclusions)
    (commaList inputs) (s := ⟨[], journal.add .debug s!"Tokenizing idl-files={inputs}"⟩)
  rw [hstart] at hwritten
  simp only [selectInputs] at h ⊢
  rcases hrun : inTurn (considerInput fs exclusions)
      ⟨[], journal.add .debug s!"Tokenizing idl-files={inputs}"⟩ (commaList inputs) with
    ⟨failure | ⟨⟩, finding⟩
  · rw [hrun] at h
    cases h
  · rw [hrun] at hwritten
    exact hwritten rfl

end Warnings

/-! ### Selections among links -/

/-- Wherever links lead, a selection ends. A walk visits every entry of each directory that it opens
once, whatever the other entries are, and it does not go into a link to a directory that is open. A
selection fails only at an entry of the list that is missing or cannot be made absolute. Otherwise
it warns once of each entry that a walk could not visit, and all files are selected. -/
theorem selectInputs_loops (fs : FileSystem) (exclusions : Exclusions) :
    (∀ root location, fs.status root = .ok (location, .directory) → ∀ visits,
      Walked fs ⟨location, root⟩ [] (sortedByName (fs.children location)) visits ↔
        visits = fs.walkBelow root) ∧
    (∀ root directory opened name node, Opens fs root directory opened →
      fs.node? (directory.location ++ [name]) = some node →
      ∃ before visit inner? after, fs.walkBelow root = before ++ visit :: after ∧
        Met fs (directory :: opened) (directory.path.join ⟨name⟩) node visit inner? ∧
        ∀ other ∈ before ++ after, other.path ≠ directory.path.join ⟨name⟩) ∧
    (∀ root directory opened name target location, Opens fs root directory opened →
      fs.node? (directory.location ++ [name]) = some (.link target) →
      fs.status (directory.path.join ⟨name⟩) = .ok (location, .directory) →
      (∃ other ∈ directory :: opened, other.location = location) →
      ∀ inner opened', Opens fs root inner opened' → inner.path ≠ directory.path.join ⟨name⟩) ∧
    (∀ inputs journal failure, (selectInputs fs inputs exclusions journal).1 = .error failure →
      ∃ input ∈ commaList inputs, Refused fs input failure) ∧
    ∀ inputs journal files, (selectInputs fs inputs exclusions journal).1 = .ok files →
      (selectInputs fs inputs exclusions journal).2.messagesAt .warn =
        journal.messagesAt .warn ++ (commaList inputs).flatMap (inputWarnings fs) ∧
      ∀ p : Path, (∃ file ∈ files, file.path.Same p) ↔
        ∃ input ∈ commaList inputs,
          IsNamed fs (.ofText input) p ∨ IsFoundBelow fs exclusions (.ofText input) p := by
  refine ⟨fun root location hroot => walked_iff hroot, ?_, ?_, ?_, ?_⟩
  · intro root directory opened name node hopen hnode
    exact visited_once hopen hnode
  · intro root directory opened name target location hopen hnode hstatus hloop inner opened' hinner
    exact not_opens_of_loop hopen hnode hstatus hloop hinner
  · intro inputs journal failure hfailure
    obtain ⟨front, input, rest, hlist, -, hrefused⟩ := exists_refused hfailure
    exact ⟨input, by simp [hlist], hrefused⟩
  · intro inputs journal files hfiles
    exact ⟨warnings_selectInputs hfiles, mem_selected_iff hfiles⟩

/-- A directory with links to itself, to each other, to nowhere and back from below. -/
def tangled : FileSystem :=
  FileSystem.empty
    |>.add [] "d" .directory
    |>.add ["d"] "a" (.link ⟨"b"⟩)
    |>.add ["d"] "b" (.link ⟨"a"⟩)
    |>.add ["d"] "gone" (.link ⟨"nowhere"⟩)
    |>.add ["d"] "self" (.link ⟨"."⟩)
    |>.add ["d"] "sub" .directory
    |>.add ["d", "sub"] "up" (.link ⟨".."⟩)
    |>.add ["d", "sub"] "z.idl" (.file [0x31] 0o644)
    |>.add ["d"] "to" (.link ⟨"sub"⟩)

theorem tangled_selected :
    (selectInputs tangled "d" ⟨[]⟩ .empty).1
      = .ok [⟨⟨"/d/sub/z.idl"⟩⟩, ⟨⟨"/d/to/z.idl"⟩⟩] ∧
    Walked tangled ⟨["d"], ⟨"d"⟩⟩ [] (sortedByName (tangled.children ["d"]))
      (tangled.walkBelow ⟨"d"⟩) ∧
    (selectInputs tangled "d" ⟨[]⟩ .empty).2.messagesAt .warn =
      ["Skipping unreadable entry under d: IO error for operation on d/a: " ++
          "Too many levels of symbolic links (os error 40)",
        "Skipping unreadable entry under d: IO error for operation on d/b: " ++
          "Too many levels of symbolic links (os error 40)",
        "Skipping unreadable entry under d: IO error for operation on d/gone: " ++
          "No such file or directory (os error 2)",
        "Skipping unreadable entry under d: File system loop found: " ++
          "d/self points to an ancestor d",
        "Skipping unreadable entry under d: File system loop found: " ++
          "d/sub/up points to an ancestor d",
        "Skipping unreadable entry under d: File system loop found: " ++
          "d/to/up points to an ancestor d"] := by
  have hfiles : (selectInputs tangled "d" ⟨[]⟩ .empty).1
      = .ok [⟨⟨"/d/sub/z.idl"⟩⟩, ⟨⟨"/d/to/z.idl"⟩⟩] := by decide +kernel
  have hroot : tangled.status ⟨"d"⟩ = .ok (["d"], .directory) := by decide +kernel
  obtain ⟨hwalked, -, -, -, hselected⟩ := selectInputs_loops tangled ⟨[]⟩
  refine ⟨hfiles, (hwalked ⟨"d"⟩ ["d"] hroot _).2 rfl, ?_⟩
  rw [(hselected "d" .empty _ hfiles).1]
  decide +kernel

end IdlBuild
