import IdlBuild.Proofs.FileSystem.Absolute
import IdlBuild.Proofs.Inputs.Order

/-!
# Selected files can be read

A file is selected for something that is there and is no directory, so it can be read at its absolute
path, unless that path is too long (`exists_readFile_iff`).
-/

namespace IdlBuild

open FileSystem

/-! ### What is selected -/

/-- Whether there is a file to select at a path: it was looked up, or it was met in a directory. -/
inductive IsSource (fs : FileSystem) : Path → Prop where
  | named {p : Path} {location : Location} {node : Node}
      (hstatus : fs.status p = .ok (location, node)) (hne : node ≠ .directory) : IsSource fs p
  | inside {directory : OpenDirectory} {name : FileName}
      (hdirectory : fs.status directory.path = .ok (directory.location, .directory))
      (hfile : HoldsFile fs directory name) : IsSource fs (directory.path.join ⟨name⟩)

section Sources

variable {fs : FileSystem} {p q : Path} {finding : Finding} {inputs input : String}
  {exclusions : Exclusions} {journal : Journal} {files : List InputFile} {idl : InputFile}

/-- Whether all files that have been found are there. -/
def Finding.IsSourced (fs : FileSystem) (finding : Finding) : Prop :=
  ∀ file ∈ finding.files, ∃ p, IsSource fs p ∧ fs.absolute p = .ok file.path

theorem Finding.IsSourced.append (h : finding.IsSourced fs) {after : Finding} {file : InputFile}
    (hfiles : after.files = finding.files ++ [file]) (hp : IsSource fs p)
    (hfile : fs.absolute p = .ok file.path) : after.IsSourced fs := by
  intro other hother
  rw [hfiles, List.mem_append, List.mem_singleton] at hother
  rcases hother with hother | rfl
  · exact h other hother
  · exact ⟨p, hp, hfile⟩

theorem Finding.IsSourced.addPath (h : finding.IsSourced fs) (hp : IsSource fs p) :
    (finding.addPath fs p).2.IsSourced fs := by
  unfold Finding.addPath InputFile.ofPath
  rcases habsolute : fs.absolute p with fault | absolute
  · exact h
  · simp only [Finding.add]
    split_ifs
    · exact h
    · exact h.append rfl hp habsolute

theorem Finding.IsSourced.considerInput (h : finding.IsSourced fs) :
    (considerInput fs exclusions finding input).2.IsSourced fs := by
  rcases hstatus : fs.status (.ofText input) with fault | ⟨location, node⟩
  · rwa [considerInput_of_missing hstatus]
  by_cases hdirectory : node = .directory
  · subst hdirectory
    rw [considerInput_of_directory hstatus]
    refine inTurn_keeps _ (fun finding visit hvisit hfinding => ?_) h
    rcases files_considerVisit fs (.ofText input) exclusions finding visit with
      hsame | ⟨-, p, file, rfl, habsolute, hfiles⟩
    · unfold IsSourced
      rwa [hsame]
    · obtain ⟨directory, opened, name, hopen, hfile, rfl⟩ := mem_walkBelow_iff.1 hvisit
      exact hfinding.append hfiles (.inside hopen.status hfile) habsolute
  · rw [considerInput_of_named hstatus hdirectory]
    exact h.addPath (.named hstatus hdirectory)

theorem source_of_mem_selected (h : (selectInputs fs inputs exclusions journal).1 = .ok files)
    (hidl : idl ∈ files) : ∃ p, IsSource fs p ∧ fs.absolute p = .ok idl.path := by
  obtain ⟨start, finding, hstart, rfl, hturn⟩ := exists_finding h
  have hnone : start.IsSourced fs := by
    intro file hfile
    rw [hstart] at hfile
    cases hfile
  have hstep (finding : Finding) (input : String) (_ : input ∈ commaList inputs)
      (hfinding : finding.IsSourced fs) :
      (considerInput fs exclusions finding input).2.IsSourced fs :=
    hfinding.considerInput
  have hsourced := inTurn_keeps (commaList inputs) hstep hnone
  rw [hturn] at hsourced
  exact hsourced idl hidl

end Sources

/-! ### What is read -/

namespace FileSystem

variable {fs : FileSystem} {p q : Path} {location : Location} {node : Node}

theorem follow_ne_link (fs : FileSystem) : (links : Nat) → (directory : Location) →
    (pieces : List FileName) → (location : Location) → (target : Path) →
    fs.follow true links directory pieces ≠ .ok (.found location (.link target))
  | links, directory, [], location, target => by simp [follow_nil]
  | links, directory, piece :: rest, location, target => by
    rcases passes_or_ends fs true links directory piece rest with
      ⟨links', directory', more, hpass, hlink⟩ | hends
    · have hless := hpass.lessens rest
      rw [follow_of_passing hpass hlink]
      exact follow_ne_link fs links' directory' (more ++ rest) location target
    · intro h
      rw [h] at hends
      cases hends with
      | found hrest hnode hne hstay => cases hstay target rfl
termination_by links _ pieces => (links, pieces.length)
decreasing_by exact hless

theorem readFile_of_status (h : fs.status p = .ok (location, node)) (hne : node ≠ .directory) :
    ∃ content mode, node = .file content mode ∧ fs.readFile p = .ok content := by
  cases node with
  | directory => exact absurd rfl hne
  | file content mode =>
    refine ⟨content, mode, rfl, ?_⟩
    unfold readFile
    rw [h]
    rfl
  | link target =>
    obtain ⟨start, -, hfollow⟩ := status_eq_ok h
    exact absurd hfollow (follow_ne_link fs _ _ _ _ _)

theorem leads_body_of_status (h : fs.status p = .ok (location, .directory)) :
    ∃ start links, fs.start p = .ok start ∧
      Leads fs linkLimit start (p.body.map Component.bytes) links location := by
  obtain ⟨start, links, hstart, hleads⟩ := leads_of_status_directory h
  have hfollow : fs.follow true linkLimit start (p.named ++ [[dot]])
      = .ok (.found location .directory) := by
    rw [follow_of_leads hleads (Or.inr rfl), follow_here, follow_nil]
  rw [(Dotted.of_filter p.named (by simp)).follow_eq, Path.named, Path.filter_named] at hfollow
  obtain ⟨links', hdotted⟩ := leads_of_follow fs linkLimit start _ hfollow
  exact ⟨start, links', hstart, hdotted.of_here⟩

theorem follow_of_file {start : Location} {links : Nat} {pieces : List FileName} {name : FileName}
    {content : Text.Bytes} {mode : Nat} (hleads : Leads fs linkLimit start pieces links location)
    (hnode : fs.node? (location ++ [name]) = some (.file content mode)) :
    fs.follow true linkLimit start (pieces ++ [name])
      = .ok (.found (location ++ [name]) (.file content mode)) := by
  rw [follow_of_leads hleads (Or.inr rfl)]
  exact follow_found_last hnode (by simp) (by simp)

/-- A file that is met in a directory is found at the absolute form of its path, however long the
path itself is. -/
theorem status_absolute_file {directory : OpenDirectory} {name : FileName} {content : Text.Bytes}
    {mode : Nat} (hdirectory : fs.status directory.path = .ok (directory.location, .directory))
    (hnode : fs.node? (directory.location ++ [name]) = some (.file content mode))
    (habsolute : fs.absolute (directory.path.join ⟨name⟩) = .ok q)
    (hsize : q.bytes.length < pathLimit) :
    fs.status q = .ok (directory.location ++ [name], .file content mode) := by
  have hname := (isName_of_node hnode).1
  have hplain := isPlain_of_isName hname
  obtain ⟨start, links, hstart, hleads⟩ := leads_body_of_status hdirectory
  obtain ⟨hnul, hne, -, rfl⟩ := start_eq_ok_iff.1 hstart
  have hends := Path.endsWith_join_name directory.path hplain
  have hjoined : nul ∉ (directory.path.join ⟨name⟩).bytes :=
    Path.not_mem_join (by decide) hnul hname.2.2.2.2.1
  unfold status
  rw [locate_absolute habsolute hsize hjoined hends.body hends.endsWithSlash,
    Path.isAbsolute_join hne (Path.isAbsolute_of_isPlain hplain), Component.bytes,
    follow_of_file hleads hnode]
  rfl

theorem status_file {directory : OpenDirectory} {name : FileName} {content : Text.Bytes} {mode : Nat}
    (hdirectory : fs.status directory.path = .ok (directory.location, .directory))
    (hnode : fs.node? (directory.location ++ [name]) = some (.file content mode))
    (hsize : (directory.path.join ⟨name⟩).bytes.length < pathLimit) :
    fs.status (directory.path.join ⟨name⟩)
      = .ok (directory.location ++ [name], .file content mode) := by
  have hname := (isName_of_node hnode).1
  have hplain := isPlain_of_isName hname
  obtain ⟨start, links, hstart, hleads⟩ := leads_body_of_status hdirectory
  obtain ⟨hnul, hne, -, hbegin⟩ := start_eq_ok_iff.1 hstart
  have hends := Path.endsWith_join_name directory.path hplain
  have hjoined : fs.start (directory.path.join ⟨name⟩) = .ok start := by
    refine start_eq_ok_iff.2 ⟨Path.not_mem_join (by decide) hnul hname.2.2.2.2.1,
      hends.bytes_ne_nil, hsize, ?_⟩
    rw [Path.isAbsolute_join hne (Path.isAbsolute_of_isPlain hplain), hbegin]
  unfold status
  rw [locate_of_endsWith hends hjoined, Component.bytes, follow_of_file hleads hnode]
  rfl

end FileSystem

/-- What a source is at is found at its absolute form. -/
theorem IsSource.exists_status {fs : FileSystem} {p q : Path} (h : IsSource fs p)
    (habsolute : fs.absolute p = .ok q) (hsize : q.bytes.length < pathLimit) :
    ∃ location node, fs.status q = .ok (location, node) ∧ node ≠ .directory := by
  cases h with
  | named hstatus hne => exact ⟨_, _, status_absolute habsolute hsize hstatus hne, hne⟩
  | inside hdirectory hfile =>
    cases hfile with
    | file hnode => exact ⟨_, _, status_absolute_file hdirectory hnode habsolute hsize, by simp⟩
    | link hnode hstatus hne => exact ⟨_, _, status_absolute habsolute hsize hstatus hne, hne⟩

/-- A selected file can be read just when its absolute path is short enough. -/
theorem exists_readFile_iff {fs : FileSystem} {inputs : String} {exclusions : Exclusions}
    {journal : Journal} {files : List InputFile} {idl : InputFile}
    (h : (selectInputs fs inputs exclusions journal).1 = .ok files) (hidl : idl ∈ files) :
    (∃ content, fs.readFile idl.path = .ok content) ↔
      idl.path.bytes.length < pathLimit := by
  constructor
  · rintro ⟨content, hread⟩
    obtain ⟨location, mode, hstatus⟩ := readFile_eq_ok hread
    obtain ⟨start, hstart, -⟩ := status_eq_ok hstatus
    exact (start_eq_ok_iff.1 hstart).2.2.1
  · intro hsize
    obtain ⟨p, hsource, habsolute⟩ := source_of_mem_selected h hidl
    obtain ⟨location, node, hstatus, hne⟩ := hsource.exists_status habsolute hsize
    obtain ⟨content, mode, -, hread⟩ := readFile_of_status hstatus hne
    exact ⟨content, hread⟩

end IdlBuild
