import IdlBuild.Proofs.FileSystem.Ordering
import IdlBuild.Proofs.FileSystem.Parents
import IdlBuild.Proofs.Texts.Utf8
import IdlBuild.Translator.Task

/-!
# Bundles

The bundle of a task holds the IDL file and, in the order of their names, the other files of its
directory, links followed, each of them once (`bundle_exact`). The IDL file is told from its
neighbours by its last name, however its path is written. A name is sent as it is shown, so names
that are not UTF-8 may be sent alike.
-/

namespace IdlBuild

open FileSystem
open Text (Bytes encode)

/-! ### Entries that are files -/

/-- An entry of a directory as it is sent. -/
def BundledFile.ofEntry (entry : FileName × Bytes) : BundledFile :=
  ⟨Text.decodeLossy entry.1, entry.2⟩

/-- Whether a name in a directory is that of a file with a content, or of a link to one. -/
inductive HoldsContent (fs : FileSystem) (directory : OpenDirectory) (name : FileName)
    (content : Bytes) : Prop where
  | file {mode : Nat}
      (hnode : fs.node? (directory.location ++ [name]) = some (.file content mode))
  | link {target : Path} {location : Location} {mode : Nat}
      (hnode : fs.node? (directory.location ++ [name]) = some (.link target))
      (hstatus : fs.status (directory.path.join ⟨name⟩) = .ok (location, .file content mode))

section Entries

variable {fs : FileSystem} {directory : OpenDirectory} {primary p : Path} {name : FileName}
  {node : Node} {content content' : Bytes} {visits : List Visit} {files : List BundledFile}

theorem HoldsContent.exists_node (h : HoldsContent fs directory name content) :
    ∃ node, fs.node? (directory.location ++ [name]) = some node := by
  cases h with
  | file hnode => exact ⟨_, hnode⟩
  | link hnode hstatus => exact ⟨_, hnode⟩

theorem HoldsContent.holdsFile (h : HoldsContent fs directory name content) :
    HoldsFile fs directory name := by
  cases h with
  | file hnode => exact .file hnode
  | link hnode hstatus => exact .link hnode hstatus (by simp)

/-- What is read at the name of a file in a directory is the content of that file. -/
theorem holdsContent_iff
    (hdirectory : fs.status directory.path = .ok (directory.location, .directory))
    (hfile : HoldsFile fs directory name)
    (hread : fs.readFile (directory.path.join ⟨name⟩) = .ok content') :
    HoldsContent fs directory name content ↔ content = content' := by
  obtain ⟨location, mode, hstatus⟩ := readFile_eq_ok hread
  cases hfile with
  | @file found mode' hnode =>
    have hsame := (points_of_status hdirectory).status_file hnode hstatus
    cases hsame.2
    constructor
    · intro h
      cases h with
      | file hnode' =>
        cases hnode.symm.trans hnode'
        rfl
      | link hnode' hstatus' => cases hnode.symm.trans hnode'
    · rintro rfl
      exact .file hnode
  | link hnode hfound hne =>
    constructor
    · intro h
      cases h with
      | file hnode' => cases hnode.symm.trans hnode'
      | link hnode' hstatus' =>
        cases hstatus.symm.trans hstatus'
        rfl
    · rintro rfl
      exact .link hnode hstatus

/-- The entries that are listed as files. -/
theorem listEntry_file_iff (hnode : fs.node? (directory.location ++ [name]) = some node) :
    fs.listEntry directory name node = .entry p .file ↔
      HoldsFile fs directory name ∧ p = directory.path.join ⟨name⟩ := by
  have hvisit : (visitEntry fs [directory] (directory.path.join ⟨name⟩) node).1 = .entry p .file ↔
      HoldsFile fs directory name ∧ p = directory.path.join ⟨name⟩ := visitEntry_file_iff hnode
  rw [← hvisit, listEntry]
  split_ifs with hdirectory
  · subst hdirectory
    rcases hstatus : fs.status (directory.path.join ⟨name⟩) with fault | ⟨location, found⟩ <;>
      simp [visitEntry, hstatus]
  · rfl

theorem exists_of_neighbours_cons
    (hdirectory : fs.status directory.path = .ok (directory.location, .directory))
    (hnode : fs.node? (directory.location ++ [name]) = some node)
    (h : neighbours fs directory.path primary (fs.listEntry directory name node :: visits)
      = .ok files) :
    ∃ rest, neighbours fs directory.path primary visits = .ok rest ∧
      ((files = rest ∧ ∀ content, HoldsContent fs directory name content →
          (directory.path.join ⟨name⟩).Same primary) ∨
        ∃ content, files = .ofEntry (name, content) :: rest ∧
          ¬ (directory.path.join ⟨name⟩).Same primary ∧
          ∀ content', HoldsContent fs directory name content' ↔ content' = content) := by
  by_cases hfile : HoldsFile fs directory name
  · have hvisit : fs.listEntry directory name node = .entry (directory.path.join ⟨name⟩) .file :=
      (listEntry_file_iff hnode).2 ⟨hfile, rfl⟩
    rw [hvisit, neighbours] at h
    by_cases hsame : (directory.path.join ⟨name⟩).Same primary
    · rw [if_pos (Or.inr hsame)] at h
      exact ⟨files, h, Or.inl ⟨rfl, fun _ _ => hsame⟩⟩
    · rw [if_neg (by simp [hsame])] at h
      obtain ⟨first, hfirst, h⟩ := bind_eq_ok_iff.1 h
      obtain ⟨rest, hrest, hfiles⟩ := bind_eq_ok_iff.1 h
      cases hfiles
      rcases hread : fs.readFile (directory.path.join ⟨name⟩) with fault | content
      · rw [BundledFile.read, hread] at hfirst
        cases hfirst
      · have hname := Path.fileName_join_name directory.path
          (isPlain_of_isName (isName_of_node hnode).1)
        rw [BundledFile.read, hread, hname] at hfirst
        cases hfirst
        refine ⟨rest, hrest, Or.inr ⟨content, rfl, hsame, fun content' => ?_⟩⟩
        exact holdsContent_iff hdirectory hfile hread
  · have hnone : ∀ content, HoldsContent fs directory name content →
        (directory.path.join ⟨name⟩).Same primary :=
      fun content hcontent => absurd hcontent.holdsFile hfile
    rcases hvisit : fs.listEntry directory name node with ⟨p, kind⟩ | fault
    · cases kind with
      | file => exact absurd ((listEntry_file_iff hnode).1 hvisit).1 hfile
      | directory =>
        rw [hvisit, neighbours, if_pos (Or.inl rfl)] at h
        exact ⟨files, h, Or.inl ⟨rfl, hnone⟩⟩
    · rw [hvisit, neighbours] at h
      split_ifs at h
      exact ⟨files, h, Or.inl ⟨rfl, hnone⟩⟩

/-- The files that the entries of a directory bring, in the order of the entries. -/
theorem neighbours_ok {entries : List (FileName × Node)}
    (hdirectory : fs.status directory.path = .ok (directory.location, .directory))
    (hentries : ∀ entry ∈ entries, fs.node? (directory.location ++ [entry.1]) = some entry.2)
    (h : neighbours fs directory.path primary (entries.map fun entry =>
      fs.listEntry directory entry.1 entry.2) = .ok files) :
    ∃ kept : List (FileName × Bytes), files = kept.map .ofEntry ∧
      (kept.map Prod.fst).Sublist (entries.map Prod.fst) ∧
      ∀ entry, entry ∈ kept ↔ entry.1 ∈ entries.map Prod.fst ∧
        ¬ (directory.path.join ⟨entry.1⟩).Same primary ∧
        HoldsContent fs directory entry.1 entry.2 := by
  induction entries generalizing files with
  | nil =>
    cases h
    exact ⟨[], rfl, List.nil_sublist _, by simp⟩
  | cons entry entries ih =>
    obtain ⟨hnode, hentries⟩ := List.forall_mem_cons.1 hentries
    rw [List.map_cons] at h
    obtain ⟨rest, hrest, hfiles⟩ := exists_of_neighbours_cons hdirectory hnode h
    obtain ⟨kept, rfl, hsublist, hmem⟩ := ih hentries hrest
    simp only [List.map_cons, List.mem_cons, or_and_right]
    rcases hfiles with ⟨rfl, hpassed⟩ | ⟨content, rfl, hother, hcontent⟩
    · refine ⟨kept, rfl, hsublist.cons _, fun found => ?_⟩
      rw [hmem, or_iff_right]
      rintro ⟨hname, hother, hholds⟩
      rw [hname] at hother hholds
      exact hother (hpassed _ hholds)
    · refine ⟨(entry.1, content) :: kept, rfl, hsublist.cons_cons _, fun found => ?_⟩
      rw [List.mem_cons, hmem]
      refine or_congr_left ⟨?_, ?_⟩
      · rintro rfl
        exact ⟨rfl, hother, (hcontent content).2 rfl⟩
      · rintro ⟨hname, -, hholds⟩
        rw [hname, hcontent] at hholds
        rw [← hname, ← hholds]

end Entries

/-! ### Bundles of input files -/

theorem InputFile.isAbsolute_of_ofPath {fs : FileSystem} {p : Path} {idl : InputFile}
    (h : InputFile.ofPath fs p = .ok idl) : idl.path.isAbsolute = true := by
  unfold InputFile.ofPath at h
  rcases habsolute : fs.absolute p with fault | absolute
  · rw [habsolute] at h
    cases h
  · rw [habsolute] at h
    cases h
    exact isAbsolute_of_absolute habsolute

theorem FileSystem.list_of_status {fs : FileSystem} {p : Path} {location : Location}
    (h : fs.status p = .ok (location, .directory)) :
    fs.list p = (sortedByName (fs.children location)).map fun entry =>
      fs.listEntry ⟨location, p⟩ entry.1 entry.2 := by
  have hread : fs.readDirectory p = .ok (fs.children location) := by
    unfold readDirectory
    rw [h]
    rfl
  unfold list
  rw [h, hread]

/-- The files that a directory brings beside the file of one of its names: the others, in order. -/
theorem exists_others {fs : FileSystem} {p directory : Path} {location : Location}
    {name : FileName} {files : List BundledFile} (hparent : p.parent? = some directory)
    (hname : p.fileName? = some name) (hopen : fs.status directory = .ok (location, .directory))
    (h : neighbours fs directory p (fs.list directory) = .ok files) :
    ∃ others : List (FileName × Bytes), files = others.map .ofEntry ∧
      (others.Pairwise fun entry other => entry.1 < other.1) ∧
      ∀ entry, entry ∈ others ↔
        entry.1 ≠ name ∧ HoldsContent fs ⟨location, directory⟩ entry.1 entry.2 := by
  have hnodes : ∀ entry ∈ sortedByName (fs.children location),
      fs.node? (location ++ [entry.1]) = some entry.2 := by
    intro entry hentry
    exact mem_children.1 ((sortedByName_perm _).mem_iff.1 hentry)
  have hstatus : fs.status (OpenDirectory.mk location directory).path
      = .ok ((OpenDirectory.mk location directory).location, .directory) := hopen
  rw [list_of_status hopen] at h
  obtain ⟨others, hfiles, hsublist, hmem⟩ := neighbours_ok hstatus hnodes h
  have hincreasing : others.Pairwise fun entry other => entry.1 < other.1 :=
    List.pairwise_map.1 ((List.pairwise_map.2
      (pairwise_lt_sortedByName (nodup_children fs location))).sublist hsublist)
  refine ⟨others, hfiles, hincreasing, fun entry => ?_⟩
  rw [hmem]
  constructor
  · rintro ⟨-, hother, hcontent⟩
    obtain ⟨node, hfile⟩ := hcontent.exists_node
    have hplain := isPlain_of_isName (isName_of_node hfile).1
    rw [Path.same_join_parent_iff hparent hname hplain] at hother
    exact ⟨hother, hcontent⟩
  · rintro ⟨hother, hcontent⟩
    obtain ⟨node, hfile⟩ := hcontent.exists_node
    have hplain := isPlain_of_isName (isName_of_node hfile).1
    have hentry := (sortedByName_perm _).mem_iff.2 (mem_children.2 hfile)
    refine ⟨List.mem_map.2 ⟨_, hentry, rfl⟩, ?_, hcontent⟩
    rw [Path.same_join_parent_iff hparent hname hplain]
    exact hother

/-- What a bundle holds: the IDL file and then just the other entries of its directory that are files
or links to files, each once with its content, in the order of the bytes of their names. What is
sent of a name is how it is shown, and so these texts are in order, too, where the names are. -/
structure IsBundleOf (fs : FileSystem) (idl : InputFile) (bundle : List BundledFile)
    (name : FileName) (content : Bytes) (directory : Location) (others : List (FileName × Bytes)) :
    Prop where
  bundle_eq : bundle = .ofEntry (name, content) :: others.map .ofEntry
  fileName_eq : idl.path.fileName? = some name
  read : fs.readFile idl.path = .ok content
  opened : fs.status idl.directory = .ok (directory, .directory)
  present : ∃ node, fs.node? (directory ++ [name]) = some node
  increasing : others.Pairwise fun entry other => entry.1 < other.1
  mem_iff : ∀ entry, entry ∈ others ↔
    entry.1 ≠ name ∧ HoldsContent fs ⟨directory, idl.directory⟩ entry.1 entry.2
  shown : (∀ entry ∈ others, ∃ text, entry.1 = encode text) →
    (others.map BundledFile.ofEntry).Pairwise fun file other => encode file.name < encode other.name

/-- The texts of names that are UTF-8 are in the order of the names. -/
theorem pairwise_shown {others : List (FileName × Bytes)}
    (hincreasing : others.Pairwise fun entry other => entry.1 < other.1)
    (htexts : ∀ entry ∈ others, ∃ text, entry.1 = encode text) :
    (others.map BundledFile.ofEntry).Pairwise
      fun file other => encode file.name < encode other.name := by
  have hshown : ∀ entry ∈ others, encode (BundledFile.ofEntry entry).name = entry.1 := by
    intro entry hentry
    obtain ⟨text, htext⟩ := htexts entry hentry
    rw [BundledFile.ofEntry, htext, Text.decodeLossy_encode]
  refine List.pairwise_map.2 (hincreasing.imp_of_mem fun {entry other} hentry hother hlt => ?_)
  rw [hshown entry hentry, hshown other hother]
  exact hlt

/-- A bundle begins with the IDL file. After it come, in the order of the bytes of their names, just
the other entries of its directory that are files or links to files, each once with its content. -/
theorem bundle_exact {fs₀ fs : FileSystem} {p : Path} {idl : InputFile} {jsonFile : Path}
    {bundle : List BundledFile} (hidl : InputFile.ofPath fs₀ p = .ok idl)
    (h : (TranslatorTask.mk idl jsonFile).bundle fs = .ok bundle) :
    ∃ name content directory others, IsBundleOf fs idl bundle name content directory others := by
  obtain ⟨first, hfirst, h⟩ := bind_eq_ok_iff.1 h
  obtain ⟨rest, hrest, hbundle⟩ := bind_eq_ok_iff.1 h
  cases hbundle
  rcases hread : fs.readFile idl.path with fault | content
  · rw [BundledFile.read, hread] at hfirst
    cases hfirst
  obtain ⟨location, mode, hstatus⟩ := readFile_eq_ok hread
  -- The directory is there since the IDL file was read, so it is listed and not passed over.
  obtain ⟨parent, name, directory, found, hparent, hname, hdirectory, hnode⟩ :=
    exists_parent_of_status (InputFile.isAbsolute_of_ofPath hidl) hstatus (by simp)
  rw [BundledFile.read, hread, hname] at hfirst
  cases hfirst
  have hheld : idl.directory = parent := by
    rw [InputFile.directory, hparent]
    rfl
  rw [← hheld] at hdirectory hparent
  obtain ⟨others, rfl, hincreasing, hmem⟩ := exists_others hparent hname hdirectory hrest
  exact ⟨name, content, directory, others, rfl, hname, hread, hdirectory, ⟨found, hnode⟩,
    hincreasing, hmem, pairwise_shown hincreasing⟩

/-- An IDL file with a neighbour, a link to that, a dangling link and a directory beside it. -/
def spread : FileSystem :=
  FileSystem.empty
    |>.add [] "w" .directory
    |>.add ["w"] "idl" .directory
    |>.add ["w", "idl"] "sub" .directory
    |>.add ["w", "idl", "sub"] "c.idl" (.file [0x33] 0o644)
    |>.add ["w", "idl"] "z" (.link ⟨"a.idl"⟩)
    |>.add ["w", "idl"] "gone" (.link ⟨"nowhere"⟩)
    |>.add ["w", "idl"] "b.idl" (.file [0x31] 0o644)
    |>.add ["w", "idl"] "a.idl" (.file [0x32] 0o644)
    |>.enter ["w"]

theorem spread_bundled :
    let idl : InputFile := ⟨⟨"/w/idl/sub/../b.idl"⟩⟩
    let bundle : List BundledFile := [⟨"b.idl", [0x31]⟩, ⟨"a.idl", [0x32]⟩, ⟨"z", [0x32]⟩]
    InputFile.ofPath spread ⟨"./idl//sub/../b.idl"⟩ = .ok idl ∧
      (TranslatorTask.mk idl ⟨"b.json"⟩).bundle spread = .ok bundle ∧
      ∃ name content directory others,
        IsBundleOf spread idl bundle name content directory others := by
  intro idl bundle
  have hidl : InputFile.ofPath spread ⟨"./idl//sub/../b.idl"⟩ = .ok idl := by decide +kernel
  have hbundle : (TranslatorTask.mk idl ⟨"b.json"⟩).bundle spread = .ok bundle := by
    decide +kernel
  exact ⟨hidl, hbundle, bundle_exact hidl hbundle⟩

/-- An IDL file beside two files whose names are not UTF-8. -/
def unshown : FileSystem :=
  FileSystem.empty
    |>.add [] "a.idl" (.file [0x30] 0o644)
    |>.add [] [0xFE] (.file [0x31] 0o644)
    |>.add [] [0xFF] (.file [0x32] 0o644)

/-- Names that are shown alike are sent as one text, so the texts of a bundle need not increase. -/
theorem unshown_bundled :
    let bundle : List BundledFile :=
      [⟨"a.idl", [0x30]⟩, ⟨"\uFFFD", [0x31]⟩, ⟨"\uFFFD", [0x32]⟩]
    InputFile.ofPath unshown ⟨"a.idl"⟩ = .ok ⟨⟨"/a.idl"⟩⟩ ∧
      (TranslatorTask.mk ⟨⟨"/a.idl"⟩⟩ ⟨"a.json"⟩).bundle unshown = .ok bundle ∧
      ¬ bundle.tail.Pairwise fun file other => encode file.name < encode other.name := by
  refine ⟨by decide +kernel, by decide +kernel, ?_⟩
  decide +kernel

end IdlBuild
