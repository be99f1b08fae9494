import IdlBuild.Proofs.Inputs.Concatenation
import IdlBuild.Proofs.Inputs.Readable
import IdlBuild.Proofs.Translators.Bundles

/-!
# What keeps a bundle from being made

Of the entries in the directory of an IDL file, a bundle passes over those whose lookup finds
nothing, and no others: a link for which the lookup fails in another way, a link to the directory
itself, or a file with too long a path keeps the bundle from being made, though the walk that selects
the IDL file passes over all of them (`bundle_obstructed`).
-/

namespace IdlBuild

open FileSystem
open Text (Bytes)

/-! ### Entries that are passed -/

section Neighbours

variable {fs : FileSystem} {directory primary p : Path} {visit : Visit} {visits : List Visit}

/-- Whether a visit of a directory lets the bundle go on. -/
def IsPassed (fs : FileSystem) (primary : Path) : Visit → Prop
  | .fault fault => fault.isMissing = true
  | .entry p kind => kind = .directory ∨ p.Same primary ∨ ∃ content, fs.readFile p = .ok content

theorem exists_read_iff :
    (∃ file, BundledFile.read fs p = .ok file) ↔ ∃ content, fs.readFile p = .ok content := by
  unfold BundledFile.read
  cases fs.readFile p <;> simp

theorem exists_neighbours_cons_iff :
    (∃ files, neighbours fs directory primary (visit :: visits) = .ok files) ↔
      IsPassed fs primary visit ∧ ∃ files, neighbours fs directory primary visits = .ok files := by
  cases visit with
  | fault fault =>
    rw [neighbours]
    split_ifs with hmissing
    · simp [IsPassed, hmissing]
    · simp [IsPassed, hmissing]
  | entry p kind =>
    rw [neighbours]
    split_ifs with hpassed
    · have hlet : IsPassed fs primary (.entry p kind) := hpassed.imp_right Or.inl
      simp [hlet]
    · obtain ⟨hkind, hsame⟩ := not_or.1 hpassed
      have hread : IsPassed fs primary (.entry p kind) ↔
          ∃ file, BundledFile.read fs p = .ok file := by
        rw [exists_read_iff, IsPassed, or_iff_right hkind, or_iff_right hsame]
      rw [hread]
      constructor
      · rintro ⟨files, h⟩
        obtain ⟨file, hfile, h⟩ := bind_eq_ok_iff.1 h
        obtain ⟨rest, hrest, -⟩ := bind_eq_ok_iff.1 h
        exact ⟨⟨file, hfile⟩, rest, hrest⟩
      · rintro ⟨⟨file, hfile⟩, rest, hrest⟩
        rw [hfile, hrest]
        exact ⟨file :: rest, rfl⟩

theorem exists_neighbours_iff :
    (∃ files, neighbours fs directory primary visits = .ok files) ↔
      ∀ visit ∈ visits, IsPassed fs primary visit := by
  induction visits with
  | nil => simp [neighbours]
  | cons visit visits ih => rw [exists_neighbours_cons_iff, ih, List.forall_mem_cons]

end Neighbours

/-! ### Entries in the way -/

/-- Whether a name in a directory keeps the bundles of a file in it from being made. -/
inductive Obstructs (fs : FileSystem) (directory : OpenDirectory) (primary name : FileName) :
    Prop where
  | unreachable {content : Bytes} {mode : Nat}
      (hnode : fs.node? (directory.location ++ [name]) = some (.file content mode))
      (hother : name ≠ primary)
      (hsize : pathLimit ≤ (directory.path.join ⟨name⟩).bytes.length)
  | loop {target : Path}
      (hnode : fs.node? (directory.location ++ [name]) = some (.link target))
      (hstatus : fs.status (directory.path.join ⟨name⟩) = .ok (directory.location, .directory))
  | broken {target : Path} {fault : IoFault}
      (hnode : fs.node? (directory.location ++ [name]) = some (.link target))
      (hstatus : fs.status (directory.path.join ⟨name⟩) = .error fault)
      (hfault : fault ≠ .noSuchEntry)

section Entries

variable {fs : FileSystem} {directory : OpenDirectory} {primary : Path} {name last : FileName}
  {node : Node}

theorem Obstructs.exists_node (h : Obstructs fs directory last name) :
    ∃ node, fs.node? (directory.location ++ [name]) = some node := by
  cases h with
  | unreachable hnode => exact ⟨_, hnode⟩
  | loop hnode => exact ⟨_, hnode⟩
  | broken hnode => exact ⟨_, hnode⟩

theorem isPassed_file_iff {content : Bytes} {mode : Nat}
    (hdirectory : fs.status directory.path = .ok (directory.location, .directory))
    (hnode : fs.node? (directory.location ++ [name]) = some (.file content mode))
    (hsame : (directory.path.join ⟨name⟩).Same primary ↔ name = last) :
    IsPassed fs primary (fs.listEntry directory name (.file content mode)) ↔
      ¬ Obstructs fs directory last name := by
  have hlisted : fs.listEntry directory name (.file content mode)
      = .entry (directory.path.join ⟨name⟩) .file := rfl
  rw [hlisted, IsPassed, hsame]
  simp only [reduceCtorEq, false_or]
  constructor
  · rintro hpassed (⟨hfile, hother, hsize⟩ | ⟨hlink, -⟩ | ⟨hlink, -, -⟩)
    · obtain ⟨content', hread⟩ := hpassed.resolve_left hother
      obtain ⟨location, mode', hstatus⟩ := readFile_eq_ok hread
      obtain ⟨start, hstart, -⟩ := status_eq_ok hstatus
      exact absurd (start_eq_ok_iff.1 hstart).2.2.1 (Nat.not_lt.2 hsize)
    · cases hnode.symm.trans hlink
    · cases hnode.symm.trans hlink
  · intro hfree
    refine or_iff_not_imp_left.2 fun hother => ?_
    have hsize : (directory.path.join ⟨name⟩).bytes.length < pathLimit := by
      by_contra hlong
      exact hfree (.unreachable hnode hother (Nat.not_lt.1 hlong))
    obtain ⟨content', mode', -, hread⟩ :=
      readFile_of_status (status_file hdirectory hnode hsize) (by simp)
    exact ⟨content', hread⟩

theorem isPassed_link_iff {target : Path}
    (hnode : fs.node? (directory.location ++ [name]) = some (.link target)) :
    IsPassed fs primary (fs.listEntry directory name (.link target)) ↔
      ¬ Obstructs fs directory last name := by
  have hlisted : fs.listEntry directory name (.link target)
      = (visitEntry fs [directory] (directory.path.join ⟨name⟩) (.link target)).1 := rfl
  have hobstructs : Obstructs fs directory last name ↔
      fs.status (directory.path.join ⟨name⟩) = .ok (directory.location, .directory) ∨
        ∃ fault, fs.status (directory.path.join ⟨name⟩) = .error fault ∧ fault ≠ .noSuchEntry := by
    constructor
    · rintro (⟨hfile, -, -⟩ | ⟨-, hstatus⟩ | ⟨-, hstatus, hfault⟩)
      · cases hnode.symm.trans hfile
      · exact Or.inl hstatus
      · exact Or.inr ⟨_, hstatus, hfault⟩
    · rintro (hstatus | ⟨fault, hstatus, hfault⟩)
      · exact .loop hnode hstatus
      · exact .broken hnode hstatus hfault
  rw [hlisted, hobstructs]
  rcases hstatus : fs.status (directory.path.join ⟨name⟩) with fault | ⟨location, found⟩
  · simp [visitEntry, hstatus, IsPassed, WalkFault.isMissing, IoFault.isMissing]
  by_cases hfound : found = .directory
  · subst hfound
    by_cases hhere : directory.location = location
    · simp [visitEntry, hstatus, openAt?, hhere, IsPassed, WalkFault.isMissing]
    · simp [visitEntry, hstatus, openAt?, hhere, Ne.symm hhere, IsPassed]
  · obtain ⟨content, mode, rfl, hread⟩ := readFile_of_status hstatus hfound
    simp [visitEntry, hstatus, IsPassed, hread]

theorem isPassed_listEntry_iff
    (hdirectory : fs.status directory.path = .ok (directory.location, .directory))
    (hnode : fs.node? (directory.location ++ [name]) = some node)
    (hsame : (directory.path.join ⟨name⟩).Same primary ↔ name = last) :
    IsPassed fs primary (fs.listEntry directory name node) ↔
      ¬ Obstructs fs directory last name := by
  cases node with
  | file content mode => exact isPassed_file_iff hdirectory hnode hsame
  | link target => exact isPassed_link_iff hnode
  | directory =>
    refine iff_of_true (Or.inl rfl) ?_
    rintro (⟨hother, -, -⟩ | ⟨hother, -⟩ | ⟨hother, -, -⟩) <;> cases hnode.symm.trans hother

end Entries

/-! ### Bundles that are made -/

/-- A file that can be read stands under its last name in its directory. -/
theorem InputFile.exists_standing {fs : FileSystem} {idl : InputFile} {content : Bytes}
    (ha : idl.path.isAbsolute = true) (hread : fs.readFile idl.path = .ok content) :
    ∃ directory, idl.path.parent? = some idl.directory ∧
      idl.path.fileName? = some idl.fileName ∧
      fs.status idl.directory = .ok (directory, .directory) := by
  obtain ⟨location, mode, hstatus⟩ := readFile_eq_ok hread
  obtain ⟨parent, name, directory, found, hparent, hname, hdirectory, -⟩ :=
    exists_parent_of_status ha hstatus (by simp)
  have hheld : idl.directory = parent := by
    rw [InputFile.directory, hparent]
    rfl
  have hlast : idl.fileName = name := by
    rw [InputFile.fileName, hname]
    rfl
  exact ⟨directory, hheld ▸ hparent, hlast ▸ hname, hheld ▸ hdirectory⟩

theorem exists_bundle_iff {fs : FileSystem} {idl : InputFile} (ha : idl.path.isAbsolute = true)
    (jsonFile : Path) :
    (∃ bundle, (TranslatorTask.mk idl jsonFile).bundle fs = .ok bundle) ↔
      (∃ content, fs.readFile idl.path = .ok content) ∧
        ∃ directory, fs.status idl.directory = .ok (directory, .directory) ∧
          ∀ name, ¬ Obstructs fs ⟨directory, idl.directory⟩ idl.fileName name := by
  have hsplit : (∃ bundle, (TranslatorTask.mk idl jsonFile).bundle fs = .ok bundle) ↔
      (∃ content, fs.readFile idl.path = .ok content) ∧
        ∃ rest, neighbours fs idl.directory idl.path (fs.list idl.directory) = .ok rest := by
    rw [← exists_read_iff]
    constructor
    · rintro ⟨bundle, h⟩
      obtain ⟨first, hfirst, h⟩ := bind_eq_ok_iff.1 h
      obtain ⟨rest, hrest, -⟩ := bind_eq_ok_iff.1 h
      exact ⟨⟨first, hfirst⟩, rest, hrest⟩
    · rintro ⟨⟨first, hfirst⟩, rest, hrest⟩
      simp only [TranslatorTask.bundle, hfirst, hrest]
      exact ⟨first :: rest, rfl⟩
  rw [hsplit]
  refine and_congr_right fun ⟨content, hread⟩ => ?_
  obtain ⟨directory, hparent, hname, hdirectory⟩ := InputFile.exists_standing ha hread
  have hopen : fs.status (OpenDirectory.mk directory idl.directory).path
      = .ok ((OpenDirectory.mk directory idl.directory).location, .directory) := hdirectory
  have hpassed : ∀ {name : FileName} {node : Node}, fs.node? (directory ++ [name]) = some node →
      (IsPassed fs idl.path (fs.listEntry ⟨directory, idl.directory⟩ name node) ↔
        ¬ Obstructs fs ⟨directory, idl.directory⟩ idl.fileName name) := by
    intro name node hnode
    have hplain := isPlain_of_isName (isName_of_node hnode).1
    exact isPassed_listEntry_iff hopen hnode (Path.same_join_parent_iff hparent hname hplain)
  rw [exists_neighbours_iff, list_of_status hdirectory, List.forall_mem_map]
  constructor
  · intro hall
    refine ⟨directory, hdirectory, fun name hobstructs => ?_⟩
    obtain ⟨node, hnode⟩ := hobstructs.exists_node
    have hentry := (sortedByName_perm _).mem_iff.2 (mem_children.2 hnode)
    exact (hpassed hnode).1 (hall _ hentry) hobstructs
  · rintro ⟨directory', hdirectory', hfree⟩ entry hentry
    cases hdirectory.symm.trans hdirectory'
    have hnode := mem_children.1 ((sortedByName_perm _).mem_iff.1 hentry)
    exact (hpassed hnode).2 (hfree entry.1)

theorem FileSystem.Opens.isAbsolute {fs : FileSystem} {root : Path} {directory : OpenDirectory}
    {opened : List OpenDirectory} (h : Opens fs root directory opened)
    (ha : root.isAbsolute = true) : directory.path.isAbsolute = true := by
  induction h with
  | root hstatus => exact ha
  | into hopen hnode hstatus ih => exact Path.isAbsolute_join_of_left ih _
  | through hopen hnode hstatus hfree ih => exact Path.isAbsolute_join_of_left ih _

theorem considerInput_of_isAbsolute {fs : FileSystem} {input : String} {location : Location}
    (ha : (Path.ofText input).isAbsolute = true)
    (hstatus : fs.status (.ofText input) = .ok (location, .directory))
    (exclusions : Exclusions) (finding : Finding) :
    (considerInput fs exclusions finding input).1 = .ok () := by
  rcases hresult : (considerInput fs exclusions finding input).1 with failure | ⟨⟩
  · cases refused_of_considerInput hresult with
    | missing hmissing => simp [pathExists, hstatus, Except.toBool] at hmissing
    | unresolved _ _ hrelative hp =>
      rcases hp with rfl | hvisit
      · rw [ha] at hrelative
        cases hrelative
      · obtain ⟨directory, opened, name, hopen, -, rfl⟩ := mem_walkBelow_iff.1 hvisit
        rw [Path.isAbsolute_join_of_left (hopen.isAbsolute ha)] at hrelative
        cases hrelative
  · rfl

/-- The bundle of a selected file can be made just when the path of the file is short enough and no
entry of its directory is in the way. Selecting files from that directory never fails, whatever is
in it. -/
theorem bundle_obstructed {fs : FileSystem} {inputs : String} {exclusions : Exclusions}
    {journal : Journal} {files : List InputFile} {idl : InputFile}
    (h : (selectInputs fs inputs exclusions journal).1 = .ok files) (hidl : idl ∈ files)
    (jsonFile : Path) :
    ((∃ bundle, (TranslatorTask.mk idl jsonFile).bundle fs = .ok bundle) ↔
      idl.path.bytes.length < pathLimit ∧
        ∃ directory, fs.status idl.directory = .ok (directory, .directory) ∧
          ∀ name, ¬ Obstructs fs ⟨directory, idl.directory⟩ idl.fileName name) ∧
      (idl.path.bytes.length < pathLimit → ∀ exclusions' finding input,
        .ofText input = idl.directory → (considerInput fs exclusions' finding input).1 = .ok ()) := by
  obtain ⟨p, -, habsolute⟩ := source_of_mem_selected h hidl
  have ha := isAbsolute_of_absolute habsolute
  refine ⟨by rw [exists_bundle_iff ha, exists_readFile_iff h hidl],
    fun hsize exclusions' finding input hinput => ?_⟩
  obtain ⟨content, hread⟩ := (exists_readFile_iff h hidl).2 hsize
  obtain ⟨directory, hparent, -, hdirectory⟩ := InputFile.exists_standing ha hread
  rw [← hinput] at hparent hdirectory
  exact considerInput_of_isAbsolute ((Path.isAbsolute_parent hparent).trans ha) hdirectory
    exclusions' finding

theorem spread_unobstructed :
    (selectInputs spread "idl/b.idl" ⟨[]⟩ .empty).1 = .ok [⟨⟨"/w/idl/b.idl"⟩⟩] ∧
      (∃ directory, spread.status (InputFile.mk ⟨"/w/idl/b.idl"⟩).directory
          = .ok (directory, .directory) ∧
        ∀ name, ¬ Obstructs spread ⟨directory, (InputFile.mk ⟨"/w/idl/b.idl"⟩).directory⟩
          (InputFile.mk ⟨"/w/idl/b.idl"⟩).fileName name) := by
  have hselected : (selectInputs spread "idl/b.idl" ⟨[]⟩ .empty).1
      = .ok [⟨⟨"/w/idl/b.idl"⟩⟩] := by decide +kernel
  have hbundle : (TranslatorTask.mk ⟨⟨"/w/idl/b.idl"⟩⟩ ⟨"b.json"⟩).bundle spread
      = .ok [⟨"b.idl", [0x31]⟩, ⟨"a.idl", [0x32]⟩, ⟨"z", [0x32]⟩] := by decide +kernel
  have hmade := bundle_obstructed hselected (List.mem_singleton_self _) ⟨"b.json"⟩
  exact ⟨hselected, (hmade.1.1 ⟨_, hbundle⟩).2⟩

/-- An IDL file with a link to its directory beside it. -/
def coiled : FileSystem :=
  FileSystem.empty
    |>.add [] "d" .directory
    |>.add ["d"] "a.idl" (.file [0x32] 0o644)
    |>.add ["d"] "here" (.link ⟨"."⟩)

/-- The file is selected past the link, and its bundle fails at the link. -/
theorem coiled_obstructed :
    (selectInputs coiled "d" ⟨[]⟩ .empty).1 = .ok [⟨⟨"/d/a.idl"⟩⟩] ∧
      (TranslatorTask.mk ⟨⟨"/d/a.idl"⟩⟩ ⟨"a.json"⟩).bundle coiled = .error (.operation "list /d"
        (.other "File system loop found: /d/here points to an ancestor /d")) := by
  constructor <;> decide +kernel

end IdlBuild
