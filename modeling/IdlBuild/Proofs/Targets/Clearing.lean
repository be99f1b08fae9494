import IdlBuild.Proofs.FileSystem.Growth
import IdlBuild.Proofs.FileSystem.Shrinking
import IdlBuild.Proofs.Targets.Containment
import IdlBuild.Proofs.Targets.Removal

/-!
# Cleared targets

Making a target ready that is to be cleared first leaves an empty directory at its path, whatever
was there before, and changes nothing outside (`makeReady_clears`). The way to the directory has to
be sound (`Clearable`): where it goes up behind a directory that is missing, nothing is found to
clear, and what is made then is a directory that may hold anything (`not_cleared`).
-/

namespace IdlBuild

open FileSystem
open IdlBuild.Path (Ancestor)

/-! ### What is at a path -/

namespace FileSystem

section Status

variable {fs : FileSystem} {p : Path} {front : List Component} {last : Component} {start : Location}

/-- Where something is at a path, it is a name in the directory that the rest leads to. -/
theorem leads_of_linkStatus {name : FileName} (h : p.EndsWith front (.name name))
    {location : Location} {node : Node} (hlink : fs.linkStatus p = .ok (location, node)) :
    ∃ start links directory, fs.start p = .ok start ∧
      Leads fs linkLimit start (front.map Component.bytes) links directory ∧
      location = directory ++ [name] ∧ fs.node? (directory ++ [name]) = some node := by
  obtain ⟨start, hstart, hfollow⟩ := linkStatus_eq_ok hlink
  have hlocate := locate_of_endsWith h hstart false
  rw [locate_of_start hstart, hfollow] at hlocate
  rcases leads_or_error fs linkLimit start (front.map Component.bytes) with
    ⟨links, directory, hleads⟩ | ⟨fault, herror⟩
  · rw [follow_of_leads hleads (Or.inl (by simp)), Component.bytes] at hlocate
    cases hnode : fs.node? (directory ++ [name]) with
    | none =>
      rw [follow_cons, hnode] at hlocate
      obtain ⟨-, hdot, hup, -⟩ := h.isPlain
      simp only [if_neg hdot, if_neg hup, if_true] at hlocate
      split_ifs at hlocate
      cases hlocate
    | some node' =>
      obtain ⟨hname, hparts⟩ := isName_of_node hnode
      rw [follow_last hname (not_isLost_of_isName hparts), hnode] at hlocate
      cases hlocate
      exact ⟨start, links, directory, hstart, hleads, rfl, hnode⟩
  · rw [herror false _ (by simp)] at hlocate
    cases hlocate

end Status

end FileSystem

namespace Target

/-! ### Ways to a target -/

/-- Whether what is at a path can go without the working directory and without changing where the
ancestors of the path lead. -/
def StandsApart (fs : FileSystem) (p : Path) : Prop :=
  ∀ location node, fs.linkStatus p = .ok (location, node) →
    (¬ location <+: fs.workingDirectory) ∧
      ∀ q, Ancestor q p → (fs.without location).status q = fs.status q

/-- Whether no entry below what is at a path has a path that is too long. -/
def FitsBelow (fs : FileSystem) (p : Path) : Prop :=
  ∀ location node, fs.linkStatus p = .ok (location, node) →
    ∀ inner node', (location ++ inner, node') ∈ fs.entries →
      p.bytes.length + sizeBehind inner < pathLimit

/-- Whether the directory at a path can be cleared: the path can be begun, no ancestor is an
obstacle, names and paths are not too long, and what is at the path can go without the working
directory and without changing where its ancestors lead. -/
structure Clearable (fs : FileSystem) (p : Path) : Prop where
  begins : ∃ start, fs.start p = .ok start ∧ fs.IsDirectory start
  passable : ∀ q, Ancestor q p → Passable fs q
  short : ∀ name, .name name ∈ p.components → name.length ≤ nameLimit
  fits : ∀ location node, fs.linkStatus p = .ok (location, node) →
    ∀ inner node', (location ++ inner, node') ∈ fs.entries →
      p.bytes.length + sizeBehind inner < pathLimit
  apart : ∀ location node, fs.linkStatus p = .ok (location, node) →
    (¬ location <+: fs.workingDirectory) ∧
      ∀ q, Ancestor q p → (fs.without location).status q = fs.status q

/-- What has changed when the directory at a path has been made anew: it is empty, no entry is gone
or different but those at and below what was at the path, and nothing is new but the directory and
those of its missing ancestors. -/
structure MadeAnew (fs : FileSystem) (p : Path) (fs' : FileSystem) (location : Location) :
    Prop where
  there : fs'.linkStatus p = .ok (location, .directory)
  empty : fs'.children location = []
  same : ∀ location' node, fs.linkStatus p = .ok (location', node) → location' = location
  workingDirectory : fs'.workingDirectory = fs.workingDirectory
  kept : ∀ e ∈ fs.entries, e ∈ fs'.entries ∨
    location <+: e.1 ∧ ∃ node, fs.linkStatus p = .ok (location, node)
  news : ∀ e ∈ fs'.entries, e ∈ fs.entries ∨ e = (location, .directory) ∨
    e.2 = .directory ∧ ∃ q, Ancestor q p ∧ fs.linkStatus q = .error .noSuchEntry ∧
      fs'.linkStatus q = .ok e

section Ways

variable {fs fs' : FileSystem} {p : Path} {front : List Component} {name : FileName}
  {start directory : Location}

theorem Clearable.short_body (h : Clearable fs p) :
    ∀ c ∈ p.body, c.bytes.length ≤ nameLimit := by
  intro c hc
  obtain ⟨hroot, hhere⟩ := Path.ne_of_mem_body hc
  cases c with
  | root => exact absurd rfl hroot
  | here => exact absurd rfl hhere
  | up => decide
  | name bytes =>
    refine h.short bytes ?_
    rw [Path.components_eq]
    exact List.mem_append_right _ hc

theorem Clearable.short_name (h : Clearable fs p) (hends : p.EndsWith front (.name name)) :
    name.length ≤ nameLimit :=
  h.short_body (.name name) (by rw [hends.body]; simp)

/-- The way to what is at a path is still there without it. -/
theorem StandsApart.names_without (h : StandsApart fs p) (hends : p.EndsWith front (.name name))
    {location : Location} {node : Node} (hlink : fs.linkStatus p = .ok (location, node)) :
    ∃ directory, location = directory ++ [name] ∧ fs.node? location = some node ∧
      Names (fs.without location) p directory name := by
  obtain ⟨start, links, directory, hstart, hleads, rfl, hnode⟩ := leads_of_linkStatus hends hlink
  obtain ⟨hwd, hsame⟩ := h _ _ hlink
  have hstart' : (fs.without (directory ++ [name])).start p = .ok start := by
    rw [← (keptIn_of_without hwd).start p]
    exact hstart
  have hd : (fs.without (directory ++ [name])).IsDirectory directory := by
    have hup := (isDirectory_iff fs directory).1 (isDirectory_of_node hnode)
    rw [isDirectory_iff, node?_without (not_prefix_of_append directory name), hup]
  refine ⟨directory, rfl, hnode, (isName_of_node hnode).1, hd, front, start, ?_⟩
  -- a single name is looked up in the start; otherwise the parent leads to the same directory,
  -- since its status is the same without what is at the path
  cases front using List.reverseRecOn with
  | nil =>
    cases hleads
    exact ⟨linkLimit, hends, hstart', .done⟩
  | append_singleton front before =>
    obtain ⟨q, hparent, hbody⟩ := Path.exists_parent hends.body
    have hq := Path.endsWith_parent hparent hbody
    have hqstart : ∀ {fs : FileSystem}, fs.start p = .ok start → fs.start q = .ok start :=
      fun hp => start_of_isPrefix hp hq.bytes_ne_nil (Path.parent_isPrefix hparent)
        (Path.isAbsolute_parent hparent)
    have hstatus := status_of_leads hq (hqstart hstart) hleads
    rw [← hsame q (.parent hparent)] at hstatus
    obtain ⟨links', hleads'⟩ := leads_of_status hq (hqstart hstart') hstatus
    exact ⟨links', hends, hstart', hleads'⟩

/-! ### Clearing -/

/-- Clearing takes away what is at and below a path, be it a directory, a file or a link. -/
theorem clear_of_linkStatus (happart : StandsApart fs p) (hfits : FitsBelow fs p)
    {directory : Location} {node : Node}
    (hnames : Names (fs.without (directory ++ [name])) p directory name)
    (hlink : fs.linkStatus p = .ok (directory ++ [name], node))
    (hnode : fs.node? (directory ++ [name]) = some node) :
    clear fs p = (.ok (), fs.without (directory ++ [name])) := by
  obtain ⟨hwd, -⟩ := happart _ _ hlink
  unfold clear clearWith
  cases node with
  | directory =>
    simp only [hlink]
    refine removeTree_eq _ fs p directory name ⟨hnames, hnode, hwd, fun inner node hmem => ?_,
      fun inner node hmem => hfits _ _ hlink inner node hmem⟩
    have hlength := length_le_entries hmem
    simp only [List.length_append] at hlength
    omega
  | file content mode =>
    have hremoved := (hnames.mono (keptIn_of_without hwd)).removeFile hnode (by simp)
    simp only [hlink, Remover.plain, hremoved,
      erase_eq_without (by simp) (isLeaf_of_node (by simp) hnode (by simp)) hwd]
    rfl
  | link target =>
    have hremoved := (hnames.mono (keptIn_of_without hwd)).removeFile hnode (by simp)
    simp only [hlink, Remover.plain, hremoved,
      erase_eq_without (by simp) (isLeaf_of_node (by simp) hnode (by simp)) hwd]
    rfl

/-- Where nothing is found at a path that passes only directories, nothing is there at all. -/
theorem Clearable.missing (h : Clearable fs p) (hends : p.EndsWith front (.name name))
    (hstart : fs.start p = .ok start) (hd : fs.IsDirectory start) {fault : IoFault}
    (hlink : fs.linkStatus p = .error fault) : Missing fs p start := by
  have hself : Passable fs p := by
    refine ⟨fun e he => ?_, fun hup => ?_⟩
    · rw [hlink] at he
      cases he
    · cases hup.symm.trans (Path.getLast_components_of_body hends.body)
  have hsize := h.short_name hends
  rcases leads_or_missing hends hstart hd h.short_body hself h.passable with
    ⟨links, location, hleads⟩ | hmissing
  · rw [hends.body, List.map_append] at hleads
    obtain ⟨links', directory, hfront, hlast⟩ := hleads.exists_of_append
    have hnames := names_of_leads hends hstart hd hsize hfront
    rw [hnames.linkStatus] at hlink
    cases hnode : fs.node? (directory ++ [name]) with
    | some node => simp [hnode] at hlink
    | none =>
      have hname : Leads fs links' directory [name] links location := hlast
      have hfound : fs.follow true links' directory ([name] ++ [[dot]])
          = .ok (.found location .directory) := by
        rw [follow_of_leads hname (Or.inr rfl), follow_here, follow_nil]
      have hnone : fs.follow true links' directory ([name] ++ [[dot]]) = .error .noSuchEntry :=
        follow_missing hnames.isName hnames.isDirectory.not_isLost hnode (by simp)
      rw [hnone] at hfound
      cases hfound
  · exact hmissing

theorem madeAnew_of_names (hwd : ¬ directory ++ [name] <+: fs.workingDirectory)
    (hnames : Names (fs.without (directory ++ [name])) p directory name) {node : Node}
    (hlink : fs.linkStatus p = .ok (directory ++ [name], node)) :
    MadeAnew fs p ((fs.without (directory ++ [name])).add directory name .directory)
      (directory ++ [name]) := by
  have hnone : (fs.without (directory ++ [name])).node? (directory ++ [name]) = none :=
    node?_without_of_isPrefix List.prefix_rfl (by simp)
  obtain ⟨-, hnames', hnode, -, hleaf, -⟩ := grown_of_names hnames hnone
  have hentries : ((fs.without (directory ++ [name])).add directory name .directory).entries
      = (fs.without (directory ++ [name])).entries ++ [(directory ++ [name], .directory)] :=
    entries_add hnames.isDirectory hnames.isName trivial hnone
  refine ⟨?_, children_of_isLeaf hleaf, fun location' node' hlink' => ?_, ?_, fun e he => ?_,
    fun e he => ?_⟩
  · rw [hnames'.linkStatus, hnode]
  · rw [hlink, Except.ok.injEq, Prod.mk.injEq] at hlink'
    exact hlink'.1.symm
  · rw [workingDirectory_add, workingDirectory_without hwd]
  · rw [hentries]
    by_cases hout : directory ++ [name] <+: e.1
    · exact Or.inr ⟨hout, node, hlink⟩
    · exact Or.inl (List.mem_append_left _ (mem_without.2 ⟨he, hout⟩))
  · rw [hentries] at he
    rcases List.mem_append.1 he with he | he
    · exact Or.inl (mem_without.1 he).1
    · exact Or.inr (Or.inl (List.mem_singleton.1 he))

theorem madeAnew_of_grown {fault : IoFault} (hlink : fs.linkStatus p = .error fault)
    (h : Grown fs p fs' directory name) : MadeAnew fs p fs' (directory ++ [name]) := by
  have hthere : fs'.linkStatus p = .ok (directory ++ [name], .directory) := by
    rw [h.names.linkStatus, h.node]
  refine ⟨hthere, children_of_isLeaf h.leaf, fun location node hsome => ?_, h.kept.workingDirectory,
    fun e he => Or.inl ?_, fun e he => ?_⟩
  · rw [hlink] at hsome
    cases hsome
  · exact (node?_eq_some_iff fs' (fs.rooted e he).1).1 (h.kept.node (node?_of_mem he))
  · rcases h.news e he with hold | ⟨q, location, last, hq, hmissing, hnames, rfl⟩
    · exact Or.inl hold
    · have hnew : fs'.linkStatus q = .ok (location ++ [last], .directory) := by
        rw [hnames.linkStatus, node?_of_mem he]
      rcases hq with rfl | hq
      · rw [hthere, Except.ok.injEq] at hnew
        exact Or.inr (Or.inl hnew.symm)
      · exact Or.inr (Or.inr ⟨rfl, q, hq, hmissing, hnew⟩)

/-- Clearing a path and making its directory leaves it empty, and everything else as it was. -/
theorem exists_madeAnew (h : Clearable fs p) (hends : p.EndsWith front (.name name)) :
    ∃ cleared fs' location, clear fs p = (.ok (), cleared) ∧
      provideDirectory cleared p = (.ok (), fs') ∧ MadeAnew fs p fs' location := by
  cases hlink : fs.linkStatus p with
  | ok e =>
    obtain ⟨location, node⟩ := e
    have happart : StandsApart fs p := h.apart
    obtain ⟨directory, rfl, hnode, hnames⟩ := happart.names_without hends hlink
    have hwd := (happart _ _ hlink).1
    have hmade := makeDirectoriesWithin_of_names hnames
      (node?_without_of_isPrefix List.prefix_rfl (by simp)) p.bytes.length
    refine ⟨_, _, _, clear_of_linkStatus happart h.fits hnames hlink hnode, ?_,
      madeAnew_of_names hwd hnames hlink⟩
    unfold provideDirectory makeDirectories
    rw [hmade]
  | error fault =>
    obtain ⟨start, hstart, hd⟩ := h.begins
    have hmissing := h.missing hends hstart hd hlink
    have hdepth : front.length ≤ p.bytes.length := by
      have hbody := p.length_body_le
      rw [hends.body, List.length_append, List.length_singleton] at hbody
      omega
    obtain ⟨fs', directory, hmade, hgrown⟩ := makeDirectoriesWithin_of_missing hends hstart hd
      h.short_body h.passable hmissing hdepth
    refine ⟨fs, fs', _, ?_, ?_, madeAnew_of_grown hlink hgrown⟩
    · rw [clear, clearWith, hmissing.linkStatus]
      rfl
    · unfold provideDirectory makeDirectories
      rw [hmade]

end Ways

/-! ### Targets -/

theorem endsWith_directory (root : Path) {basePackage : String} {init : List String}
    {last : String}
    (h : PackageName.segments (PackageName.cleaned basePackage) = init ++ [last]) :
    ∃ front, (below root basePackage).directory.EndsWith front (.name (Text.encode last)) := by
  have hplain := PackageName.isPlain_of_mem_segments basePackage
  have hrelative :
      (PackageName.directory (PackageName.cleaned basePackage)).isAbsolute = false := by
    by_contra ha
    have hroot := Path.root_mem_of_isAbsolute (by simpa using ha)
    rw [PackageName.directory, PackageName.components_ofNames hplain] at hroot
    simp at hroot
  have hdirectory : PackageName.directory (PackageName.cleaned basePackage)
      = (Path.ofNames (init.map Text.encode)).join (.ofText last) := by
    rw [PackageName.directory, h, List.map_append, Path.ofNames, List.foldl_append]
    rfl
  rw [hdirectory] at hrelative
  rw [directory_below, hdirectory]
  exact ⟨_, ((Path.ofNames (init.map Text.encode)).endsWith_join_name
    (hplain _ (by rw [h]; simp))).join root hrelative⟩

/-- A target that can be cleared is made anew. -/
theorem makeReady_clears (fs : FileSystem) (root : Path) (basePackage : String)
    (hsegments : PackageName.segments (PackageName.cleaned basePackage) ≠ [])
    (h : Clearable fs (below root basePackage).directory) :
    ∃ fs' location, makeReady fs root basePackage true
        = (.ok (below root basePackage).directory, fs') ∧
      MadeAnew fs (below root basePackage).directory fs' location := by
  obtain ⟨front, hends⟩ := endsWith_directory root (List.dropLast_append_getLast hsegments).symm
  obtain ⟨cleared, fs', location, hclear, hmade, hanew⟩ := exists_madeAnew h hends
  refine ⟨fs', location, ?_, hanew⟩
  simp [makeReady, hclear, hmade]

/-- A target with files, a directory and a link to another directory inside. -/
def crowded : FileSystem :=
  FileSystem.empty
    |>.add [] "keep" .directory
    |>.add ["keep"] "notes" (.file [0x31] 0o644)
    |>.add [] "out" .directory
    |>.add ["out"] "gen" .directory
    |>.add ["out", "gen"] "stale.json" (.file [0x5B, 0x5D] 0o644)
    |>.add ["out", "gen"] "sub" .directory
    |>.add ["out", "gen", "sub"] "kept" (.link ⟨"../../../keep"⟩)

theorem crowded_linkStatus :
    crowded.linkStatus ⟨"out/gen"⟩ = .ok (["out", "gen"], .directory) := rfl

theorem ancestor_out_gen {q : Path} (hq : Ancestor q ⟨"out/gen"⟩) : q = ⟨"out"⟩ ∨ q = ⟨""⟩ := by
  rw [Path.ancestor_iff (show Path.parent? ⟨"out/gen"⟩ = some ⟨"out"⟩ by decide),
    Path.ancestor_iff (show Path.parent? ⟨"out"⟩ = some ⟨""⟩ by decide)] at hq
  rcases hq with hq | hq | hq
  · exact Or.inl hq
  · exact Or.inr hq
  · exact absurd hq (Path.not_ancestor (by decide))

theorem crowded_clearable : Clearable crowded ⟨"out/gen"⟩ := by
  refine ⟨⟨[], by decide +kernel, Or.inl rfl⟩, fun q hq => ?_, fun name hname => ?_,
    fun location node hfound inner node' hmem => ?_, fun location node hfound => ?_⟩
  · rcases ancestor_out_gen hq with rfl | rfl
    · exact ⟨fun _ _ => ⟨["out"], by decide +kernel⟩, fun hup => absurd hup (by decide)⟩
    · have hnone : crowded.linkStatus ⟨""⟩ = .error .noSuchEntry := by decide +kernel
      exact ⟨fun e he => absurd (hnone.symm.trans he) (by simp), fun hup => absurd hup (by decide)⟩
  · have hcomponents : Path.components ⟨"out/gen"⟩ = [.name "out", .name "gen"] := by decide
    rw [hcomponents] at hname
    simp only [List.mem_cons, Component.name.injEq, List.not_mem_nil, or_false] at hname
    rcases hname with rfl | rfl <;> decide
  · obtain ⟨rfl, rfl⟩ := Prod.mk.inj (Except.ok.inj (crowded_linkStatus.symm.trans hfound))
    have hall : ∀ e ∈ crowded.entries, 7 + sizeBehind (e.1.drop 2) < pathLimit := by
      decide +kernel
    exact hall _ hmem
  · obtain ⟨rfl, rfl⟩ := Prod.mk.inj (Except.ok.inj (crowded_linkStatus.symm.trans hfound))
    refine ⟨by decide +kernel, fun q hq => ?_⟩
    rcases ancestor_out_gen hq with rfl | rfl <;> decide +kernel

theorem crowded_clears :
    PackageName.segments (PackageName.cleaned "gen") ≠ [] ∧
      Clearable crowded (below ⟨"out"⟩ "gen").directory ∧
      ∃ fs' location, makeReady crowded ⟨"out"⟩ "gen" true
          = (.ok (below ⟨"out"⟩ "gen").directory, fs') ∧
        MadeAnew crowded (below ⟨"out"⟩ "gen").directory fs' location := by
  have hsegments : PackageName.segments (PackageName.cleaned "gen") ≠ [] := by decide
  have hdirectory : (below ⟨"out"⟩ "gen").directory = ⟨"out/gen"⟩ := by decide
  have hclearable : Clearable crowded (below ⟨"out"⟩ "gen").directory := by
    rw [hdirectory]
    exact crowded_clearable
  exact ⟨hsegments, hclearable, makeReady_clears _ _ _ hsegments hclearable⟩

/-! ### Targets that cannot be cleared -/

theorem makeReady_of_unusable {root : Path} {basePackage : String}
    (h : Unusable (below root basePackage).directory) (fs : FileSystem) (clearFirst : Bool) :
    ∃ failure, (makeReady fs root basePackage clearFirst).1 = .error failure := by
  rw [makeReady]
  rcases (if clearFirst = true then clear fs (below root basePackage).directory else (.ok (), fs))
    with ⟨failure | ⟨⟩, cleared⟩
  · exact ⟨failure, rfl⟩
  · rcases hmade : cleared.makeDirectories (below root basePackage).directory with
      ⟨fault | ⟨⟩, made⟩
    · exact ⟨.notCreated (below root basePackage).directory fault,
        by simp [provideDirectory, hmade, h.isDirectoryPath]⟩
    · obtain ⟨fault, hfault⟩ : ∃ fault,
          (cleared.makeDirectories (below root basePackage).directory).1 = .error fault :=
        h.makeDirectoriesWithin _
      rw [hmade] at hfault
      cases hfault

def letters (n : Nat) : String := String.ofList (List.replicate n 'a')

theorem length_letters (n : Nat) : (Text.encode (letters n)).length = n := by
  induction n with
  | zero => decide
  | succ n ih =>
    rw [letters, List.replicate_succ', String.ofList_append, Text.encode_append,
      List.length_append, ← letters, ih]
    rfl

theorem isSegment_letters {n : Nat} (h : 0 < n) : PackageName.IsSegment (letters n) := by
  constructor
  · intro hempty
    have hsize := length_letters n
    rw [Text.encode_eq_nil_iff.2 hempty, List.length_nil] at hsize
    omega
  · intro c hc
    rw [letters, String.toList_ofList] at hc
    rw [List.eq_of_mem_replicate hc]
    exact Or.inr (Or.inl (by decide))

theorem unusable_letters (root : Path) {n : Nat} (h : nameLimit < n) :
    Unusable (below root (letters n)).directory := by
  have hsegments : PackageName.segments (PackageName.cleaned (letters n)) = [] ++ [letters n] :=
    PackageName.segments_cleaned (isSegment_letters (Nat.zero_lt_of_lt h))
  obtain ⟨front, hends⟩ := endsWith_directory root hsegments
  refine unusable_of_long hends ?_
  rwa [length_letters]

theorem unusable_nul : Unusable (below ⟨"o\x00"⟩ "gen").directory := by
  have hdirectory : (below ⟨"o\x00"⟩ "gen").directory = ⟨"o\x00/gen"⟩ := by decide
  rw [hdirectory]
  exact unusable_of_start (by decide) fun fs => ⟨.nulInPath, if_pos (by decide)⟩

theorem linkStatus_of_ancestor_missing {q : Path} (hq : Ancestor q ⟨"missing/../out/gen"⟩) :
    crowded.linkStatus q = .error .noSuchEntry := by
  rw [Path.ancestor_iff
      (show Path.parent? ⟨"missing/../out/gen"⟩ = some ⟨"missing/../out"⟩ by decide),
    Path.ancestor_iff (show Path.parent? ⟨"missing/../out"⟩ = some ⟨"missing/.."⟩ by decide),
    Path.ancestor_iff (show Path.parent? ⟨"missing/.."⟩ = some ⟨"missing"⟩ by decide),
    Path.ancestor_iff (show Path.parent? ⟨"missing"⟩ = some ⟨""⟩ by decide)] at hq
  rcases hq with rfl | rfl | rfl | rfl | hq
  · rfl
  · rfl
  · rfl
  · rfl
  · exact absurd hq (Path.not_ancestor (by decide))

/-- A way up behind a directory that is missing hides what is there until the directory has been
made, and nothing is made ready whose name is too long or whose path cannot be begun. -/
theorem not_cleared :
    ((∀ q, Ancestor q (below ⟨"missing/../out"⟩ "gen").directory →
        crowded.linkStatus q = .error .noSuchEntry) ∧
      crowded.linkStatus (below ⟨"missing/../out"⟩ "gen").directory = .error .noSuchEntry ∧
      (makeReady crowded ⟨"missing/../out"⟩ "gen" true).1
        = .ok (below ⟨"missing/../out"⟩ "gen").directory ∧
      (makeReady crowded ⟨"missing/../out"⟩ "gen" true).2.status
        (below ⟨"missing/../out"⟩ "gen").directory = .ok (["out", "gen"], .directory) ∧
      (makeReady crowded ⟨"missing/../out"⟩ "gen" true).2.children ["out", "gen"] ≠ []) ∧
    (PackageName.segments (PackageName.cleaned (letters 256)) ≠ [] ∧
      ∀ fs root, ∃ failure, (makeReady fs root (letters 256) true).1 = .error failure) ∧
    (PackageName.segments (PackageName.cleaned "gen") ≠ [] ∧
      ∀ fs, ∃ failure, (makeReady fs ⟨"o\x00"⟩ "gen" true).1 = .error failure) := by
  have hdirectory : (below ⟨"missing/../out"⟩ "gen").directory = ⟨"missing/../out/gen"⟩ := by decide
  have hlong : PackageName.segments (PackageName.cleaned (letters 256)) ≠ [] := by
    rw [PackageName.segments_cleaned (isSegment_letters (by decide))]
    exact List.cons_ne_nil _ _
  exact ⟨⟨fun q hq => linkStatus_of_ancestor_missing (hdirectory ▸ hq), by decide +kernel,
      by decide +kernel, by decide +kernel, by decide +kernel⟩,
    ⟨hlong, fun fs root => makeReady_of_unusable (unusable_letters root (by decide)) fs true⟩,
    by decide, fun fs => makeReady_of_unusable unusable_nul fs true⟩

end Target

end IdlBuild
