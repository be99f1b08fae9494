import IdlBuild.Proofs.FileSystem.Alike
import IdlBuild.Proofs.Targets.Clearing

/-!
# Old output leaves no trace

A directory that is cleared first is made ready alike in two file systems that differ only at and
below it (`makeReady_alike`). The way to the directory passes nothing that is in it, so it leads to
one place in both (`Names.agree`), and what is left when it is gone is alike (`clear_alike`).
-/

namespace IdlBuild

open FileSystem
open IdlBuild.Path (Ancestor)

namespace FileSystem

/-- Whether two file systems are alike but for what is at and below a path: the same stands at every
location that is neither where the path ends in one of them nor below. -/
structure AlikeBeside (p : Path) (fs fs' : FileSystem) : Prop where
  node : ∀ location, (∀ found node, fs.linkStatus p = .ok (found, node) ∨
      fs'.linkStatus p = .ok (found, node) → ¬ found <+: location) →
    fs.node? location = fs'.node? location
  workingDirectory : fs.workingDirectory = fs'.workingDirectory

/-! ### One place -/

/-- The last name of a path is looked up in one directory where what stands in two file systems is
the same in both. -/
theorem Names.agree {fs fs' : FileSystem} {p : Path} {directory directory' : Location}
    {name : FileName}
    (hsame : ∀ {location : Location} {node node' : Node}, fs.node? location = some node →
      fs'.node? location = some node' → node = node')
    (hwd : fs.workingDirectory = fs'.workingDirectory)
    (h : Names fs p directory name) (h' : Names fs' p directory' name) : directory = directory' := by
  obtain ⟨front, start, links, hends, hstart, hleads⟩ := h.found
  obtain ⟨front', start', links', hends', hstart', hleads'⟩ := h'.found
  have hfront : front = front' :=
    (List.append_inj' (hends.body.symm.trans hends'.body) rfl).1
  have hbegin : start = start' := by
    obtain ⟨-, -, -, hstart⟩ := start_eq_ok_iff.1 hstart
    obtain ⟨-, -, -, hstart'⟩ := start_eq_ok_iff.1 hstart'
    rw [hstart, hstart', hwd]
  subst hfront hbegin
  exact hleads.agree hsame hleads'

/-! ### What is left -/

namespace AlikeBeside

variable {fs fs' : FileSystem} {p : Path} {location location' other : Location} {name : FileName}
  {node node' : Node} {front : List Component} {fault fault' : IoFault}

theorem symm (h : AlikeBeside p fs fs') : AlikeBeside p fs' fs where
  node location hout := (h.node location fun found node hor => hout found node hor.symm).symm
  workingDirectory := h.workingDirectory.symm

/-- Where nothing is at the path in either file system, the two are alike. -/
theorem alike (h : AlikeBeside p fs fs') (hlink : fs.linkStatus p = .error fault)
    (hlink' : fs'.linkStatus p = .error fault') : Alike fs fs' where
  node location := by
    refine h.node location fun found node hor => ?_
    rw [hlink, hlink'] at hor
    rcases hor with hor | hor <;> cases hor
  workingDirectory := h.workingDirectory

/-- What is outside of all that is at the path stands in both. -/
theorem node_of_out (h : AlikeBeside p fs fs') (hlink : fs.linkStatus p = .ok (location, node))
    (hout : ¬ location <+: other)
    (hout' : ∀ e, fs'.linkStatus p = .ok e → ¬ e.1 <+: other) :
    fs.node? other = fs'.node? other := by
  refine h.node other fun found kind hor => ?_
  rcases hor with hfound | hfound
  · rw [hlink] at hfound
    cases hfound
    exact hout
  · exact hout' _ hfound

theorem node_of_both (h : AlikeBeside p fs fs') (hlink : fs.linkStatus p = .ok (location, node))
    (hlink' : fs'.linkStatus p = .ok (location', node')) (hout : ¬ location <+: other)
    (hout' : ¬ location' <+: other) : fs.node? other = fs'.node? other := by
  refine h.node_of_out hlink hout fun e he => ?_
  rw [hlink'] at he
  cases he
  exact hout'

/-- Where something is at one place in both, the two are alike without it. -/
theorem without (h : AlikeBeside p fs fs') (hlink : fs.linkStatus p = .ok (location, node))
    (hlink' : fs'.linkStatus p = .ok (location, node'))
    (hwd : ¬ location <+: fs.workingDirectory) :
    Alike (fs.without location) (fs'.without location) where
  node other := by
    have hroot := ne_nil_of_apart hwd
    by_cases hin : location <+: other
    · rw [node?_without_of_isPrefix hin hroot, node?_without_of_isPrefix hin hroot]
    · rw [node?_without hin, node?_without hin]
      exact h.node_of_both hlink hlink' hin hin
  workingDirectory := by
    rw [workingDirectory_without hwd, workingDirectory_without (h.workingDirectory ▸ hwd),
      h.workingDirectory]

/-- Where something is at the path in one file system only, the other is what is left without it. -/
theorem alike_without (h : AlikeBeside p fs fs') (happart : Target.StandsApart fs p)
    (hends : p.EndsWith front (.name name)) (hlink : fs.linkStatus p = .ok (location, node))
    (hlink' : fs'.linkStatus p = .error fault) :
    Alike (fs.without location) fs' ∧ fs'.linkStatus p = .error .noSuchEntry := by
  obtain ⟨directory, rfl, -, hnames⟩ := happart.names_without hends hlink
  have hwd := (happart _ _ hlink).1
  have hroot := ne_nil_of_apart hwd
  have hout : ∀ other, ¬ directory ++ [name] <+: other → fs.node? other = fs'.node? other := by
    refine fun other hother => h.node_of_out hlink hother fun e he => ?_
    rw [hlink'] at he
    cases he
  have hdirectories : (fs.without (directory ++ [name])).workingDirectory = fs'.workingDirectory :=
    (workingDirectory_without hwd).trans h.workingDirectory
  have hkept : KeptIn (fs.without (directory ++ [name])) fs' := by
    refine ⟨fun {other found} hfound => ?_, hdirectories.symm⟩
    obtain ⟨hthere, hother⟩ := node?_of_without hroot hfound
    exact (hout other hother).symm.trans hthere
  -- the way to the name is the same in the other file system, so nothing can stand there
  have hnames' := hnames.mono hkept
  have hnone : fs'.node? (directory ++ [name]) = none := by
    rw [hnames'.linkStatus] at hlink'
    cases hnode : fs'.node? (directory ++ [name]) with
    | none => rfl
    | some node' =>
      rw [hnode] at hlink'
      cases hlink'
  refine ⟨⟨fun other => ?_, hdirectories⟩, by rw [hnames'.linkStatus, hnone]⟩
  by_cases hin : directory ++ [name] <+: other
  · rw [node?_without_of_isPrefix hin hroot, eq_comm, node?_eq_none_iff]
    refine ⟨fun hnil => hroot (List.prefix_nil.1 (hnil ▸ hin)), fun hmem => ?_⟩
    obtain ⟨e, he, rfl⟩ := List.mem_map.1 hmem
    exact not_prefix_of_node hnone he hin
  · rw [node?_without hin, hout other hin]

end AlikeBeside

theorem alikeBeside_without {fs : FileSystem} {p : Path} {location : Location} {node : Node}
    (hlink : fs.linkStatus p = .ok (location, node)) (hwd : ¬ location <+: fs.workingDirectory) :
    AlikeBeside p fs (fs.without location) where
  node _ hout := (node?_without (hout location node (Or.inl hlink))).symm
  workingDirectory := (workingDirectory_without hwd).symm

end FileSystem

namespace Target

variable {fs fs' : FileSystem} {p : Path} {front : List Component} {name : FileName}

/-! ### Clearing -/

theorem clear_of_error {fault : IoFault} (hlink : fs.linkStatus p = .error fault) :
    clear fs p = (if fault.isMissing then .ok () else .error (.notRemoved p fault), fs) := by
  unfold clear clearWith
  simp only [hlink]
  split_ifs
  · rfl
  · rfl

/-- Clearing a path leaves two file systems alike that differ only there. -/
theorem clear_alike (h : AlikeBeside p fs fs') (hends : p.EndsWith front (.name name))
    (happart : StandsApart fs p) (hfits : FitsBelow fs p) (happart' : StandsApart fs' p)
    (hfits' : FitsBelow fs' p) : LeaveAlike (clear fs p) (clear fs' p) := by
  -- what is cleared in one file system and is not there in the other
  have hone : ∀ {fs fs' : FileSystem} {e : Location × Node} {fault : IoFault},
      AlikeBeside p fs fs' → StandsApart fs p → FitsBelow fs p → fs.linkStatus p = .ok e →
      fs'.linkStatus p = .error fault →
      ∃ cleared, clear fs p = (.ok (), cleared) ∧ clear fs' p = (.ok (), fs') ∧
        Alike cleared fs' := by
    intro fs fs' e fault h happart hfits hlink hlink'
    obtain ⟨location, node⟩ := e
    obtain ⟨halike, hmissing⟩ := h.alike_without happart hends hlink hlink'
    obtain ⟨directory, rfl, hnode, hnames⟩ := happart.names_without hends hlink
    exact ⟨_, clear_of_linkStatus happart hfits hnames hlink hnode, clear_of_error hmissing, halike⟩
  rcases hlink : fs.linkStatus p with fault | ⟨location, node⟩ <;>
    rcases hlink' : fs'.linkStatus p with fault' | ⟨location', node'⟩
  · have halike := h.alike hlink hlink'
    have hfault : fault = fault' := by
      rw [halike.linkStatus, hlink'] at hlink
      exact (Except.error.inj hlink).symm
    rw [clear_of_error hlink, clear_of_error hlink', hfault]
    exact .same _ halike
  · obtain ⟨cleared, hclear', hclear, halike⟩ := hone h.symm happart' hfits' hlink' hlink
    rw [hclear, hclear']
    exact .same _ halike.symm
  · obtain ⟨cleared, hclear, hclear', halike⟩ := hone h happart hfits hlink hlink'
    rw [hclear, hclear']
    exact .same _ halike
  · obtain ⟨directory, rfl, hnode, hnames⟩ := happart.names_without hends hlink
    obtain ⟨directory', rfl, hnode', hnames'⟩ := happart'.names_without hends hlink'
    have hwd := (happart _ _ hlink).1
    have hwd' := (happart' _ _ hlink').1
    have hdirectory : directory = directory' := by
      refine hnames.agree (fun {other found found'} hfound hfound' => ?_) ?_ hnames'
      · obtain ⟨hthere, hout⟩ := node?_of_without (ne_nil_of_apart hwd) hfound
        obtain ⟨hthere', hout'⟩ := node?_of_without (ne_nil_of_apart hwd') hfound'
        have hsame := h.node_of_both hlink hlink' hout hout'
        exact Option.some.inj (hthere.symm.trans (hsame.trans hthere'))
      · rw [workingDirectory_without hwd, workingDirectory_without hwd', h.workingDirectory]
    subst hdirectory
    rw [clear_of_linkStatus happart hfits hnames hlink hnode,
      clear_of_linkStatus happart' hfits' hnames' hlink' hnode']
    exact .same _ (h.without hlink hlink' hwd)

/-! ### Making ready -/

theorem provideDirectory_alike (h : Alike fs fs') (p : Path) :
    LeaveAlike (provideDirectory fs p) (provideDirectory fs' p) := by
  have hmade := h.makeDirectories p
  unfold provideDirectory
  generalize fs.makeDirectories p = made, fs'.makeDirectories p = made' at hmade
  cases hmade with
  | same result hgrown =>
    rcases result with fault | ⟨⟩
    · dsimp only
      rw [hgrown.isDirectoryPath]
      exact .same _ hgrown
    · exact .same _ hgrown

/-- A directory that is cleared first is made ready whatever was in it. -/
theorem makeReady_alike (root : Path) {basePackage : String}
    (hsegments : PackageName.segments (PackageName.cleaned basePackage) ≠ [])
    (h : AlikeBeside (below root basePackage).directory fs fs')
    (happart : StandsApart fs (below root basePackage).directory)
    (hfits : FitsBelow fs (below root basePackage).directory)
    (happart' : StandsApart fs' (below root basePackage).directory)
    (hfits' : FitsBelow fs' (below root basePackage).directory) :
    LeaveAlike (makeReady fs root basePackage true) (makeReady fs' root basePackage true) := by
  obtain ⟨front, hends⟩ := endsWith_directory root (List.dropLast_append_getLast hsegments).symm
  have hcleared := clear_alike h hends happart hfits happart' hfits'
  unfold makeReady
  simp only [if_true]
  generalize clear fs (below root basePackage).directory = cleared,
    clear fs' (below root basePackage).directory = cleared' at hcleared
  cases hcleared with
  | @same result bare bare' hbare =>
    rcases result with failure | ⟨⟩
    · exact .same _ hbare
    · have hmade := provideDirectory_alike hbare (below root basePackage).directory
      dsimp only
      generalize provideDirectory bare (below root basePackage).directory = made,
        provideDirectory bare' (below root basePackage).directory = made' at hmade
      cases hmade with
      | same result hgrown =>
        rcases result with failure | ⟨⟩
        · exact .same _ hgrown
        · exact .same _ hgrown

/-! ### Paths that are too long -/

theorem unusable_of_size (hsize : pathLimit ≤ p.bytes.length) : Unusable p := by
  have hne : p.bytes ≠ [] := by
    intro hempty
    rw [hempty] at hsize
    exact absurd hsize (by decide)
  refine unusable_of_start hne fun fs => ?_
  cases hstart : fs.start p with
  | error fault => exact ⟨fault, rfl⟩
  | ok start =>
    obtain ⟨-, -, hshort, -⟩ := start_eq_ok_iff.1 hstart
    exact absurd hshort (Nat.not_lt.2 hsize)

theorem removeTree_of_size (remover : Remover) (depth : Nat) (fs : FileSystem)
    (hsize : pathLimit ≤ p.bytes.length) : (removeTree remover depth fs p).1 ≠ .ok () := by
  cases depth with
  | zero => simp [removeTree, removed]
  | succ depth =>
    cases hread : fs.readDirectory p with
    | error fault => simp [removeTree, hread, removed]
    | ok entries =>
      obtain ⟨location, hstatus, -⟩ := readDirectory_eq_ok hread
      have hthere : fs.isDirectoryPath p = true := by
        unfold isDirectoryPath
        rw [hstatus]
      rw [(unusable_of_size hsize).isDirectoryPath] at hthere
      cases hthere

/-- An entry whose path is too long is not removed, so its directory is not either. -/
theorem clear_of_size {directory : Location} {child : FileName} {node : Node}
    (hnames : Names fs p directory name) (hnode : fs.node? (directory ++ [name]) = some .directory)
    (hchild : fs.node? (directory ++ [name] ++ [child]) = some node)
    (hsize : pathLimit ≤ (p.join ⟨child⟩).bytes.length) : (clear fs p).1 ≠ .ok () := by
  have hentry : ∀ cur, (removeEntry .plain fs.entries.length p cur (child, node)).1 ≠ .ok () := by
    intro cur
    unfold removeEntry
    by_cases hdirectory : node = .directory
    · rw [if_pos hdirectory]
      exact removeTree_of_size .plain _ cur hsize
    · obtain ⟨fault, hlast⟩ := (unusable_of_size hsize).locateLast cur
      rw [if_neg hdirectory]
      simp [Remover.plain, removeFile, hlast, bind, Except.bind, removed]
  have hmem : (child, node) ∈ sortedByName (fs.children (directory ++ [name])) :=
    (sortedByName_perm _).mem_iff.2 (mem_children.2 hchild)
  have hinside := inTurn_ne_ok hentry hmem fs
  have hlink : fs.linkStatus p = .ok (directory ++ [name], .directory) := by
    rw [hnames.linkStatus, hnode]
  unfold clear clearWith
  simp only [hlink, removeTree_succ, hnames.readDirectory hnode]
  rcases hdone : inTurn _ fs (sortedByName (fs.children (directory ++ [name]))) with
    ⟨failure | ⟨⟩, cur⟩
  · simp
  · rw [hdone] at hinside
    exact absurd rfl hinside

end Target

end IdlBuild
