import IdlBuild.Proofs.FileSystem.Naming
import IdlBuild.Proofs.FileSystem.Without
import IdlBuild.Target.Clearing

/-!
# Removing trees

Removing a directory with all that is inside takes away the subtree at its location and nothing
else, whatever is there (`removeTree_eq`): the entries of a directory are removed one after another,
so that it is empty when its own turn comes, and a link is an entry like a file.
-/

namespace IdlBuild

open FileSystem

namespace FileSystem

theorem keptIn_of_without {fs : FileSystem} {location : Location}
    (h : ¬ location <+: fs.workingDirectory) : KeptIn (fs.without location) fs where
  node hnode := (node?_of_without (ne_nil_of_apart h) hnode).1
  workingDirectory := (workingDirectory_without h).symm

end FileSystem

namespace Target

/-! ### Emptying a directory -/

/-- What holds while the entries of a directory are removed one after another: nothing outside it
has changed, and nothing has come into it. -/
structure Emptying (fs : FileSystem) (location : Location) (cur : FileSystem) : Prop where
  kept : KeptIn (fs.without location) cur
  directory : cur.node? location = some .directory
  known : ∀ e ∈ cur.entries, e ∈ fs.entries

/-- The file system without some entries of a directory. -/
def withoutAll (fs : FileSystem) (location : Location) (names : List FileName) : FileSystem :=
  names.foldl (fun fs name => fs.without (location ++ [name])) fs

section Emptying

variable {fs cur : FileSystem} {location : Location}

theorem not_prefix_of_append (location : Location) (name : FileName) :
    ¬ location ++ [name] <+: location := by
  intro h
  have hlength := h.length_le
  rw [List.length_append, List.length_singleton] at hlength
  omega

theorem Emptying.workingDirectory (h : Emptying fs location cur)
    (hwd : ¬ location <+: fs.workingDirectory) : cur.workingDirectory = fs.workingDirectory :=
  h.kept.workingDirectory.trans (workingDirectory_without hwd)

theorem Emptying.refl (hwd : ¬ location <+: fs.workingDirectory)
    (hnode : fs.node? location = some .directory) : Emptying fs location fs :=
  ⟨keptIn_of_without hwd, hnode, fun _ he => he⟩

theorem Emptying.without (h : Emptying fs location cur) (hwd : ¬ location <+: fs.workingDirectory)
    (name : FileName) : Emptying fs location (cur.without (location ++ [name])) where
  kept := by
    refine ⟨fun {other node} hnode => ?_, ?_⟩
    · have hout := (node?_of_without (ne_nil_of_apart hwd) hnode).2
      rw [node?_without fun hin => hout ((List.prefix_append _ _).trans hin)]
      exact h.kept.node hnode
    · rw [workingDirectory_without, h.kept.workingDirectory]
      rw [h.workingDirectory hwd]
      exact fun hin => hwd ((List.prefix_append _ _).trans hin)
  directory := by
    rw [node?_without (not_prefix_of_append location name)]
    exact h.directory
  known e he := h.known e (mem_without.1 he).1

theorem Emptying.withoutAll (h : Emptying fs location cur)
    (hwd : ¬ location <+: fs.workingDirectory) (names : List FileName) :
    Emptying fs location (withoutAll cur location names) := by
  induction names generalizing cur with
  | nil => exact h
  | cons name names ih => exact ih (h.without hwd name)

theorem mem_withoutAll {names : List FileName} {e : Location × Node} :
    e ∈ (withoutAll fs location names).entries ↔
      e ∈ fs.entries ∧ ∀ name ∈ names, ¬ location ++ [name] <+: e.1 := by
  induction names generalizing fs with
  | nil => simp [withoutAll]
  | cons name names ih =>
    have hstep : e ∈ (withoutAll (fs.without (location ++ [name])) location names).entries ↔
        e ∈ (fs.without (location ++ [name])).entries ∧
          ∀ name ∈ names, ¬ location ++ [name] <+: e.1 := ih
    unfold withoutAll at hstep ⊢
    rw [List.foldl_cons, hstep, mem_without, List.forall_mem_cons, and_assoc]

theorem withoutAll_without (hwd : ¬ location <+: fs.workingDirectory) (names : List FileName) :
    (withoutAll fs location names).without location = fs.without location := by
  induction names generalizing fs with
  | nil => rfl
  | cons name names ih =>
    have hout : ¬ location ++ [name] <+: fs.workingDirectory :=
      fun hin => hwd ((List.prefix_append _ _).trans hin)
    have hstep : (withoutAll (fs.without (location ++ [name])) location names).without location
        = (fs.without (location ++ [name])).without location :=
      ih (by rwa [workingDirectory_without hout])
    unfold withoutAll at hstep ⊢
    rw [List.foldl_cons, hstep, without_without (List.prefix_append _ _) hwd]

end Emptying

/-! ### Removing a directory -/

/-- The bytes that names take behind a path, each with a slash before it. -/
def sizeBehind : List FileName → Nat
  | [] => 0
  | name :: names => name.length + 1 + sizeBehind names

/-- Whether a path names a directory that can be removed with all that is inside: the way there does
not lead through it, it is not where the working directory is, and no path below it is too long. -/
structure Removable (depth : Nat) (fs : FileSystem) (p : Path) (directory : Location)
    (name : FileName) : Prop where
  names : Names (fs.without (directory ++ [name])) p directory name
  node : fs.node? (directory ++ [name]) = some .directory
  apart : ¬ directory ++ [name] <+: fs.workingDirectory
  shallow : ∀ inner node, (directory ++ [name] ++ inner, node) ∈ fs.entries → inner.length < depth
  fits : ∀ inner node, (directory ++ [name] ++ inner, node) ∈ fs.entries →
    p.bytes.length + sizeBehind inner < pathLimit

namespace Removable

variable {depth : Nat} {fs cur : FileSystem} {p : Path} {directory : Location} {name : FileName}

theorem fits_child (h : Removable depth fs p directory name)
    (hcur : Emptying fs (directory ++ [name]) cur) {child : FileName} {node : Node}
    (hnode : cur.node? (directory ++ [name] ++ [child]) = some node) :
    IsName child ∧ p.bytes.length + (child.length + 1) < pathLimit := by
  have hmem := hcur.known _ ((node?_eq_some_iff cur (by simp)).1 hnode)
  have hfits := h.fits [child] node hmem
  simp only [sizeBehind, Nat.add_zero] at hfits
  exact ⟨(isName_of_node hnode).1, hfits⟩

/-- An entry is named by the path of its directory and its own name, also when it is gone. -/
theorem names_child (h : Removable depth fs p directory name)
    (hcur : Emptying fs (directory ++ [name]) cur) {child : FileName} {node : Node}
    (hnode : cur.node? (directory ++ [name] ++ [child]) = some node) :
    Names (cur.without (directory ++ [name] ++ [child])) (p.join ⟨child⟩) (directory ++ [name])
      child := by
  obtain ⟨hchild, hsize⟩ := h.fits_child hcur hnode
  have hafter := hcur.without h.apart child
  exact (h.names.mono hafter.kept).inside hafter.directory hchild hsize

theorem child (h : Removable (depth + 1) fs p directory name)
    (hcur : Emptying fs (directory ++ [name]) cur) {child : FileName}
    (hnode : cur.node? (directory ++ [name] ++ [child]) = some .directory) :
    Removable depth cur (p.join ⟨child⟩) (directory ++ [name]) child where
  names := h.names_child hcur hnode
  node := hnode
  apart := by
    rw [hcur.workingDirectory h.apart]
    exact fun hin => h.apart ((List.prefix_append _ _).trans hin)
  shallow inner node hmem := by
    rw [List.append_assoc _ [child]] at hmem
    have hshallow := h.shallow ([child] ++ inner) node (hcur.known _ hmem)
    simp only [List.singleton_append, List.length_cons] at hshallow
    omega
  fits inner node hmem := by
    obtain ⟨hchild, hsize⟩ := h.fits_child hcur hnode
    rw [List.append_assoc _ [child]] at hmem
    have hfits := h.fits ([child] ++ inner) node (hcur.known _ hmem)
    rw [h.names.length_join (isPlain_of_isName hchild)]
    simp only [sizeBehind, List.singleton_append] at hfits ⊢
    omega

end Removable

def removeEntry (remover : Remover) (depth : Nat) (p : Path) (fs : FileSystem)
    (entry : FileName × Node) : Except Failure Unit × FileSystem :=
  if entry.2 = .directory then removeTree remover depth fs (p.join ⟨entry.1⟩)
  else removed fs (p.join ⟨entry.1⟩) (remover.file fs (p.join ⟨entry.1⟩))

theorem removeTree_succ (remover : Remover) (depth : Nat) (fs : FileSystem) (p : Path) :
    removeTree remover (depth + 1) fs p =
      match fs.readDirectory p with
      | .error fault => removed fs p (.error (WalkFault.request p fault).toIoFault)
      | .ok entries =>
        match inTurn (removeEntry remover depth p) fs (sortedByName entries) with
        | (.ok (), fs) => removed fs p (remover.directory fs p)
        | (.error failure, fs) => (.error failure, fs) := rfl

/-- An entry is removed with all that is inside it. -/
theorem removeEntry_eq {depth : Nat} {fs cur : FileSystem} {p : Path} {directory : Location}
    {name child : FileName} {node : Node} (h : Removable (depth + 1) fs p directory name)
    (hdeeper : ∀ fs p directory name, Removable depth fs p directory name →
      removeTree .plain depth fs p = (.ok (), fs.without (directory ++ [name])))
    (hcur : Emptying fs (directory ++ [name]) cur)
    (hnode : cur.node? (directory ++ [name] ++ [child]) = some node) :
    removeEntry .plain depth p cur (child, node)
      = (.ok (), cur.without (directory ++ [name] ++ [child])) := by
  have hout : ¬ directory ++ [name] ++ [child] <+: cur.workingDirectory := by
    rw [hcur.workingDirectory h.apart]
    exact fun hin => h.apart ((List.prefix_append _ _).trans hin)
  unfold removeEntry
  by_cases hdirectory : node = .directory
  · rw [if_pos hdirectory]
    exact hdeeper _ _ _ _ (h.child hcur (hdirectory ▸ hnode))
  · have hnames := (h.names_child hcur hnode).mono (keptIn_of_without hout)
    have hleaf := isLeaf_of_node (by simp) hnode hdirectory
    rw [if_neg hdirectory]
    simp only [Remover.plain]
    rw [hnames.removeFile hnode hdirectory, erase_eq_without (by simp) hleaf hout]
    rfl

/-- The entries of a directory are removed one after another. -/
theorem inTurn_removeEntry {depth : Nat} {fs : FileSystem} {p : Path} {directory : Location}
    {name : FileName} (h : Removable (depth + 1) fs p directory name)
    (hdeeper : ∀ fs p directory name, Removable depth fs p directory name →
      removeTree .plain depth fs p = (.ok (), fs.without (directory ++ [name])))
    (todo : List (FileName × Node)) (hdistinct : (todo.map Prod.fst).Nodup) {cur : FileSystem}
    (hcur : Emptying fs (directory ++ [name]) cur)
    (htodo : ∀ entry ∈ todo, cur.node? (directory ++ [name] ++ [entry.1]) = some entry.2) :
    inTurn (removeEntry .plain depth p) cur todo =
      (.ok (), withoutAll cur (directory ++ [name]) (todo.map Prod.fst)) := by
  -- on the entries still to be removed, which are all there still
  induction todo generalizing cur with
  | nil => rfl
  | cons entry rest ih =>
    obtain ⟨child, node⟩ := entry
    rw [List.map_cons, List.nodup_cons] at hdistinct
    have hstep := removeEntry_eq h hdeeper hcur (htodo (child, node) (List.mem_cons_self ..))
    have hrest : ∀ entry ∈ rest, (cur.without (directory ++ [name] ++ [child])).node?
        (directory ++ [name] ++ [entry.1]) = some entry.2 := by
      intro other hother
      rw [node?_without, htodo other (List.mem_cons_of_mem _ hother)]
      intro hin
      have hsame : child = other.1 := by simpa using hin.eq_of_length (by simp)
      exact hdistinct.1 (hsame ▸ List.mem_map.2 ⟨other, hother, rfl⟩)
    simp only [inTurn_cons, hstep]
    exact ih hdistinct.2 (hcur.without h.apart child) hrest

theorem children_withoutAll (fs : FileSystem) (location : Location) {names : List FileName}
    (h : ∀ entry ∈ fs.children location, entry.1 ∈ names) :
    (withoutAll fs location names).children location = [] := by
  rw [List.eq_nil_iff_forall_not_mem]
  rintro ⟨child, node⟩ hchild
  have hmem := (node?_eq_some_iff (withoutAll fs location names) (by simp)).1
    (mem_children.1 hchild)
  rw [mem_withoutAll] at hmem
  have hthere : (child, node) ∈ fs.children location :=
    mem_children.2 ((node?_eq_some_iff fs (by simp)).2 hmem.1)
  exact hmem.2 child (h _ hthere) List.prefix_rfl

/-- Removing a directory with all that is inside takes away the subtree and nothing else. -/
theorem removeTree_eq (depth : Nat) (fs : FileSystem) (p : Path) (directory : Location)
    (name : FileName) (h : Removable depth fs p directory name) :
    removeTree .plain depth fs p = (.ok (), fs.without (directory ++ [name])) := by
  induction depth generalizing fs p directory name with
  | zero =>
    have hmem : (directory ++ [name] ++ [], Node.directory) ∈ fs.entries := by
      rw [List.append_nil]
      exact (node?_eq_some_iff fs (by simp)).1 h.node
    exact absurd (h.shallow [] .directory hmem) (by simp)
  | succ depth ih =>
    have hnames := h.names.mono (keptIn_of_without h.apart)
    have hsorted := sortedByName_perm (fs.children (directory ++ [name]))
    have hinside := inTurn_removeEntry h ih (sortedByName (fs.children (directory ++ [name])))
      ((hsorted.map Prod.fst).nodup_iff.2 (nodup_children fs _)) (.refl h.apart h.node)
      fun entry hentry => mem_children.1 (hsorted.mem_iff.1 hentry)
    have hempty := children_withoutAll fs (directory ++ [name])
      fun entry hentry => List.mem_map.2 ⟨entry, hsorted.mem_iff.2 hentry, rfl⟩
    have hemptied := (Emptying.refl h.apart h.node).withoutAll h.apart
      ((sortedByName (fs.children (directory ++ [name]))).map Prod.fst)
    have hwhole := withoutAll_without h.apart
      ((sortedByName (fs.children (directory ++ [name]))).map Prod.fst)
    generalize withoutAll fs (directory ++ [name])
      ((sortedByName (fs.children (directory ++ [name]))).map Prod.fst) = emptied
      at hinside hempty hemptied hwhole
    have hout : ¬ directory ++ [name] <+: emptied.workingDirectory := by
      rw [hemptied.workingDirectory h.apart]
      exact h.apart
    have hremoved : emptied.removeDirectory p = .ok (fs.without (directory ++ [name])) := by
      rw [(h.names.mono hemptied.kept).removeDirectory hemptied.directory hempty,
        erase_eq_without (by simp) (isLeaf_of_children hempty) hout, hwhole]
    simp only [removeTree_succ, hnames.readDirectory h.node, hinside]
    simp only [Remover.plain, hremoved]
    rfl

end Target

end IdlBuild
