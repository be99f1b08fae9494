import IdlBuild.Proofs.FileSystem.Without
import Mathlib.Data.List.Nodup

/-!
# Orders of listing

A directory is listed in the order in which its entries stand in the file system. Whatever order is
asked for in each directory, the same entries can stand in that order (`exists_reordered`).
-/

namespace IdlBuild.FileSystem

/-! ### Entries in another order -/

/-- The same entries in another order. -/
def reordered (fs : FileSystem) (entries : List (Location × Node)) (h : entries.Perm fs.entries) :
    FileSystem where
  entries := entries
  workingDirectory := fs.workingDirectory
  distinct := (h.map Prod.fst).nodup_iff.2 fs.distinct
  rooted e he := (fs.rooted e (h.mem_iff.1 he)).imp_right fun hd => hd.imp_right h.mem_iff.2
  named e he := fs.named e (h.mem_iff.1 he)
  sound e he := fs.sound e (h.mem_iff.1 he)
  placed := fs.placed.imp_left fun hd => hd.imp_right h.mem_iff.2

/-- The locations that can hold entries, each once. -/
def holders (fs : FileSystem) : List Location := [] :: fs.entries.map Prod.fst

theorem nodup_holders (fs : FileSystem) : fs.holders.Nodup := by
  refine List.nodup_cons.2 ⟨fun hmem => ?_, fs.distinct⟩
  obtain ⟨e, he, hroot⟩ := List.mem_map.1 hmem
  exact (fs.rooted e he).1 hroot

theorem mem_holders {fs : FileSystem} {directory : Location} {name : FileName} {node : Node}
    (h : fs.node? (directory ++ [name]) = some node) : directory ∈ fs.holders := by
  have hmem := (node?_eq_some_iff fs (by simp)).1 h
  have hrooted := (fs.rooted _ hmem).2
  rw [List.dropLast_concat] at hrooted
  rcases hrooted with rfl | hdirectory
  · exact List.mem_cons_self ..
  · exact List.mem_cons_of_mem _ (List.mem_map.2 ⟨_, hdirectory, rfl⟩)

/-- The entries of a directory with their locations. -/
def located (directory : Location) (entries : List (FileName × Node)) : List (Location × Node) :=
  entries.map fun entry => (directory ++ [entry.1], entry.2)

theorem children_located (directory directory' : Location) (entries : List (FileName × Node)) :
    ((located directory' entries).filterMap fun e =>
      (nameIn? directory e.1).map fun name => (name, e.2)) =
        if directory' = directory then entries else [] := by
  simp only [located, List.filterMap_map, Function.comp_def, nameIn?, List.dropLast_concat]
  split_ifs <;> simp

/-! ### Listings -/

section Listings

variable {fs : FileSystem} {listing : Location → List (FileName × Node)}

/-- The entries of a file system, directory by directory in the order of a listing. -/
def listed (fs : FileSystem) (listing : Location → List (FileName × Node)) :
    List (Location × Node) :=
  fs.holders.flatMap fun directory => located directory (listing directory)

theorem mem_listed (h : ∀ directory, (listing directory).Perm (fs.children directory))
    (e : Location × Node) : e ∈ listed fs listing ↔ e ∈ fs.entries := by
  obtain ⟨location, node⟩ := e
  simp only [listed, located, List.mem_flatMap, List.mem_map, (h _).mem_iff, Prod.mk.injEq,
    Prod.exists, mem_children]
  constructor
  · rintro ⟨directory, -, name, node', hnode, rfl, rfl⟩
    exact (node?_eq_some_iff fs (by simp)).1 hnode
  · intro he
    have hne := (fs.rooted _ he).1
    have hnode := (node?_eq_some_iff fs hne).2 he
    obtain ⟨directory, name, rfl⟩ := (List.eq_nil_or_concat' location).resolve_left hne
    exact ⟨directory, mem_holders hnode, name, node, hnode, rfl, rfl⟩

theorem nodup_listed (h : ∀ directory, (listing directory).Perm (fs.children directory)) :
    (listed fs listing).Nodup := by
  refine List.nodup_flatMap.2 ⟨fun directory _ => ?_, ?_⟩
  · have hentries : (listing directory).Nodup :=
      (h directory).nodup_iff.2 (nodup_children fs directory).of_map
    refine hentries.map fun entry entry' heq => ?_
    simpa [Prod.ext_iff] using heq
  -- Two directories have no entry in common: the location of an entry names its directory.
  · refine (nodup_holders fs).imp fun {directory directory'} hne e he he' => ?_
    obtain ⟨entry, -, rfl⟩ := List.mem_map.1 he
    obtain ⟨entry', -, heq⟩ := List.mem_map.1 he'
    have hlocations := congrArg (List.dropLast ∘ Prod.fst) heq
    simp only [Function.comp, List.dropLast_concat] at hlocations
    exact hne hlocations.symm

theorem perm_listed (h : ∀ directory, (listing directory).Perm (fs.children directory)) :
    (listed fs listing).Perm fs.entries :=
  (List.perm_ext_iff_of_nodup (nodup_listed h) fs.distinct.of_map).2 (mem_listed h)

theorem flatMap_single {α β : Type} [DecidableEq α] {as : List α} (h : as.Nodup) (a : α)
    (bs : List β) : (as.flatMap fun a' => if a' = a then bs else []) = if a ∈ as then bs else [] := by
  induction as with
  | nil => rfl
  | cons first rest ih =>
    obtain ⟨hfirst, hrest⟩ := List.nodup_cons.1 h
    rw [List.flatMap_cons, ih hrest]
    by_cases heq : first = a
    · subst heq
      simp [hfirst]
    · simp [heq, Ne.symm heq]

/-- Whatever order the entries of each directory are to be listed in, the same entries can stand so
that they are. -/
theorem exists_reordered (h : ∀ directory, (listing directory).Perm (fs.children directory)) :
    ∃ fs' : FileSystem, fs'.entries.Perm fs.entries ∧
      fs'.workingDirectory = fs.workingDirectory ∧
      ∀ directory, fs'.children directory = listing directory := by
  refine ⟨fs.reordered _ (perm_listed h), perm_listed h, rfl, fun directory => ?_⟩
  have hlisted : ((listed fs listing).filterMap fun e =>
      (nameIn? directory e.1).map fun name => (name, e.2)) = fs.holders.flatMap fun directory' =>
        if directory' = directory then listing directory else [] := by
    rw [listed, List.filterMap_flatMap]
    refine List.flatMap_congr fun directory' _ => ?_
    rw [children_located]
    split_ifs with heq
    · rw [heq]
    · rfl
  rw [children, reordered, hlisted, flatMap_single (nodup_holders fs)]
  split_ifs with hholder
  · rfl
  -- A location that is no holder has no entries, so its listing is empty.
  · refine (List.eq_nil_iff_forall_not_mem.2 fun entry hentry => hholder ?_).symm
    exact mem_holders (mem_children.1 ((h directory).mem_iff.1 hentry))

end Listings

end IdlBuild.FileSystem
