import IdlBuild.Path.Basic

/-!
# File systems

A file system is a finite tree of directories, files and symbolic links together with a working
directory. An entry is named by its location, the names from the root down to it. The entries stand
in one list, in no particular order; the type carries that no location occurs twice, that every
entry lies in a directory, that entries have proper names and that links have proper targets, so a
file system can be changed only in ways that keep it a tree: an entry is added to a directory that
has none of that name (`add`), a file gets another content (`overwrite`), an entry with nothing
inside is taken away (`erase`).

Pipes, sockets and devices are left out, and so are permissions: an entry that is no directory and
no link is a file that can be read and written. So nothing is said of a pipe whose name ends in
`.idl`, which would be selected as an input and yet be no part of a bundle.
-/

namespace IdlBuild

open Text (Bytes)

/-- The names from the root down to an entry; the root itself is the empty list. -/
abbrev Location := List FileName

/-- Where texts are asked for, the names of a location are shown. -/
instance : Coe Location (List String) := ⟨List.map Text.decodeLossy⟩

/-- The byte that a path cannot hold. -/
abbrev nul : UInt8 := 0

/-- The number of bytes that a name may have. -/
def FileSystem.nameLimit : Nat := 255

/-- Whether an entry can have a name. A dot and two dots have a meaning of their own. -/
def IsName (name : FileName) : Prop :=
  name ≠ [] ∧ name ≠ [dot] ∧ name ≠ [dot, dot] ∧ slash ∉ name ∧ nul ∉ name ∧
    name.length ≤ FileSystem.nameLimit

instance (name : FileName) : Decidable (IsName name) := inferInstanceAs (Decidable (_ ∧ _))

/-- What stands at a location. -/
inductive Node where
  | directory
  | file (content : Bytes) (mode : Nat)
  | link (target : Path)
deriving DecidableEq, Repr

/-- Whether an entry can be such a node: the target of a link is what a path can be. -/
def Node.IsSound : Node → Prop
  | .link target => target.bytes ≠ [] ∧ nul ∉ target.bytes
  | .directory | .file _ _ => True

instance (node : Node) : Decidable node.IsSound :=
  match node with
  | .link _ => inferInstanceAs (Decidable (_ ∧ _))
  | .directory | .file _ _ => inferInstanceAs (Decidable True)

/-- Whether a location is a directory among some entries. The root always is. -/
def DirectoryIn (entries : List (Location × Node)) (location : Location) : Prop :=
  location = [] ∨ (location, Node.directory) ∈ entries

instance (entries : List (Location × Node)) (location : Location) :
    Decidable (DirectoryIn entries location) :=
  inferInstanceAs (Decidable (_ ∨ _))

/-- Whether a location stands for a removed directory: it ends in an empty name, which no entry
has. A working directory that is removed is left at such a location beside where it was. -/
def IsLost (location : Location) : Prop := location.getLast? = some []

instance (location : Location) : Decidable (IsLost location) :=
  inferInstanceAs (Decidable (_ = _))

/-- The front of a location that is still there. -/
def standing (location : Location) : Location := location.takeWhile (· ≠ [])

/-- What is left of a location behind that front, an empty name for each removed directory. -/
def fallen (location : Location) : Location := location.dropWhile (· ≠ [])

/-- Whether a location is a directory among some entries, or one that was removed from inside such a
directory, maybe with directories around it. -/
def PlacedIn (entries : List (Location × Node)) (location : Location) : Prop :=
  DirectoryIn entries (standing location) ∧ ∀ name ∈ fallen location, name = []

instance (entries : List (Location × Node)) (location : Location) :
    Decidable (PlacedIn entries location) :=
  inferInstanceAs (Decidable (_ ∧ _))

theorem standing_append_fallen (location : Location) :
    standing location ++ fallen location = location := List.takeWhile_append_dropWhile

theorem standing_of_proper {location : Location} (h : ∀ name ∈ location, name ≠ [])
    (rest : Location) : standing (location ++ [] :: rest) = location := by
  rw [standing, List.takeWhile_append_of_pos (by simpa using h)]
  simp

theorem fallen_of_proper {location : Location} (h : ∀ name ∈ location, name ≠ [])
    (rest : Location) : fallen (location ++ [] :: rest) = [] :: rest := by
  rw [fallen, List.dropWhile_append_of_pos (by simpa using h)]
  simp

/-- A tree of entries with a working directory. -/
structure FileSystem where
  entries : List (Location × Node)
  workingDirectory : Location
  distinct : (entries.map Prod.fst).Nodup
  rooted : ∀ e ∈ entries, e.1 ≠ [] ∧ DirectoryIn entries e.1.dropLast
  named : ∀ e ∈ entries, ∀ name ∈ e.1, IsName name
  sound : ∀ e ∈ entries, e.2.IsSound
  placed : PlacedIn entries workingDirectory

namespace FileSystem

/-- Nothing but the root, which is the working directory. -/
def empty : FileSystem where
  entries := []
  workingDirectory := []
  distinct := by simp
  rooted := by simp
  named := by simp
  sound := by simp
  placed := ⟨Or.inl rfl, by simp [fallen]⟩

/-! ### Looking -/

/-- What stands at a location. -/
def node? (fs : FileSystem) (location : Location) : Option Node :=
  if location = [] then some .directory
  else (fs.entries.find? fun e => e.1 == location).map Prod.snd

/-- Whether a location is a directory. -/
def IsDirectory (fs : FileSystem) (location : Location) : Prop := DirectoryIn fs.entries location

instance (fs : FileSystem) (location : Location) : Decidable (fs.IsDirectory location) :=
  inferInstanceAs (Decidable (DirectoryIn _ _))

/-- The name of an entry inside a directory. -/
def nameIn? (directory location : Location) : Option FileName :=
  if location.dropLast = directory then location.getLast? else none

/-- The entries of a directory, in the order in which they are listed. -/
def children (fs : FileSystem) (directory : Location) : List (FileName × Node) :=
  fs.entries.filterMap fun e => (nameIn? directory e.1).map fun name => (name, e.2)

/-- Entries are determined by their locations. -/
theorem find?_eq_some_iff {entries : List (Location × Node)} (hd : (entries.map Prod.fst).Nodup)
    {location : Location} {e : Location × Node} :
    entries.find? (fun e => e.1 == location) = some e ↔ e ∈ entries ∧ e.1 = location := by
  induction entries with
  | nil => simp
  | cons first rest ih =>
    simp only [List.map_cons, List.nodup_cons] at hd
    by_cases h : first.1 = location
    · constructor
      · intro hf
        simp only [List.find?_cons, h, beq_self_eq_true, Option.some.injEq] at hf
        exact ⟨hf ▸ List.mem_cons_self .., hf ▸ h⟩
      · rintro ⟨hm, he⟩
        rcases List.mem_cons.1 hm with rfl | hm
        · simp [h]
        · exact absurd (List.mem_map.2 ⟨e, hm, he.trans h.symm⟩) hd.1
    · have hb : (first.1 == location) = false := by simpa using h
      rw [List.find?_cons, hb, ih hd.2]
      constructor
      · rintro ⟨hm, he⟩
        exact ⟨List.mem_cons_of_mem _ hm, he⟩
      · rintro ⟨hm, he⟩
        rcases List.mem_cons.1 hm with rfl | hm
        · exact absurd he h
        · exact ⟨hm, he⟩

theorem node?_eq_some_iff (fs : FileSystem) {location : Location} (h : location ≠ [])
    {node : Node} :
    fs.node? location = some node ↔ (location, node) ∈ fs.entries := by
  simp only [node?, if_neg h, Option.map_eq_some_iff]
  constructor
  · rintro ⟨⟨l, n⟩, hf, rfl⟩
    obtain ⟨hm, rfl⟩ := (find?_eq_some_iff fs.distinct).1 hf
    exact hm
  · intro hm
    exact ⟨(location, node), (find?_eq_some_iff fs.distinct).2 ⟨hm, rfl⟩, rfl⟩

theorem isDirectory_iff (fs : FileSystem) (location : Location) :
    fs.IsDirectory location ↔ fs.node? location = some .directory := by
  by_cases h : location = []
  · simp [IsDirectory, DirectoryIn, node?, h]
  · rw [node?_eq_some_iff fs h]
    simp [IsDirectory, DirectoryIn, h]

theorem node?_eq_none_iff (fs : FileSystem) {location : Location} :
    fs.node? location = none ↔ location ≠ [] ∧ location ∉ fs.entries.map Prod.fst := by
  by_cases h : location = []
  · simp [node?, h]
  · simp only [node?, if_neg h, Option.map_eq_none_iff, List.find?_eq_none, beq_iff_eq]
    constructor
    · intro hn
      refine ⟨h, fun hm => ?_⟩
      obtain ⟨e, he, hl⟩ := List.mem_map.1 hm
      exact hn e he hl
    · rintro ⟨-, hm⟩ e he hl
      exact hm (List.mem_map.2 ⟨e, he, hl⟩)

/-! ### Changing -/

/-- The names on the way to a directory are proper. -/
theorem isName_of_mem_directory (fs : FileSystem) {directory : Location}
    (h : fs.IsDirectory directory) {name : FileName} (hn : name ∈ directory) : IsName name := by
  rcases h with rfl | h
  · simp at hn
  · exact fs.named _ h name hn

/-- Adds an entry to a directory; nothing changes when the location is taken, the name or the node is
none, or there is no such directory. -/
def add (fs : FileSystem) (directory : Location) (name : FileName) (node : Node) : FileSystem :=
  if h : fs.IsDirectory directory ∧ IsName name ∧ node.IsSound ∧
      directory ++ [name] ∉ fs.entries.map Prod.fst then
    { entries := fs.entries ++ [(directory ++ [name], node)]
      workingDirectory := fs.workingDirectory
      distinct := by
        rw [List.map_append, List.nodup_append]
        refine ⟨fs.distinct, by simp, ?_⟩
        intro a ha b hb hab
        simp only [List.map_cons, List.map_nil, List.mem_singleton] at hb
        subst hab
        exact h.2.2.2 (hb ▸ ha)
      rooted := by
        intro e he
        rcases List.mem_append.1 he with he | he
        · exact ⟨(fs.rooted e he).1, (fs.rooted e he).2.imp id fun hm => List.mem_append_left _ hm⟩
        · rw [List.mem_singleton] at he
          subst he
          refine ⟨by simp, ?_⟩
          simp only [List.dropLast_concat]
          exact h.1.imp id fun hm => List.mem_append_left _ hm
      named := by
        intro e he part hpart
        rcases List.mem_append.1 he with he | he
        · exact fs.named e he part hpart
        · rw [List.mem_singleton] at he
          subst he
          rcases List.mem_append.1 hpart with hpart | hpart
          · exact fs.isName_of_mem_directory h.1 hpart
          · rw [List.mem_singleton] at hpart
            exact hpart ▸ h.2.1
      sound := by
        intro e he
        rcases List.mem_append.1 he with he | he
        · exact fs.sound e he
        · rw [List.mem_singleton] at he
          exact he ▸ h.2.2.1
      placed := ⟨fs.placed.1.imp id fun hm => List.mem_append_left _ hm, fs.placed.2⟩ }
  else fs

/-- An entry with another content, if it is the file at the location. -/
def rewritten (location : Location) (content : Bytes) (mode : Nat) (e : Location × Node) :
    Location × Node :=
  match e.2 with
  | .file _ _ => if e.1 = location then (e.1, .file content mode) else e
  | _ => e

theorem fst_rewritten (location : Location) (content : Bytes) (mode : Nat) (e : Location × Node) :
    (rewritten location content mode e).1 = e.1 := by
  unfold rewritten
  split
  · split <;> rfl
  · rfl

theorem isSound_rewritten {location : Location} {e : Location × Node} (content : Bytes) (mode : Nat)
    (h : e.2.IsSound) : (rewritten location content mode e).2.IsSound := by
  unfold rewritten
  split
  · split
    · trivial
    · exact h
  · exact h

theorem directoryIn_map_rewritten {entries : List (Location × Node)} {location d : Location}
    (content : Bytes) (mode : Nat) (h : DirectoryIn entries d) :
    DirectoryIn (entries.map (rewritten location content mode)) d :=
  h.imp id fun hm => List.mem_map.2 ⟨(d, .directory), hm, rfl⟩

/-- Gives the file at a location another content and mode; nothing changes when there is no file. -/
def overwrite (fs : FileSystem) (location : Location) (content : Bytes) (mode : Nat) :
    FileSystem where
  entries := fs.entries.map (rewritten location content mode)
  workingDirectory := fs.workingDirectory
  distinct := by
    have hfst : (fs.entries.map (rewritten location content mode)).map Prod.fst
        = fs.entries.map Prod.fst := by
      rw [List.map_map]
      exact List.map_congr_left fun e _ => fst_rewritten location content mode e
    rw [hfst]
    exact fs.distinct
  rooted := by
    intro e he
    obtain ⟨e', he', rfl⟩ := List.mem_map.1 he
    rw [fst_rewritten]
    exact ⟨(fs.rooted e' he').1, directoryIn_map_rewritten content mode (fs.rooted e' he').2⟩
  named := by
    intro e he
    obtain ⟨e', he', rfl⟩ := List.mem_map.1 he
    rw [fst_rewritten]
    exact fs.named e' he'
  sound := by
    intro e he
    obtain ⟨e', he', rfl⟩ := List.mem_map.1 he
    exact isSound_rewritten content mode (fs.sound e' he')
  placed := ⟨directoryIn_map_rewritten content mode fs.placed.1, fs.placed.2⟩

/-- Takes an entry away; nothing changes when something is inside it. A working directory is lost
with its entry, and what is left of one that was inside is then behind one more removed
directory. -/
def erase (fs : FileSystem) (location : Location) : FileSystem :=
  if h : location ≠ [] ∧ ∀ e ∈ fs.entries, e.1.dropLast ≠ location then
    { entries := fs.entries.filter fun e => e.1 != location
      workingDirectory :=
        if standing fs.workingDirectory = location then
          location.dropLast ++ [] :: fallen fs.workingDirectory
        else fs.workingDirectory
      distinct := fs.distinct.sublist (List.filter_sublist.map _)
      rooted := by
        intro e he
        have he' := (List.mem_filter.1 he).1
        refine ⟨(fs.rooted e he').1, (fs.rooted e he').2.imp id fun hm => ?_⟩
        exact List.mem_filter.2 ⟨hm, by simpa using h.2 e he'⟩
      named := fun e he => fs.named e (List.mem_filter.1 he).1
      sound := fun e he => fs.sound e (List.mem_filter.1 he).1
      placed := by
        split
        · next hw =>
          have hd : fs.IsDirectory location := hw ▸ fs.placed.1
          have hproper : ∀ name ∈ location.dropLast, name ≠ [] := fun name hname =>
            (fs.isName_of_mem_directory hd (List.dropLast_subset _ hname)).1
          have hup : DirectoryIn fs.entries location.dropLast := by
            rcases hd with hroot | hm
            · exact absurd hroot h.1
            · exact (fs.rooted _ hm).2
          have hne : location.dropLast ≠ location := by
            intro heq
            have hlength := congrArg List.length heq
            rw [List.length_dropLast] at hlength
            have hpos := List.length_pos_iff.2 h.1
            omega
          unfold PlacedIn
          rw [standing_of_proper hproper, fallen_of_proper hproper]
          refine ⟨hup.imp id fun hm => List.mem_filter.2 ⟨hm, by simpa using hne⟩, ?_⟩
          simpa using fs.placed.2
        · next hw =>
          exact ⟨fs.placed.1.imp id fun hm => List.mem_filter.2 ⟨hm, by simpa using hw⟩,
            fs.placed.2⟩ }
  else fs

/-- The file system seen from another working directory, which may be a removed one; nothing changes
when there is no such directory. -/
def enter (fs : FileSystem) (directory : Location) : FileSystem :=
  if h : PlacedIn fs.entries directory then
    { fs with workingDirectory := directory, placed := h }
  else fs

end FileSystem

end IdlBuild
