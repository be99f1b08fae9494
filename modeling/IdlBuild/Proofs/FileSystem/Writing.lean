import IdlBuild.Proofs.FileSystem.Making
import Mathlib.Data.List.TakeWhile

/-!
# Writing files

A file that was written is found at its path again, with its content, and nothing else has changed
(`writeFile_written`). Where another file stood the walk along the path ends as before, and where
nothing stood it ends at the new file (`follow_differ`).
-/

namespace IdlBuild

/-- Where a place is. -/
def Place.location : Place → Location
  | found location _ => location
  | vacant directory name => directory ++ [name]

/-- The place when a file with some content stands at a location. -/
def Place.renewed (location : Location) (content : Text.Bytes) (mode : Nat) : Place → Place
  | found other .directory => found other .directory
  | place => if place.location = location then found location (.file content mode) else place

theorem Place.renewed_here (place : Place) {location : Location} (content : Text.Bytes) (mode : Nat)
    (h : place.location = location) (hfile : ∀ other, place ≠ .found other .directory) :
    place.renewed location content mode = .found location (.file content mode) := by
  unfold renewed
  split
  · exact absurd rfl (hfile _)
  · rw [if_pos h]

theorem Place.renewed_elsewhere (place : Place) {location : Location} (content : Text.Bytes)
    (mode : Nat) (h : place.location ≠ location) : place.renewed location content mode = place := by
  unfold renewed
  split
  · rfl
  · rw [if_neg h]

/-- Whether a place is as the file system has it. -/
def Place.IsIn (fs : FileSystem) : Place → Prop
  | found location .directory => PlacedIn fs.entries location
  | found location node => fs.node? location = some node
  | vacant directory name =>
    fs.IsDirectory directory ∧ IsName name ∧ fs.node? (directory ++ [name]) = none

namespace FileSystem

open Text (Bytes)

/-! ### Free names -/

/-- Whether a piece can be a name as far as its bytes go. -/
def IsClean (piece : FileName) : Prop :=
  piece ≠ [] ∧ slash ∉ piece ∧ nul ∉ piece

theorem isClean_of_mem_steps {p : Path} (hnul : nul ∉ p.bytes) {piece : FileName}
    (h : piece ∈ steps p) : IsClean piece := by
  have hnamed : ∀ piece ∈ p.named, IsClean piece := by
    intro piece hpiece
    obtain ⟨hfield, hne⟩ := List.mem_filter.1 hpiece
    exact ⟨by simpa using hne, Text.not_mem_of_mem_fields hfield,
      fun hmem => hnul (Text.mem_of_mem_fields hfield hmem)⟩
  rcases steps_eq_or p with hsteps | hsteps
  · rw [hsteps] at h
    exact hnamed piece h
  · rw [hsteps] at h
    rcases List.mem_append.1 h with h | h
    · exact hnamed piece h
    · rw [List.mem_singleton] at h
      rw [h]
      exact ⟨by decide, by decide, by decide⟩

section Placed

variable {fs : FileSystem} {directory : Location}

theorem standing_of_isDirectory (h : fs.IsDirectory directory) :
    standing directory = directory ∧ fallen directory = [] := by
  have hnames : ∀ name ∈ directory, name ≠ [] := fun name hname =>
    (fs.isName_of_mem_directory h hname).1
  constructor
  · rw [standing, List.takeWhile_eq_self_iff]
    simpa using hnames
  · rw [fallen, List.dropWhile_eq_nil_iff]
    simpa using hnames

theorem placedIn_of_isDirectory (h : fs.IsDirectory directory) :
    PlacedIn fs.entries directory := by
  obtain ⟨hstanding, hfallen⟩ := standing_of_isDirectory h
  refine ⟨hstanding.symm ▸ h, ?_⟩
  rw [hfallen]
  simp

theorem isDirectory_of_placedIn (h : PlacedIn fs.entries directory) (hlost : ¬ IsLost directory) :
    fs.IsDirectory directory := by
  have hfallen : fallen directory = [] := by
    by_contra hne
    apply hlost
    obtain ⟨init, last, hlast⟩ : ∃ init last, fallen directory = init ++ [last] :=
      ⟨_, _, (List.dropLast_append_getLast hne).symm⟩
    have hempty : last = [] := h.2 last (by rw [hlast]; simp)
    unfold IsLost
    rw [← standing_append_fallen directory, hlast, ← List.append_assoc, List.getLast?_concat, hempty]
  have hsame := standing_append_fallen directory
  rw [hfallen, List.append_nil] at hsame
  exact hsame ▸ h.1

/-- The directory around one that was removed is there or was removed as well. -/
theorem placedIn_dropLast (h : PlacedIn fs.entries directory) :
    PlacedIn fs.entries directory.dropLast := by
  by_cases hlost : IsLost directory
  · obtain ⟨init, hinit⟩ := List.getLast?_eq_some_iff.1 hlost
    have hstanding : standing directory = standing init := by
      rw [hinit, standing, standing, List.takeWhile_append]
      split
      · next hwhole =>
        rw [(List.takeWhile_prefix _).eq_of_length hwhole]
        simp
      · rfl
    have hfallen : ∀ name ∈ fallen init, name ∈ fallen directory := by
      intro name hname
      rw [hinit, fallen, List.dropWhile_append]
      split
      · next hnil =>
        rw [fallen] at hname
        rw [List.isEmpty_iff] at hnil
        rw [hnil] at hname
        cases hname
      · exact List.mem_append_left _ hname
    rw [hinit, List.dropLast_concat]
    exact ⟨hstanding ▸ h.1, fun name hname => h.2 name (hfallen name hname)⟩
  · exact placedIn_of_isDirectory (isDirectory_of_placedIn h hlost).dropLast

end Placed

/-! ### Where a walk ends -/

theorem Passes.placedIn {fs : FileSystem} {links links' : Nat} {directory directory' : Location}
    {piece : FileName} {more : List FileName}
    (h : Passes fs links directory piece links' directory' more)
    (hplaced : PlacedIn fs.entries directory) : PlacedIn fs.entries directory' := by
  cases h with
  | here => exact hplaced
  | up => exact placedIn_dropLast hplaced
  | into hnode => exact placedIn_of_isDirectory ((isDirectory_iff fs _).2 hnode)
  | through hnode =>
    split_ifs
    · exact placedIn_of_isDirectory (Or.inl rfl)
    · exact hplaced

/-- The pieces that come in the place of another are those of a link, which holds no NUL. -/
theorem Passes.isClean {fs : FileSystem} {links links' : Nat} {directory directory' : Location}
    {piece : FileName} {more : List FileName}
    (h : Passes fs links directory piece links' directory' more) :
    ∀ other ∈ more, IsClean other := by
  intro other hother
  cases h with
  | here => cases hother
  | up => cases hother
  | into hnode => cases hother
  | through hnode =>
    have hmem := (node?_eq_some_iff fs (by simp)).1 hnode
    exact isClean_of_mem_steps (fs.sound _ hmem).2 hother

theorem isIn_of_follow {fs : FileSystem} {followLast : Bool} :
    (links : Nat) → (directory : Location) → (pieces : List FileName) → {place : Place} →
    PlacedIn fs.entries directory → (∀ piece ∈ pieces, IsClean piece) →
    fs.follow followLast links directory pieces = .ok place → place.IsIn fs
  | links, directory, [], place, hplaced, hclean, h => by
    rw [follow_nil] at h
    cases h
    exact hplaced
  | links, directory, piece :: rest, place, hplaced, hclean, h => by
    have hrest : ∀ piece ∈ rest, IsClean piece :=
      fun other hother => hclean other (List.mem_cons_of_mem _ hother)
    rcases passes_or_ends fs followLast links directory piece rest with
      ⟨links', directory', more, hpass, hlink⟩ | hends
    · have hless := hpass.lessens rest
      rw [follow_of_passing hpass hlink] at h
      refine isIn_of_follow links' directory' (more ++ rest) (hpass.placedIn hplaced) ?_ h
      intro other hother
      rcases List.mem_append.1 hother with hother | hother
      · exact hpass.isClean other hother
      · exact hrest other hother
    · rw [h] at hends
      cases hends with
      | vacant hlast hdot hup hlost hsize hnode =>
        obtain ⟨hne, hslash, hnul⟩ := hclean piece (List.mem_cons_self ..)
        exact ⟨isDirectory_of_placedIn hplaced hlost,
          ⟨hne, hdot, hup, hslash, hnul, Nat.not_lt.1 hsize⟩, hnode⟩
      | @found node hlast hnode hne =>
        cases node with
        | directory => exact absurd rfl hne
        | file content mode => exact hnode
        | link target => exact hnode
termination_by links _ pieces => (links, pieces.length)
decreasing_by exact hless

/-- What a path leads to is there, or it is a free name in a directory. -/
theorem isIn_of_locate {fs : FileSystem} {followLast : Bool} {p : Path} {place : Place}
    (h : fs.locate followLast p = .ok place) : place.IsIn fs := by
  obtain ⟨start, hstart, hfollow⟩ := locate_eq_ok h
  obtain ⟨hnul, -, -, rfl⟩ := start_eq_ok_iff.1 hstart
  refine isIn_of_follow linkLimit _ (steps p) ?_ (fun _ => isClean_of_mem_steps hnul) hfollow
  split_ifs
  · exact placedIn_of_isDirectory (Or.inl rfl)
  · exact fs.placed

/-! ### One file more or another -/

/-- Whether two file systems are alike but for one location, which is a file in the second and a file
or free in the first. -/
structure DifferAt (fs fs' : FileSystem) (location : Location) (content : Bytes) (mode : Nat) :
    Prop where
  elsewhere : ∀ {other : Location}, other ≠ location → fs'.node? other = fs.node? other
  before : ∀ {node : Node}, fs.node? location = some node → ∃ old mode, node = .file old mode
  after : fs'.node? location = some (.file content mode)
  workingDirectory : fs'.workingDirectory = fs.workingDirectory

section Differing

variable {fs fs' : FileSystem} {location : Location} {content : Bytes} {mode : Nat}

theorem DifferAt.node (hdiffer : DifferAt fs fs' location content mode) {other : Location}
    {node : Node} (hnode : fs.node? other = some node)
    (hfile : ∀ old mode, node ≠ .file old mode) : fs'.node? other = some node := by
  have hother : other ≠ location := by
    rintro rfl
    obtain ⟨old, mode', rfl⟩ := hdiffer.before hnode
    exact hfile old mode' rfl
  rw [hdiffer.elsewhere hother, hnode]

theorem DifferAt.link (hdiffer : DifferAt fs fs' location content mode) {other : Location}
    {target : Path} (hnode : fs'.node? other = some (.link target)) :
    fs.node? other = some (.link target) := by
  have hother : other ≠ location := by
    rintro rfl
    rw [hdiffer.after] at hnode
    cases hnode
  rw [← hdiffer.elsewhere hother, hnode]

theorem Passes.differ {links links' : Nat} {directory directory' : Location} {piece : FileName}
    {more : List FileName} (h : Passes fs links directory piece links' directory' more)
    (hdiffer : DifferAt fs fs' location content mode) :
    Passes fs' links directory piece links' directory' more := by
  cases h with
  | here => exact .here
  | up => exact .up
  | into hnode => exact .into (hdiffer.node hnode (by simp))
  | through hnode => exact .through (hdiffer.node hnode (by simp))

/-- A walk that arrives at a piece does so where the file system is the same there. -/
theorem Ends.agree {followLast : Bool} {links : Nat} {directory : Location} {piece : FileName}
    {rest : List FileName} {place : Place} (h : Ends fs followLast directory piece rest (.ok place))
    (hsame : fs'.node? (directory ++ [piece]) = fs.node? (directory ++ [piece])) :
    fs'.follow followLast links directory (piece :: rest) = .ok place := by
  cases h with
  | vacant hrest hdot hup hlost hsize hnode =>
    rw [follow_cons, if_neg hdot, if_neg hup, if_neg hlost, if_neg hsize, hsame, hnode]
    exact if_pos hrest
  | found hrest hnode hne hstay =>
    subst hrest
    exact follow_found_last (hsame.trans hnode) hne hstay

theorem Ends.last {followLast : Bool} {directory : Location} {piece : FileName}
    {rest : List FileName} {place : Place} (h : Ends fs followLast directory piece rest (.ok place)) :
    rest = [] ∧ place.location = directory ++ [piece] ∧
      ∀ other, place ≠ .found other .directory := by
  cases h with
  | vacant hrest => exact ⟨hrest, rfl, by simp⟩
  | found hrest hnode hne => exact ⟨hrest, rfl, fun other hsame => hne (Place.found.inj hsame).2⟩

end Differing

theorem follow_differ {fs fs' : FileSystem} {location : Location} {content : Bytes} {mode : Nat}
    (hdiffer : DifferAt fs fs' location content mode) (followLast : Bool) :
    (links : Nat) → (directory : Location) → (pieces : List FileName) → {place : Place} →
    fs.follow followLast links directory pieces = .ok place →
    fs'.follow followLast links directory pieces = .ok (place.renewed location content mode)
  | links, directory, [], place, h => by
    rw [follow_nil] at h ⊢
    cases h
    rfl
  | links, directory, piece :: rest, place, h => by
    rcases passes_or_ends fs followLast links directory piece rest with
      ⟨links', directory', more, hpass, hlink⟩ | hends
    · have hless := hpass.lessens rest
      rw [follow_of_passing hpass hlink] at h
      rw [follow_of_passing (hpass.differ hdiffer)
        fun target hnode => hlink target (hdiffer.link hnode)]
      exact follow_differ hdiffer followLast links' directory' (more ++ rest) h
    · rw [h] at hends
      -- nothing can be behind a file or a free name, so this is the last piece
      obtain ⟨rfl, hplace, hfile⟩ := hends.last
      by_cases hhere : directory ++ [piece] = location
      · rw [Place.renewed_here place content mode (hplace.trans hhere) hfile, ← hhere]
        exact follow_found_last (hhere ▸ hdiffer.after) (by simp) (by simp)
      · rw [Place.renewed_elsewhere place content mode (hplace ▸ hhere)]
        exact hends.agree (hdiffer.elsewhere hhere)
termination_by links _ pieces => (links, pieces.length)
decreasing_by exact hless

theorem locate_differ {fs fs' : FileSystem} {location : Location} {content : Bytes} {mode : Nat}
    (hdiffer : DifferAt fs fs' location content mode) {followLast : Bool} {p : Path} {place : Place}
    (h : fs.locate followLast p = .ok place) :
    fs'.locate followLast p = .ok (place.renewed location content mode) := by
  have hstart : fs'.start p = fs.start p := by
    unfold FileSystem.start
    rw [hdiffer.workingDirectory]
  obtain ⟨start, hbegin, hfollow⟩ := locate_eq_ok h
  rw [locate_of_start (hstart.trans hbegin)]
  exact follow_differ hdiffer followLast linkLimit start (steps p) hfollow

/-- The file is found where the path led. -/
theorem status_differ {fs fs' : FileSystem} {location : Location} {content : Bytes} {mode : Nat}
    (hdiffer : DifferAt fs fs' location content mode) {p : Path} {place : Place}
    (h : fs.locate true p = .ok place) (hplace : place.location = location)
    (hfile : ∀ other, place ≠ .found other .directory) :
    fs'.status p = .ok (location, .file content mode) := by
  unfold status
  rw [locate_differ hdiffer h, Place.renewed_here place content mode hplace hfile]
  rfl

/-- A directory is found as before. -/
theorem linkStatus_differ {fs fs' : FileSystem} {location other : Location} {content : Bytes}
    {mode : Nat} (hdiffer : DifferAt fs fs' location content mode) {p : Path}
    (h : fs.linkStatus p = .ok (other, .directory)) :
    fs'.linkStatus p = .ok (other, .directory) := by
  obtain ⟨start, hstart, hfollow⟩ := linkStatus_eq_ok h
  have hlocate : fs.locate false p = .ok (.found other .directory) :=
    (locate_of_start hstart).trans hfollow
  unfold linkStatus
  rw [locate_differ hdiffer hlocate]
  rfl

/-! ### Written files -/

/-- What holds when a file has been written: it is found at its path, and everything elsewhere is as
before. -/
structure Written (fs : FileSystem) (p : Path) (content : Bytes) (fs' : FileSystem)
    (location : Location) : Prop where
  status : ∃ mode, fs'.status p = .ok (location, .file content mode)
  elsewhere : ∀ e : Location × Node, e.1 ≠ location → (e ∈ fs'.entries ↔ e ∈ fs.entries)
  differ : ∃ mode, DifferAt fs fs' location content mode

section Writing

variable {fs fs' : FileSystem} {p : Path} {content : Bytes} {location : Location}

theorem mem_overwrite {mode : Nat} {e : Location × Node} (hne : e.1 ≠ location) :
    e ∈ (fs.overwrite location content mode).entries ↔ e ∈ fs.entries := by
  have hsame : ∀ e' : Location × Node, e'.1 ≠ location → rewritten location content mode e' = e' := by
    intro e' hother
    unfold rewritten
    split
    · rw [if_neg hother]
    · rfl
  constructor
  · intro he
    obtain ⟨e', he', rfl⟩ := List.mem_map.1 he
    rw [fst_rewritten] at hne
    rwa [hsame e' hne]
  · intro he
    exact List.mem_map.2 ⟨e, he, hsame e hne⟩

theorem node?_overwrite {old : Bytes} {mode mode' : Nat}
    (h : fs.node? location = some (.file old mode)) :
    (fs.overwrite location content mode').node? location = some (.file content mode') := by
  have hroot : location ≠ [] := by
    rintro rfl
    cases h
  rw [node?_eq_some_iff _ hroot] at h ⊢
  exact List.mem_map.2 ⟨_, h, by simp [rewritten]⟩

theorem differAt_overwrite {old : Bytes} {mode : Nat}
    (h : fs.node? location = some (.file old mode)) :
    DifferAt fs (fs.overwrite location content mode) location content mode where
  elsewhere hother := node?_congr fun _ => mem_overwrite hother
  before hnode := ⟨old, mode, Option.some.inj (hnode.symm.trans h)⟩
  after := node?_overwrite h
  workingDirectory := rfl

theorem mem_add {directory : Location} {name : FileName} {node : Node} {e : Location × Node}
    (hne : e.1 ≠ directory ++ [name]) :
    e ∈ (fs.add directory name node).entries ↔ e ∈ fs.entries := by
  unfold add
  split
  · rw [List.mem_append, List.mem_singleton]
    constructor
    · rintro (he | rfl)
      · exact he
      · exact absurd rfl hne
    · exact Or.inl
  · exact Iff.rfl

theorem differAt_add {directory : Location} {name : FileName} (hd : fs.IsDirectory directory)
    (hname : IsName name) (hfree : fs.node? (directory ++ [name]) = none) (mode : Nat) :
    DifferAt fs (fs.add directory name (.file content mode)) (directory ++ [name]) content mode where
  elsewhere hother := node?_congr fun _ => mem_add hother
  before hnode := by
    rw [hfree] at hnode
    cases hnode
  after := node?_add hd hname trivial hfree
  workingDirectory := workingDirectory_add

/-- A file that could be written is there, and nothing else has changed. -/
theorem writeFile_written (h : fs.writeFile p content = .ok fs') :
    ∃ place, fs.locate true p = .ok place ∧ Written fs p content fs' place.location := by
  unfold writeFile at h
  by_cases hslash : hasTrailingSlash p = true
  · rcases hlast : fs.locateLast p with fault | last
    · simp [hslash, hlast, bind, Except.bind] at h
    · simp [hslash, hlast, bind, Except.bind] at h
  rw [if_neg hslash] at h
  obtain ⟨place, hlocate, h⟩ := bind_eq_ok_iff.1 h
  refine ⟨place, hlocate, ?_⟩
  have hin := isIn_of_locate hlocate
  cases place with
  | found location node =>
    cases node with
    | directory => cases h
    | link target => cases h
    | file old mode =>
      cases h
      have hdiffer : DifferAt fs (fs.overwrite location content mode) location content mode :=
        differAt_overwrite hin
      exact ⟨⟨mode, status_differ hdiffer hlocate rfl (by simp)⟩, fun e he => mem_overwrite he, mode,
        hdiffer⟩
  | vacant directory name =>
    cases h
    obtain ⟨hd, hname, hfree⟩ := hin
    have hdiffer : DifferAt fs (fs.add directory name (.file content plainMode))
        (directory ++ [name]) content plainMode := differAt_add hd hname hfree plainMode
    exact ⟨⟨plainMode, status_differ hdiffer hlocate rfl (by simp)⟩, fun e he => mem_add he,
      plainMode, hdiffer⟩

theorem Written.readFile (h : Written fs p content fs' location) :
    fs'.readFile p = .ok content := by
  obtain ⟨mode, hstatus⟩ := h.status
  unfold FileSystem.readFile
  rw [hstatus]
  rfl

end Writing

end FileSystem

end IdlBuild
