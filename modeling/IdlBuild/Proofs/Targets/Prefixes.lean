import IdlBuild.Proofs.FileSystem.ContentsFirst
import IdlBuild.Proofs.FileSystem.Remaining
import IdlBuild.Proofs.FileSystem.Writing
import IdlBuild.Proofs.Targets.Clearing
import IdlBuild.Proofs.Targets.Links

/-!
# Targets cleared in part

Clearing goes through a tree with contents first and stops at the first entry that it cannot remove:
what is gone then is a front of that order and nothing else (`clearWith_inPart`). The one failure
that does not name the next entry is that of a directory which can no longer be listed; it stands for
all that is inside.
-/

namespace IdlBuild

open FileSystem

namespace Target

/-! ### Outcomes -/

/-- The removal of an entry, by what it is. -/
def Remover.removal (remover : Remover) (node : Node) :
    FileSystem → Path → Except IoFault FileSystem :=
  if node = .directory then remover.directory else remover.file

/-- How clearing ends when some ways are still to go: with all of them gone, at the first of them,
whose entry could not be removed, or at a directory on that way that could not be listed. -/
inductive EndsAt (remover : Remover) (p : Path) (location : Location) (cur : FileSystem) :
    List (List FileName) → Except Failure Unit → Prop where
  | finished : EndsAt remover p location cur [] (.ok ())
  | unremoved {way : List FileName} {rest : List (List FileName)} {node : Node} {fault : IoFault}
      (hnode : cur.node? (location ++ way) = some node)
      (hfault : remover.removal node cur (p.descend way) = .error fault) :
      EndsAt remover p location cur (way :: rest) (.error (.notRemoved (p.descend way) fault))
  | unlisted {above inner : List FileName} {rest : List (List FileName)} {fault : IoFault}
      (hnode : cur.node? (location ++ above) = some .directory)
      (hfault : cur.readDirectory (p.descend above) = .error fault) :
      EndsAt remover p location cur ((above ++ inner) :: rest)
        (.error (.notRemoved (p.descend above) (WalkFault.request (p.descend above) fault).toIoFault))

/-- Whether some ways were taken in their order as far as the outcome says: the entries at a front
of them are gone, none of which is refused, and nothing else. -/
def InPart (refused : Path → Option IoFault) (fs : FileSystem) (gone : List Location) (p : Path)
    (location : Location) (ways : List (List FileName))
    (outcome : Except Failure Unit × FileSystem) : Prop :=
  ∃ done rest, ways = done ++ rest ∧ Left fs (gone ++ done.map (location ++ ·)) outcome.2 ∧
    (∀ way ∈ done, refused (p.descend way) = none) ∧
    EndsAt (.refusing refused) p location outcome.2 rest outcome.1

section Outcomes

variable {refused : Path → Option IoFault} {remover : Remover} {fs cur after : FileSystem}
  {gone : List Location} {p : Path} {location : Location} {name : FileName} {node : Node}
  {ways ways' : List (List FileName)} {result : Except Failure Unit} {failure : Failure}
  {outcome : Except Failure Unit × FileSystem}

theorem EndsAt.append (h : EndsAt remover p location cur ways (.error failure))
    (later : List (List FileName)) :
    EndsAt remover p location cur (ways ++ later) (.error failure) := by
  cases h with
  | unremoved hnode hfault => exact .unremoved hnode hfault
  | unlisted hnode hfault => exact .unlisted hnode hfault

theorem EndsAt.inside (h : EndsAt remover (p.join ⟨name⟩) (location ++ [name]) cur ways result) :
    EndsAt remover p location cur (ways.map (name :: ·)) result := by
  cases h with
  | finished => exact .finished
  | unremoved hnode hfault =>
    rw [← List.append_cons] at hnode
    exact .unremoved hnode hfault
  | unlisted hnode hfault =>
    rw [← List.append_cons] at hnode
    exact .unlisted hnode hfault

theorem InPart.inside (h : InPart refused fs gone (p.join ⟨name⟩) (location ++ [name]) ways outcome) :
    InPart refused fs gone p location (ways.map (name :: ·)) outcome := by
  obtain ⟨done, rest, rfl, hleft, hdone, hends⟩ := h
  refine ⟨done.map (name :: ·), rest.map (name :: ·), List.map_append, ?_, ?_, hends.inside⟩
  · rw [List.map_map]
    have hsame : (fun way => location ++ [name] ++ way) = (location ++ ·) ∘ (name :: ·) := by
      funext way
      exact (List.append_cons location name way).symm
    rwa [hsame] at hleft
  · intro way hway
    obtain ⟨inner, hinner, rfl⟩ := List.mem_map.1 hway
    exact hdone inner hinner

/-- When some ways were all taken, further ones are taken from there. -/
theorem InPart.append (h : InPart refused fs gone p location ways (.ok (), after))
    (h' : InPart refused fs (gone ++ ways.map (location ++ ·)) p location ways' outcome) :
    InPart refused fs gone p location (ways ++ ways') outcome := by
  obtain ⟨done, rest, rfl, -, hdone, hends⟩ := h
  obtain ⟨done', rest', rfl, hleft', hdone', hends'⟩ := h'
  cases hends
  rw [List.append_nil] at hleft' ⊢
  refine ⟨done ++ done', rest', (List.append_assoc _ _ _).symm, ?_, ?_, hends'⟩
  · rwa [List.map_append, ← List.append_assoc]
  · intro way hway
    exact (List.mem_append.1 hway).elim (hdone way) (hdone' way)

theorem InPart.left (h : InPart refused fs gone p location ways (.ok (), after)) :
    Left fs (gone ++ ways.map (location ++ ·)) after := by
  obtain ⟨done, rest, rfl, hleft, -, hends⟩ := h
  cases hends
  rwa [List.append_nil]

theorem InPart.stop (h : InPart refused fs gone p location ways (.error failure, after))
    (later : List (List FileName)) :
    InPart refused fs gone p location (ways ++ later) (.error failure, after) := by
  obtain ⟨done, rest, rfl, hleft, hdone, hends⟩ := h
  exact ⟨done, rest ++ later, List.append_assoc _ _ _, hleft, hdone, hends.append later⟩

end Outcomes

/-! ### Single removals -/

section Removals

variable {refused : Path → Option IoFault} {fs cur after : FileSystem} {gone : List Location}
  {p : Path} {location : Location} {name : FileName} {node : Node}

theorem removal_refusing (refused : Path → Option IoFault) (node : Node) (cur : FileSystem)
    (p : Path) :
    (Remover.refusing refused).removal node cur p =
      match refused p with
      | some fault => .error fault
      | none => Remover.plain.removal node cur p := by
  unfold Remover.removal Remover.refusing Remover.plain
  split_ifs
  · rfl
  · rfl

theorem removal_refusing_eq_ok (h : (Remover.refusing refused).removal node cur p = .ok after) :
    refused p = none ∧ Remover.plain.removal node cur p = .ok after := by
  rw [removal_refusing] at h
  cases hrefused : refused p with
  | some fault => simp [hrefused] at h
  | none =>
    rw [hrefused] at h
    exact ⟨rfl, h⟩

theorem inPart_removed (hleft : Left fs gone cur) (hnode : fs.node? location = some node)
    (hkept : location ∉ gone) (hleaf : cur.IsLeaf location)
    (herase : ∀ after, Remover.plain.removal node cur p = .ok after →
      location ≠ [] ∧ after = cur.erase location) :
    InPart refused fs gone p location [[]]
      (removed cur p ((Remover.refusing refused).removal node cur p)) := by
  have hthere : cur.node? (location ++ []) = some node := by
    rw [List.append_nil, hleft.node?_eq hkept, hnode]
  cases hremoval : (Remover.refusing refused).removal node cur p with
  | error fault =>
    refine ⟨[], [[]], rfl, ?_, by simp, .unremoved hthere hremoval⟩
    rw [List.map_nil, List.append_nil]
    exact hleft
  | ok after =>
    obtain ⟨hrefused, hplain⟩ := removal_refusing_eq_ok hremoval
    obtain ⟨hroot, rfl⟩ := herase after hplain
    refine ⟨[[]], [], rfl, ?_, by simpa [Path.descend] using hrefused, .finished⟩
    rw [List.map_singleton, List.append_nil]
    exact hleft.erase hroot hleaf

theorem removal_of_ne (remover : Remover) (hne : node ≠ .directory) :
    remover.removal node = remover.file := if_neg hne

theorem removal_directory (remover : Remover) :
    remover.removal .directory = remover.directory := if_pos rfl

theorem inPart_file (hleft : Left fs gone cur) (hpoints : Points fs p location)
    (hnode : fs.node? (location ++ [name]) = some node) (hne : node ≠ .directory)
    (hkept : location ++ [name] ∉ gone) :
    InPart refused fs gone (p.join ⟨name⟩) (location ++ [name]) [[]]
      (removed cur (p.join ⟨name⟩) ((Remover.refusing refused).file cur (p.join ⟨name⟩))) := by
  have hthere : cur.node? (location ++ [name]) = some node := (hleft.node?_eq hkept).trans hnode
  rw [← removal_of_ne _ hne]
  refine inPart_removed hleft hnode hkept (isLeaf_of_node (by simp) hthere hne) fun after hafter => ?_
  rw [removal_of_ne _ hne] at hafter
  obtain ⟨directory, last, node', hlast, -, -, -, rfl⟩ := removeFile_eq_ok hafter
  have hlook := hleft.pruned.looksUp (looksUp_of_locateLast hlast)
  rw [hpoints.eq_of_looksUp_join (isPlain_of_isName (isName_of_node hnode).1) hlook]
  exact ⟨by simp, rfl⟩

theorem inPart_directory (hleft : Left fs gone cur) (hpoints : Points fs p location)
    (hnode : fs.node? location = some .directory) (hkept : location ∉ gone)
    (hleaf : cur.IsLeaf location) :
    InPart refused fs gone p location [[]]
      (removed cur p ((Remover.refusing refused).directory cur p)) := by
  rw [← removal_directory]
  refine inPart_removed hleft hnode hkept hleaf fun after hafter => ?_
  rw [removal_directory] at hafter
  obtain ⟨directory, last, hlast, hthere, rfl⟩ := removeDirectory_eq_ok hafter
  have hlook := hleft.pruned.looksUp (looksUp_of_locateLast hlast)
  rw [← hpoints.eq_of_looksUp hlook (hleft.known hthere)]
  exact ⟨by simp, rfl⟩

end Removals

/-! ### Trees -/

section Trees

variable {refused : Path → Option IoFault} {fs cur : FileSystem} {gone : List Location} {p : Path}
  {location : Location} {depth : Nat}

/-- What holds of the removal of a directory with all that is inside. -/
def TreesInPart (refused : Path → Option IoFault) (fs : FileSystem) (depth : Nat) : Prop :=
  ∀ {cur : FileSystem} {gone : List Location} {p : Path} {location : Location},
    ShallowerThan fs location depth → fs.node? location = some .directory → Points fs p location →
    Left fs gone cur → (∀ g ∈ gone, ¬ location <+: g) →
    InPart refused fs gone p location (fs.contentsFirst depth location .directory)
      (removeTree (.refusing refused) depth cur p)

/-- The entries of a directory are taken one after another, each with all that is inside it. -/
theorem inPart_entries (hdeeper : TreesInPart refused fs depth)
    (hshallow : ShallowerThan fs location (depth + 1)) (hpoints : Points fs p location)
    (todo : List (FileName × Node)) (hdistinct : (todo.map Prod.fst).Nodup)
    (htodo : ∀ entry ∈ todo, fs.node? (location ++ [entry.1]) = some entry.2)
    (hleft : Left fs gone cur)
    (hkept : ∀ entry ∈ todo, ∀ g ∈ gone, ¬ location ++ [entry.1] <+: g) :
    InPart refused fs gone p location
      (todo.flatMap fun entry =>
        (fs.contentsFirst depth (location ++ [entry.1]) entry.2).map (entry.1 :: ·))
      (inTurn (removeEntry (.refusing refused) depth p) cur todo) := by
  -- on the entries still to be taken, none of which anything is gone from
  induction todo generalizing cur gone with
  | nil =>
    refine ⟨[], [], rfl, ?_, by simp, .finished⟩
    rw [List.map_nil, List.append_nil]
    exact hleft
  | cons entry rest ih =>
    obtain ⟨hnode, htodo⟩ := List.forall_mem_cons.1 htodo
    obtain ⟨hfirst, hkept⟩ := List.forall_mem_cons.1 hkept
    rw [List.map_cons, List.nodup_cons] at hdistinct
    have hself : InPart refused fs gone p location
        ((fs.contentsFirst depth (location ++ [entry.1]) entry.2).map (entry.1 :: ·))
        (removeEntry (.refusing refused) depth p cur entry) := by
      refine InPart.inside ?_
      unfold removeEntry
      by_cases hdirectory : entry.2 = .directory
      · rw [hdirectory] at hnode
        rw [if_pos hdirectory, hdirectory]
        exact hdeeper hshallow.child hnode (hpoints.child hnode) hleft hfirst
      · rw [if_neg hdirectory, contentsFirst_of_ne fs depth _ hdirectory]
        exact inPart_file hleft hpoints hnode hdirectory
          fun hgone => hfirst _ hgone List.prefix_rfl
    rw [List.flatMap_cons, inTurn_cons]
    rcases hstep : removeEntry (.refusing refused) depth p cur entry with ⟨failure | ⟨⟩, after⟩
    · rw [hstep] at hself
      exact hself.stop _
    · rw [hstep] at hself
      refine hself.append (ih hdistinct.2 htodo hself.left fun other hother g hg hin => ?_)
      -- what is gone now is below this entry, and so not below another
      rcases List.mem_append.1 hg with hg | hg
      · exact hkept other hother g hg hin
      · obtain ⟨way, hway, rfl⟩ := List.mem_map.1 hg
        obtain ⟨inner, -, rfl⟩ := List.mem_map.1 hway
        rw [List.prefix_append_right_inj, List.cons_prefix_cons] at hin
        exact hdistinct.1 (hin.1 ▸ List.mem_map.2 ⟨other, hother, rfl⟩)

/-- When all that was inside a directory is gone, the directory is there with nothing inside. -/
theorem isLeaf_of_left {ways : List (List FileName)}
    (horder : ContentsFirst fs location (ways ++ [[]]))
    (hleft : Left fs (gone ++ ways.map (location ++ ·)) cur) (hself : location ∉ gone) :
    location ∉ gone ++ ways.map (location ++ ·) ∧ cur.IsLeaf location := by
  constructor
  · intro hgone
    rcases List.mem_append.1 hgone with hgone | hgone
    · exact hself hgone
    · obtain ⟨way, hway, hnil⟩ := List.mem_map.1 hgone
      rw [List.append_right_eq_self] at hnil
      exact (List.nodup_append.1 horder.nodup).2.2 way hway [] (List.mem_singleton_self _) hnil
  · intro e he hpre
    obtain ⟨hold, hkept⟩ := (hleft.mem e).1 he
    obtain ⟨way, hway⟩ := hpre
    have hmem := (horder.all way).2 ⟨e.2, by rw [hway]; exact node?_of_mem hold⟩
    rcases List.mem_append.1 hmem with hmem | hmem
    · refine absurd (List.mem_append_right _ ?_) hkept
      exact List.mem_map.2 ⟨way, hmem, hway⟩
    · rw [← hway, List.mem_singleton.1 hmem, List.append_nil]

theorem treesInPart (refused : Path → Option IoFault) (fs : FileSystem) (depth : Nat) :
    TreesInPart refused fs depth := by
  induction depth with
  | zero =>
    intro cur gone p location hshallow hnode
    exact absurd (hshallow [] .directory (by rwa [List.append_nil])) (Nat.not_lt_zero _)
  | succ depth ih =>
    intro cur gone p location hshallow hnode hpoints hleft hkept
    have hself : location ∉ gone := fun hgone => hkept _ hgone List.prefix_rfl
    have hthere : cur.node? location = some .directory := (hleft.node?_eq hself).trans hnode
    rw [removeTree_succ]
    cases hread : cur.readDirectory p with
    | error fault =>
      obtain ⟨way, rest, hways⟩ := List.exists_cons_of_ne_nil
        (List.ne_nil_of_mem (((mem_contentsFirst hshallow hnode) []).2 ⟨_, by rwa [List.append_nil]⟩))
      refine ⟨[], fs.contentsFirst (depth + 1) location .directory, rfl, ?_, by simp, ?_⟩
      · rw [List.map_nil, List.append_nil]
        exact hleft
      · rw [hways]
        have hends : EndsAt (.refusing refused) p location cur (([] ++ way) :: rest) _ :=
          .unlisted (by rwa [List.append_nil]) hread
        exact hends
    | ok entries =>
      obtain ⟨here, hstatus, rfl⟩ := readDirectory_eq_ok hread
      have hhere := hleft.location_of_status hpoints ((isDirectory_iff cur location).2 hthere) hstatus
      have hsorted := sortedByName_perm (fs.children location)
      have hinside := inPart_entries ih hshallow hpoints (sortedByName (fs.children location))
        ((hsorted.map Prod.fst).nodup_iff.2 (nodup_children fs location))
        (fun entry hentry => mem_children.1 (hsorted.mem_iff.1 hentry)) hleft
        fun entry _ g hg hin => hkept g hg ((List.prefix_append _ _).trans hin)
      dsimp only
      rw [hhere, hleft.sortedByName_children hkept, contentsFirst_directory]
      have horder := ContentsFirst.of_node hnode hshallow
      rw [contentsFirst_directory] at horder
      generalize (sortedByName (fs.children location)).flatMap (fun entry =>
        (fs.contentsFirst depth (location ++ [entry.1]) entry.2).map (entry.1 :: ·)) = ways
        at hinside horder ⊢
      rcases hdone : inTurn (removeEntry (.refusing refused) depth p) cur
        (sortedByName (fs.children location)) with ⟨failure | ⟨⟩, emptied⟩
      · rw [hdone] at hinside
        exact hinside.stop _
      · rw [hdone] at hinside
        obtain ⟨hstays, hleaf⟩ := isLeaf_of_left horder hinside.left hself
        exact hinside.append (inPart_directory hinside.left hpoints hnode hstays hleaf)

end Trees

/-! ### Clearing -/

section Clearing

variable {refused : Path → Option IoFault} {fs cur : FileSystem} {p : Path} {location : Location}
  {node : Node}

/-- What is at a path is an entry or the root, unless it is a working directory that is lost. -/
theorem node?_of_linkStatus (hlink : fs.linkStatus p = .ok (location, node)) :
    fs.node? location = some node ∨ IsLost location ∧ node = .directory := by
  by_cases hdirectory : node = .directory
  · subst hdirectory
    obtain ⟨place, hlocate, hplace⟩ := bind_eq_ok_iff.1 hlink
    cases place with
    | vacant directory name => cases hplace
    | found location' node' =>
      cases hplace
      by_cases hlost : IsLost location
      · exact Or.inr ⟨hlost, rfl⟩
      · have hplaced : PlacedIn fs.entries location := isIn_of_locate hlocate
        exact Or.inl ((isDirectory_iff fs location).1 (isDirectory_of_placedIn hplaced hlost))
  · obtain ⟨-, -, -, -, hnode, -⟩ := removeFile_of_linkStatus hlink hdirectory
    exact Or.inl hnode

/-- A lost working directory is not in the tree, and it cannot be removed once more. -/
theorem clearWith_lost (refused : Path → Option IoFault)
    (hlink : fs.linkStatus p = .ok (location, .directory)) (hlost : IsLost location) :
    ∃ fault, clearWith (.refusing refused) fs p = (.error (.notRemoved p fault), fs) := by
  obtain ⟨start, links, hstart, hleads⟩ := leads_of_linkStatus_directory hlink
  have hpoints := Points.of_start hstart hleads
  unfold clearWith
  simp only [hlink, removeTree_succ]
  cases hread : fs.readDirectory p with
  | error fault => exact ⟨_, rfl⟩
  | ok entries =>
    have hempty : sortedByName entries = [] := by
      rw [List.eq_nil_iff_forall_not_mem]
      intro entry hentry
      have hnode := hpoints.entry (.refl fs []) hread ((sortedByName_perm entries).mem_iff.1 hentry)
      exact not_isLost_of_isName (isName_of_node hnode).2 hlost
    cases hremoval : (Remover.refusing refused).directory fs p with
    | error fault => exact ⟨fault, by simp [hempty, inTurn_nil, hremoval, removed]⟩
    | ok after =>
      rw [← removal_directory] at hremoval
      obtain ⟨-, hplain⟩ := removal_refusing_eq_ok hremoval
      rw [removal_directory] at hplain
      obtain ⟨directory, name, hlast, hnode, -⟩ := removeDirectory_eq_ok hplain
      have hsame := hpoints.eq_of_looksUp (looksUp_of_locateLast hlast) hnode
      exact absurd (hsame ▸ hlost) ((isDirectory_iff fs _).2 hnode).not_isLost

/-- Clearing takes what is at and below a path with contents first, as far as it comes. -/
theorem clearWith_inPart (refused : Path → Option IoFault)
    (hlink : fs.linkStatus p = .ok (location, node)) (hnode : fs.node? location = some node) :
    InPart refused fs [] p location (fs.contentsFirst (fs.entries.length + 1) location node)
      (clearWith (.refusing refused) fs p) := by
  unfold clearWith
  by_cases hdirectory : node = .directory
  · subst hdirectory
    obtain ⟨start, links, hstart, hleads⟩ := leads_of_linkStatus_directory hlink
    simp only [hlink]
    exact treesInPart refused fs _ (shallowerThan_entries fs location) hnode
      (.of_start hstart hleads) (.refl fs) (by simp)
  · obtain ⟨directory, name, -, hlocation, -, hremove⟩ := removeFile_of_linkStatus hlink hdirectory
    have hroot : location ≠ [] := by simp [hlocation]
    rw [contentsFirst_of_ne fs _ location hdirectory]
    have hpart : InPart refused fs [] p location [[]]
        (removed fs p ((Remover.refusing refused).removal node fs p)) := by
      refine inPart_removed (.refl fs) hnode (by simp)
        (isLeaf_of_node hroot hnode hdirectory) fun after hafter => ⟨hroot, ?_⟩
      rw [removal_of_ne _ hdirectory] at hafter
      exact (Except.ok.inj (hremove.symm.trans hafter)).symm
    rw [removal_of_ne _ hdirectory] at hpart
    cases node with
    | directory => exact absurd rfl hdirectory
    | file content mode => simpa only [hlink] using hpart
    | link target => simpa only [hlink] using hpart

/-! ### Where only refused entries stay -/

/-- A way below a name leads to the names of its entry, if it is not too long. -/
theorem names_descend {directory : Location} {name : FileName} {way : List FileName} {inner : Node}
    (h : Names fs p directory name)
    (hnode : fs.node? (directory ++ [name] ++ way) = some inner)
    (hsize : p.bytes.length + sizeBehind way < pathLimit) :
    ∃ directory' name', Names fs (p.descend way) directory' name' ∧
      directory' ++ [name'] = directory ++ [name] ++ way := by
  induction way generalizing p directory name with
  | nil => exact ⟨directory, name, h, (List.append_nil _).symm⟩
  | cons child way ih =>
    have hthere := directory_of_append (by simp) hnode
    rw [List.append_cons] at hnode ⊢
    have hchild : IsName child := by
      by_cases hway : way = []
      · rw [hway, List.append_nil] at hnode
        exact (isName_of_node hnode).1
      · exact (isName_of_node (directory_of_append hway hnode)).1
    simp only [sizeBehind] at hsize
    refine ih (h.inside hthere hchild (by omega)) hnode ?_
    rw [h.length_join (isPlain_of_isName hchild)]
    omega

/-- When what is gone lies at and below a name, the way to the name is as it was. -/
theorem names_of_left {gone : List Location} {directory : Location} {name : FileName}
    (h : Names (fs.without (directory ++ [name])) p directory name)
    (hout : ¬ directory ++ [name] <+: fs.workingDirectory) (hleft : Left fs gone cur)
    (hgone : ∀ g ∈ gone, directory ++ [name] <+: g) : Names cur p directory name := by
  refine h.mono ⟨fun {other found} hfound => ?_, ?_⟩
  · obtain ⟨hthere, hother⟩ := node?_of_without (by simp) hfound
    rwa [hleft.node?_eq fun hg => hother (hgone _ hg)]
  · rw [hleft.workingDirectory_eq hgone hout, workingDirectory_without hout]

/-- Where the way to a target does not pass through it and no path is too long, an entry that is left
first was refused. -/
theorem refused_of_endsAt {front : List Component} {name : FileName}
    {done later : List (List FileName)} {first : List FileName} {result : Except Failure Unit}
    (hends : p.EndsWith front (.name name)) (happart : StandsApart fs p) (hfits : FitsBelow fs p)
    (hlink : fs.linkStatus p = .ok (location, node))
    (horder : ContentsFirst fs location (done ++ first :: later))
    (hleft : Left fs (done.map (location ++ ·)) cur)
    (hend : EndsAt (.refusing refused) p location cur (first :: later) result) :
    ∃ fault, refused (p.descend first) = some fault ∧
      result = .error (.notRemoved (p.descend first) fault) := by
  obtain ⟨directory, rfl, hnode, hwithout⟩ := happart.names_without hends hlink
  have hnames := names_of_left hwithout (happart _ _ hlink).1 hleft fun g hg => by
    obtain ⟨way, -, rfl⟩ := List.mem_map.1 hg
    exact List.prefix_append _ _
  have hthere : ∀ {way : List FileName} {inner : Node},
      cur.node? (directory ++ [name] ++ way) = some inner → ∃ directory' name',
        Names cur (p.descend way) directory' name' ∧
          directory' ++ [name'] = directory ++ [name] ++ way := by
    intro way inner hinner
    refine names_descend hnames hinner (hfits _ _ hlink way inner ?_)
    exact (node?_eq_some_iff fs (by simp)).1 (hleft.known hinner)
  cases hend with
  | @unlisted above inner _ fault hinner hfault =>
    obtain ⟨directory', name', habove, hsame⟩ := hthere hinner
    rw [habove.readDirectory (hsame ▸ hinner)] at hfault
    cases hfault
  | @unremoved _ _ inner fault hinner hfault =>
    obtain ⟨directory', name', hfirst, hsame⟩ := hthere hinner
    have hplain : ∃ after, Remover.plain.removal inner cur (p.descend first) = .ok after := by
      by_cases hdirectory : inner = .directory
      · subst hdirectory
        rw [removal_directory]
        refine ⟨_, hfirst.removeDirectory (hsame ▸ hinner) ?_⟩
        -- what is inside comes first, and so it is gone
        rw [hsame, List.eq_nil_iff_forall_not_mem]
        rintro ⟨child, inside⟩ hchild
        rw [mem_children, List.append_assoc] at hchild
        have hway := (horder.all (first ++ [child])).2 ⟨inside, hleft.known hchild⟩
        rcases List.mem_append.1 hway with hway | hway
        · have hkept := ((hleft.mem _).1 ((node?_eq_some_iff cur (by simp)).1 hchild)).2
          exact hkept (List.mem_map.2 ⟨_, hway, rfl⟩)
        · have hsorted := (List.pairwise_append.1 horder.sorted).2.1
          rcases List.mem_cons.1 hway with hself | hlater
          · simp at hself
          · exact not_comesFirst_append first child []
              ((List.pairwise_cons.1 hsorted).1 _ hlater)
      · rw [removal_of_ne _ hdirectory]
        exact ⟨_, hfirst.removeFile (hsame ▸ hinner) hdirectory⟩
    obtain ⟨after, hplain⟩ := hplain
    rw [removal_refusing] at hfault
    cases hrefused : refused (p.descend first) with
    | some fault' =>
      rw [hrefused] at hfault
      exact ⟨fault, by rw [Except.error.inj hfault], rfl⟩
    | none =>
      rw [hrefused] at hfault
      cases hplain.symm.trans hfault

/-- Clearing a path takes away a front of what is at and below it, contents first and siblings in
the order of their names, and nothing else. It succeeds when that front is everything. Otherwise it
names the next entry, which could not be removed, or a directory around that entry which could not
be listed; where the way to the path does not pass through what is there and no path is too long,
only a refused entry can be named. -/
theorem clearWith_prefix (refused : Path → Option IoFault)
    (hlink : fs.linkStatus p = .ok (location, node)) :
    (IsLost location ∧ ∃ fault,
        clearWith (.refusing refused) fs p = (.error (.notRemoved p fault), fs)) ∨
      ∃ done rest, ContentsFirst fs location (done ++ rest) ∧
        Left fs (done.map (location ++ ·)) (clearWith (.refusing refused) fs p).2 ∧
        (∀ way ∈ done, refused (p.descend way) = none) ∧
        EndsAt (.refusing refused) p location (clearWith (.refusing refused) fs p).2 rest
          (clearWith (.refusing refused) fs p).1 ∧
        ((∃ front name, p.EndsWith front (.name name)) → StandsApart fs p → FitsBelow fs p →
          ∀ first later, rest = first :: later → ∃ fault, refused (p.descend first) = some fault ∧
            (clearWith (.refusing refused) fs p).1 = .error (.notRemoved (p.descend first) fault)) := by
  rcases node?_of_linkStatus hlink with hnode | ⟨hlost, rfl⟩
  · obtain ⟨done, rest, hways, hleft, hdone, hend⟩ := clearWith_inPart refused hlink hnode
    have horder := ContentsFirst.of_node hnode (shallowerThan_entries fs location)
    rw [hways] at horder
    refine Or.inr ⟨done, rest, horder, hleft, hdone, hend, ?_⟩
    rintro ⟨front, name, hends⟩ happart hfits first later rfl
    exact refused_of_endsAt hends happart hfits hlink horder hleft hend
  · exact Or.inl ⟨hlost, clearWith_lost refused hlink hlost⟩

end Clearing

/-- A target with a directory between two files. -/
def stocked : FileSystem :=
  FileSystem.empty
    |>.add [] "gen" .directory
    |>.add ["gen"] "a" (.file [] plainMode)
    |>.add ["gen"] "b" .directory
    |>.add ["gen", "b"] "x" (.file [] plainMode)
    |>.add ["gen"] "c" (.file [] plainMode)

/-- A refusal of one directory. -/
def sparing (p : Path) : Option IoFault := if p = ⟨"gen/b"⟩ then some .permissionDenied else none

theorem stocked_prefix :
    stocked.linkStatus ⟨"gen"⟩ = .ok (["gen"], .directory) ∧
      ∃ done rest, ContentsFirst stocked ["gen"] (done ++ rest) ∧
        Left stocked (done.map (([Text.encode "gen"] : Location) ++ ·))
          (clearWith (.refusing sparing) stocked ⟨"gen"⟩).2 ∧
        EndsAt (.refusing sparing) ⟨"gen"⟩ ["gen"] (clearWith (.refusing sparing) stocked ⟨"gen"⟩).2
          rest (.error (.notRemoved ⟨"gen/b"⟩ .permissionDenied)) := by
  have hlink : stocked.linkStatus ⟨"gen"⟩ = .ok (["gen"], .directory) := by decide +kernel
  have hresult : (clearWith (.refusing sparing) stocked ⟨"gen"⟩).1
      = .error (.notRemoved ⟨"gen/b"⟩ .permissionDenied) := by decide +kernel
  refine ⟨hlink, ?_⟩
  rcases clearWith_prefix sparing hlink with ⟨hlost, -⟩ | ⟨done, rest, horder, hleft, -, hend, -⟩
  · exact absurd hlost (by decide)
  · exact ⟨done, rest, horder, hleft, hresult ▸ hend⟩

/-- A target that is reached through a link in it. -/
def knotted : FileSystem :=
  FileSystem.empty
    |>.add [] "gen" .directory
    |>.add ["gen"] "back" (.link ⟨".."⟩)
    |>.add ["gen"] "sub" .directory
    |>.add ["gen", "sub"] "x" (.file [] plainMode)

/-- When the link on the way is gone, it is not the next entry that is named but its directory. -/
theorem knotted_misnamed :
    knotted.linkStatus ⟨"gen/back/gen"⟩ = .ok (["gen"], .directory) ∧
      knotted.contentsFirst 5 ["gen"] .directory
        = ([["back"], ["sub", "x"], ["sub"], []] : List (List FileName)) ∧
      (clear knotted ⟨"gen/back/gen"⟩).2.entries.map Prod.fst
        = ([["gen"], ["gen", "sub"], ["gen", "sub", "x"]] : List Location) ∧
      ((clear knotted ⟨"gen/back/gen"⟩).2.removeFile ⟨"gen/back/gen/sub/x"⟩).map (fun _ => ())
        = .error .noSuchEntry ∧
      (clear knotted ⟨"gen/back/gen"⟩).1 = .error (.notRemoved ⟨"gen/back/gen/sub"⟩
        (.other "IO error for operation on gen/back/gen/sub: No such file or directory (os error 2)"))
      := by
  decide +kernel

end Target

end IdlBuild
