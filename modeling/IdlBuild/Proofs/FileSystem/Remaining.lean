import IdlBuild.Proofs.FileSystem.Alike
import IdlBuild.Proofs.FileSystem.Shrinking

/-!
# What remains

`Left` says which file system remains when the entries at some locations are gone. A path that can
still be followed leads to where it led before, as long as that is still there
(`Left.location_of_status`), and a directory with nothing gone inside lists what it listed before
(`Left.sortedByName_children`).
-/

namespace IdlBuild.FileSystem

/-! ### Working directories -/

/-- What is lost behind a directory is not in front of it. -/
theorem isPrefix_standing {directory location : Location} (h : directory <+: location)
    (hproper : ∀ name ∈ directory, name ≠ []) : directory <+: standing location := by
  obtain ⟨rest, rfl⟩ := h
  rw [standing, List.takeWhile_append_of_pos (by simpa using hproper)]
  exact List.prefix_append _ _

theorem Remnant.length_eq {before after : Location} (h : Remnant before after) :
    after.length = before.length := by
  obtain ⟨front, back, rfl, rfl⟩ := h
  simp

/-- Whether a location is what remains of another: the innermost of its directories may be lost, but
none that is still there. -/
structure Remains (cur : FileSystem) (before after : Location) : Prop where
  remnant : Remnant before after
  standing : ∀ directory, directory <+: before → cur.IsDirectory directory → directory <+: after

namespace Remains

variable {cur : FileSystem} {before after location : Location}

theorem refl (cur : FileSystem) (location : Location) : Remains cur location location :=
  ⟨.rfl, fun _ h _ => h⟩

theorem dropLast (h : Remains cur before after) : Remains cur before.dropLast after.dropLast := by
  refine ⟨h.remnant.dropLast, fun directory hpre hd => ?_⟩
  have hwhole := h.standing directory (hpre.trans (List.dropLast_prefix _)) hd
  have hlength := hpre.length_le
  refine List.prefix_of_prefix_length_le hwhole (List.dropLast_prefix _) ?_
  rwa [List.length_dropLast, h.remnant.length_eq, ← List.length_dropLast]

theorem eq_of_isDirectory (h : Remains cur before after) (hd : cur.IsDirectory before) :
    after = before :=
  ((h.standing before List.prefix_rfl hd).eq_of_length h.remnant.length_eq.symm).symm

end Remains

/-! ### File systems without some entries -/

/-- What holds of the file system that is left when the entries at some locations are gone. -/
structure Left (fs : FileSystem) (gone : List Location) (cur : FileSystem) : Prop where
  mem : ∀ e, e ∈ cur.entries ↔ e ∈ fs.entries ∧ e.1 ∉ gone
  workingDirectory : Remains cur fs.workingDirectory cur.workingDirectory

namespace Left

variable {fs cur : FileSystem} {gone : List Location} {location before after here : Location}
  {links links' left : Nat} {piece : FileName} {more pieces : List FileName} {p : Path} {node : Node}

theorem refl (fs : FileSystem) : Left fs [] fs :=
  ⟨fun e => by simp, .refl fs _⟩

theorem node?_eq (h : Left fs gone cur) (hkept : location ∉ gone) :
    cur.node? location = fs.node? location :=
  node?_congr fun node => (h.mem (location, node)).trans (and_iff_left hkept)

theorem known (h : Left fs gone cur) (hnode : cur.node? location = some node) :
    fs.node? location = some node := by
  by_cases hroot : location = []
  · subst hroot
    exact hnode
  · rw [node?_eq_some_iff _ hroot] at hnode ⊢
    exact ((h.mem _).1 hnode).1

theorem pruned (h : Left fs gone cur) : Pruned fs [] cur :=
  ⟨fun e he => ((h.mem e).1 he).1, fun _ _ hout => absurd List.nil_prefix hout,
    h.workingDirectory.remnant⟩

theorem erase (h : Left fs gone cur) (hroot : location ≠ []) (hleaf : cur.IsLeaf location) :
    Left fs (gone ++ [location]) (cur.erase location) := by
  have hinside : ∀ e ∈ cur.entries, e.1.dropLast ≠ location := by
    intro e he hup
    have hsame := hleaf e he (hup ▸ List.dropLast_prefix e.1)
    have hlength := congrArg List.length (hup.trans hsame)
    have hpos := List.length_pos_iff.2 (cur.rooted e he).1
    rw [List.length_dropLast] at hlength
    omega
  have hmem : ∀ e, e ∈ (cur.erase location).entries ↔ e ∈ cur.entries ∧ e.1 ≠ location := by
    intro e
    unfold FileSystem.erase
    rw [dif_pos ⟨hroot, hinside⟩]
    simp [List.mem_filter]
  refine ⟨fun e => ?_, h.workingDirectory.remnant.trans (remnant_erase cur location),
    fun directory hpre hd => ?_⟩
  · rw [hmem, h.mem, List.mem_append, List.mem_singleton, not_or, and_assoc]
  · -- a directory that is still there was there before the erasing, and is not what was erased
    have hd' : cur.IsDirectory directory := hd.imp_right fun he => ((hmem _).1 he).1
    have hstill := h.workingDirectory.standing directory hpre hd'
    have hproper : ∀ name ∈ directory, name ≠ [] := fun name hname =>
      (cur.isName_of_mem_directory hd' hname).1
    have hne : directory ≠ location := by
      rcases hd with rfl | he
      · exact hroot.symm
      · exact ((hmem _).1 he).2
    unfold FileSystem.erase
    rw [dif_pos ⟨hroot, hinside⟩]
    dsimp only
    split_ifs with hstanding
    · have hfront : directory <+: location := by
        rw [← hstanding]
        exact isPrefix_standing hstill hproper
      refine List.IsPrefix.trans ?_ (List.prefix_append _ _)
      have hlength : directory.length < location.length :=
        lt_of_le_of_ne hfront.length_le fun hsame => hne (hfront.eq_of_length hsame)
      refine List.prefix_of_prefix_length_le hfront (List.dropLast_prefix _) ?_
      rw [List.length_dropLast]
      omega
    · exact hstill

/-! #### Following -/

theorem start (h : Left fs gone cur) (hstart : cur.start p = .ok after) :
    ∃ before, fs.start p = .ok before ∧ Remains cur before after := by
  obtain ⟨hnul, hne, hsize, rfl⟩ := start_eq_ok_iff.1 hstart
  refine ⟨_, start_eq_ok_iff.2 ⟨hnul, hne, hsize, rfl⟩, ?_⟩
  split_ifs
  · exact .refl cur _
  · exact h.workingDirectory

theorem passes (h : Left fs gone cur) (hremains : Remains cur before after)
    (hpass : Passes cur links after piece links' location more) :
    ∃ location', Passes fs links before piece links' location' more ∧
      Remains cur location' location := by
  cases hpass with
  | here => exact ⟨before, .here, hremains⟩
  | up => exact ⟨before.dropLast, .up, hremains.dropLast⟩
  | into hnode =>
    -- an entry is found only in a directory that is still there
    obtain rfl := hremains.remnant.eq_of_not_isLost
      (not_isLost_of_isName (isName_of_node hnode).2)
    exact ⟨_, .into (h.known hnode), .refl cur _⟩
  | through hnode =>
    obtain rfl := hremains.remnant.eq_of_not_isLost
      (not_isLost_of_isName (isName_of_node hnode).2)
    exact ⟨_, .through (h.known hnode), .refl cur _⟩

theorem leads (h : Left fs gone cur) (hremains : Remains cur before after)
    (hleads : Leads cur links after pieces left location) :
    ∃ location', Leads fs links before pieces left location' ∧ Remains cur location' location := by
  induction hleads generalizing before with
  | done => exact ⟨before, .done, hremains⟩
  | pass hpass hrest ih =>
    obtain ⟨middle, hpass', hmiddle⟩ := h.passes hremains hpass
    obtain ⟨location', hrest', hlocation⟩ := ih hmiddle
    exact ⟨location', .pass hpass' hrest', hlocation⟩

/-- A path that leads to a directory leads to the one that it led to before, if that is there. -/
theorem location_of_status (h : Left fs gone cur) (hpoints : Points fs p location)
    (hthere : cur.IsDirectory location) (hstatus : cur.status p = .ok (here, .directory)) :
    here = location := by
  obtain ⟨start, links, hstart, hleads⟩ := leads_of_status_directory hstatus
  obtain ⟨before, hbefore, hremains⟩ := h.start hstart
  obtain ⟨location', hleads', hlocation⟩ := h.leads hremains hleads
  obtain ⟨links', hpoints⟩ := hpoints.leads before hbefore
  obtain rfl := hleads'.unique hpoints
  exact hlocation.eq_of_isDirectory hthere

/-! #### Listing -/

theorem sortedByName_children (h : Left fs gone cur) (hkept : ∀ g ∈ gone, ¬ location <+: g) :
    sortedByName (cur.children location) = sortedByName (fs.children location) := by
  refine sortedByName_congr ?_ (nodup_children cur location)
  rw [List.perm_ext_iff_of_nodup (nodup_children cur location).of_map
    (nodup_children fs location).of_map]
  rintro ⟨name, node⟩
  have hout : location ++ [name] ∉ gone := fun hgone => hkept _ hgone (List.prefix_append _ _)
  rw [mem_children, mem_children, h.node?_eq hout]

/-- The working directory is the same when what is gone is all at or below another place. -/
theorem workingDirectory_eq (h : Left fs gone cur) (hgone : ∀ g ∈ gone, location <+: g)
    (hout : ¬ location <+: fs.workingDirectory) :
    cur.workingDirectory = fs.workingDirectory := by
  have hfallen := fs.placed.2
  -- what stands of the working directory stands still
  have hstill : standing fs.workingDirectory <+: cur.workingDirectory := by
    refine h.workingDirectory.standing _ (List.takeWhile_prefix _) ?_
    refine fs.placed.1.imp_right fun he => (h.mem _).2 ⟨he, fun hg => ?_⟩
    exact hout ((hgone _ hg).trans (List.takeWhile_prefix _))
  obtain ⟨front, back, hbefore, hafter⟩ := h.workingDirectory.remnant
  rw [← standing_append_fallen fs.workingDirectory, List.append_eq_append_iff] at hbefore
  rcases hbefore with ⟨more, hfront, hback⟩ | ⟨more, hfront, hback⟩
  · have hlost : ∀ name ∈ back, name = [] := fun name hname =>
      hfallen name (hback ▸ List.mem_append_right _ hname)
    rw [hafter, map_empty_of_lost hlost, hfront, List.append_assoc, ← hback,
      standing_append_fallen]
  · rw [hafter, hback, List.map_append, map_empty_of_lost hfallen, hfront,
      List.prefix_append_right_inj] at hstill
    have hmore := List.prefix_iff_eq_take.1 hstill
    rw [List.take_left' (by simp)] at hmore
    rw [hafter, hback, List.map_append, map_empty_of_lost hfallen, ← hmore, ← List.append_assoc,
      ← hfront, standing_append_fallen]

end Left

end IdlBuild.FileSystem
