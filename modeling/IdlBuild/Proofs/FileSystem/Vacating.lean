import IdlBuild.Proofs.FileSystem.Writing

/-!
# Vacated paths

A file or a link that is at a path can be removed there, and then nothing is at the path
(`removeFile_of_linkStatus`, `erase_vacated`). File systems that differ only in such an entry
are the same once it is gone (`vacated`).
-/

namespace IdlBuild.FileSystem

variable {fs fs' : FileSystem} {p : Path} {location directory : Location} {name : FileName}
  {node : Node} {fault : IoFault}

/-! ### Looking a last name up -/

theorem locateLast_of_named {start : Location} {init : List FileName} {piece : FileName}
    (hstart : fs.start p = .ok start) (hnamed : p.named = init ++ [piece]) :
    fs.locateLast p =
      match fs.follow true linkLimit start (init ++ [[dot]]) with
      | .error fault => .error fault
      | .ok (.found location .directory) =>
        if piece = [dot] then .ok (location, .here)
        else if piece = [dot, dot] then .ok (location, .up)
        else if IsLost location then .error .noSuchEntry
        else if nameLimit < piece.length then .error .nameTooLong
        else .ok (location, .name piece)
      | .ok (.found ..) => .error .notDirectory
      | .ok (.vacant ..) => .error .noSuchEntry := by
  have hpieces : (p.pieces.filter (· ≠ [])) = p.named := rfl
  unfold locateLast
  simp only [bind, Except.bind, hstart, hpieces, hnamed, List.getLast?_append,
    List.getLast?_singleton, Option.some_or, List.dropLast_concat]
  rcases fs.follow true linkLimit start (init ++ [[dot]]) with
    fault | ⟨location, node⟩ | ⟨vacant, name'⟩
  · rfl
  · cases node <;> rfl
  · rfl

theorem LooksUp.locateLast (h : LooksUp fs p directory name) :
    fs.locateLast p = .ok (directory, .name name) := by
  obtain ⟨start, links, init, hstart, hnamed, hleads⟩ := h.found
  rw [locateLast_of_named hstart hnamed, follow_of_leads hleads (Or.inr rfl), follow_here,
    follow_nil]
  simp only [h.ne_dots.1, h.ne_dots.2, h.standing, Nat.not_lt.2 h.size, if_false]

/-- Behind a dot there is a directory. -/
theorem directory_of_follow_here {followLast : Bool} {links : Nat} {pieces : List FileName}
    {place : Place} (h : fs.follow followLast links directory (pieces ++ [[dot]]) = .ok place) :
    ∃ location, place = .found location .directory := by
  rcases leads_or_error fs links directory pieces with ⟨left, last, hleads⟩ | ⟨fault, herror⟩
  · rw [follow_of_leads hleads (Or.inl (by simp)), follow_here, follow_nil] at h
    cases h
    exact ⟨last, rfl⟩
  · rw [herror followLast _ (by simp)] at h
    cases h

/-- What is at a path is there under the path's last name; only a directory is there when the path
says nothing or ends with dots. -/
theorem looksUp_of_follow {start : Location} {followLast : Bool} {node : Node}
    (hstart : fs.start p = .ok start)
    (h : fs.follow followLast linkLimit start (steps p) = .ok (.found location node)) :
    (node = .directory ∧ ∃ last, fs.locateLast p = .ok last ∧ ∀ name, last.2 ≠ .name name) ∨
      ∃ directory name node', LooksUp fs p directory name ∧
        fs.node? (directory ++ [name]) = some node' := by
  obtain ⟨tail, hsteps, htail⟩ := exists_steps_eq p
  have hdots : ∀ piece ∈ tail, piece = [dot] := by
    rcases htail with rfl | rfl <;> simp
  rw [hsteps] at h
  cases hnamed : p.named using List.reverseRecOn with
  | nil =>
    have hpieces : (p.pieces.filter (· ≠ [])) = p.named := rfl
    rw [hnamed, List.nil_append, follow_dots hdots] at h
    cases h
    refine Or.inl ⟨rfl, ([], .root), ?_, by simp⟩
    unfold locateLast
    simp only [bind, Except.bind, hstart, hpieces, hnamed, List.getLast?_nil]
    rfl
  | append_singleton init piece =>
    rw [hnamed, List.append_assoc] at h
    rcases leads_or_error fs linkLimit start init with ⟨links, directory, hleads⟩ | ⟨fault, herror⟩
    swap
    · rw [herror followLast _ (by simp)] at h
      cases h
    have hlast := locateLast_of_named hstart hnamed
    rw [follow_of_leads hleads (Or.inr rfl), follow_here, follow_nil] at hlast
    rw [follow_of_leads hleads (Or.inl (by simp)), List.singleton_append, follow_cons] at h
    by_cases hdot : piece = [dot]
    · rw [if_pos hdot, follow_dots hdots] at h
      cases h
      exact Or.inl ⟨rfl, (location, .here), by simpa [hdot] using hlast, by simp⟩
    by_cases hup : piece = [dot, dot]
    · rw [if_neg hdot, if_pos hup, follow_dots hdots] at h
      cases h
      exact Or.inl ⟨rfl, (directory, .up), by simpa [hup] using hlast, by simp⟩
    by_cases hlost : IsLost directory
    · rw [if_neg hdot, if_neg hup, if_pos hlost] at h
      cases h
    by_cases hsize : nameLimit < piece.length
    · rw [if_neg hdot, if_neg hup, if_neg hlost, if_pos hsize] at h
      cases h
    rw [if_neg hdot, if_neg hup, if_neg hlost, if_neg hsize] at h
    refine Or.inr ⟨directory, piece, ?_⟩
    cases hnode : fs.node? (directory ++ [piece]) with
    | none =>
      by_cases hrest : tail = []
      · simp only [hnode, if_pos hrest] at h
        cases h
      · simp only [hnode, if_neg hrest] at h
        cases h
    | some node' =>
      exact ⟨node', ⟨⟨hdot, hup⟩, Nat.not_lt.1 hsize, hlost, start, links, init, hstart, hnamed,
        hleads⟩, rfl⟩

/-! ### Removing what is at a path -/

theorem removeFile_of_looksUp (h : LooksUp fs p directory name) :
    fs.removeFile p =
      match fs.node? (directory ++ [name]) with
      | none => .error .noSuchEntry
      | some .directory => .error .isDirectory
      | some _ =>
        if p.endsWithSlash then .error .notDirectory else .ok (fs.erase (directory ++ [name])) := by
  unfold removeFile
  simp only [h.locateLast, bind, Except.bind]
  cases fs.node? (directory ++ [name]) with
  | none => rfl
  | some node => cases node <;> rfl

/-- Where something is, a removal does not fail for want of an entry. -/
theorem isMissing_of_removeFile {e : Location × Node} (hlink : fs.linkStatus p = .ok e)
    (hremove : fs.removeFile p = .error fault) : fault.isMissing = false := by
  obtain ⟨start, hstart, hfollow⟩ := linkStatus_eq_ok hlink
  rcases looksUp_of_follow hstart hfollow with
    ⟨-, ⟨directory, last⟩, hlast, hname⟩ | ⟨directory, name, node, hlook, hnode⟩
  · unfold removeFile at hremove
    simp only [hlast, bind, Except.bind] at hremove
    cases last with
    | name name => exact absurd rfl (hname name)
    | root =>
      cases hremove
      decide
    | here =>
      cases hremove
      decide
    | up =>
      cases hremove
      decide
  · rw [removeFile_of_looksUp hlook, hnode] at hremove
    cases node with
    | directory =>
      cases hremove
      decide
    | file content mode =>
      dsimp only at hremove
      split_ifs at hremove
      cases hremove
      decide
    | link target =>
      dsimp only at hremove
      split_ifs at hremove
      cases hremove
      decide

/-- A file or a link at a path is there under the path's last name, and can be removed. -/
theorem removeFile_of_linkStatus (hlink : fs.linkStatus p = .ok (location, node))
    (hne : node ≠ .directory) :
    ∃ directory name, LooksUp fs p directory name ∧ location = directory ++ [name] ∧
      fs.node? location = some node ∧ fs.removeFile p = .ok (fs.erase location) := by
  obtain ⟨start, hstart, hfollow⟩ := linkStatus_eq_ok hlink
  rcases looksUp_of_follow hstart hfollow with ⟨hdirectory, -⟩ | ⟨directory, name, node', hlook, hnode⟩
  · exact absurd hdirectory hne
  have hslash : p.endsWithSlash = false := by
    rcases steps_eq_or p with hsteps | hsteps
    · obtain ⟨-, -, init, -, hnamed, -⟩ := hlook.found
      by_contra hne'
      have hslash : p.endsWithSlash = true := by simpa using hne'
      have hempty : p.named.isEmpty = false := by simp [hnamed]
      have hdotted : steps p = p.named ++ [[dot]] := by
        have hpieces : (p.pieces.filter (· ≠ [])) = p.named := rfl
        unfold steps
        simp only [hpieces, hslash, hempty]
        rfl
      rw [hsteps] at hdotted
      simp at hdotted
    · rw [hsteps] at hfollow
      obtain ⟨location', hplace⟩ := directory_of_follow_here hfollow
      cases hplace
      exact absurd rfl hne
  obtain ⟨start', links, init, hstart', hnamed, hleads⟩ := hlook.found
  rw [hstart] at hstart'
  cases hstart'
  rw [steps_eq_named hslash, hnamed, follow_of_leads hleads (Or.inl (by simp)),
    follow_last (isName_of_node hnode).1 hlook.standing, hnode] at hfollow
  cases hfollow
  refine ⟨directory, name, hlook, rfl, hnode, ?_⟩
  rw [removeFile_of_looksUp hlook, hnode, hslash]
  cases node with
  | directory => exact absurd rfl hne
  | file content mode => rfl
  | link target => rfl

/-- What a removal takes away is the file or the link at the path. -/
theorem linkStatus_of_removeFile (h : fs.removeFile p = .ok fs') :
    ∃ location node, fs.linkStatus p = .ok (location, node) ∧ node ≠ .directory ∧
      fs' = fs.erase location := by
  obtain ⟨directory, name, node, hlast, hnode, hne, hslash, rfl⟩ := removeFile_eq_ok h
  have hlook := looksUp_of_locateLast hlast
  obtain ⟨start, links, init, hstart, hnamed, hleads⟩ := hlook.found
  refine ⟨_, node, ?_, hne, rfl⟩
  unfold linkStatus
  rw [locate_of_start hstart, steps_eq_named hslash, hnamed, follow_of_leads hleads
    (Or.inl (by simp)), follow_last (isName_of_node hnode).1 hlook.standing, hnode]
  rfl

/-! ### File systems with nothing at a path -/

/-- The file system without the file or the link that is at a path, if there is one. -/
def vacated (fs : FileSystem) (p : Path) : FileSystem :=
  match fs.linkStatus p with
  | .ok (location, .file _ _) | .ok (location, .link _) => fs.erase location
  | _ => fs

theorem vacated_eq_erase (hlink : fs.linkStatus p = .ok (location, node)) (hne : node ≠ .directory) :
    fs.vacated p = fs.erase location := by
  unfold vacated
  rw [hlink]
  cases node with
  | directory => exact absurd rfl hne
  | file content mode => rfl
  | link target => rfl

theorem vacated_eq_or (fs : FileSystem) (p : Path) :
    fs.vacated p = fs ∨ ∃ location node, fs.linkStatus p = .ok (location, node) ∧
      node ≠ .directory ∧ fs.vacated p = fs.erase location := by
  rcases hlink : fs.linkStatus p with fault | ⟨location, node⟩
  · exact Or.inl (by simp [vacated, hlink])
  · by_cases hne : node = .directory
    · subst hne
      exact Or.inl (by simp [vacated, hlink])
    · exact Or.inr ⟨location, node, rfl, hne, vacated_eq_erase hlink hne⟩

theorem workingDirectory_erase (hnode : fs.node? location = some node) (hne : node ≠ .directory) :
    (fs.erase location).workingDirectory = fs.workingDirectory := by
  unfold erase
  split
  · dsimp only
    rw [if_neg]
    intro hstanding
    have hdirectory := (isDirectory_iff fs location).1 (hstanding ▸ fs.placed.1)
    rw [hnode] at hdirectory
    exact hne (Option.some.inj hdirectory)
  · rfl

theorem keptIn_erase (hnode : fs.node? location = some node) (hne : node ≠ .directory) :
    KeptIn (fs.erase location) fs where
  node {other found} hfound := by
    by_cases hroot : other = []
    · subst hroot
      exact hfound
    · rw [node?_eq_some_iff _ hroot] at hfound ⊢
      exact mem_of_mem_erase hfound
  workingDirectory := (workingDirectory_erase hnode hne).symm

theorem node?_erase (hnode : fs.node? location = some node) (hne : node ≠ .directory) :
    (fs.erase location).node? location = none := by
  have hroot : location ≠ [] := by
    rintro rfl
    exact hne (Option.some.inj hnode).symm
  have hinside : ∀ e ∈ fs.entries, e.1.dropLast ≠ location := by
    intro e he hup
    rcases (fs.rooted e he).2 with hnil | hmem
    · exact hroot (hup.symm.trans hnil)
    · rw [hup, ← node?_eq_some_iff _ hroot, hnode] at hmem
      exact hne (Option.some.inj hmem)
  unfold erase
  rw [dif_pos ⟨hroot, hinside⟩, node?_eq_none_iff]
  refine ⟨hroot, fun hmem => ?_⟩
  obtain ⟨e, he, hsame⟩ := List.mem_map.1 hmem
  have hother := (List.mem_filter.1 he).2
  rw [bne_iff_ne] at hother
  exact hother hsame

/-- Nothing is at a path from which the entry was removed, and a removal finds nothing there. -/
theorem erase_vacated (hlink : fs.linkStatus p = .ok (location, node)) (hne : node ≠ .directory) :
    (fs.erase location).linkStatus p = .error .noSuchEntry ∧
      (fs.erase location).removeFile p = .error .noSuchEntry := by
  obtain ⟨directory, name, hlook, hlocation, hnode, -⟩ := removeFile_of_linkStatus hlink hne
  have hkept := keptIn_erase hnode hne
  have hgone := node?_erase hnode hne
  have hlost : (fs.erase location).linkStatus p = .error .noSuchEntry := by
    rcases linkStatus_mono hkept p with hmissing | hsame
    · exact hmissing
    · rw [hlink] at hsame
      obtain ⟨-, -, -, -, hthere, -⟩ := removeFile_of_linkStatus hsame.symm hne
      rw [hgone] at hthere
      cases hthere
  refine ⟨hlost, ?_⟩
  obtain ⟨start, links, init, hstart, hnamed, hleads⟩ := hlook.found
  have hstart' : (fs.erase location).start p = .ok start := by rw [← hkept.start, hstart]
  have hlast := locateLast_of_named hstart' hnamed
  unfold removeFile
  -- the way to the entry is lost with it, or it leads where it led
  rcases follow_mono hkept true linkLimit start (init ++ [[dot]]) with
    hmissing | ⟨vacant, name', hvacant⟩ | hsame
  · rw [hmissing] at hlast
    simp only [hlast, bind, Except.bind]
  · rw [hvacant] at hlast
    simp only [hlast, bind, Except.bind]
  · rw [← hsame, follow_of_leads hleads (Or.inr rfl), follow_here, follow_nil] at hlast
    simp only [hlook.ne_dots.1, hlook.ne_dots.2, hlook.standing, Nat.not_lt.2 hlook.size,
      if_false] at hlast
    simp only [hlast, bind, Except.bind, ← hlocation, hgone]
    rfl

end IdlBuild.FileSystem
