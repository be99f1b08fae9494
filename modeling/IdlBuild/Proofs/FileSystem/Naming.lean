import IdlBuild.Proofs.Paths.Trails

/-!
# Names of entries

`Names` says that a path is a name looked up in a directory that the rest of the path leads to. What
each request to the file system does at such a path depends only on what stands at that name.
-/

namespace IdlBuild.FileSystem

/-! ### Starts -/

theorem start_eq_ok_iff {fs : FileSystem} {p : Path} {start : Location} :
    fs.start p = .ok start ↔ nul ∉ p.bytes ∧ p.bytes ≠ [] ∧
      p.bytes.length < pathLimit ∧
      start = if p.isAbsolute then [] else fs.workingDirectory := by
  unfold FileSystem.start
  by_cases hnul : p.bytes.contains nul = true
  · rw [if_pos hnul]
    exact iff_of_false (by simp) fun h => h.1 (List.contains_iff_mem.1 hnul)
  rw [if_neg hnul]
  by_cases hempty : p.bytes.isEmpty = true
  · rw [if_pos hempty]
    exact iff_of_false (by simp) fun h => h.2.1 (List.isEmpty_iff.1 hempty)
  rw [if_neg hempty]
  by_cases hsize : pathLimit ≤ p.bytes.length
  · rw [if_pos hsize]
    exact iff_of_false (by simp) fun h => Nat.not_lt.2 hsize h.2.2.1
  rw [if_neg hsize]
  have hfits : nul ∉ p.bytes ∧ p.bytes ≠ [] ∧ p.bytes.length < pathLimit :=
    ⟨fun h => hnul (List.contains_iff_mem.2 h), fun h => hempty (List.isEmpty_iff.2 h),
      Nat.not_le.1 hsize⟩
  split_ifs
  · rw [Except.ok.injEq, eq_comm]
    exact ⟨fun h => ⟨hfits.1, hfits.2.1, hfits.2.2, h⟩, fun h => h.2.2.2⟩
  · rw [Except.ok.injEq, eq_comm]
    exact ⟨fun h => ⟨hfits.1, hfits.2.1, hfits.2.2, h⟩, fun h => h.2.2.2⟩

theorem start_of_isPrefix {fs : FileSystem} {p q : Path} {start : Location}
    (h : fs.start p = .ok start) (hne : q.bytes ≠ []) (hpre : q.bytes <+: p.bytes)
    (ha : q.isAbsolute = p.isAbsolute) : fs.start q = .ok start := by
  rw [start_eq_ok_iff] at h ⊢
  obtain ⟨hnul, -, hsize, hstart⟩ := h
  rw [ha]
  exact ⟨fun hmem => hnul (hpre.mem hmem), hne,
    Nat.lt_of_le_of_lt (hpre.length_le) hsize, hstart⟩

/-! ### Paths that say nothing -/

theorem follow_dots {fs : FileSystem} {followLast : Bool} {links : Nat} {directory : Location}
    {pieces : List FileName} (h : ∀ piece ∈ pieces, piece = [dot]) :
    fs.follow followLast links directory pieces = .ok (.found directory .directory) := by
  induction pieces with
  | nil => exact follow_nil
  | cons piece rest ih =>
    obtain ⟨rfl, hrest⟩ := List.forall_mem_cons.1 h
    rw [follow_here, ih hrest]

theorem steps_eq_or (p : Path) : steps p = p.named ∨ steps p = p.named ++ [[dot]] := by
  unfold steps Path.named
  dsimp only
  split_ifs
  · exact Or.inr rfl
  · exact Or.inl rfl

theorem steps_of_body_nil {p : Path} (h : p.body = []) : ∀ piece ∈ steps p, piece = [dot] := by
  have hnamed : ∀ piece ∈ p.named, piece = [dot] := by
    have hnone := Path.filter_named p.pieces
    rw [← Path.body, h, List.map_nil, List.filter_eq_nil_iff] at hnone
    intro piece hpiece
    simpa using hnone piece hpiece
  intro piece hpiece
  rcases steps_eq_or p with hsteps | hsteps
  · rw [hsteps] at hpiece
    exact hnamed piece hpiece
  · rw [hsteps] at hpiece
    rcases List.mem_append.1 hpiece with hpiece | hpiece
    · exact hnamed piece hpiece
    · exact List.mem_singleton.1 hpiece

/-- A path that says nothing leads to where it begins. -/
theorem locate_of_body_nil {p : Path} (h : p.body = []) (fs : FileSystem) (followLast : Bool) :
    fs.locate followLast p = (fs.start p).map (.found · .directory) := by
  unfold locate
  cases fs.start p with
  | error fault => rfl
  | ok start => exact follow_dots (steps_of_body_nil h)

theorem status_of_body_nil {p : Path} (h : p.body = []) (fs : FileSystem) :
    fs.status p = (fs.start p).map (·, .directory) := by
  unfold status
  rw [locate_of_body_nil h]
  cases fs.start p <;> rfl

theorem linkStatus_of_body_nil {p : Path} (h : p.body = []) (fs : FileSystem) :
    fs.linkStatus p = (fs.start p).map (·, .directory) := by
  unfold linkStatus
  rw [locate_of_body_nil h]
  cases fs.start p <;> rfl

/-! ### Paths that end with a piece that means something -/

section Ends

variable {fs : FileSystem} {p : Path} {front : List Component} {last : Component} {start : Location}

theorem locate_of_endsWith (h : p.EndsWith front last) (hstart : fs.start p = .ok start)
    (followLast : Bool) :
    fs.locate followLast p =
      fs.follow followLast linkLimit start (front.map Component.bytes ++ [last.bytes]) := by
  obtain ⟨init, hnamed, hinit⟩ := h.named_eq
  unfold locate
  rw [hstart, h.steps_eq, hnamed, ← hinit]
  exact (Dotted.of_filter init (by simp)).follow_eq fs followLast linkLimit start

theorem locateLast_of_endsWith (h : p.EndsWith front last) (hstart : fs.start p = .ok start) :
    fs.locateLast p =
      match fs.follow true linkLimit start (front.map Component.bytes ++ [[dot]]) with
      | .error fault => .error fault
      | .ok (.found location .directory) =>
        if last.bytes = [dot, dot] then .ok (location, .up)
        else if IsLost location then .error .noSuchEntry
        else if nameLimit < last.bytes.length then .error .nameTooLong
        else .ok (location, .name last.bytes)
      | .ok (.found ..) => .error .notDirectory
      | .ok (.vacant ..) => .error .noSuchEntry := by
  obtain ⟨init, hnamed, hinit⟩ := h.named_eq
  have hfollow : fs.follow true linkLimit start (init ++ [[dot]])
      = fs.follow true linkLimit start (front.map Component.bytes ++ [[dot]]) := by
    rw [← hinit]
    exact (Dotted.of_filter init (by simp)).follow_eq fs true linkLimit start
  unfold Path.named at hnamed
  unfold locateLast
  simp only [bind, Except.bind, hstart, hnamed, List.getLast?_append, List.getLast?_singleton,
    Option.some_or, List.dropLast_concat, hfollow, h.bytes_ne.2, if_false]
  rcases fs.follow true linkLimit start (front.map Component.bytes ++ [[dot]]) with
    fault | ⟨location, node⟩ | ⟨directory, name⟩
  · rfl
  · cases node <;> rfl
  · rfl

theorem locateLast_of_leads (h : p.EndsWith front last) (hstart : fs.start p = .ok start)
    {links : Nat} {directory : Location}
    (hleads : Leads fs linkLimit start (front.map Component.bytes) links directory)
    (hd : fs.IsDirectory directory) (hsize : last.bytes.length ≤ nameLimit) :
    fs.locateLast p =
      .ok (directory, if last.bytes = [dot, dot] then .up else .name last.bytes) := by
  rw [locateLast_of_endsWith h hstart, follow_of_leads hleads (Or.inr rfl), follow_here, follow_nil]
  simp only [hd.not_isLost, Nat.not_lt.2 hsize, if_false]
  split_ifs <;> rfl

end Ends

/-! ### Names in directories -/

/-- Whether a path is a name looked up in a directory. -/
structure Names (fs : FileSystem) (p : Path) (directory : Location) (name : FileName) : Prop where
  isName : IsName name
  isDirectory : fs.IsDirectory directory
  found : ∃ front start links, p.EndsWith front (.name name) ∧ fs.start p = .ok start ∧
    Leads fs linkLimit start (front.map Component.bytes) links directory

theorem isPlain_of_isName {name : FileName} (h : IsName name) : Path.IsPlain name :=
  ⟨h.1, h.2.1, h.2.2.1, h.2.2.2.1⟩

/-- A name behind a path that ends with one takes a slash and its own bytes. -/
theorem bytes_join_name {p : Path} {name : FileName} (hne : p.bytes ≠ [])
    (hslash : p.endsWithSlash = false) (hname : Path.IsPlain name) :
    (p.join ⟨name⟩).bytes = p.bytes ++ [slash] ++ name ∧
      (p.join ⟨name⟩).bytes.length = p.bytes.length + (name.length + 1) := by
  have hbytes : (p.join ⟨name⟩).bytes = p.bytes ++ [slash] ++ name := by
    simp [Path.join, Path.isAbsolute_of_isPlain hname, hne, hslash]
  refine ⟨hbytes, ?_⟩
  rw [hbytes, List.length_append, List.length_append, List.length_singleton]
  omega

theorem start_join_name {fs : FileSystem} {p : Path} {start : Location} {name : FileName}
    (hstart : fs.start p = .ok start) (hslash : p.endsWithSlash = false) (hname : IsName name)
    (hsize : p.bytes.length + (name.length + 1) < pathLimit) :
    fs.start (p.join ⟨name⟩) = .ok start := by
  have hplain := isPlain_of_isName hname
  rw [start_eq_ok_iff] at hstart
  obtain ⟨hnul, hne, -, hstart⟩ := hstart
  obtain ⟨hbytes, hlength⟩ := bytes_join_name hne hslash hplain
  refine start_eq_ok_iff.2 ⟨?_, Path.bytes_join_ne_nil p hname.1, hlength ▸ hsize, ?_⟩
  · rw [hbytes]
    intro hmem
    rcases List.mem_append.1 hmem with hmem | hmem
    · rcases List.mem_append.1 hmem with hmem | hmem
      · exact hnul hmem
      · exact absurd hmem (by decide)
    · exact hname.2.2.2.2.1 hmem
  · rw [Path.isAbsolute_join hne (Path.isAbsolute_of_isPlain hplain), hstart]

namespace Names

variable {fs fs' : FileSystem} {p : Path} {directory : Location} {name : FileName}

theorem inside (h : Names fs p directory name)
    (hnode : fs.node? (directory ++ [name]) = some .directory) {child : FileName}
    (hchild : IsName child)
    (hsize : p.bytes.length + (child.length + 1) < pathLimit) :
    Names fs (p.join ⟨child⟩) (directory ++ [name]) child := by
  obtain ⟨front, start, links, hends, hstart, hleads⟩ := h.found
  have hstart' := start_join_name hstart hends.endsWithSlash hchild hsize
  refine ⟨hchild, (isDirectory_iff fs _).2 hnode, _, start, links,
    p.endsWith_join_name (isPlain_of_isName hchild), hstart', ?_⟩
  rw [hends.body, List.map_append]
  exact hleads.append (.into hnode)

theorem length_join (h : Names fs p directory name) {child : FileName}
    (hchild : Path.IsPlain child) :
    (p.join ⟨child⟩).bytes.length = p.bytes.length + (child.length + 1) := by
  obtain ⟨front, start, links, hends, -, -⟩ := h.found
  exact (bytes_join_name hends.bytes_ne_nil hends.endsWithSlash hchild).2

theorem mono (hkept : KeptIn fs fs') (h : Names fs p directory name) :
    Names fs' p directory name := by
  obtain ⟨front, start, links, hends, hstart, hleads⟩ := h.found
  exact ⟨h.isName, hkept.isDirectory h.isDirectory, front, start, links, hends,
    (hkept.start p).trans hstart, hleads.mono hkept⟩

theorem locateLast (h : Names fs p directory name) :
    fs.locateLast p = .ok (directory, .name name) := by
  obtain ⟨front, start, links, hends, hstart, hleads⟩ := h.found
  have hlast := locateLast_of_leads hends hstart hleads h.isDirectory h.isName.2.2.2.2.2
  rwa [Component.bytes, if_neg h.isName.2.2.1] at hlast

theorem hasTrailingSlash (h : Names fs p directory name) :
    FileSystem.hasTrailingSlash p = false := by
  obtain ⟨front, start, links, hends, -, -⟩ := h.found
  exact hends.endsWithSlash

/-! #### Looking -/

theorem linkStatus (h : Names fs p directory name) :
    fs.linkStatus p =
      match fs.node? (directory ++ [name]) with
      | some node => .ok (directory ++ [name], node)
      | none => .error .noSuchEntry := by
  obtain ⟨front, start, links, hends, hstart, hleads⟩ := h.found
  unfold FileSystem.linkStatus
  rw [locate_of_endsWith hends hstart, follow_of_leads hleads (Or.inl (by simp)), Component.bytes,
    follow_last h.isName h.isDirectory.not_isLost]
  cases fs.node? (directory ++ [name]) <;> rfl

theorem status_of_directory (h : Names fs p directory name)
    (hnode : fs.node? (directory ++ [name]) = some .directory) :
    fs.status p = .ok (directory ++ [name], .directory) := by
  obtain ⟨front, start, links, hends, hstart, hleads⟩ := h.found
  unfold FileSystem.status
  rw [locate_of_endsWith hends hstart, follow_of_leads hleads (Or.inr rfl), Component.bytes,
    follow_into hnode, follow_nil]
  rfl

theorem readDirectory (h : Names fs p directory name)
    (hnode : fs.node? (directory ++ [name]) = some .directory) :
    fs.readDirectory p = .ok (fs.children (directory ++ [name])) := by
  unfold FileSystem.readDirectory
  rw [h.status_of_directory hnode]
  rfl

/-! #### Changing -/

theorem makeDirectory (h : Names fs p directory name)
    (hnode : fs.node? (directory ++ [name]) = none) :
    fs.makeDirectory p = .ok (fs.add directory name .directory) := by
  unfold FileSystem.makeDirectory
  simp only [h.locateLast, bind, Except.bind, hnode]
  rfl

theorem removeFile (h : Names fs p directory name) {node : Node}
    (hnode : fs.node? (directory ++ [name]) = some node) (hne : node ≠ .directory) :
    fs.removeFile p = .ok (fs.erase (directory ++ [name])) := by
  unfold FileSystem.removeFile
  simp only [h.locateLast, bind, Except.bind, hnode, h.hasTrailingSlash]
  cases node with
  | directory => exact absurd rfl hne
  | file content mode => rfl
  | link target => rfl

theorem removeDirectory (h : Names fs p directory name)
    (hnode : fs.node? (directory ++ [name]) = some .directory)
    (hempty : fs.children (directory ++ [name]) = []) :
    fs.removeDirectory p = .ok (fs.erase (directory ++ [name])) := by
  unfold FileSystem.removeDirectory
  simp only [h.locateLast, bind, Except.bind, hnode, hempty]
  rfl

end Names

end IdlBuild.FileSystem
