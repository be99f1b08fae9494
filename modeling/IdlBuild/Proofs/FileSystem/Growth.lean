import IdlBuild.Proofs.FileSystem.Naming
import IdlBuild.Proofs.FileSystem.Without

/-!
# Making directories

Where every ancestor of a path that is there is a directory, and none that goes up is missing, a
path either leads to a directory or nothing is there (`leads_or_missing`). In the second case making
the directory with its parents succeeds, and adds nothing but the directories of the path and of the
ancestors that were missing (`makeDirectoriesWithin_of_missing`).
-/

namespace IdlBuild.FileSystem

open IdlBuild.Path (Ancestor)

/-! ### Adding an entry -/

section Add

variable {fs : FileSystem} {directory : Location} {name : FileName} {node : Node}

theorem not_prefix_of_node (h : fs.node? (directory ++ [name]) = none) {e : Location × Node}
    (he : e ∈ fs.entries) : ¬ directory ++ [name] <+: e.1 := by
  intro hpre
  by_cases hsame : directory ++ [name] = e.1
  · rw [hsame, node?_of_mem he] at h
    cases h
  · have hmem := mem_of_isPrefix he (by simp) hpre hsame
    rw [(node?_eq_some_iff fs (by simp)).2 hmem] at h
    cases h

theorem entries_add (hd : fs.IsDirectory directory) (hname : IsName name) (hsound : node.IsSound)
    (hnode : fs.node? (directory ++ [name]) = none) :
    (fs.add directory name node).entries = fs.entries ++ [(directory ++ [name], node)] := by
  unfold add
  rw [dif_pos ⟨hd, hname, hsound, ((node?_eq_none_iff fs).1 hnode).2⟩]

theorem workingDirectory_add :
    (fs.add directory name node).workingDirectory = fs.workingDirectory := by
  unfold add
  split <;> rfl

theorem keptIn_add : KeptIn fs (fs.add directory name node) := by
  refine ⟨fun {location found} hfound => ?_, workingDirectory_add⟩
  by_cases hroot : location = []
  · subst hroot
    exact hfound
  · rw [node?_eq_some_iff _ hroot] at hfound ⊢
    unfold add
    split
    · exact List.mem_append_left _ hfound
    · exact hfound

theorem node?_add (hd : fs.IsDirectory directory) (hname : IsName name) (hsound : node.IsSound)
    (hnode : fs.node? (directory ++ [name]) = none) :
    (fs.add directory name node).node? (directory ++ [name]) = some node := by
  rw [node?_eq_some_iff _ (by simp), entries_add hd hname hsound hnode]
  simp

end Add

/-! ### Ways -/

/-- Whether an ancestor is no obstacle: it is a directory if it is there, links followed, and it is
there if it goes up. -/
structure Passable (fs : FileSystem) (p : Path) : Prop where
  directory : ∀ e, fs.linkStatus p = .ok e → ∃ location, fs.status p = .ok (location, .directory)
  up : p.components.getLast? = some .up → ∃ e, fs.linkStatus p = .ok e

section Ways

variable {fs : FileSystem} {p : Path} {front : List Component} {last : Component} {start : Location}

theorem leads_of_status (h : p.EndsWith front last) (hstart : fs.start p = .ok start)
    {location : Location} (hstatus : fs.status p = .ok (location, .directory)) :
    ∃ links, Leads fs linkLimit start ((front ++ [last]).map Component.bytes) links location := by
  unfold status at hstatus
  rw [locate_of_endsWith h hstart] at hstatus
  rw [List.map_append]
  refine leads_of_follow fs linkLimit start _ ?_
  cases hfollow : fs.follow true linkLimit start (front.map Component.bytes ++ [last.bytes]) with
  | error fault =>
    rw [hfollow] at hstatus
    cases hstatus
  | ok place =>
    rw [hfollow] at hstatus
    cases place with
    | found location' node =>
      cases hstatus
      exact hfollow
    | vacant directory name => cases hstatus

theorem status_of_leads (h : p.EndsWith front last) (hstart : fs.start p = .ok start) {links : Nat}
    {location : Location}
    (hleads : Leads fs linkLimit start ((front ++ [last]).map Component.bytes) links location) :
    fs.status p = .ok (location, .directory) := by
  have hfollow : fs.follow true linkLimit start ((front ++ [last]).map Component.bytes ++ [])
      = .ok (.found location .directory) := by
    rw [follow_of_leads hleads (Or.inr rfl), follow_nil]
  rw [List.append_nil, List.map_append] at hfollow
  unfold status
  rw [locate_of_endsWith h hstart]
  exact congrArg (· >>= _) hfollow

theorem linkStatus_of_error (h : p.EndsWith front last) (hstart : fs.start p = .ok start)
    {fault : IoFault} (hfollow : fs.follow false linkLimit start
      (front.map Component.bytes ++ [last.bytes]) = .error fault) :
    fs.linkStatus p = .error fault := by
  unfold linkStatus
  rw [locate_of_endsWith h hstart, hfollow]
  rfl

theorem isName_of_endsWith {name : FileName} (h : p.EndsWith front (.name name))
    (hstart : fs.start p = .ok start) (hsize : name.length ≤ nameLimit) : IsName name := by
  obtain ⟨init, hpieces⟩ := h.pieces
  have hpiece : name ∈ p.pieces := by
    rw [hpieces]
    exact List.mem_append_right _ (List.mem_singleton_self _)
  obtain ⟨hne, hdot, hup, hslash⟩ := h.isPlain
  exact ⟨hne, hdot, hup, hslash,
    fun hnul => (start_eq_ok_iff.1 hstart).1 (Text.mem_of_mem_fields hpiece hnul), hsize⟩

theorem eq_up_or_name (h : p.EndsWith front last) : last = .up ∨ ∃ name, last = .name name := by
  have hlast := h.ofPiece_last
  unfold Component.ofPiece? at hlast
  split_ifs at hlast
  · exact Or.inl (Option.some.inj hlast).symm
  · exact Or.inr ⟨_, (Option.some.inj hlast).symm⟩

/-- Whether nothing is at a path, and nothing can be behind it. -/
structure Missing (fs : FileSystem) (p : Path) (start : Location) : Prop where
  linkStatus : fs.linkStatus p = .error .noSuchEntry
  behind : ∀ followLast rest, rest ≠ [] → fs.follow followLast linkLimit start
    (p.body.map Component.bytes ++ rest) = .error .noSuchEntry

theorem names_of_leads {name : FileName} (h : p.EndsWith front (.name name))
    (hstart : fs.start p = .ok start) (hd : fs.IsDirectory start)
    (hsize : name.length ≤ nameLimit) {links : Nat} {directory : Location}
    (hleads : Leads fs linkLimit start (front.map Component.bytes) links directory) :
    Names fs p directory name :=
  ⟨isName_of_endsWith h hstart hsize, hleads.isDirectory hd, front, start, links, h, hstart, hleads⟩

/-- The last piece decides, once it is known where those before it lead. -/
theorem leads_or_missing_of_front (h : p.EndsWith front last) (hstart : fs.start p = .ok start)
    (hd : fs.IsDirectory start) (hsize : last.bytes.length ≤ nameLimit)
    (hself : Passable fs p)
    (hfront : (∃ links directory,
        Leads fs linkLimit start (front.map Component.bytes) links directory) ∨
      ∀ followLast rest, rest ≠ [] → fs.follow followLast linkLimit start
        (front.map Component.bytes ++ rest) = .error .noSuchEntry) :
    (∃ links location, Leads fs linkLimit start (p.body.map Component.bytes) links location) ∨
      Missing fs p start := by
  have hthere : ∀ e, fs.linkStatus p = .ok e → ∃ links location,
      Leads fs linkLimit start (p.body.map Component.bytes) links location := by
    intro e he
    obtain ⟨location, hstatus⟩ := hself.directory e he
    obtain ⟨links, hleads⟩ := leads_of_status h hstart hstatus
    exact ⟨links, location, h.body ▸ hleads⟩
  have hmap : p.body.map Component.bytes = front.map Component.bytes ++ [last.bytes] := by
    rw [h.body, List.map_append]
    rfl
  rcases eq_up_or_name h with rfl | ⟨name, rfl⟩
  · obtain ⟨e, he⟩ := hself.up (Path.getLast_components_of_body h.body)
    exact Or.inl (hthere e he)
  · rcases hfront with ⟨links, directory, hleads⟩ | hmissing
    · have hnames := names_of_leads h hstart hd hsize hleads
      cases hnode : fs.node? (directory ++ [name]) with
      | some node => exact Or.inl (hthere _ (by rw [hnames.linkStatus, hnode]))
      | none =>
        refine Or.inr ⟨by rw [hnames.linkStatus, hnode], fun followLast rest hrest => ?_⟩
        rw [hmap, List.append_assoc, follow_of_leads hleads (Or.inl (by simp))]
        exact follow_missing hnames.isName hnames.isDirectory.not_isLost hnode hrest
    · refine Or.inr ⟨linkStatus_of_error h hstart (hmissing false _ (by simp)),
        fun followLast rest hrest => ?_⟩
      rw [hmap, List.append_assoc]
      exact hmissing followLast _ (by simp)

/-- Where a path passes only directories, it leads to one or nothing is there. -/
theorem leads_or_missing (h : p.EndsWith front last) (hstart : fs.start p = .ok start)
    (hd : fs.IsDirectory start) (hsize : ∀ c ∈ p.body, c.bytes.length ≤ nameLimit)
    (hself : Passable fs p) (hway : ∀ q, Ancestor q p → Passable fs q) :
    (∃ links location, Leads fs linkLimit start (p.body.map Component.bytes) links location) ∨
      Missing fs p start := by
  have hlast : last.bytes.length ≤ nameLimit := hsize last (by rw [h.body]; simp)
  -- on the pieces before the last one: they are those of the parent
  induction front using List.reverseRecOn generalizing p last with
  | nil => exact leads_or_missing_of_front h hstart hd hlast hself (Or.inl ⟨_, _, .done⟩)
  | append_singleton front before ih =>
    obtain ⟨q, hparent, hbody⟩ := Path.exists_parent h.body
    have hq := Path.endsWith_parent hparent hbody
    have hqsize : ∀ c ∈ q.body, c.bytes.length ≤ nameLimit := by
      intro c hc
      rw [hbody] at hc
      exact hsize c (by rw [h.body]; exact List.mem_append_left _ hc)
    have hqstart : fs.start q = .ok start := start_of_isPrefix hstart hq.bytes_ne_nil
      (Path.parent_isPrefix hparent) (Path.isAbsolute_parent hparent)
    refine leads_or_missing_of_front h hstart hd hlast hself ?_
    rw [← hbody]
    rcases ih hq hqstart hqsize (hway q (.parent hparent))
      (fun r hr => hway r (.further hparent hr)) (hqsize before (by rw [hbody]; simp)) with
      hleads | hmissing
    · exact Or.inl hleads
    · exact Or.inr hmissing.behind

end Ways

/-! ### Making a directory with its parents -/

/-- What has changed when the directory of a path has been made where nothing was: that directory is
there and empty, and whatever else is new is the directory of an ancestor that was missing. -/
structure Grown (fs : FileSystem) (p : Path) (fs' : FileSystem) (directory : Location)
    (name : FileName) : Prop where
  kept : KeptIn fs fs'
  names : Names fs' p directory name
  node : fs'.node? (directory ++ [name]) = some .directory
  fresh : ∀ e ∈ fs.entries, ¬ directory ++ [name] <+: e.1
  leaf : fs'.IsLeaf (directory ++ [name])
  news : ∀ e ∈ fs'.entries, e ∈ fs.entries ∨ ∃ q location last,
    (q = p ∨ Ancestor q p) ∧ fs.linkStatus q = .error .noSuchEntry ∧ Names fs' q location last ∧
      e = (location ++ [last], .directory)

section Making

variable {fs fs' : FileSystem} {p : Path} {directory : Location} {name : FileName}

theorem grown_of_names (h : Names fs p directory name)
    (hnode : fs.node? (directory ++ [name]) = none) :
    Grown fs p (fs.add directory name .directory) directory name := by
  have hentries : (fs.add directory name .directory).entries
      = fs.entries ++ [(directory ++ [name], .directory)] :=
    entries_add h.isDirectory h.isName trivial hnode
  have hnames : Names (fs.add directory name .directory) p directory name := h.mono keptIn_add
  refine ⟨keptIn_add, hnames, node?_add h.isDirectory h.isName trivial hnode,
    fun e he => not_prefix_of_node hnode he, fun e he hpre => ?_, fun e he => ?_⟩
  · rw [hentries] at he
    rcases List.mem_append.1 he with he | he
    · exact absurd hpre (not_prefix_of_node hnode he)
    · rw [List.mem_singleton.1 he]
  · rw [hentries] at he
    rcases List.mem_append.1 he with he | he
    · exact Or.inl he
    · refine Or.inr ⟨p, directory, name, Or.inl rfl, ?_, hnames, List.mem_singleton.1 he⟩
      rw [h.linkStatus, hnode]

/-- One directory more inside one that has just been made. -/
theorem Grown.inside {q : Path} {parent : Location} {last : FileName}
    (h : Grown fs q fs' parent last) (hparent : p.parent? = some q)
    (hmissing : fs.linkStatus p = .error .noSuchEntry)
    (hnames : Names fs' p (parent ++ [last]) name) :
    Grown fs p (fs'.add (parent ++ [last]) name .directory) (parent ++ [last]) name ∧
      fs'.node? (parent ++ [last] ++ [name]) = none := by
  have hnode : fs'.node? (parent ++ [last] ++ [name]) = none := by
    rw [node?_eq_none_iff]
    refine ⟨by simp, fun hmem => ?_⟩
    obtain ⟨e, he, hlocation⟩ := List.mem_map.1 hmem
    have hsame := h.leaf e he (hlocation ▸ List.prefix_append _ _)
    rw [hlocation] at hsame
    have hlength := congrArg List.length hsame
    simp at hlength
  have hentries : (fs'.add (parent ++ [last]) name .directory).entries
      = fs'.entries ++ [(parent ++ [last] ++ [name], .directory)] :=
    entries_add hnames.isDirectory hnames.isName trivial hnode
  obtain ⟨hkept, hnames', hnode', hfresh, hleaf, hnews⟩ := grown_of_names hnames hnode
  refine ⟨⟨h.kept.trans hkept, hnames', hnode', fun e he hpre => ?_, hleaf, fun e he => ?_⟩,
    hnode⟩
  · exact h.fresh e he ((List.prefix_append _ _).trans hpre)
  · rw [hentries] at he
    rcases List.mem_append.1 he with he | he
    · rcases h.news e he with hold | ⟨r, location, name', hr, hlost, hfound, rfl⟩
      · exact Or.inl hold
      · refine Or.inr ⟨r, location, name', Or.inr ?_, hlost, hfound.mono hkept, rfl⟩
        rcases hr with rfl | hr
        · exact .parent hparent
        · exact .further hparent hr
    · exact Or.inr ⟨p, _, name, Or.inl rfl, hmissing, hnames', List.mem_singleton.1 he⟩

theorem makeDirectoriesWithin_of_names (h : Names fs p directory name)
    (hnode : fs.node? (directory ++ [name]) = none) (depth : Nat) :
    fs.makeDirectoriesWithin (depth + 1) p = (.ok (), fs.add directory name .directory) := by
  obtain ⟨front, start, links, hends, -, -⟩ := h.found
  have hwritten : p.bytes.isEmpty = false := List.isEmpty_eq_false_iff.2 hends.bytes_ne_nil
  simp [makeDirectoriesWithin, hwritten, h.makeDirectory hnode]

theorem Grown.names_inside {q : Path} {parent : Location} {last : FileName} {front : List Component}
    {start : Location} (h : Grown fs q fs' parent last) (hends : p.EndsWith front (.name name))
    (hbody : q.body = front) (hname : IsName name) (hstart : fs.start p = .ok start)
    (hqstart : fs.start q = .ok start) : Names fs' p (parent ++ [last]) name := by
  obtain ⟨qfront, qstart, links, hqends, hqstart', hleads⟩ := h.names.found
  rw [h.kept.start, hqstart, Except.ok.injEq] at hqstart'
  subst hqstart'
  refine ⟨hname, (isDirectory_iff fs' _).2 h.node, front, start, links, hends, ?_, ?_⟩
  · rw [h.kept.start, hstart]
  · rw [← hbody, hqends.body, List.map_append]
    exact hleads.append (.into h.node)

theorem makeDirectoriesWithin_of_parent {q : Path} {front : List Component} {last : Component}
    {start : Location} {parent : Location} (h : p.EndsWith front last)
    (hstart : fs.start p = .ok start) (hparent : p.parent? = some q)
    (hmissing : Missing fs q start) (hbody : q.body = front) {depth : Nat}
    (hmade : fs.makeDirectoriesWithin depth q = (.ok (), fs'))
    (hnames : Names fs' p parent name) (hnode : fs'.node? (parent ++ [name]) = none) :
    fs.makeDirectoriesWithin (depth + 1) p = (.ok (), fs'.add parent name .directory) := by
  have hwritten : p.bytes.isEmpty = false := List.isEmpty_eq_false_iff.2 h.bytes_ne_nil
  have hlast : fs.locateLast p = .error .noSuchEntry := by
    rw [locateLast_of_endsWith h hstart, ← hbody, hmissing.behind true _ (by simp)]
  have hfault : fs.makeDirectory p = .error .noSuchEntry := by
    unfold makeDirectory
    rw [hlast]
    rfl
  simp [makeDirectoriesWithin, hwritten, hfault, IoFault.isMissing, hparent, hmade,
    hnames.makeDirectory hnode]

/-- Where nothing is, the last piece is a name: a way up is there. -/
theorem Missing.exists_name {front : List Component} {last : Component} {start : Location}
    (hmissing : Missing fs p start) (h : p.EndsWith front last) (hself : Passable fs p) :
    ∃ name, last = .name name := by
  rcases eq_up_or_name h with rfl | hname
  · obtain ⟨e, he⟩ := hself.up (Path.getLast_components_of_body h.body)
    rw [hmissing.linkStatus] at he
    cases he
  · exact hname

theorem makeDirectoriesWithin_of_leads {front : List Component} {start : Location}
    (h : p.EndsWith front (.name name)) (hstart : fs.start p = .ok start)
    (hd : fs.IsDirectory start) (hsize : name.length ≤ nameLimit)
    (hmissing : Missing fs p start) {links : Nat}
    (hleads : Leads fs linkLimit start (front.map Component.bytes) links directory) (depth : Nat) :
    ∃ fs' directory, fs.makeDirectoriesWithin (depth + 1) p = (.ok (), fs') ∧
      Grown fs p fs' directory name := by
  have hnames := names_of_leads h hstart hd hsize hleads
  have hnode : fs.node? (directory ++ [name]) = none := by
    have hlink := hnames.linkStatus
    rw [hmissing.linkStatus] at hlink
    cases hnode : fs.node? (directory ++ [name]) with
    | none => rfl
    | some node => simp [hnode] at hlink
  exact ⟨_, directory, makeDirectoriesWithin_of_names hnames hnode depth,
    grown_of_names hnames hnode⟩

/-- Where nothing is at a path that passes only directories, the missing ones are made. -/
theorem makeDirectoriesWithin_of_missing {front : List Component} {start : Location}
    (h : p.EndsWith front (.name name)) (hstart : fs.start p = .ok start)
    (hd : fs.IsDirectory start) (hsize : ∀ c ∈ p.body, c.bytes.length ≤ nameLimit)
    (hway : ∀ q, Ancestor q p → Passable fs q) (hmissing : Missing fs p start) {depth : Nat}
    (hdepth : front.length ≤ depth) :
    ∃ fs' directory, fs.makeDirectoriesWithin (depth + 1) p = (.ok (), fs') ∧
      Grown fs p fs' directory name := by
  have hlast : name.length ≤ nameLimit := hsize (.name name) (by rw [h.body]; simp)
  -- on the pieces before the last one: where the parent is missing it is made first
  induction front using List.reverseRecOn generalizing p name depth with
  | nil => exact makeDirectoriesWithin_of_leads h hstart hd hlast hmissing .done depth
  | append_singleton front before ih =>
    obtain ⟨q, hparent, hbody⟩ := Path.exists_parent h.body
    have hq := Path.endsWith_parent hparent hbody
    have hqsize : ∀ c ∈ q.body, c.bytes.length ≤ nameLimit := by
      intro c hc
      rw [hbody] at hc
      exact hsize c (by rw [h.body]; exact List.mem_append_left _ hc)
    have hqstart : fs.start q = .ok start := start_of_isPrefix hstart hq.bytes_ne_nil
      (Path.parent_isPrefix hparent) (Path.isAbsolute_parent hparent)
    have hqself : Passable fs q := hway q (.parent hparent)
    have hqway : ∀ r, Ancestor r q → Passable fs r := fun r hr => hway r (.further hparent hr)
    rcases leads_or_missing hq hqstart hd hqsize hqself hqway with
      ⟨links, directory, hleads⟩ | hqmissing
    · exact makeDirectoriesWithin_of_leads h hstart hd hlast hmissing (hbody ▸ hleads) depth
    · obtain ⟨last, rfl⟩ := hqmissing.exists_name hq hqself
      rw [List.length_append, List.length_singleton] at hdepth
      obtain ⟨less, rfl⟩ : ∃ less, depth = less + 1 := ⟨depth - 1, by omega⟩
      have hless : front.length ≤ less := by omega
      obtain ⟨fs', parent, hmade, hgrown⟩ := ih hq hqstart hqsize hqway hqmissing hless
        (hqsize (.name last) (by rw [hbody]; simp))
      have hnames := hgrown.names_inside h hbody (isName_of_endsWith h hstart hlast) hstart hqstart
      obtain ⟨hgrown', hnode⟩ := hgrown.inside hparent hmissing.linkStatus hnames
      exact ⟨_, _, makeDirectoriesWithin_of_parent h hstart hparent hqmissing hbody hmade hnames
        hnode, hgrown'⟩

end Making

/-! ### Paths that nothing can be at -/

/-- Whether no file system has a directory at a path, and none can be made there. -/
structure Unusable (p : Path) : Prop where
  bytes_ne_nil : p.bytes ≠ []
  locateLast : ∀ fs : FileSystem, ∃ fault, fs.locateLast p = .error fault
  isDirectoryPath : ∀ fs : FileSystem, fs.isDirectoryPath p = false

section Unusable

variable {fs : FileSystem} {p : Path} {front : List Component} {name : FileName}

theorem isDirectoryPath_of_status (h : ∀ location, fs.status p ≠ .ok (location, .directory)) :
    fs.isDirectoryPath p = false := by
  unfold isDirectoryPath
  split
  · exact absurd ‹_› (h _)
  · rfl

theorem unusable_of_start (hne : p.bytes ≠ [])
    (h : ∀ fs : FileSystem, ∃ fault, fs.start p = .error fault) : Unusable p := by
  refine ⟨hne, fun fs => ?_, fun fs => isDirectoryPath_of_status fun location hstatus => ?_⟩
  · obtain ⟨fault, hstart⟩ := h fs
    exact ⟨fault, by simp [locateLast, hstart, bind, Except.bind]⟩
  · obtain ⟨fault, hstart⟩ := h fs
    simp [status, locate, hstart, bind, Except.bind] at hstatus

theorem locateLast_of_long (h : p.EndsWith front (.name name))
    (hlong : nameLimit < name.length) : ∃ fault, fs.locateLast p = .error fault := by
  cases hstart : fs.start p with
  | error fault => exact ⟨fault, by simp [locateLast, hstart, bind, Except.bind]⟩
  | ok start =>
    have hup : name ≠ [dot, dot] := by
      rintro rfl
      exact absurd hlong (by decide)
    rw [locateLast_of_endsWith h hstart]
    rcases fs.follow true linkLimit start (front.map Component.bytes ++ [[dot]]) with
      fault | ⟨location, node⟩ | ⟨directory, vacant⟩
    · exact ⟨fault, rfl⟩
    · cases node with
      | directory =>
        by_cases hlost : IsLost location
        · exact ⟨.noSuchEntry, by simp [Component.bytes, hup, hlost]⟩
        · exact ⟨.nameTooLong, by simp [Component.bytes, hup, hlost, hlong]⟩
      | file content mode => exact ⟨.notDirectory, rfl⟩
      | link target => exact ⟨.notDirectory, rfl⟩
    · exact ⟨.noSuchEntry, rfl⟩

theorem Leads.le_nameLimit {links left : Nat} {directory location : Location}
    (h : Leads fs links directory [name] left location) : name.length ≤ nameLimit := by
  cases h with
  | pass hpass hrest =>
    cases hpass with
    | here => decide
    | up => decide
    | into hnode => exact (isName_of_node hnode).1.2.2.2.2.2
    | through hnode => exact (isName_of_node hnode).1.2.2.2.2.2

theorem unusable_of_long (h : p.EndsWith front (.name name))
    (hlong : nameLimit < name.length) : Unusable p := by
  refine ⟨h.bytes_ne_nil, fun fs => locateLast_of_long h hlong,
    fun fs => isDirectoryPath_of_status fun location hstatus => ?_⟩
  cases hstart : fs.start p with
  | error fault => simp [status, locate, hstart, bind, Except.bind] at hstatus
  | ok start =>
    obtain ⟨links, hleads⟩ := leads_of_status h hstart hstatus
    rw [List.map_append] at hleads
    obtain ⟨links', directory, -, hlast⟩ := hleads.exists_of_append
    exact Nat.not_lt.2 hlast.le_nameLimit hlong

theorem Unusable.makeDirectoriesWithin (h : Unusable p) (depth : Nat) :
    ∃ fault, (fs.makeDirectoriesWithin depth p).1 = .error fault := by
  have hwritten : p.bytes.isEmpty = false := List.isEmpty_eq_false_iff.2 h.bytes_ne_nil
  have hmake : ∀ fs : FileSystem, ∃ fault, fs.makeDirectory p = .error fault := by
    intro fs
    obtain ⟨fault, hfault⟩ := h.locateLast fs
    exact ⟨fault, by simp [makeDirectory, hfault, bind, Except.bind]⟩
  cases depth with
  | zero => exact ⟨_, rfl⟩
  | succ depth =>
    obtain ⟨fault, hfault⟩ := hmake fs
    simp only [FileSystem.makeDirectoriesWithin, hwritten, hfault, h.isDirectoryPath]
    cases fault.isMissing with
    | false => exact ⟨_, rfl⟩
    | true =>
      cases p.parent? with
      | none => exact ⟨_, rfl⟩
      | some parent =>
        rcases hmade : fs.makeDirectoriesWithin depth parent with ⟨fault | ⟨⟩, grown⟩
        · exact ⟨fault, by simp [hmade]⟩
        · obtain ⟨fault, hfault⟩ := hmake grown
          exact ⟨fault, by simp [hmade, hfault]⟩

end Unusable

end IdlBuild.FileSystem
