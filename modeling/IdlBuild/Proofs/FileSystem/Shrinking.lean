import IdlBuild.Proofs.FileSystem.Naming
import IdlBuild.Proofs.FileSystem.Without
import IdlBuild.Stepwise

/-!
# Fewer entries

While entries are taken away, what a path leads to can be lost but does not change: pieces that lead
somewhere now led to the same place before (`Pruned.leads`). The working directory is the one thing
that moves, to what is left of it (`Remnant`).
-/

namespace IdlBuild.FileSystem

/-! ### Pieces -/

section Pieces

variable {p q : Path} {name : FileName}

theorem exists_steps_eq (p : Path) :
    ∃ tail, steps p = p.named ++ tail ∧ (tail = [] ∨ tail = [[dot]]) := by
  rcases steps_eq_or p with hsteps | hsteps
  · exact ⟨[], by rw [hsteps, List.append_nil], Or.inl rfl⟩
  · exact ⟨[[dot]], hsteps, Or.inr rfl⟩

theorem steps_eq_named (h : p.endsWithSlash = false) : steps p = p.named := by
  unfold steps Path.named
  simp [h]

theorem named_join_name (hp : p.bytes ≠ []) (h : Path.IsPlain name) :
    (p.join ⟨name⟩).named = p.named ++ [name] := by
  obtain ⟨front, -, hjoin, hpieces⟩ := Path.pieces_join hp (Path.isAbsolute_of_isPlain h)
  have hne : name ≠ [] := h.1
  unfold Path.named
  rw [hjoin, Path.pieces_of_isPlain h]
  rcases hpieces with hpieces | hpieces
  · simp [hpieces, hne]
  · simp [hpieces, hne]

theorem isPrefix_join (hq : q.isAbsolute = false) : p.bytes <+: (p.join q).bytes := by
  unfold Path.join
  rw [hq]
  simp only [Bool.false_eq_true, if_false]
  split_ifs
  · simp
  · simp

end Pieces

/-! ### Where pieces lead -/

section Leading

variable {fs : FileSystem} {links left left' : Nat} {start directory last last' location : Location}
  {pieces : List FileName} {piece name : FileName} {p : Path} {node : Node}

theorem Passes.of_here {more : List FileName}
    (h : Passes fs links directory piece left last more) (hpiece : piece = [dot]) :
    left = links ∧ last = directory ∧ more = [] := by
  cases h with
  | here => exact ⟨rfl, rfl, rfl⟩
  | up => exact absurd hpiece (by decide)
  | into hnode => exact absurd hpiece (isName_of_node hnode).1.2.1
  | through hnode => exact absurd hpiece (isName_of_node hnode).1.2.1

theorem Passes.of_up {more : List FileName}
    (h : Passes fs links directory piece left last more) (hpiece : piece = [dot, dot]) :
    left = links ∧ last = directory.dropLast ∧ more = [] := by
  cases h with
  | here => exact absurd hpiece (by decide)
  | up => exact ⟨rfl, rfl, rfl⟩
  | into hnode => exact absurd hpiece (isName_of_node hnode).1.2.2.1
  | through hnode => exact absurd hpiece (isName_of_node hnode).1.2.2.1

/-- A piece is passed in one way where what stands in two file systems is the same in both. -/
theorem Passes.agree {fs' : FileSystem} {more more' : List FileName}
    (hsame : ∀ {location : Location} {node node' : Node}, fs.node? location = some node →
      fs'.node? location = some node' → node = node')
    (h : Passes fs links directory piece left last more)
    (h' : Passes fs' links directory piece left' last' more') :
    left = left' ∧ last = last' ∧ more = more' := by
  cases h with
  | here =>
    obtain ⟨rfl, rfl, rfl⟩ := h'.of_here rfl
    exact ⟨rfl, rfl, rfl⟩
  | up =>
    obtain ⟨rfl, rfl, rfl⟩ := h'.of_up rfl
    exact ⟨rfl, rfl, rfl⟩
  | into hnode =>
    cases h' with
    | here => exact absurd rfl (isName_of_node hnode).1.2.1
    | up => exact absurd rfl (isName_of_node hnode).1.2.2.1
    | into hnode' => exact ⟨rfl, rfl, rfl⟩
    | through hnode' => cases hsame hnode hnode'
  | through hnode =>
    cases h' with
    | here => exact absurd rfl (isName_of_node hnode).1.2.1
    | up => exact absurd rfl (isName_of_node hnode).1.2.2.1
    | into hnode' => cases hsame hnode hnode'
    | through hnode' =>
      cases hsame hnode hnode'
      exact ⟨rfl, rfl, rfl⟩

/-- Pieces lead to one place where what stands in two file systems is the same in both. -/
theorem Leads.agree {fs' : FileSystem}
    (hsame : ∀ {location : Location} {node node' : Node}, fs.node? location = some node →
      fs'.node? location = some node' → node = node')
    (h : Leads fs links directory pieces left last)
    (h' : Leads fs' links directory pieces left' last') : last = last' := by
  induction h with
  | done =>
    cases h'
    rfl
  | pass hpass hrest ih =>
    cases h' with
    | pass hpass' hrest' =>
      obtain ⟨rfl, rfl, rfl⟩ := hpass.agree hsame hpass'
      exact ih hrest'

theorem Leads.unique (h : Leads fs links directory pieces left last)
    (h' : Leads fs links directory pieces left' last') : last = last' :=
  h.agree (fun hnode hnode' => Option.some.inj (hnode.symm.trans hnode')) h'

theorem Leads.of_here (h : Leads fs links directory (pieces ++ [[dot]]) left last) :
    Leads fs links directory pieces left last := by
  obtain ⟨links', directory', hpieces, hdot⟩ := h.exists_of_append
  cases hdot with
  | pass hpass hrest =>
    obtain ⟨rfl, rfl, rfl⟩ := hpass.of_here rfl
    cases hrest
    exact hpieces

/-- A directory is found in the same way whether the last link is to be followed or not. -/
theorem follow_last_directory
    (h : fs.follow false links directory [piece] = .ok (.found last .directory)) :
    fs.follow true links directory [piece] = .ok (.found last .directory) := by
  by_cases hdot : piece = [dot]
  · subst hdot
    rwa [follow_here, follow_nil] at h ⊢
  by_cases hup : piece = [dot, dot]
  · subst hup
    rwa [follow_up, follow_nil] at h ⊢
  by_cases hlost : IsLost directory
  · simp [follow, walk, hdot, hup, hlost] at h
  by_cases hsize : nameLimit < piece.length
  · simp [follow, walk, hdot, hup, hlost, hsize] at h
  cases hnode : fs.node? (directory ++ [piece]) with
  | none => simp [follow, walk, hdot, hup, hlost, hsize, hnode] at h
  | some node =>
    obtain ⟨hname, hparts⟩ := isName_of_node hnode
    rw [follow_last hname (not_isLost_of_isName hparts), hnode] at h
    cases h
    rw [follow_into hnode, follow_nil]

theorem leads_of_follow_last
    (h : fs.follow false links directory pieces = .ok (.found last .directory)) :
    ∃ left, Leads fs links directory pieces left last := by
  cases pieces using List.reverseRecOn with
  | nil =>
    rw [follow_nil] at h
    cases h
    exact ⟨links, .done⟩
  | append_singleton init piece =>
    rcases leads_or_error fs links directory init with ⟨left, middle, hinit⟩ | ⟨fault, herror⟩
    · rw [follow_of_leads hinit (Or.inl (by simp))] at h
      obtain ⟨left', hpiece⟩ := leads_of_follow fs left middle [piece] (follow_last_directory h)
      exact ⟨left', hinit.append hpiece⟩
    · rw [herror false [piece] (by simp)] at h
      cases h

theorem locate_of_start {followLast : Bool} (hstart : fs.start p = .ok start) :
    fs.locate followLast p = fs.follow followLast linkLimit start (steps p) := by
  unfold locate
  rw [hstart]
  rfl

theorem locate_eq_ok {followLast : Bool} {place : Place} (h : fs.locate followLast p = .ok place) :
    ∃ start, fs.start p = .ok start ∧
      fs.follow followLast linkLimit start (steps p) = .ok place :=
  bind_eq_ok_iff.1 h

theorem linkStatus_eq_ok (h : fs.linkStatus p = .ok (location, node)) :
    ∃ start, fs.start p = .ok start ∧
      fs.follow false linkLimit start (steps p) = .ok (.found location node) := by
  obtain ⟨place, hlocate, hplace⟩ := bind_eq_ok_iff.1 h
  cases place with
  | found location' node' =>
    cases hplace
    exact locate_eq_ok hlocate
  | vacant directory name => cases hplace

theorem status_eq_ok (h : fs.status p = .ok (location, node)) :
    ∃ start, fs.start p = .ok start ∧
      fs.follow true linkLimit start (steps p) = .ok (.found location node) := by
  obtain ⟨place, hlocate, hplace⟩ := bind_eq_ok_iff.1 h
  cases place with
  | found location' node' =>
    cases hplace
    exact locate_eq_ok hlocate
  | vacant directory name => cases hplace

theorem leads_named_of_steps (h : Leads fs links directory (steps p) left last) :
    Leads fs links directory p.named left last := by
  rcases steps_eq_or p with hsteps | hsteps
  · rwa [hsteps] at h
  · rw [hsteps] at h
    exact h.of_here

theorem leads_of_status_directory (h : fs.status p = .ok (location, .directory)) :
    ∃ start links, fs.start p = .ok start ∧ Leads fs linkLimit start p.named links location := by
  obtain ⟨start, hstart, hfollow⟩ := status_eq_ok h
  obtain ⟨links, hleads⟩ := leads_of_follow fs linkLimit start (steps p) hfollow
  exact ⟨start, links, hstart, leads_named_of_steps hleads⟩

theorem leads_of_linkStatus_directory (h : fs.linkStatus p = .ok (location, .directory)) :
    ∃ start links, fs.start p = .ok start ∧ Leads fs linkLimit start p.named links location := by
  obtain ⟨start, hstart, hfollow⟩ := linkStatus_eq_ok h
  obtain ⟨links, hleads⟩ := leads_of_follow_last hfollow
  exact ⟨start, links, hstart, leads_named_of_steps hleads⟩

/-- How the last name of a path is looked up: in the directory that the pieces before it lead to. -/
structure LooksUp (fs : FileSystem) (p : Path) (directory : Location) (name : FileName) : Prop where
  ne_dots : name ≠ [dot] ∧ name ≠ [dot, dot]
  size : name.length ≤ nameLimit
  standing : ¬ IsLost directory
  found : ∃ start links init, fs.start p = .ok start ∧ p.named = init ++ [name] ∧
    Leads fs linkLimit start init links directory

theorem looksUp_of_locateLast (h : fs.locateLast p = .ok (directory, .name name)) :
    LooksUp fs p directory name := by
  obtain ⟨start, hstart, hlookup⟩ := bind_eq_ok_iff.1 h
  have hpieces : (p.pieces.filter (· ≠ [])) = p.named := rfl
  simp only [hpieces] at hlookup
  cases hlast : p.named.getLast? with
  | none =>
    rw [hlast] at hlookup
    cases hlookup
  | some piece =>
    obtain ⟨init, hinit⟩ := List.getLast?_eq_some_iff.1 hlast
    have hfront : p.named.dropLast = init := by rw [hinit, List.dropLast_concat]
    rw [hlast, hfront] at hlookup
    obtain ⟨place, hfollow, hplace⟩ := bind_eq_ok_iff.1 hlookup
    cases place with
    | vacant vacant name' => cases hplace
    | found location node =>
      cases node with
      | file content mode => cases hplace
      | link target => cases hplace
      | directory =>
        obtain ⟨links, hleads⟩ := leads_of_follow fs linkLimit start _ hfollow
        dsimp only at hplace
        split_ifs at hplace with hdot hup hlost hsize <;> cases hplace
        exact ⟨⟨hdot, hup⟩, Nat.not_lt.1 hsize, hlost, start, links, init, hstart, hinit,
          hleads.of_here⟩

end Leading

/-! ### Requests that succeed -/

section Requests

variable {fs fs' : FileSystem} {p : Path}

theorem readDirectory_eq_ok {entries : List (FileName × Node)} (h : fs.readDirectory p = .ok entries) :
    ∃ location, fs.status p = .ok (location, .directory) ∧ entries = fs.children location := by
  obtain ⟨⟨location, node⟩, hstatus, hentries⟩ := bind_eq_ok_iff.1 h
  cases node with
  | directory =>
    cases hentries
    exact ⟨location, hstatus, rfl⟩
  | file content mode => cases hentries
  | link target => cases hentries

theorem readFile_eq_ok {content : Text.Bytes} (h : fs.readFile p = .ok content) :
    ∃ location mode, fs.status p = .ok (location, .file content mode) := by
  obtain ⟨⟨location, node⟩, hstatus, hcontent⟩ := bind_eq_ok_iff.1 h
  cases node with
  | file found mode =>
    cases hcontent
    exact ⟨location, mode, hstatus⟩
  | directory => cases hcontent
  | link target => cases hcontent

theorem removeFile_eq_ok (h : fs.removeFile p = .ok fs') :
    ∃ directory name node, fs.locateLast p = .ok (directory, .name name) ∧
      fs.node? (directory ++ [name]) = some node ∧ node ≠ .directory ∧ p.endsWithSlash = false ∧
        fs' = fs.erase (directory ++ [name]) := by
  obtain ⟨⟨directory, last⟩, hlast, hremoved⟩ := bind_eq_ok_iff.1 h
  cases last with
  | root => cases hremoved
  | here => cases hremoved
  | up => cases hremoved
  | name name =>
    refine ⟨directory, name, ?_⟩
    cases hnode : fs.node? (directory ++ [name]) with
    | none => simp [hnode] at hremoved
    | some node =>
      cases node with
      | directory => simp [hnode] at hremoved
      | file content mode =>
        simp only [hnode] at hremoved
        split_ifs at hremoved with hslash
        cases hremoved
        exact ⟨_, hlast, rfl, by simp, by simpa [hasTrailingSlash] using hslash, rfl⟩
      | link target =>
        simp only [hnode] at hremoved
        split_ifs at hremoved with hslash
        cases hremoved
        exact ⟨_, hlast, rfl, by simp, by simpa [hasTrailingSlash] using hslash, rfl⟩

theorem removeDirectory_eq_ok (h : fs.removeDirectory p = .ok fs') :
    ∃ directory name, fs.locateLast p = .ok (directory, .name name) ∧
      fs.node? (directory ++ [name]) = some .directory ∧ fs' = fs.erase (directory ++ [name]) := by
  obtain ⟨⟨directory, last⟩, hlast, hremoved⟩ := bind_eq_ok_iff.1 h
  cases last with
  | root => cases hremoved
  | here => cases hremoved
  | up => cases hremoved
  | name name =>
    refine ⟨directory, name, hlast, ?_⟩
    cases hnode : fs.node? (directory ++ [name]) with
    | none => simp [hnode] at hremoved
    | some node =>
      cases node with
      | directory =>
        simp only [hnode] at hremoved
        split_ifs at hremoved
        cases hremoved
        exact ⟨rfl, rfl⟩
      | file content mode => simp [hnode] at hremoved
      | link target => simp [hnode] at hremoved

end Requests

/-! ### What is left of a location -/

/-- Whether a location is what is left of another when the innermost of its directories have been
removed. -/
def Remnant (before after : Location) : Prop :=
  ∃ front back, before = front ++ back ∧ after = front ++ back.map fun _ => []

namespace Remnant

variable {before after later : Location}

theorem rfl {location : Location} : Remnant location location :=
  ⟨location, [], by simp, by simp⟩

theorem trans (h : Remnant before after) (h' : Remnant after later) : Remnant before later := by
  obtain ⟨front, back, rfl, rfl⟩ := h
  obtain ⟨front', back', hafter, rfl⟩ := h'
  rcases List.append_eq_append_iff.1 hafter with ⟨more, hfront, hback⟩ | ⟨more, hfront, hback⟩
  · -- what is lost in the second step was lost in the first
    have hghosts : ∀ name ∈ more ++ back', name = [] := by
      intro name hname
      rw [← hback] at hname
      obtain ⟨_, -, hempty⟩ := List.mem_map.1 hname
      exact hempty.symm
    refine ⟨front, back, Eq.refl _, ?_⟩
    rw [hfront, hback, List.append_assoc]
    congr 2
    refine (List.map_congr_left fun name hname => ?_).trans (List.map_id _)
    exact (hghosts name (List.mem_append_right _ hname)).symm
  · refine ⟨front', more ++ back, by rw [hfront, List.append_assoc], ?_⟩
    rw [hback, List.map_append, List.map_append, List.map_map]
    congr 2

theorem dropLast (h : Remnant before after) : Remnant before.dropLast after.dropLast := by
  obtain ⟨front, back, rfl, rfl⟩ := h
  cases back using List.reverseRecOn with
  | nil => simpa using Remnant.rfl
  | append_singleton back name =>
    refine ⟨front, back, ?_, ?_⟩
    · rw [← List.append_assoc, List.dropLast_concat]
    · rw [List.map_append, List.map_singleton, ← List.append_assoc, List.dropLast_concat]

theorem eq_of_not_isLost (h : Remnant before after) (hlost : ¬ IsLost after) : before = after := by
  obtain ⟨front, back, rfl, rfl⟩ := h
  cases back using List.reverseRecOn with
  | nil => simp
  | append_singleton back name =>
    refine absurd ?_ hlost
    unfold IsLost
    rw [List.map_append, List.map_singleton, ← List.append_assoc, List.getLast?_concat]

end Remnant

theorem mem_of_mem_erase {fs : FileSystem} {location : Location} {e : Location × Node}
    (h : e ∈ (fs.erase location).entries) : e ∈ fs.entries := by
  unfold erase at h
  split at h
  · exact (List.mem_filter.1 h).1
  · exact h

theorem mem_erase_of_ne {fs : FileSystem} {location : Location} {e : Location × Node}
    (h : e ∈ fs.entries) (hne : e.1 ≠ location) : e ∈ (fs.erase location).entries := by
  unfold erase
  split
  · exact List.mem_filter.2 ⟨h, by simpa using hne⟩
  · exact h

theorem map_empty_of_lost {location : Location} (h : ∀ name ∈ location, name = []) :
    location.map (fun _ => []) = location :=
  (List.map_congr_left fun name hname => (h name hname).symm).trans (List.map_id _)

theorem remnant_erase (fs : FileSystem) (location : Location) :
    Remnant fs.workingDirectory (fs.erase location).workingDirectory := by
  unfold erase
  split
  · next hfree =>
    dsimp only
    split
    · next hstanding =>
      obtain ⟨init, name, rfl⟩ : ∃ init name, location = init ++ [name] :=
        ⟨_, _, (List.dropLast_append_getLast hfree.1).symm⟩
      have hfallen := map_empty_of_lost fs.placed.2
      refine ⟨init, name :: fallen fs.workingDirectory, ?_, ?_⟩
      · conv => lhs; rw [← standing_append_fallen fs.workingDirectory, hstanding]
        simp
      · rw [List.dropLast_concat, List.map_cons, hfallen]
    · exact Remnant.rfl
  · exact Remnant.rfl

/-! ### Pruned file systems -/

/-- What holds of a file system from which only entries at and below a location have been taken
away. -/
structure Pruned (fs : FileSystem) (location : Location) (cur : FileSystem) : Prop where
  known : ∀ e ∈ cur.entries, e ∈ fs.entries
  kept : ∀ e ∈ fs.entries, ¬ location <+: e.1 → e ∈ cur.entries
  workingDirectory : Remnant fs.workingDirectory cur.workingDirectory

namespace Pruned

variable {fs cur : FileSystem} {base location before after : Location} {links links' left : Nat}
  {piece name : FileName} {more pieces : List FileName} {p : Path} {node : Node}

theorem refl (fs : FileSystem) (location : Location) : Pruned fs location fs :=
  ⟨fun _ he => he, fun _ he _ => he, Remnant.rfl⟩

theorem erase (h : Pruned fs base cur) (hbelow : base <+: location) :
    Pruned fs base (cur.erase location) where
  known e he := h.known e (mem_of_mem_erase he)
  kept e he hout := mem_erase_of_ne (h.kept e he hout) fun hsame => hout (hsame ▸ hbelow)
  workingDirectory := h.workingDirectory.trans (remnant_erase cur location)

theorem node?_eq (h : Pruned fs base cur) (hnode : cur.node? location = some node) :
    fs.node? location = some node := by
  by_cases hroot : location = []
  · subst hroot
    exact hnode
  · rw [node?_eq_some_iff _ hroot] at hnode ⊢
    exact h.known _ hnode

theorem start (h : Pruned fs base cur) (hstart : cur.start p = .ok after) :
    ∃ before, fs.start p = .ok before ∧ Remnant before after := by
  obtain ⟨hnul, hne, hsize, rfl⟩ := start_eq_ok_iff.1 hstart
  refine ⟨_, start_eq_ok_iff.2 ⟨hnul, hne, hsize, rfl⟩, ?_⟩
  split_ifs
  · exact Remnant.rfl
  · exact h.workingDirectory

theorem passes (h : Pruned fs base cur) (hremnant : Remnant before after)
    (hpass : Passes cur links after piece links' location more) :
    ∃ location', Passes fs links before piece links' location' more ∧
      Remnant location' location := by
  cases hpass with
  | here => exact ⟨before, .here, hremnant⟩
  | up => exact ⟨before.dropLast, .up, hremnant.dropLast⟩
  | into hnode =>
    -- an entry is found only in a directory that is still there
    obtain rfl := hremnant.eq_of_not_isLost (not_isLost_of_isName (isName_of_node hnode).2)
    exact ⟨_, .into (h.node?_eq hnode), Remnant.rfl⟩
  | through hnode =>
    obtain rfl := hremnant.eq_of_not_isLost (not_isLost_of_isName (isName_of_node hnode).2)
    exact ⟨_, .through (h.node?_eq hnode), Remnant.rfl⟩

/-- Where pieces lead now, they led before. -/
theorem leads (h : Pruned fs base cur) (hremnant : Remnant before after)
    (hleads : Leads cur links after pieces left location) :
    ∃ location', Leads fs links before pieces left location' ∧ Remnant location' location := by
  induction hleads generalizing before with
  | done => exact ⟨before, .done, hremnant⟩
  | pass hpass hrest ih =>
    obtain ⟨middle, hpass', hmiddle⟩ := h.passes hremnant hpass
    obtain ⟨location', hrest', hlocation⟩ := ih hmiddle
    exact ⟨location', .pass hpass' hrest', hlocation⟩

theorem looksUp (h : Pruned fs base cur) (hlook : LooksUp cur p location name) :
    LooksUp fs p location name := by
  obtain ⟨start, links, init, hstart, hnamed, hleads⟩ := hlook.found
  obtain ⟨before, hbefore, hremnant⟩ := h.start hstart
  obtain ⟨location', hleads', hlocation⟩ := h.leads hremnant hleads
  obtain rfl := hlocation.eq_of_not_isLost hlook.standing
  exact ⟨hlook.ne_dots, hlook.size, hlook.standing, before, links, init, hbefore, hnamed, hleads'⟩

end Pruned

/-! ### Paths of directories -/

/-- Whether a path, if it can be followed at all, leads to a location. -/
structure Points (fs : FileSystem) (p : Path) (location : Location) : Prop where
  bytes_ne_nil : p.bytes ≠ []
  leads : ∀ start, fs.start p = .ok start → ∃ links, Leads fs linkLimit start p.named links location

namespace Points

variable {fs cur : FileSystem} {base location directory : Location} {p : Path} {name last : FileName}
  {node : Node}

theorem of_start {start : Location} {links : Nat} (hstart : fs.start p = .ok start)
    (hleads : Leads fs linkLimit start p.named links location) : Points fs p location := by
  refine ⟨(start_eq_ok_iff.1 hstart).2.1, fun start' hstart' => ?_⟩
  rw [hstart] at hstart'
  cases hstart'
  exact ⟨links, hleads⟩

theorem start_of_join (h : Points fs p location) (hname : Path.IsPlain name) {start : Location}
    (hstart : fs.start (p.join ⟨name⟩) = .ok start) : fs.start p = .ok start :=
  start_of_isPrefix hstart h.bytes_ne_nil (isPrefix_join (Path.isAbsolute_of_isPlain hname))
    (Path.isAbsolute_join h.bytes_ne_nil (Path.isAbsolute_of_isPlain hname)).symm

theorem child (h : Points fs p location)
    (hnode : fs.node? (location ++ [name]) = some .directory) :
    Points fs (p.join ⟨name⟩) (location ++ [name]) := by
  have hname := isPlain_of_isName (isName_of_node hnode).1
  refine ⟨Path.bytes_join_ne_nil p hname.1, fun start hstart => ?_⟩
  obtain ⟨links, hleads⟩ := h.leads start (h.start_of_join hname hstart)
  rw [named_join_name h.bytes_ne_nil hname]
  exact ⟨links, hleads.append (.into hnode)⟩

/-- What is listed now in a directory was there before. -/
theorem entry (h : Points fs p location) (hcur : Pruned fs base cur)
    {entries : List (FileName × Node)} (hread : cur.readDirectory p = .ok entries)
    (hentry : (name, node) ∈ entries) : fs.node? (location ++ [name]) = some node := by
  obtain ⟨here, hstatus, rfl⟩ := readDirectory_eq_ok hread
  obtain ⟨start, links, hstart, hleads⟩ := leads_of_status_directory hstatus
  obtain ⟨before, hbefore, hremnant⟩ := hcur.start hstart
  obtain ⟨before', hleads', hhere⟩ := hcur.leads hremnant hleads
  have hnode := mem_children.1 hentry
  obtain rfl := hhere.eq_of_not_isLost (not_isLost_of_isName (isName_of_node hnode).2)
  obtain ⟨links', hpoints⟩ := h.leads before hbefore
  obtain rfl := hleads'.unique hpoints
  exact hcur.node?_eq hnode

/-- The name that a path ends with is that of the location. -/
theorem eq_of_looksUp (h : Points fs p location) (hlook : LooksUp fs p directory last)
    (hnode : fs.node? (directory ++ [last]) = some .directory) :
    directory ++ [last] = location := by
  obtain ⟨start, links, init, hstart, hnamed, hleads⟩ := hlook.found
  obtain ⟨links', hpoints⟩ := h.leads start hstart
  rw [hnamed] at hpoints
  exact (hleads.append (.into hnode)).unique hpoints

theorem eq_of_looksUp_join (h : Points fs p location) (hname : Path.IsPlain name)
    (hlook : LooksUp fs (p.join ⟨name⟩) directory last) :
    directory ++ [last] = location ++ [name] := by
  obtain ⟨start, links, init, hstart, hnamed, hleads⟩ := hlook.found
  obtain ⟨links', hpoints⟩ := h.leads start (h.start_of_join hname hstart)
  rw [named_join_name h.bytes_ne_nil hname] at hnamed
  obtain ⟨hinit, hsame⟩ := List.append_inj' hnamed rfl
  rw [hinit] at hpoints
  rw [hleads.unique hpoints, List.singleton_inj.1 hsame]

end Points

end IdlBuild.FileSystem
