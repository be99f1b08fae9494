import IdlBuild.Proofs.FileSystem.Growth
import IdlBuild.Proofs.FileSystem.Shrinking

/-!
# What making directories changes

Whatever is at a path and on the way to it, making a directory there with its parents adds nothing
but directories that its path or an ancestor names, and only where nothing was at that path
(`makeDirectories_made`). What was there stays, and so does every path that led to something
(`follow_mono`).
-/

namespace IdlBuild.FileSystem

open IdlBuild.Path (Ancestor)

/-! ### More entries -/

/-- With more entries a walk goes as before, unless it ended where nothing was. -/
theorem follow_mono {fs fs' : FileSystem} (hkept : KeptIn fs fs') (followLast : Bool) :
    (links : Nat) → (directory : Location) → (pieces : List FileName) →
    fs.follow followLast links directory pieces = .error .noSuchEntry ∨
      (∃ vacant name, fs.follow followLast links directory pieces = .ok (.vacant vacant name)) ∨
      fs'.follow followLast links directory pieces = fs.follow followLast links directory pieces
  | links, directory, [] => by
    rw [follow_nil, follow_nil]
    exact Or.inr (Or.inr rfl)
  | links, directory, piece :: rest => by
    rw [follow_cons fs, follow_cons fs']
    by_cases hdot : piece = [dot]
    · simp only [if_pos hdot]
      exact follow_mono hkept followLast links directory rest
    by_cases hup : piece = [dot, dot]
    · simp only [if_neg hdot, if_pos hup]
      exact follow_mono hkept followLast links directory.dropLast rest
    by_cases hlost : IsLost directory
    · simp only [if_neg hdot, if_neg hup, if_pos hlost]
      exact Or.inl trivial
    by_cases hsize : nameLimit < piece.length
    · simp only [if_neg hdot, if_neg hup, if_neg hlost, if_pos hsize]
      exact Or.inr (Or.inr trivial)
    simp only [if_neg hdot, if_neg hup, if_neg hlost, if_neg hsize]
    cases hnode : fs.node? (directory ++ [piece]) with
    | none =>
      by_cases hrest : rest = []
      · simp only [if_pos hrest]
        exact Or.inr (Or.inl ⟨_, _, rfl⟩)
      · simp only [if_neg hrest]
        exact Or.inl trivial
    | some node =>
      rw [hkept.node hnode]
      cases node with
      | directory => exact follow_mono hkept followLast links (directory ++ [piece]) rest
      | file content mode => exact Or.inr (Or.inr rfl)
      | link target =>
        by_cases hstay : rest = [] ∧ followLast = false
        · simp only [if_pos hstay]
          exact Or.inr (Or.inr trivial)
        · simp only [if_neg hstay]
          cases links with
          | zero => exact Or.inr (Or.inr rfl)
          | succ links => exact follow_mono hkept followLast links _ (steps target ++ rest)
termination_by links _ pieces => (links, pieces.length)

theorem linkStatus_mono {fs fs' : FileSystem} (hkept : KeptIn fs fs') (p : Path) :
    fs.linkStatus p = .error .noSuchEntry ∨ fs'.linkStatus p = fs.linkStatus p := by
  unfold linkStatus locate
  rw [hkept.start]
  cases fs.start p with
  | error fault => exact Or.inr rfl
  | ok start =>
    simp only [bind, Except.bind]
    rcases follow_mono hkept false linkLimit start (steps p) with
      hmissing | ⟨directory, name, hvacant⟩ | hsame
    · exact Or.inl (by rw [hmissing])
    · exact Or.inl (by rw [hvacant]; rfl)
    · exact Or.inr (by rw [hsame])

theorem linkStatus_kept {fs fs' : FileSystem} (hkept : KeptIn fs fs') {p : Path}
    {e : Location × Node} (h : fs.linkStatus p = .ok e) : fs'.linkStatus p = .ok e := by
  rcases linkStatus_mono hkept p with hmissing | hsame
  · rw [hmissing] at h
    cases h
  · rw [hsame, h]

/-! ### Names that are looked up -/

namespace LooksUp

variable {fs fs' : FileSystem} {p : Path} {directory : Location} {name : FileName}

theorem mono (hkept : KeptIn fs fs') (h : LooksUp fs p directory name) :
    LooksUp fs' p directory name := by
  obtain ⟨start, links, init, hstart, hnamed, hleads⟩ := h.found
  exact ⟨h.ne_dots, h.size, h.standing, start, links, init, (hkept.start p).trans hstart, hnamed,
    hleads.mono hkept⟩

/-- What is at the path is what stands at the name, when a slash behind it makes no difference. -/
theorem linkStatus (h : LooksUp fs p directory name)
    (hnode : ∀ node, fs.node? (directory ++ [name]) = some node → node = .directory) :
    fs.linkStatus p =
      match fs.node? (directory ++ [name]) with
      | some node => .ok (directory ++ [name], node)
      | none => .error .noSuchEntry := by
  obtain ⟨start, links, init, hstart, hnamed, hleads⟩ := h.found
  obtain ⟨tail, hsteps, htail⟩ := exists_steps_eq p
  unfold FileSystem.linkStatus
  rw [locate_of_start hstart, hsteps, hnamed, List.append_assoc,
    follow_of_leads hleads (Or.inl (by simp)), List.singleton_append, follow_cons]
  simp only [if_neg h.ne_dots.1, if_neg h.ne_dots.2, if_neg h.standing,
    if_neg (Nat.not_lt.2 h.size)]
  cases hthere : fs.node? (directory ++ [name]) with
  | none =>
    rcases htail with rfl | rfl
    · rfl
    · rfl
  | some node =>
    obtain rfl := hnode node hthere
    rcases htail with rfl | rfl
    · rw [follow_nil]
      rfl
    · rw [follow_here, follow_nil]
      rfl

end LooksUp

/-! ### Directories that are made -/

/-- What holds when directories may have been made at some paths: everything else is as before, and
each new directory is that of such a path, where nothing was. -/
structure Made (fs : FileSystem) (paths : Path → Prop) (fs' : FileSystem) : Prop where
  kept : KeptIn fs fs'
  news : ∀ e ∈ fs'.entries, e ∈ fs.entries ∨ e.2 = .directory ∧ ∃ q, paths q ∧
    fs.linkStatus q = .error .noSuchEntry ∧ fs'.linkStatus q = .ok e

section Making

variable {fs fs' fs'' : FileSystem} {p q : Path} {paths paths' : Path → Prop}

theorem Made.refl (fs : FileSystem) (paths : Path → Prop) : Made fs paths fs :=
  ⟨⟨id, rfl⟩, fun _ he => Or.inl he⟩

theorem Made.weaken (h : Made fs paths fs') (hpaths : ∀ q, paths q → paths' q) :
    Made fs paths' fs' := by
  refine ⟨h.kept, fun e he => (h.news e he).imp_right ?_⟩
  rintro ⟨hdirectory, q, hq, hbefore, hafter⟩
  exact ⟨hdirectory, q, hpaths q hq, hbefore, hafter⟩

theorem Made.trans (h : Made fs paths fs') (h' : Made fs' paths fs'') : Made fs paths fs'' := by
  refine ⟨h.kept.trans h'.kept, fun e he => ?_⟩
  rcases h'.news e he with hold | ⟨hdirectory, r, hr, hbefore, hafter⟩
  · rcases h.news e hold with holder | ⟨hdirectory, r, hr, hbefore, hafter⟩
    · exact Or.inl holder
    · exact Or.inr ⟨hdirectory, r, hr, hbefore, linkStatus_kept h'.kept hafter⟩
  · refine Or.inr ⟨hdirectory, r, hr, ?_, hafter⟩
    -- what was there at first would be there still
    rcases linkStatus_mono h.kept r with hmissing | hsame
    · exact hmissing
    · rw [← hsame, hbefore]

theorem makeDirectory_eq_ok (h : fs.makeDirectory p = .ok fs') :
    ∃ directory name, LooksUp fs p directory name ∧ fs.node? (directory ++ [name]) = none ∧
      fs' = fs.add directory name .directory := by
  obtain ⟨⟨directory, last⟩, hlast, hmade⟩ := bind_eq_ok_iff.1 h
  cases last with
  | root => cases hmade
  | here => cases hmade
  | up => cases hmade
  | name name =>
    refine ⟨directory, name, looksUp_of_locateLast hlast, ?_⟩
    cases hnode : fs.node? (directory ++ [name]) with
    | some node => simp [hnode] at hmade
    | none =>
      simp only [hnode] at hmade
      cases hmade
      exact ⟨rfl, rfl⟩

theorem makeDirectory_made (h : fs.makeDirectory p = .ok fs') : Made fs (· = p) fs' := by
  obtain ⟨directory, name, hlook, hnode, rfl⟩ := makeDirectory_eq_ok h
  refine ⟨keptIn_add, fun e he => ?_⟩
  by_cases hold : e ∈ fs.entries
  · exact Or.inl hold
  · have hnew : e = (directory ++ [name], .directory) := by
      unfold add at he
      split at he
      · exact List.mem_singleton.1 ((List.mem_append.1 he).resolve_left hold)
      · exact absurd he hold
    have hthere : (fs.add directory name .directory).node? (directory ++ [name])
        = some .directory := by
      rw [node?_eq_some_iff _ (by simp), ← hnew]
      exact he
    refine Or.inr ⟨by rw [hnew], p, rfl, ?_, ?_⟩
    · rw [hlook.linkStatus (by simp [hnode]), hnode]
    · rw [(hlook.mono keptIn_add).linkStatus (by simp [hthere]), hthere, hnew]

/-- The paths that directories are made at for a path. -/
def OnWay (p q : Path) : Prop := q = p ∨ Ancestor q p

theorem onWay_of_parent (hparent : p.parent? = some q) {r : Path} (hr : OnWay q r) :
    Ancestor r p := by
  rcases hr with rfl | hr
  · exact .parent hparent
  · exact .further hparent hr

theorem makeDirectoriesWithin_made (depth : Nat) (fs : FileSystem) (p : Path) :
    Made fs (OnWay p) (fs.makeDirectoriesWithin depth p).2 := by
  have hself : ∀ {fs made : FileSystem} {p : Path}, fs.makeDirectory p = .ok made →
      Made fs (OnWay p) made := fun hmade => (makeDirectory_made hmade).weaken fun _ => Or.inl
  induction depth generalizing fs p with
  | zero => exact .refl fs _
  | succ depth ih =>
    unfold makeDirectoriesWithin
    by_cases hempty : p.bytes.isEmpty = true
    · rw [if_pos hempty]
      exact .refl fs _
    rw [if_neg hempty]
    cases hmade : fs.makeDirectory p with
    | ok made => exact hself hmade
    | error fault =>
      dsimp only
      by_cases hthere : (!fault.isMissing) = true
      · rw [if_pos hthere]
        exact .refl fs _
      rw [if_neg hthere]
      cases hparent : p.parent? with
      | none => exact .refl fs _
      | some parent =>
        have hbefore : Made fs (OnWay p) (fs.makeDirectoriesWithin depth parent).2 :=
          (ih fs parent).weaken fun _ hr => Or.inr (onWay_of_parent hparent hr)
        rcases hinside : fs.makeDirectoriesWithin depth parent with ⟨fault | ⟨⟩, grown⟩
        · rw [hinside] at hbefore
          simpa only [hinside] using hbefore
        · rw [hinside] at hbefore
          simp only [hinside]
          cases hagain : grown.makeDirectory p with
          | ok made => exact hbefore.trans (hself hagain)
          | error fault => exact hbefore

/-- Making a directory with its parents changes nothing but directories that were missing. -/
theorem makeDirectories_made (fs : FileSystem) (p : Path) :
    Made fs (OnWay p) (fs.makeDirectories p).2 :=
  makeDirectoriesWithin_made _ fs p

end Making

end IdlBuild.FileSystem
