import IdlBuild.Proofs.FileSystem.Vacating
import IdlBuild.Proofs.Targets.Afresh

/-!
# Targets that are not there

Where nothing is at the directory of a target there is nothing to clear. Clearing takes only one
answer of the file system for that, "No such file or directory"; making a directory meets the same
obstacles as looking for it (`makeDirectory_of_linkStatus`), and stops at every other answer without
making anything (`makeDirectories_of_linkStatus`).
-/

namespace IdlBuild

namespace FileSystem

variable {fs : FileSystem} {p : Path} {fault : IoFault}

/-! ### Why nothing is found -/

theorem fault_of_follow (fs : FileSystem) (followLast : Bool) : (links : Nat) →
    (directory : Location) → (pieces : List FileName) → {fault : IoFault} →
    fs.follow followLast links directory pieces = .error fault →
    fault ∈ [IoFault.noSuchEntry, .notDirectory, .nameTooLong, .tooManyLinks]
  | links, directory, [], fault, h => by
    rw [follow_nil] at h
    cases h
  | links, directory, piece :: rest, fault, h => by
    rcases passes_or_ends fs followLast links directory piece rest with
      ⟨links', directory', more, hpass, hlink⟩ | hends
    · have hless := hpass.lessens rest
      rw [follow_of_passing hpass hlink] at h
      exact fault_of_follow fs followLast links' directory' (more ++ rest) h
    · rw [h] at hends
      cases hends with
      | failed hfault => exact hfault
termination_by links _ pieces => (links, pieces.length)
decreasing_by exact hless

theorem fault_of_linkStatus (h : fs.linkStatus p = .error fault) :
    fault ∈ [IoFault.noSuchEntry, .notDirectory, .nameTooLong, .tooManyLinks, .nulInPath] := by
  rcases bind_eq_error_iff.1 h with hlocate | ⟨place, -, hplace⟩
  · rcases bind_eq_error_iff.1 hlocate with hstart | ⟨start, -, hfollow⟩
    · unfold start at hstart
      split_ifs at hstart <;> cases hstart <;> simp
    · have hfault := fault_of_follow fs false linkLimit start (steps p) hfollow
      simp only [List.mem_cons, List.not_mem_nil, or_false] at hfault ⊢
      tauto
  · cases place with
    | found location node => cases hplace
    | vacant directory name =>
      cases hplace
      simp

/-! ### Making what is not found -/

/-- Behind the pieces of a path there is at most one dot, and only when the path ends with a slash. -/
theorem exists_steps_slash (p : Path) :
    ∃ tail, steps p = p.named ++ tail ∧ (tail = [] ∨ tail = [[dot]] ∧ p.endsWithSlash = true) := by
  obtain ⟨tail, hsteps, htail⟩ := exists_steps_eq p
  refine ⟨tail, hsteps, ?_⟩
  cases hslash : p.endsWithSlash with
  | false =>
    rw [steps_eq_named hslash, List.self_eq_append_right] at hsteps
    exact Or.inl hsteps
  | true => exact htail.imp_right fun hdot => ⟨hdot, rfl⟩

/-- A directory is not made where looking for it fails for a reason other than a missing entry; the
reason is the same, unless something other than a directory is at a path that ends with a slash. -/
theorem makeDirectory_of_linkStatus (hlink : fs.linkStatus p = .error fault)
    (hfault : fault ≠ .noSuchEntry) :
    ∃ cause, fs.makeDirectory p = .error cause ∧
      (cause = fault ∨ p.endsWithSlash = true ∧ cause = .fileExists) := by
  cases hstart : fs.start p with
  | error cause =>
    simp only [linkStatus, locate, hstart, bind, Except.bind, Except.error.injEq] at hlink
    subst hlink
    exact ⟨cause, by simp [makeDirectory, locateLast, hstart, bind, Except.bind], Or.inl rfl⟩
  | ok start =>
  obtain ⟨tail, hsteps, htail⟩ := exists_steps_slash p
  unfold linkStatus at hlink
  rw [locate_of_start hstart, hsteps] at hlink
  have hdots : ∀ piece ∈ tail, piece = [dot] := by
    rcases htail with rfl | ⟨rfl, -⟩ <;> simp
  cases hnamed : p.named using List.reverseRecOn with
  | nil =>
    rw [hnamed, List.nil_append, follow_dots hdots] at hlink
    cases hlink
  | append_singleton init piece =>
  have hlast := locateLast_of_named hstart hnamed
  unfold makeDirectory
  rw [hnamed, List.append_assoc] at hlink
  rcases leads_or_error fs linkLimit start init with ⟨links, directory, hleads⟩ | ⟨cause, herror⟩
  · rw [follow_of_leads hleads (Or.inr rfl), follow_here, follow_nil] at hlast
    rw [follow_of_leads hleads (Or.inl (by simp)), List.singleton_append, follow_cons] at hlink
    by_cases hdot : piece = [dot]
    · rw [if_pos hdot, follow_dots hdots] at hlink
      cases hlink
    by_cases hup : piece = [dot, dot]
    · rw [if_neg hdot, if_pos hup, follow_dots hdots] at hlink
      cases hlink
    by_cases hlost : IsLost directory
    · rw [if_neg hdot, if_neg hup, if_pos hlost] at hlink
      cases hlink
      exact absurd rfl hfault
    by_cases hsize : nameLimit < piece.length
    · rw [if_neg hdot, if_neg hup, if_neg hlost, if_pos hsize] at hlink
      cases hlink
      simp only [hdot, hup, hlost, hsize, if_true, if_false] at hlast
      exact ⟨_, by rw [hlast]; rfl, Or.inl rfl⟩
    rw [if_neg hdot, if_neg hup, if_neg hlost, if_neg hsize] at hlink
    simp only [hdot, hup, hlost, hsize, if_false] at hlast
    cases hnode : fs.node? (directory ++ [piece]) with
    | none =>
      by_cases hrest : tail = []
      · simp only [hnode, if_pos hrest] at hlink
        cases hlink
        exact absurd rfl hfault
      · simp only [hnode, if_neg hrest] at hlink
        cases hlink
        exact absurd rfl hfault
    | some node =>
      refine ⟨.fileExists, by simp only [hlast, hnode, bind, Except.bind]; rfl, Or.inr ⟨?_, rfl⟩⟩
      rcases htail with rfl | ⟨-, hslash⟩
      · -- without a slash behind it, what stands at the name is found
        cases node with
        | directory =>
          simp only [hnode, follow_nil] at hlink
          cases hlink
        | file content mode =>
          simp only [hnode, if_true] at hlink
          cases hlink
        | link target =>
          simp only [hnode, and_self, if_true] at hlink
          cases hlink
      · exact hslash
  · rw [herror false _ (by simp)] at hlink
    cases hlink
    rw [herror true _ (by simp)] at hlast
    exact ⟨fault, by rw [hlast]; rfl, Or.inl rfl⟩

/-- What a last piece leads to with links followed is there, or a link to it is. -/
theorem exists_follow_last {links : Nat} {directory last : Location} {piece : FileName} {node : Node}
    (h : fs.follow true links directory [piece] = .ok (.found last node)) :
    ∃ last' node', fs.follow false links directory [piece] = .ok (.found last' node') := by
  by_cases hdot : piece = [dot]
  · exact ⟨directory, .directory, by rw [hdot, follow_here, follow_nil]⟩
  by_cases hup : piece = [dot, dot]
  · exact ⟨directory.dropLast, .directory, by rw [hup, follow_up, follow_nil]⟩
  by_cases hlost : IsLost directory
  · simp [follow, walk, hdot, hup, hlost] at h
  by_cases hsize : nameLimit < piece.length
  · simp [follow, walk, hdot, hup, hlost, hsize] at h
  cases hnode : fs.node? (directory ++ [piece]) with
  | none => simp [follow, walk, hdot, hup, hlost, hsize, hnode] at h
  | some node' => exact ⟨_, node', by rw [follow_last (isName_of_node hnode).1 hlost, hnode]⟩

theorem exists_linkStatus_of_status {location : Location} {node : Node}
    (h : fs.status p = .ok (location, node)) : ∃ e, fs.linkStatus p = .ok e := by
  obtain ⟨start, hstart, hfollow⟩ := status_eq_ok h
  have hfound : ∃ last node', fs.follow false linkLimit start (steps p)
      = .ok (.found last node') := by
    cases hsteps : steps p using List.reverseRecOn with
    | nil => exact ⟨start, .directory, follow_nil⟩
    | append_singleton init piece =>
      rw [hsteps] at hfollow
      rcases leads_or_error fs linkLimit start init with ⟨links, directory, hleads⟩ | ⟨cause, herror⟩
      · rw [follow_of_leads hleads (Or.inl (by simp))] at hfollow ⊢
        exact exists_follow_last hfollow
      · rw [herror true _ (by simp)] at hfollow
        cases hfollow
  obtain ⟨last, node', hfound⟩ := hfound
  refine ⟨(last, node'), ?_⟩
  unfold linkStatus
  rw [locate_of_start hstart, hfound]
  rfl

theorem makeDirectories_of_linkStatus (hlink : fs.linkStatus p = .error fault)
    (hfault : fault ≠ .noSuchEntry) :
    ∃ cause, fs.makeDirectories p = (.error cause, fs) ∧ fs.isDirectoryPath p = false ∧
      (cause = fault ∨ p.endsWithSlash = true ∧ cause = .fileExists) := by
  obtain ⟨cause, hmake, hcause⟩ := makeDirectory_of_linkStatus hlink hfault
  have hnone : fs.isDirectoryPath p = false := by
    refine isDirectoryPath_of_status fun location hstatus => ?_
    obtain ⟨e, he⟩ := exists_linkStatus_of_status hstatus
    rw [hlink] at he
    cases he
  have hmissing : cause.isMissing = false := by
    rcases hcause with rfl | ⟨-, rfl⟩
    · simpa [IoFault.isMissing] using hfault
    · decide
  have hwritten : p.bytes.isEmpty = false := by
    by_contra hempty
    have hstart : fs.start p = .error .noSuchEntry := by
      rw [Bool.not_eq_false, List.isEmpty_iff] at hempty
      simp [start, hempty]
    simp only [linkStatus, locate, hstart, bind, Except.bind, Except.error.injEq] at hlink
    exact hfault hlink.symm
  refine ⟨cause, ?_, hnone, hcause⟩
  simp [makeDirectories, makeDirectoriesWithin, hwritten, hmake, hmissing, hnone]

end FileSystem

namespace Target

open FileSystem

variable {fs : FileSystem} {p : Path} {fault : IoFault}

/-! ### Making ready what is not there -/

theorem provideDirectory_eq_error {failure : Failure}
    (h : (provideDirectory fs p).1 = .error failure) : ∃ cause, failure = .notCreated p cause := by
  unfold provideDirectory at h
  rcases hmade : fs.makeDirectories p with ⟨cause | ⟨⟩, made⟩
  · simp only [hmade] at h
    split_ifs at h
    exact ⟨cause, (Except.error.inj h).symm⟩
  · simp only [hmade] at h
    cases h

theorem makeReady_eq_error {root : Path} {basePackage : String} {failure : Failure}
    (h : (makeReady fs root basePackage false).1 = .error failure) :
    ∃ cause, failure = .notCreated (below root basePackage).directory cause := by
  unfold makeReady at h
  simp only [Bool.false_eq_true, if_false] at h
  rcases hprovided : provideDirectory fs (below root basePackage).directory with
    ⟨cause | ⟨⟩, made⟩
  · rw [hprovided] at h
    obtain rfl : cause = failure := Except.error.inj h
    exact provideDirectory_eq_error (congrArg Prod.fst hprovided)
  · rw [hprovided] at h
    cases h

theorem provideDirectory_of_linkStatus (hlink : fs.linkStatus p = .error fault)
    (hfault : fault ≠ .noSuchEntry) :
    ∃ cause, provideDirectory fs p = (.error (.notCreated p cause), fs) ∧
      (cause = fault ∨ p.endsWithSlash = true ∧ cause = .fileExists) := by
  obtain ⟨cause, hmade, hnone, hcause⟩ := makeDirectories_of_linkStatus hlink hfault
  exact ⟨cause, by simp [provideDirectory, hmade, hnone], hcause⟩

/-- Where nothing is at the directory of a target, clearing it first leaves the file system as not
clearing it does, and the outcome is the same exactly when nothing was found for want of an entry.
When something else is in the way, a file on the way or too many links, then neither makes anything,
and it is the clearing that fails, at what was not there. -/
theorem makeReady_absent {root : Path} {basePackage : String}
    (hlink : fs.linkStatus (below root basePackage).directory = .error fault) :
    (makeReady fs root basePackage true).2 = (makeReady fs root basePackage false).2 ∧
      ((makeReady fs root basePackage true).1 = (makeReady fs root basePackage false).1 ↔
        fault = .noSuchEntry) ∧
      (∀ failure, (makeReady fs root basePackage false).1 = .error failure →
        ∃ cause, failure = .notCreated (below root basePackage).directory cause) ∧
      (fault ≠ .noSuchEntry →
        fault ∈ [.notDirectory, .nameTooLong, .tooManyLinks, .nulInPath] ∧
        makeReady fs root basePackage true =
          (.error (.notRemoved (below root basePackage).directory fault), fs) ∧
        ∃ cause, makeReady fs root basePackage false =
            (.error (.notCreated (below root basePackage).directory cause), fs) ∧
          (cause = fault ∨ PackageName.segments (PackageName.cleaned basePackage) = [] ∧
            cause = .fileExists)) := by
  have hcleared := clear_of_error hlink
  by_cases hfault : fault = .noSuchEntry
  · subst hfault
    have hsame : makeReady fs root basePackage true = makeReady fs root basePackage false := by
      unfold makeReady
      simp only [hcleared, if_true, Bool.false_eq_true, if_false]
      rfl
    exact ⟨congrArg Prod.snd hsame, iff_of_true (congrArg Prod.fst hsame) rfl,
      fun failure h => makeReady_eq_error h, fun h => absurd rfl h⟩
  · have hmissing : fault.isMissing = false := by simpa [IoFault.isMissing] using hfault
    obtain ⟨cause, hprovided, hcause⟩ := provideDirectory_of_linkStatus hlink hfault
    have hwith : makeReady fs root basePackage true
        = (.error (.notRemoved (below root basePackage).directory fault), fs) := by
      unfold makeReady
      simp only [hcleared, hmissing, if_true, Bool.false_eq_true, if_false]
    have hwithout : makeReady fs root basePackage false
        = (.error (.notCreated (below root basePackage).directory cause), fs) := by
      unfold makeReady
      simp only [hprovided, Bool.false_eq_true, if_false]
    have hkind : fault ∈ [IoFault.notDirectory, .nameTooLong, .tooManyLinks, .nulInPath] :=
      (List.mem_cons.1 (fault_of_linkStatus hlink)).resolve_left hfault
    have hsegments : cause = fault ∨
        PackageName.segments (PackageName.cleaned basePackage) = [] ∧ cause = .fileExists := by
      rcases hcause with hsame | ⟨hslash, hexists⟩
      · exact Or.inl hsame
      refine Or.inr ⟨?_, hexists⟩
      by_contra hne
      obtain ⟨front, hends⟩ := endsWith_directory root (List.dropLast_append_getLast hne).symm
      rw [hends.endsWithSlash] at hslash
      cases hslash
    refine ⟨by rw [hwith, hwithout], ?_, fun failure h => makeReady_eq_error h,
      fun _ => ⟨hkind, hwith, cause, hwithout, hsegments⟩⟩
    rw [hwith, hwithout]
    simp [hfault]

/-- A file where the root of a target is to be. -/
def blocked : FileSystem := FileSystem.empty.add [] "blocker" (.file [] plainMode)

theorem blocked_linkStatus :
    blocked.linkStatus (below ⟨"blocker"⟩ "gen").directory = .error .notDirectory := rfl

theorem blocked_absent :
    blocked.linkStatus (below ⟨"blocker"⟩ "gen").directory = .error .notDirectory ∧
      (makeReady blocked ⟨"blocker"⟩ "gen" true).2 = (makeReady blocked ⟨"blocker"⟩ "gen" false).2 ∧
      (makeReady blocked ⟨"blocker"⟩ "gen" true).1
        ≠ (makeReady blocked ⟨"blocker"⟩ "gen" false).1 := by
  obtain ⟨hstate, hresult, -, -⟩ := makeReady_absent blocked_linkStatus
  exact ⟨blocked_linkStatus, hstate, fun hsame => absurd (hresult.1 hsame) (by decide)⟩

/-- Clearing fails behind a file, where there is nothing to clear. -/
theorem blocked_notCleared :
    (∀ e, blocked.linkStatus (below ⟨"blocker"⟩ "gen").directory ≠ .ok e) ∧
      (makeReady blocked ⟨"blocker"⟩ "gen" true).1
        = .error (.notRemoved ⟨"blocker/gen"⟩ .notDirectory) ∧
      (makeReady blocked ⟨"blocker"⟩ "gen" false).1
        = .error (.notCreated ⟨"blocker/gen"⟩ .notDirectory) := by
  refine ⟨fun e hthere => ?_, by decide +kernel, by decide +kernel⟩
  rw [blocked_linkStatus] at hthere
  cases hthere

end Target

end IdlBuild
