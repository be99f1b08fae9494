import IdlBuild.Proofs.FileSystem.Vacating
import IdlBuild.Proofs.Targets.Removal

/-!
# Links in cleared targets

Clearing a path takes away entries at and below the place that the path names, and no others
(`clear_keeps`), whatever is there and whether or not it succeeds: where a link stands only the link
can go, and what a link below leads to stays.
-/

namespace IdlBuild

open FileSystem

namespace Target

/-! ### Removing entries -/

section Removing

variable {fs cur : FileSystem} {base location : Location} {p : Path}

theorem removed_file (h : Pruned fs base cur) (hpoints : Points fs p location)
    (hbase : base <+: location) {name : FileName} (hname : Path.IsPlain name) :
    Pruned fs base
      (removed cur (p.join ⟨name⟩) (cur.removeFile (p.join ⟨name⟩))).2 := by
  cases hremoved : cur.removeFile (p.join ⟨name⟩) with
  | error fault => exact h
  | ok after =>
    obtain ⟨directory, last, node, hlast, -, -, -, rfl⟩ := removeFile_eq_ok hremoved
    have hlook := h.looksUp (looksUp_of_locateLast hlast)
    have hsame := hpoints.eq_of_looksUp_join hname hlook
    rw [hsame]
    exact h.erase (hbase.trans (List.prefix_append _ _))

theorem removed_directory (h : Pruned fs base cur) (hpoints : Points fs p location)
    (hbase : base <+: location) : Pruned fs base (removed cur p (cur.removeDirectory p)).2 := by
  cases hremoved : cur.removeDirectory p with
  | error fault => exact h
  | ok after =>
    obtain ⟨directory, last, hlast, hnode, rfl⟩ := removeDirectory_eq_ok hremoved
    have hlook := h.looksUp (looksUp_of_locateLast hlast)
    have hsame := hpoints.eq_of_looksUp hlook (h.node?_eq hnode)
    rw [hsame]
    exact h.erase hbase

/-- Removing a directory with all that is inside takes nothing from elsewhere. -/
theorem removeTree_pruned (depth : Nat) (h : Pruned fs base cur) (hpoints : Points fs p location)
    (hbase : base <+: location) : Pruned fs base (removeTree .plain depth cur p).2 := by
  induction depth generalizing cur p location with
  | zero => exact h
  | succ depth ih =>
    rw [removeTree_succ]
    cases hread : cur.readDirectory p with
    | error fault => exact h
    | ok entries =>
      -- the entries were listed at the start, and their names are those of the location
      have hentries : ∀ entry ∈ sortedByName entries,
          fs.node? (location ++ [entry.1]) = some entry.2 := by
        intro entry hentry
        exact hpoints.entry h hread ((sortedByName_perm entries).mem_iff.1 hentry)
      have hinside : Pruned fs base (inTurn (removeEntry .plain depth p) cur
          (sortedByName entries)).2 := by
        refine inTurn_keeps _ (fun now entry hentry hnow => ?_) h
        have hnode := hentries entry hentry
        unfold removeEntry
        by_cases hdirectory : entry.2 = .directory
        · rw [if_pos hdirectory]
          rw [hdirectory] at hnode
          exact ih hnow (hpoints.child hnode) (hbase.trans (List.prefix_append _ _))
        · rw [if_neg hdirectory]
          exact removed_file hnow hpoints hbase (isPlain_of_isName (isName_of_node hnode).1)
      rcases hdone : inTurn (removeEntry .plain depth p) cur (sortedByName entries) with
        ⟨failure | ⟨⟩, emptied⟩
      · rw [hdone] at hinside
        simpa only [hdone] using hinside
      · rw [hdone] at hinside
        simp only [hdone]
        exact removed_directory hinside hpoints hbase

end Removing

/-! ### Clearing -/

section Clearing

variable {fs : FileSystem} {p : Path} {location : Location} {node : Node}

/-- Clearing takes away what is at and below the entry that a path names, and nothing else. -/
theorem clear_keeps (fs : FileSystem) (p : Path) {e : Location × Node} (he : e ∈ fs.entries) :
    e ∈ (clear fs p).2.entries ∨ ∃ location node, fs.linkStatus p = .ok (location, node) ∧
      location <+: e.1 ∧ (node ≠ .directory → e.1 = location) := by
  unfold clear clearWith
  rcases hlink : fs.linkStatus p with fault | ⟨location, node⟩
  · left
    dsimp only
    split_ifs
    · exact he
    · exact he
  · by_cases hdirectory : node = .directory
    · subst hdirectory
      obtain ⟨start, links, hstart, hleads⟩ := leads_of_linkStatus_directory hlink
      have hpruned := removeTree_pruned (fs.entries.length + 1) (.refl fs location)
        (.of_start hstart hleads) List.prefix_rfl
      by_cases hbelow : location <+: e.1
      · exact Or.inr ⟨location, .directory, rfl, hbelow, fun hne => absurd rfl hne⟩
      · exact Or.inl (hpruned.kept e he hbelow)
    · by_cases hsame : e.1 = location
      · exact Or.inr ⟨location, node, rfl, hsame ▸ List.prefix_rfl, fun _ => hsame⟩
      · left
        cases hremoved : fs.removeFile p with
        | error fault =>
          cases node with
          | directory => exact absurd rfl hdirectory
          | file content mode =>
            simp only [Remover.plain, hremoved]
            exact he
          | link target =>
            simp only [Remover.plain, hremoved]
            exact he
        | ok after =>
          have hafter : e ∈ after.entries := by
            obtain ⟨found, node', hfound, -, rfl⟩ := linkStatus_of_removeFile hremoved
            obtain ⟨rfl, rfl⟩ := Prod.mk.inj (Except.ok.inj (hlink.symm.trans hfound))
            exact mem_erase_of_ne he hsame
          cases node with
          | directory => exact absurd rfl hdirectory
          | file content mode =>
            simp only [Remover.plain, hremoved]
            exact hafter
          | link target =>
            simp only [Remover.plain, hremoved]
            exact hafter

end Clearing

/-! ### Making ready -/

section Ready

variable {fs : FileSystem} {p root : Path} {basePackage : String} {location : Location} {node : Node}

theorem provideDirectory_keeps (fs : FileSystem) (p : Path) {e : Location × Node}
    (he : e ∈ fs.entries) : e ∈ (provideDirectory fs p).2.entries := by
  have hmade := makeDirectories_made fs p
  have hkept := hmade.kept.mem he
  unfold provideDirectory
  rcases hmake : fs.makeDirectories p with ⟨fault | ⟨⟩, made⟩
  · rw [hmake] at hkept
    exact hkept
  · rw [hmake] at hkept
    exact hkept

theorem makeReady_keeps (fs : FileSystem) (root : Path) (basePackage : String)
    {e : Location × Node} (he : e ∈ (clear fs (Target.below root basePackage).directory).2.entries) :
    e ∈ (makeReady fs root basePackage true).2.entries := by
  unfold makeReady
  rcases hclear : clear fs (Target.below root basePackage).directory with ⟨failure | ⟨⟩, cleared⟩
  · rw [hclear] at he
    simp only [if_true, hclear]
    exact he
  · rw [hclear] at he
    have hprovided := provideDirectory_keeps cleared (Target.below root basePackage).directory he
    simp only [if_true, hclear]
    rcases hprovide : provideDirectory cleared (Target.below root basePackage).directory with
      ⟨failure | ⟨⟩, ready⟩
    · rw [hprovide] at hprovided
      simpa only [hprovide] using hprovided
    · rw [hprovide] at hprovided
      simpa only [hprovide] using hprovided

/-- What a slash behind a path changes: a link is then followed. -/
theorem follow_last_slash {links : Nat} {directory : Location} {piece : FileName} {place : Place}
    (h : fs.follow false links directory [piece, [dot]] = .ok place) :
    (∃ location target,
      fs.follow false links directory [piece] = .ok (.found location (.link target))) ∨
      fs.follow false links directory [piece] = .ok place := by
  rw [follow_cons] at h ⊢
  by_cases hdot : piece = [dot]
  · rw [if_pos hdot, follow_here] at h
    rw [if_pos hdot]
    exact Or.inr h
  by_cases hup : piece = [dot, dot]
  · rw [if_neg hdot, if_pos hup, follow_here] at h
    rw [if_neg hdot, if_pos hup]
    exact Or.inr h
  rw [if_neg hdot, if_neg hup] at h ⊢
  by_cases hlost : IsLost directory
  · rw [if_pos hlost] at h
    cases h
  by_cases hsize : nameLimit < piece.length
  · rw [if_neg hlost, if_pos hsize] at h
    cases h
  rw [if_neg hlost, if_neg hsize] at h ⊢
  cases hnode : fs.node? (directory ++ [piece]) with
  | none => simp [hnode] at h
  | some node =>
    cases node with
    | directory =>
      simp only [hnode, follow_here] at h
      exact Or.inr h
    | file content mode => simp [hnode] at h
    | link target => exact Or.inl ⟨directory ++ [piece], target, by simp⟩

theorem named_join_empty (p : Path) : (p.join ⟨[]⟩).named = p.named := by
  by_cases hp : p.bytes = []
  · rw [Path.join_of_empty hp]
    cases p
    simp only at hp
    rw [hp]
  · obtain ⟨front, -, hjoin, hpieces⟩ := Path.pieces_join (q := ⟨[]⟩) hp (by decide)
    have hempty : (Path.mk []).pieces = [[]] := by decide
    unfold Path.named
    rw [hjoin, hempty]
    rcases hpieces with hpieces | hpieces
    · simp [hpieces]
    · rw [hpieces]

/-- Joining the empty path leaves what is at a path the same, unless that is a link. -/
theorem linkStatus_of_join_empty (h : fs.linkStatus (p.join ⟨[]⟩) = .ok (location, node)) :
    (∃ found target, fs.linkStatus p = .ok (found, .link target)) ∨
      fs.linkStatus p = .ok (location, node) := by
  by_cases hp : p.bytes = [] ∨ p.endsWithSlash = true
  · have hsame : p.join ⟨[]⟩ = p := by
      rcases hp with hp | hp
      · rw [Path.join_of_empty hp]
        cases p
        simp only at hp
        rw [hp]
      · simp [Path.join, hp, show (Path.mk []).isAbsolute = false by decide]
    rw [hsame] at h
    exact Or.inr h
  rw [not_or] at hp
  obtain ⟨start, hstart, hfollow⟩ := linkStatus_eq_ok h
  have hstart' : fs.start p = .ok start := start_of_isPrefix hstart hp.1
    (isPrefix_join (by decide)) (Path.isAbsolute_join hp.1 (by decide)).symm
  have hlook : ∀ {found : Location} {node' : Node},
      fs.follow false linkLimit start p.named = .ok (.found found node') →
        fs.linkStatus p = .ok (found, node') := by
    intro found node' hfound
    unfold linkStatus
    rw [locate_of_start hstart', steps_eq_named (by simpa using hp.2), hfound]
    rfl
  rcases steps_eq_or (p.join ⟨[]⟩) with hsteps | hsteps
  · rw [hsteps, named_join_empty] at hfollow
    exact Or.inr (hlook hfollow)
  rw [hsteps, named_join_empty] at hfollow
  cases hnamed : p.named using List.reverseRecOn with
  | nil =>
    rw [hnamed, List.nil_append, follow_here] at hfollow
    rw [hnamed] at hlook
    exact Or.inr (hlook hfollow)
  | append_singleton init piece =>
    rw [hnamed, List.append_assoc] at hfollow
    rw [hnamed] at hlook
    rcases leads_or_error fs linkLimit start init with ⟨links, directory, hleads⟩ | ⟨fault, herror⟩
    · rw [follow_of_leads hleads (Or.inl (by simp))] at hfollow hlook
      rcases follow_last_slash hfollow with ⟨found, target, hfound⟩ | hfound
      · exact Or.inl ⟨found, target, hlook hfound⟩
      · exact Or.inr (hlook hfound)
    · rw [herror false _ (by simp)] at hfollow
      cases hfollow

end Ready

/-! ### Links at the place of a target -/

/-- The path of a target's directory; the directory of a package without segments is the root
itself. -/
def place (root : Path) (basePackage : String) : Path :=
  if PackageName.segments (PackageName.cleaned basePackage) = [] then root
  else (below root basePackage).directory

/-- Whether a location is that of the entry at a path, or below it when that is a directory. -/
def AtOrBelow (fs : FileSystem) (p : Path) (location : Location) : Prop :=
  ∃ found node, fs.linkStatus p = .ok (found, node) ∧
    (location = found ∨ node = .directory ∧ found <+: location)

/-- Clearing a target leaves every entry that is not at its place or below a directory there, and so
whatever is reached through a link only. A link that is the root of an empty package is followed. -/
theorem makeReady_sparesLinked (fs : FileSystem) (root : Path) (basePackage : String)
    (hroot : PackageName.segments (PackageName.cleaned basePackage) = [] →
      ∀ location target, fs.linkStatus root ≠ .ok (location, .link target))
    {e : Location × Node} (he : e ∈ fs.entries)
    (hapart : ¬ AtOrBelow fs (place root basePackage) e.1) :
    e ∈ (makeReady fs root basePackage true).2.entries := by
  apply makeReady_keeps
  rcases clear_keeps fs (below root basePackage).directory he with
    hkept | ⟨location, node, hlink, hbelow, hsame⟩
  · exact hkept
  have hplace : fs.linkStatus (place root basePackage) = .ok (location, node) := by
    unfold place
    split_ifs with hsegments
    · have hdirectory : (below root basePackage).directory = root.join ⟨[]⟩ := by
        simp only [below, PackageName.directory, hsegments]
        rfl
      rw [hdirectory] at hlink
      rcases linkStatus_of_join_empty hlink with ⟨found, target, hfound⟩ | hfound
      · exact absurd hfound (hroot hsegments found target)
      · exact hfound
    · exact hlink
  refine absurd ⟨location, node, hplace, ?_⟩ hapart
  by_cases hdirectory : node = .directory
  · exact Or.inr ⟨hdirectory, hbelow⟩
  · exact Or.inl (hsame hdirectory)

/-- A target whose directory is a link to another one. -/
def linked : FileSystem :=
  FileSystem.empty
    |>.add [] "keep" .directory
    |>.add ["keep"] "notes" (.file [0x31] 0o644)
    |>.add [] "out" .directory
    |>.add ["out"] "gen" (.link ⟨"../keep"⟩)

theorem linked_place :
    linked.linkStatus (place ⟨"out"⟩ "gen") = .ok (["out", "gen"], .link ⟨"../keep"⟩) := rfl

theorem linked_spared :
    PackageName.segments (PackageName.cleaned "gen") ≠ [] ∧
      ((["keep", "notes"] : Location), Node.file [0x31] 0o644) ∈ linked.entries ∧
      ¬ AtOrBelow linked (place ⟨"out"⟩ "gen") ["keep", "notes"] ∧
      ((["keep", "notes"] : Location), Node.file [0x31] 0o644)
        ∈ (makeReady linked ⟨"out"⟩ "gen" true).2.entries := by
  have hsegments : PackageName.segments (PackageName.cleaned "gen") ≠ [] := by decide
  have hthere : ((["keep", "notes"] : Location), Node.file [0x31] 0o644) ∈ linked.entries := by decide +kernel
  have hapart : ¬ AtOrBelow linked (place ⟨"out"⟩ "gen") ["keep", "notes"] := by
    rintro ⟨found, node, hfound, hplace⟩
    obtain ⟨rfl, rfl⟩ := Prod.mk.inj (Except.ok.inj (linked_place.symm.trans hfound))
    revert hplace
    decide
  exact ⟨hsegments, hthere, hapart, makeReady_sparesLinked linked ⟨"out"⟩ "gen"
    (fun h => absurd h hsegments) hthere hapart⟩

/-- The link at the root of an empty package is followed, and what it leads to is removed. -/
theorem linked_notSpared :
    linked.linkStatus (place ⟨"out/gen"⟩ "") = .ok (["out", "gen"], .link ⟨"../keep"⟩) ∧
      ((["keep", "notes"] : Location), Node.file [0x31] 0o644) ∈ linked.entries ∧
      ((["keep", "notes"] : Location), Node.file [0x31] 0o644)
        ∉ (makeReady linked ⟨"out/gen"⟩ "" true).2.entries := by
  decide +kernel

end Target

end IdlBuild
