import IdlBuild.FileSystem.Requests
import Mathlib.Data.List.Infix
import Mathlib.Data.List.Nodup
import Mathlib.Data.List.Perm.Subperm

/-!
# File systems without a subtree

`without` takes away what is at and below a location. Every other entry stays as it is, and where
nothing is inside a location that is all that erasing it does (`erase_eq_without`).
-/

namespace IdlBuild.FileSystem

variable {fs : FileSystem} {location other : Location} {node : Node}

/-! ### Entries on the way -/

theorem mem_of_isPrefix {e : Location × Node} (he : e ∈ fs.entries) (hroot : location ≠ [])
    (hpre : location <+: e.1) (hne : location ≠ e.1) : (location, .directory) ∈ fs.entries := by
  -- on the number of names that are left between the two
  obtain ⟨inner, hinner⟩ := hpre
  induction inner using List.reverseRecOn generalizing e with
  | nil => exact absurd (by simpa using hinner) hne
  | append_singleton inner name ih =>
    have hup : e.1.dropLast = location ++ inner := by
      rw [← hinner, ← List.append_assoc, List.dropLast_concat]
    rcases (fs.rooted e he).2 with hnil | hmem
    · rw [hup] at hnil
      exact absurd (List.append_eq_nil_iff.1 hnil).1 hroot
    · rw [hup] at hmem
      by_cases hdone : inner = []
      · simpa [hdone] using hmem
      · exact ih hmem (by simpa using hdone) rfl

theorem isDirectory_of_isPrefix {directory : Location} (h : fs.IsDirectory directory)
    (hpre : location <+: directory) : fs.IsDirectory location := by
  by_cases hroot : location = []
  · exact Or.inl hroot
  · rcases h with rfl | hmem
    · exact absurd (List.prefix_nil.1 hpre) hroot
    · by_cases hsame : location = directory
      · exact Or.inr (hsame ▸ hmem)
      · exact Or.inr (mem_of_isPrefix hmem hroot hpre hsame)

/-! ### The subtree -/

/-- The file system without what is at and below a location; a working directory there is lost. -/
def without (fs : FileSystem) (location : Location) : FileSystem where
  entries := fs.entries.filter fun e => ¬ location <+: e.1
  workingDirectory :=
    if location <+: standing fs.workingDirectory then location.dropLast ++ [[]]
    else fs.workingDirectory
  distinct := fs.distinct.sublist (List.filter_sublist.map _)
  rooted := by
    intro e he
    obtain ⟨he, hout⟩ := List.mem_filter.1 he
    rw [decide_eq_true_eq] at hout
    refine ⟨(fs.rooted e he).1, (fs.rooted e he).2.imp id fun hm => List.mem_filter.2 ⟨hm, ?_⟩⟩
    rw [decide_eq_true_eq]
    exact fun hin => hout (hin.trans (List.dropLast_prefix _))
  named := fun e he => fs.named e (List.mem_filter.1 he).1
  sound := fun e he => fs.sound e (List.mem_filter.1 he).1
  placed := by
    split
    · next hin =>
      have hup : fs.IsDirectory location.dropLast :=
        isDirectory_of_isPrefix fs.placed.1 ((List.dropLast_prefix _).trans hin)
      have hproper : ∀ name ∈ location.dropLast, name ≠ [] := fun name hname =>
        (fs.isName_of_mem_directory hup hname).1
      unfold PlacedIn
      rw [standing_of_proper hproper, fallen_of_proper hproper]
      refine ⟨?_, by simp⟩
      by_cases hroot : location.dropLast = []
      · exact Or.inl hroot
      · have hlength := List.length_pos_iff.2 hroot
        rw [List.length_dropLast] at hlength
        refine Or.inr (List.mem_filter.2 ⟨hup.resolve_left hroot, ?_⟩)
        rw [decide_eq_true_eq]
        intro hpre
        have hle := hpre.length_le
        rw [List.length_dropLast] at hle
        omega
    · next hout =>
      exact ⟨fs.placed.1.imp id fun hm => List.mem_filter.2 ⟨hm, by rwa [decide_eq_true_eq]⟩,
        fs.placed.2⟩

theorem mem_without {e : Location × Node} :
    e ∈ (fs.without location).entries ↔ e ∈ fs.entries ∧ ¬ location <+: e.1 := by
  simp [without]

theorem eq_of_entries {fs fs' : FileSystem} (hentries : fs.entries = fs'.entries)
    (hdirectory : fs.workingDirectory = fs'.workingDirectory) : fs = fs' := by
  cases fs
  cases fs'
  simp only at hentries hdirectory
  subst hentries hdirectory
  rfl

theorem node?_congr {fs fs' : FileSystem} {other : Location}
    (h : ∀ node, (other, node) ∈ fs'.entries ↔ (other, node) ∈ fs.entries) :
    fs'.node? other = fs.node? other := by
  by_cases hroot : other = []
  · simp [node?, hroot]
  · refine Option.ext fun node => ?_
    rw [node?_eq_some_iff _ hroot, node?_eq_some_iff _ hroot]
    exact h node

theorem node?_without (h : ¬ location <+: other) :
    (fs.without location).node? other = fs.node? other := by
  by_cases hroot : other = []
  · simp [node?, hroot]
  · cases hnode : fs.node? other with
    | none =>
      rw [node?_eq_none_iff] at hnode ⊢
      refine ⟨hroot, fun hmem => hnode.2 ?_⟩
      obtain ⟨e, he, rfl⟩ := List.mem_map.1 hmem
      exact List.mem_map.2 ⟨e, (mem_without.1 he).1, rfl⟩
    | some node =>
      rw [node?_eq_some_iff _ hroot] at hnode ⊢
      exact mem_without.2 ⟨hnode, h⟩

theorem node?_without_of_isPrefix (h : location <+: other) (hroot : location ≠ []) :
    (fs.without location).node? other = none := by
  rw [node?_eq_none_iff]
  refine ⟨fun hnil => hroot (List.prefix_nil.1 (hnil ▸ h)), fun hmem => ?_⟩
  obtain ⟨e, he, rfl⟩ := List.mem_map.1 hmem
  exact (mem_without.1 he).2 h

theorem node?_of_without (hroot : location ≠ [])
    (h : (fs.without location).node? other = some node) :
    fs.node? other = some node ∧ ¬ location <+: other := by
  have hout : ¬ location <+: other := by
    intro hin
    rw [node?_without_of_isPrefix hin hroot] at h
    cases h
  exact ⟨(node?_without hout).symm.trans h, hout⟩

theorem ne_nil_of_apart (h : ¬ location <+: fs.workingDirectory) : location ≠ [] :=
  fun hnil => h (hnil ▸ List.nil_prefix)

theorem workingDirectory_without (h : ¬ location <+: fs.workingDirectory) :
    (fs.without location).workingDirectory = fs.workingDirectory := by
  have hstanding : standing fs.workingDirectory <+: fs.workingDirectory := List.takeWhile_prefix _
  exact if_neg fun hin => h (hin.trans hstanding)

theorem without_without (hpre : location <+: other)
    (hdirectory : ¬ location <+: fs.workingDirectory) :
    (fs.without other).without location = fs.without location := by
  have hother : ¬ other <+: fs.workingDirectory := fun h => hdirectory (hpre.trans h)
  have hwd := workingDirectory_without hother
  refine eq_of_entries ?_ ?_
  · simp only [without, List.filter_filter]
    refine List.filter_congr fun e _ => ?_
    by_cases hin : other <+: e.1
    · simp [hin, hpre.trans hin]
    · simp [hin]
  · rw [workingDirectory_without hdirectory, workingDirectory_without (hwd ▸ hdirectory), hwd]

/-! ### Entries inside others -/

theorem node?_of_mem {e : Location × Node} (he : e ∈ fs.entries) : fs.node? e.1 = some e.2 :=
  (node?_eq_some_iff fs (fs.rooted e he).1).2 he

theorem mem_children {name : FileName} :
    (name, node) ∈ fs.children location ↔ fs.node? (location ++ [name]) = some node := by
  rw [node?_eq_some_iff _ (by simp), children, List.mem_filterMap]
  constructor
  · rintro ⟨⟨found, node'⟩, hmem, hname⟩
    obtain ⟨name', hname', heq⟩ := Option.map_eq_some_iff.1 hname
    cases heq
    unfold nameIn? at hname'
    split at hname'
    · next hin =>
      obtain ⟨init, hinit⟩ := List.getLast?_eq_some_iff.1 hname'
      simp only at hin hinit
      rw [hinit, List.dropLast_concat] at hin
      rw [hinit, hin] at hmem
      exact hmem
    · cases hname'
  · intro hmem
    exact ⟨_, hmem, by simp [nameIn?]⟩

theorem nodup_children (fs : FileSystem) (location : Location) :
    ((fs.children location).map Prod.fst).Nodup := by
  have hmap : (fs.children location).map Prod.fst
      = (fs.entries.map Prod.fst).filterMap (nameIn? location) := by
    simp [children, List.map_filterMap, List.filterMap_map, Function.comp_def]
  rw [hmap]
  refine List.Nodup.filterMap (fun a b name ha hb => ?_) fs.distinct
  unfold nameIn? at ha hb
  simp only [Option.mem_def] at ha hb
  split at ha
  · split at hb
    · next hina hinb =>
      obtain ⟨inita, rfl⟩ := List.getLast?_eq_some_iff.1 ha
      obtain ⟨initb, rfl⟩ := List.getLast?_eq_some_iff.1 hb
      rw [List.dropLast_concat] at hina hinb
      rw [hina, hinb]
    · cases hb
  · cases ha

/-- Whether nothing is inside a location. -/
def IsLeaf (fs : FileSystem) (location : Location) : Prop :=
  ∀ e ∈ fs.entries, location <+: e.1 → location = e.1

theorem isLeaf_of_children (h : fs.children location = []) :
    fs.IsLeaf location := by
  intro e he hpre
  by_contra hne
  obtain ⟨inner, hinner⟩ := hpre
  cases inner with
  | nil => exact hne (by simpa using hinner)
  | cons name inner =>
    obtain ⟨node, hnode⟩ : ∃ node, (location ++ [name], node) ∈ fs.entries := by
      by_cases hdone : location ++ [name] = e.1
      · exact ⟨e.2, hdone ▸ he⟩
      · exact ⟨.directory, mem_of_isPrefix he (by simp) ⟨inner, by rw [← hinner]; simp⟩ hdone⟩
    have hmem : (name, node) ∈ fs.children location :=
      mem_children.2 ((node?_eq_some_iff _ (by simp)).2 hnode)
    rw [h] at hmem
    simp at hmem

theorem children_of_isLeaf (h : fs.IsLeaf location) : fs.children location = [] := by
  rw [List.eq_nil_iff_forall_not_mem]
  rintro ⟨name, node⟩ hmem
  have hin := (node?_eq_some_iff fs (by simp)).1 (mem_children.1 hmem)
  have hlength := congrArg List.length (h _ hin (List.prefix_append _ _))
  simp at hlength

theorem isLeaf_of_node (hroot : location ≠ []) (hnode : fs.node? location = some node)
    (hne : node ≠ .directory) : fs.IsLeaf location := by
  intro e he hpre
  by_contra hout
  have hdirectory := mem_of_isPrefix he hroot hpre hout
  rw [← node?_eq_some_iff _ hroot, hnode] at hdirectory
  exact hne (Option.some.inj hdirectory)

/-- Erasing a location that nothing is inside takes away what is at and below it. -/
theorem erase_eq_without (hroot : location ≠ []) (hleaf : fs.IsLeaf location)
    (hdirectory : ¬ location <+: fs.workingDirectory) :
    fs.erase location = fs.without location := by
  have hinside : ∀ e ∈ fs.entries, e.1.dropLast ≠ location := by
    intro e he hup
    have hpre : location <+: e.1 := hup ▸ List.dropLast_prefix e.1
    have hlength := congrArg List.length ((hleaf e he hpre).symm.trans hup.symm)
    have hne := List.length_pos_iff.2 (fs.rooted e he).1
    rw [List.length_dropLast] at hlength
    omega
  have hwd : standing fs.workingDirectory ≠ location := by
    rintro rfl
    exact hdirectory (List.takeWhile_prefix _)
  unfold erase
  rw [dif_pos ⟨hroot, hinside⟩]
  refine eq_of_entries ?_ ?_
  · refine List.filter_congr fun e he => ?_
    by_cases hsame : e.1 = location
    · simp [hsame]
    · have hout : ¬ location <+: e.1 := fun hpre => hsame (hleaf e he hpre).symm
      simp [hsame, hout]
  · rw [workingDirectory_without hdirectory]
    simp [hwd]

/-! ### Sizes -/

/-- A location has no more names than there are entries: one for each directory on the way. -/
theorem length_le_entries {e : Location × Node} (he : e ∈ fs.entries) :
    e.1.length ≤ fs.entries.length := by
  have hfronts : ((List.range e.1.length).map fun k => e.1.take (k + 1)).Nodup := by
    refine List.Nodup.map_on ?_ List.nodup_range
    intro a ha b hb hab
    rw [List.mem_range] at ha hb
    have hlength := congrArg List.length hab
    simp only [List.length_take] at hlength
    omega
  have hsub : ((List.range e.1.length).map fun k => e.1.take (k + 1))
      ⊆ fs.entries.map Prod.fst := by
    intro front hfront
    obtain ⟨k, hk, rfl⟩ := List.mem_map.1 hfront
    rw [List.mem_range] at hk
    by_cases hdone : e.1.take (k + 1) = e.1
    · rw [hdone]
      exact List.mem_map.2 ⟨e, he, rfl⟩
    · have hne : e.1.take (k + 1) ≠ [] := by
        intro hnil
        have hlength := congrArg List.length hnil
        simp only [List.length_take, List.length_nil] at hlength
        omega
      exact List.mem_map.2 ⟨_, mem_of_isPrefix he hne (List.take_prefix _ _) hdone, rfl⟩
  have hlength := (List.subperm_of_subset hfronts hsub).length_le
  simpa using hlength

end IdlBuild.FileSystem
