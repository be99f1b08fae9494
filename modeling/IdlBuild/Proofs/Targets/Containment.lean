import IdlBuild.Proofs.Calls.Success
import IdlBuild.Proofs.Paths.Texts

/-!
# Targets stay below their root

Whatever text a base package is given as, the directory of its target is the root followed by names
made of letters, digits and underscores, and the JSON file of an IDL file is one name inside that
directory. Cleaning a package name a second time finds the same target, so the directory that a
build clears and makes is the one that it reports.
-/

namespace IdlBuild

/-! ### Segments of package names -/

namespace PackageName

def IsWordChar (c : Char) : Prop :=
  ('A' ≤ c ∧ c ≤ 'Z') ∨ ('a' ≤ c ∧ c ≤ 'z') ∨ ('0' ≤ c ∧ c ≤ '9') ∨ c = '_'

/-- Whether a text is made of one or more letters, digits and underscores. -/
def IsSegment (s : String) : Prop := s ≠ "" ∧ ∀ c ∈ s.toList, IsWordChar c

theorem isAllowed_iff (c : Char) : isAllowed c = true ↔ IsWordChar c ∨ c = '.' := by
  simp only [isAllowed, IsWordChar, Bool.or_eq_true, Bool.and_eq_true, decide_eq_true_eq,
    beq_iff_eq]
  tauto

theorem not_isWordChar_slash : ¬ IsWordChar '/' := by unfold IsWordChar; decide

theorem not_isWordChar_dot : ¬ IsWordChar '.' := by unfold IsWordChar; decide

theorem isSegment_of_mem_segments {s package : String} (h : s ∈ segments (cleaned package)) :
    IsSegment s := by
  obtain ⟨piece, hpiece, rfl⟩ := List.mem_map.1 h
  obtain ⟨hfield, hne⟩ := List.mem_filter.1 hpiece
  have hdot := Text.not_mem_of_mem_fields hfield
  refine ⟨by simpa using hne, fun c hc => ?_⟩
  rw [String.toList_ofList] at hc
  have hall : c ∈ (cleaned package).toList := Text.mem_of_mem_fields hfield hc
  rw [cleaned, String.toList_ofList, List.mem_filter] at hall
  rcases (isAllowed_iff c).1 hall.2 with hword | rfl
  · exact hword
  · exact absurd hc hdot

theorem isPlain_of_isSegment {s : String} (h : IsSegment s) : Path.IsPlain (Text.encode s) := by
  refine Path.isPlain_encode_iff.2 ⟨h.1, ?_, ?_, fun hs => not_isWordChar_slash (h.2 _ hs)⟩
  · rintro rfl
    exact not_isWordChar_dot (h.2 '.' (by decide))
  · rintro rfl
    exact not_isWordChar_dot (h.2 '.' (by decide))

theorem isPlain_of_mem_segments (package : String) :
    ∀ name ∈ (segments (cleaned package)).map Text.encode, Path.IsPlain name := by
  intro name hname
  obtain ⟨s, hs, rfl⟩ := List.mem_map.1 hname
  exact isPlain_of_isSegment (isSegment_of_mem_segments hs)

theorem segments_cleaned {s : String} (h : IsSegment s) : segments (cleaned s) = [s] := by
  have hcleaned : cleaned s = s := by
    rw [cleaned, List.filter_eq_self.2 fun c hc => (isAllowed_iff c).2 (Or.inl (h.2 c hc)),
      String.ofList_toList]
  have hdot : '.' ∉ s.toList := fun hmem => not_isWordChar_dot (h.2 '.' hmem)
  rw [hcleaned, segments, Text.fields_of_not_mem hdot]
  simp [h.1]

theorem components_ofNames {names : List FileName} (h : ∀ name ∈ names, Path.IsPlain name) :
    (Path.ofNames names).components = names.map .name := by
  induction names using List.reverseRecOn with
  | nil => decide
  | append_singleton front last ih =>
    have hfront := ih fun name hn => h name (List.mem_append_left _ hn)
    have hlast := h last (by simp)
    unfold Path.ofNames at hfront ⊢
    rw [List.foldl_append, List.foldl_cons, List.foldl_nil, Path.components_join_name _ hlast,
      hfront, List.map_append, List.map_cons, List.map_nil]

/-! ### Stems -/

theorem not_mem_stemOf {b : UInt8} {name : FileName} (h : b ∉ name) : b ∉ Path.stemOf name := by
  unfold Path.stemOf
  split_ifs
  · exact h
  · split
    · exact h
    · next before after hcut =>
      have hname := (Text.eq_of_cutLast_eq_some hcut).1
      split_ifs
      · exact h
      · exact fun hb => h (hname ▸ List.mem_append_left _ hb)

/-- A stem is no path of its own. -/
theorem not_mem_stem {name : String} (h : '/' ∉ name.toList) : '/' ∉ (stem name).toList := by
  unfold stem
  split
  · next kept hkept =>
    unfold dropEnding? at hkept
    split_ifs at hkept
    cases hkept
    rw [String.toList_ofList]
    exact fun hc => h (List.mem_of_mem_take hc)
  · unfold Path.fileStem?
    cases hfile : (Path.ofText name).fileName? with
    | none => simpa using h
    | some last =>
      have hslash := not_mem_stemOf (Path.isPlain_fileName hfile).2.2.2
      rw [Option.map_some, Option.bind_some]
      cases hstem : Text.decode (Path.stemOf last) with
      | none => simpa using h
      | some s =>
        rw [Text.eq_encode_of_decode hstem, Path.slash_mem_encode] at hslash
        exact hslash

theorem isPlain_stem_json {name : String} (h : '/' ∉ name.toList) :
    Path.IsPlain (Text.encode (stem name ++ ".json")) := by
  have hlength : 5 ≤ (stem name ++ ".json").length := by
    rw [String.length_append]
    exact Nat.le_add_left _ _
  refine Path.isPlain_encode_iff.2 ⟨?_, ?_, ?_, ?_⟩
  · intro hs
    rw [hs] at hlength
    exact absurd hlength (by decide)
  · intro hs
    rw [hs] at hlength
    exact absurd hlength (by decide)
  · intro hs
    rw [hs] at hlength
    exact absurd hlength (by decide)
  · rw [String.toList_append, List.mem_append, not_or]
    exact ⟨not_mem_stem h, by decide⟩

end PackageName

theorem InputFile.not_mem_bareName (idl : InputFile) : '/' ∉ idl.bareName.toList := by
  refine Path.not_mem_decodeLossy ?_
  unfold InputFile.fileName
  cases hname : idl.path.fileName? with
  | none => simp
  | some name => exact (Path.isPlain_fileName hname).2.2.2

namespace Target

/-! ### Directories -/

theorem directory_below (root : Path) (basePackage : String) :
    (below root basePackage).directory
      = root.join (PackageName.directory (PackageName.cleaned basePackage)) := by
  simp only [below]

theorem components_directory (root : Path) (basePackage : String) :
    (below root basePackage).directory.components =
      root.components ++
        ((PackageName.segments (PackageName.cleaned basePackage)).map Text.encode).map .name := by
  rw [directory_below]
  exact Path.components_join_names root
    (PackageName.components_ofNames (PackageName.isPlain_of_mem_segments basePackage))

theorem components_jsonFile (target : Target) {name : String} (h : '/' ∉ name.toList) :
    (target.jsonFile name).components =
      target.directory.components ++ [.name (Text.encode (PackageName.stem name ++ ".json"))] :=
  Path.components_join_name _ (PackageName.isPlain_stem_json h)

theorem exists_parent_jsonFile (target : Target) {name : String} (h : '/' ∉ name.toList) :
    ∃ parent, (target.jsonFile name).parent? = some parent ∧ parent.Same target.directory := by
  have hcomponents := components_jsonFile target h
  cases hparent : (target.jsonFile name).parent? with
  | none =>
    rcases Path.components_of_parent_eq_none hparent with hnil | hroot
    · rw [hnil] at hcomponents
      simp at hcomponents
    · rw [hroot] at hcomponents
      have hlast := congrArg List.getLast? hcomponents
      simp at hlast
  | some parent =>
    refine ⟨parent, rfl, ?_⟩
    rw [Path.Same, Path.components_parent hparent, hcomponents, List.dropLast_concat]

theorem fileName_jsonFile (target : Target) {name : String} (h : '/' ∉ name.toList) :
    (target.jsonFile name).fileName? = some (Text.encode (PackageName.stem name ++ ".json")) := by
  rw [Path.fileName?, components_jsonFile target h, List.getLast?_append]
  rfl

/-! ### Making ready -/

theorem below_cleaned (root : Path) (basePackage : String) :
    below root (PackageName.cleaned basePackage) = below root basePackage := by
  simp [below, PackageName.cleaned_cleaned]

/-- What is cleared and made is the directory of the target, though its package name is cleaned
once more on the way. -/
theorem makeReady_below (fs : FileSystem) (root : Path) (basePackage : String) (clearFirst : Bool) :
    makeReady fs (below root basePackage).root (below root basePackage).basePackage clearFirst =
      match if clearFirst then clear fs (below root basePackage).directory else (.ok (), fs) with
      | (.error failure, fs) => (.error failure, fs)
      | (.ok (), fs) =>
        match provideDirectory fs (below root basePackage).directory with
        | (.error failure, fs) => (.error failure, fs)
        | (.ok (), fs) => (.ok (below root basePackage).directory, fs) := by
  have hsame : below (below root basePackage).root (below root basePackage).basePackage
      = below root basePackage := below_cleaned root basePackage
  rewrite [makeReady, hsame]
  generalize below root basePackage = target
  rfl

theorem makeReady_eq_directory {fs after : FileSystem} {root directory : Path}
    {basePackage : String} {clearFirst : Bool}
    (h : makeReady fs root basePackage clearFirst = (.ok directory, after)) :
    directory = (below root basePackage).directory := by
  simp only [makeReady] at h
  rcases hclear : (if clearFirst = true then clear fs (below root basePackage).directory
    else (.ok (), fs)) with ⟨failure | ⟨⟩, cleared⟩
  · simp only [hclear] at h
    cases h
  · simp only [hclear] at h
    rcases hmade : provideDirectory cleared (below root basePackage).directory with
      ⟨failure | ⟨⟩, made⟩
    · simp only [hmade] at h
      cases h
    · simp only [hmade, Prod.mk.injEq, Except.ok.injEq] at h
      exact h.1.symm

/-! ### Builds -/

/-- The JSON paths of the calls of a build are those of its target, made absolute. -/
theorem exists_absolute_of_mem_calls {σ : Type} {toolchain : Toolchain σ} {job : Job}
    {w : Workspace σ} {e : Event} (he : e ∈ toolchain.calls job w) :
    ∃ (fs : FileSystem) (name : String), '/' ∉ name.toList ∧
      fs.absolute (job.target.jsonFile name) = .ok e.call.jsonFile := by
  rcases toolchain.handling_of_calls job w with hnone | ⟨files, result, after, -, hhandling⟩
  · rw [hnone] at he
    simp at he
  · obtain ⟨fs, idl, -, habsolute⟩ := hhandling.exists_absolute_of_mem e he
    exact ⟨fs, idl.bareName, InputFile.not_mem_bareName idl, habsolute⟩

/-- Whether all that a target names lies below a root: its directory, which is also the one that is
cleared, made and reported, and the JSON files, which lie in that directory. -/
structure Contained (root : Path) (target : Target) : Prop where
  segments : ∃ segments : List String, (∀ s ∈ segments, PackageName.IsSegment s) ∧
    target.directory.components =
      root.components ++ segments.map fun s => .name (Text.encode s)
  /-- Cleaning the package name once more leads to the same target. -/
  stable : Target.below target.root target.basePackage = target
  ready : ∀ fs clearFirst, makeReady fs target.root target.basePackage clearFirst =
    match if clearFirst then clear fs target.directory else (.ok (), fs) with
    | (.error failure, fs) => (.error failure, fs)
    | (.ok (), fs) =>
      match provideDirectory fs target.directory with
      | (.error failure, fs) => (.error failure, fs)
      | (.ok (), fs) => (.ok target.directory, fs)
  jsonFile : ∀ name : String, '/' ∉ name.toList →
    (∃ parent, (target.jsonFile name).parent? = some parent ∧ parent.Same target.directory) ∧
      (target.jsonFile name).fileName? = some (Text.encode (PackageName.stem name ++ ".json"))
  called : ∀ {σ : Type} (toolchain : Toolchain σ) (job : Job) (w : Workspace σ),
    job.target = target → ∀ e ∈ toolchain.calls job w, ∃ (fs : FileSystem) (name : String),
      '/' ∉ name.toList ∧ fs.absolute (target.jsonFile name) = .ok e.call.jsonFile
  reported : ∀ {σ : Type} (toolchain : Toolchain σ) (job : Job) (w after : Workspace σ)
    (made : Product), job.target = target → (toolchain.build job).runIn w = (.ok made, after) →
      made.directory = target.directory

/-- Whatever its base package is called, a target lies below its root. -/
theorem below_contained (root : Path) (basePackage : String) :
    (below root basePackage).Contained root where
  segments := ⟨PackageName.segments (PackageName.cleaned basePackage),
    fun _ hs => PackageName.isSegment_of_mem_segments hs, by
      rw [components_directory, List.map_map]
      rfl⟩
  stable := below_cleaned root basePackage
  ready fs clearFirst := makeReady_below fs root basePackage clearFirst
  jsonFile _ h := ⟨exists_parent_jsonFile _ h, fileName_jsonFile _ h⟩
  called _ _ _ htarget _ he := htarget ▸ exists_absolute_of_mem_calls he
  reported _ _ _ _ _ htarget h := htarget ▸ (Toolchain.handling_of_build_ok h).1

end Target

end IdlBuild
