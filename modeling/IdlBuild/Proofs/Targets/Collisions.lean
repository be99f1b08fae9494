import IdlBuild.Proofs.Calls.Outputs

/-!
# Colliding JSON files

Two names have one JSON file in a target exactly when they have one stem. Names that end in `.idl`
have one stem only when they are equal; another name is cut at its last dot (`CutsTo`), so that it
can collide with one that ends in `.idl`. In a run whose files all end in `.idl` and have different
bare names, two calls have one JSON path only when they are for one file (`jsonFile_collisions`).
-/

namespace IdlBuild

open Text (encode)

namespace PackageName

/-! ### Names that end in `.idl` -/

theorem dropEnding_append (kept ending : List Char) :
    dropEnding? ending (kept ++ ending) = some kept := by
  have hends : ending.isSuffixOf (kept ++ ending) = true :=
    List.isSuffixOf_iff_suffix.2 (List.suffix_append ..)
  have hlength : (kept ++ ending).length - ending.length = kept.length := by
    rw [List.length_append]
    omega
  rw [dropEnding?, if_pos hends, hlength, List.take_left]

theorem stem_idl (s : String) : stem (s ++ ".idl") = s := by
  have hdrop : dropEnding? suffix.toList (s ++ ".idl").toList = some s.toList := by
    rw [String.toList_append]
    exact dropEnding_append s.toList suffix.toList
  rw [stem, hdrop]
  exact String.ofList_toList

theorem hasIdlSuffix_iff {name : String} : hasIdlSuffix name = true ↔ ∃ s, name = s ++ ".idl" := by
  rw [hasIdlSuffix, List.isSuffixOf_iff_suffix]
  constructor
  · rintro ⟨front, hfront⟩
    refine ⟨String.ofList front, String.toList_injective ?_⟩
    rw [String.toList_append, String.toList_ofList]
    exact hfront.symm
  · rintro ⟨s, rfl⟩
    rw [String.toList_append]
    exact List.suffix_append ..

theorem stem_inj_of_idl {m n : String} (hm : hasIdlSuffix m = true) (hn : hasIdlSuffix n = true) :
    stem m = stem n ↔ m = n := by
  obtain ⟨s, rfl⟩ := hasIdlSuffix_iff.1 hm
  obtain ⟨t, rfl⟩ := hasIdlSuffix_iff.1 hn
  rw [stem_idl, stem_idl, String.append_left_inj]

/-! ### Other names -/

/-- What a name that does not end in `.idl` is cut to. -/
inductive CutsTo : (name stem : String) → Prop where
  | lastDot {before last : String} (hbefore : before ≠ "") (hup : before ++ "." ++ last ≠ "..")
      (hlast : '.' ∉ last.toList) : CutsTo (before ++ "." ++ last) before
  | noDot {name : String} (h : '.' ∉ name.toList) : CutsTo name name
  | leadingDot {last : String} (h : '.' ∉ last.toList) : CutsTo ("." ++ last) ("." ++ last)
  | up : CutsTo ".." ".."

theorem exists_cutsTo (name : String) : ∃ s, CutsTo name s := by
  by_cases hup : name = ".."
  · exact ⟨"..", hup ▸ .up⟩
  cases hcut : Text.cutLast '.' name.toList with
  | none => exact ⟨name, .noDot (Text.cutLast_eq_none_iff.1 hcut)⟩
  | some cut =>
    obtain ⟨before, last⟩ := cut
    obtain ⟨hname, hlast⟩ := Text.eq_of_cutLast_eq_some hcut
    obtain rfl : name = String.ofList before ++ "." ++ String.ofList last := by
      apply String.toList_injective
      simp only [hname, String.toList_append, String.toList_ofList]
      exact List.append_cons ..
    by_cases hbefore : String.ofList before = ""
    · rw [hbefore]
      exact ⟨_, .leadingDot (by simpa using hlast)⟩
    · exact ⟨_, .lastDot hbefore hup (by simpa using hlast)⟩

theorem CutsTo.stemOf_eq {name s : String} (h : CutsTo name s) :
    Path.stemOf (encode name) = encode s := by
  have hbytes : ∀ before last : String,
      encode (before ++ "." ++ last) = encode before ++ dot :: encode last := by
    intro before last
    rw [Text.encode_append, Text.encode_append]
    exact (List.append_cons ..).symm
  have hup : encode ".." = [dot, dot] := rfl
  cases h with
  | @lastDot _ last hbefore hother hlast =>
    have hplain : encode (s ++ "." ++ last) ≠ [dot, dot] :=
      hup ▸ Text.encode_injective.ne hother
    rw [Path.stemOf, if_neg hplain, hbytes,
      Text.cutLast_append (mt Path.dot_mem_encode.1 hlast)]
    dsimp only
    rw [if_neg (mt Text.encode_eq_nil_iff.1 hbefore)]
  | noDot h =>
    have hnone := mt Path.dot_mem_encode.1 h
    have hplain : encode name ≠ [dot, dot] := fun hs => hnone (by simp [hs])
    rw [Path.stemOf, if_neg hplain, Text.cutLast_eq_none_iff.2 hnone]
  | @leadingDot last h =>
    have hname : encode ("." ++ last) = [] ++ dot :: encode last := Text.encode_append ..
    have hnone := mt Path.dot_mem_encode.1 h
    have hplain : [] ++ dot :: encode last ≠ [dot, dot] := fun hs => hnone (by simp_all)
    rw [Path.stemOf, hname, if_neg hplain, Text.cutLast_append hnone]
    dsimp only
    rw [if_pos rfl]
  | up => rw [hup, Path.stemOf, if_pos rfl]

/-- A name that is no file name is its own stem. -/
theorem fileStem_getD {name s : String} (h : '/' ∉ name.toList) (hcut : CutsTo name s) :
    ((Path.ofText name).fileStem?.bind Text.decode).getD name = s := by
  by_cases hplain : Path.IsPlain (encode name)
  · have hname : (Path.ofText name).fileName? = some (encode name) := by
      rw [Path.fileName?, Path.components_of_isPlain hplain]
      rfl
    rw [Path.fileStem?, hname, Option.map_some, Option.bind_some, hcut.stemOf_eq,
      Text.decode_encode, Option.getD_some]
  · have hother : name = "" ∨ name = "." ∨ name = ".." := by
      by_contra hnone
      simp only [not_or] at hnone
      exact hplain (Path.isPlain_encode_iff.2 ⟨hnone.1, hnone.2.1, hnone.2.2, h⟩)
    have hnone : (Path.ofText name).fileStem? = none := by
      rcases hother with rfl | rfl | rfl <;> decide
    have hown : Path.stemOf (encode name) = encode name := by
      rcases hother with rfl | rfl | rfl <;> decide
    rw [hnone, Option.bind_none, Option.getD_none]
    exact Text.encode_injective (hown.symm.trans hcut.stemOf_eq)

theorem stem_of_not_idl {name s : String} (h : '/' ∉ name.toList)
    (hidl : hasIdlSuffix name = false) (hcut : CutsTo name s) : stem name = s := by
  have hdrop : dropEnding? suffix.toList name.toList = none := by
    rw [hasIdlSuffix] at hidl
    rw [dropEnding?, hidl]
    rfl
  rw [stem, hdrop]
  exact fileStem_getD h hcut

theorem stem_eq_iff {name s : String} (h : '/' ∉ name.toList) (hidl : hasIdlSuffix name = false) :
    stem name = s ↔ CutsTo name s := by
  constructor
  · rintro rfl
    obtain ⟨s, hcut⟩ := exists_cutsTo name
    rwa [stem_of_not_idl h hidl hcut]
  · exact stem_of_not_idl h hidl

end PackageName

open PackageName (stem CutsTo)

/-! ### JSON files -/

theorem Target.same_jsonFile_iff (target : Target) {m n : String} (hm : '/' ∉ m.toList)
    (hn : '/' ∉ n.toList) :
    (target.jsonFile m).Same (target.jsonFile n) ↔ stem m = stem n := by
  constructor
  · intro h
    rw [Path.Same, target.components_jsonFile hm, target.components_jsonFile hn] at h
    have hlast := List.singleton_inj.1 (List.append_cancel_left h)
    exact (String.append_left_inj _).1 (Text.encode_injective (Component.name.inj hlast))
  · intro h
    rw [Target.jsonFile_congr h]
    exact Path.Same.rfl

/-! ### Runs -/

/-- Whether the JSON paths of the files of a run are different: as they are planned, as the calls get
them, of which each file in turn has two, and as they are reported. -/
structure HasOwnPaths (target : Target) (files : List InputFile) (events : List Event)
    (result : Except Failure Product) : Prop where
  planned : files.Pairwise fun idl idl' =>
    ¬ (target.jsonFile idl.bareName).Same (target.jsonFile idl'.bareName)
  called : ∀ i j e e', events[i]? = some e → events[j]? = some e' →
    (e.call.jsonFile.Same e'.call.jsonFile ↔ i / 2 = j / 2)
  reported : ∀ made, result = .ok made →
    made.tasks.Pairwise fun task task' => ¬ task.jsonFile.Same task'.jsonFile

/-- Whether files are told apart by names that end in `.idl`. -/
structure AreNamedApart (files : List InputFile) : Prop where
  idl : ∀ idl ∈ files, hasIdlSuffix idl.bareName = true
  nodup : (files.map InputFile.bareName).Nodup

namespace AreNamedApart

variable {σ : Type} {files : List InputFile}

theorem eq_of_stem (h : AreNamedApart files) {i j : Nat} {idl idl' : InputFile}
    (hi : files[i]? = some idl) (hj : files[j]? = some idl')
    (hstem : stem idl.bareName = stem idl'.bareName) : i = j := by
  have hname := (PackageName.stem_inj_of_idl (h.idl idl (List.mem_of_getElem? hi))
    (h.idl idl' (List.mem_of_getElem? hj))).1 hstem
  obtain ⟨hlength, -⟩ := List.getElem?_eq_some_iff.1 hi
  refine (List.getElem?_inj (by simpa using hlength) h.nodup).1 ?_
  rw [List.getElem?_map, List.getElem?_map, hi, hj, Option.map_some, Option.map_some, hname]

theorem planned (h : AreNamedApart files) (target : Target) :
    files.Pairwise fun idl idl' =>
      ¬ (target.jsonFile idl.bareName).Same (target.jsonFile idl'.bareName) := by
  have hnames : files.Pairwise fun idl idl' => idl.bareName ≠ idl'.bareName :=
    List.pairwise_map.1 h.nodup
  refine hnames.imp_of_mem fun {idl idl'} hmem hmem' hne hsame => hne ?_
  rw [target.same_jsonFile_iff idl.not_mem_bareName idl'.not_mem_bareName] at hsame
  exact (PackageName.stem_inj_of_idl (h.idl idl hmem) (h.idl idl' hmem')).1 hsame

theorem called (h : AreNamedApart files) {target : Target} {immutable : Bool}
    {fs after : FileSystem} {events : List Event} {result : Except Failure (List GeneratorTask)}
    (hhandling : Handling target immutable fs files events result after) {i j : Nat} {e e' : Event}
    (hi : events[i]? = some e) (hj : events[j]? = some e') :
    e.call.jsonFile.Same e'.call.jsonFile ↔ i / 2 = j / 2 := by
  obtain ⟨idl, first, hfile, hfirst, hpath⟩ := hhandling.absoluteAt hi
  obtain ⟨idl', first', hfile', hfirst', hpath'⟩ := hhandling.absoluteAt hj
  constructor
  · intro hsame
    exact h.eq_of_stem hfile hfile' (Target.stem_eq_of_same hpath hpath' hsame)
  · intro heq
    rw [heq] at hfile hfirst
    obtain rfl := Option.some.inj (hfile.symm.trans hfile')
    obtain rfl := Option.some.inj (hfirst.symm.trans hfirst')
    obtain heq := Except.ok.inj (hpath.symm.trans hpath')
    rw [heq]
    exact Path.Same.rfl

theorem reported (h : AreNamedApart files) {target : Target} {immutable : Bool}
    {fs after : FileSystem} {events : List Event} {tasks : List GeneratorTask}
    (hhandling : Handling target immutable fs files events (.ok tasks) after) :
    tasks.Pairwise fun task task' => ¬ task.jsonFile.Same task'.jsonFile := by
  have htranslated : ∀ {k} (hk : k < tasks.length), ∃ e, events[2 * k]? = some e ∧
      tasks[k].jsonFile = e.call.jsonFile := by
    intro k hk
    have hk' : k < files.length := hhandling.length_tasks rfl ▸ hk
    obtain ⟨e, jsonFile, hevent, hcall, -, -, htask⟩ :=
      hhandling.translatedAt rfl (List.getElem?_eq_getElem hk')
    obtain ⟨_, htask⟩ := List.getElem?_eq_some_iff.1 htask
    refine ⟨e, hevent, ?_⟩
    rw [htask, hcall]
    rfl
  rw [List.pairwise_iff_getElem]
  intro i j hi hj hlt hsame
  obtain ⟨e, hevent, hpath⟩ := htranslated hi
  obtain ⟨e', hevent', hpath'⟩ := htranslated hj
  rw [hpath, hpath'] at hsame
  have heq := (h.called hhandling hevent hevent').1 hsame
  omega

theorem hasOwnPaths (h : AreNamedApart files) {toolchain : Toolchain σ} {job : Job}
    {w : Workspace σ} (hfiles : job.discovered (job.prepared w.files).2 = .ok files) :
    HasOwnPaths job.target files (toolchain.calls job w)
      ((toolchain.build job).runIn w).1 := by
  refine ⟨h.planned job.target, fun i j e e' hi hj => ?_, fun made hmade => ?_⟩
  · rcases toolchain.handling_of_calls job w with
      hnone | ⟨files', result, after, hfiles', hhandling⟩
    · simp [hnone] at hi
    · obtain rfl := Except.ok.inj (hfiles.symm.trans hfiles')
      exact h.called hhandling hi hj
  · obtain ⟨-, files', hfiles', hhandling⟩ := Toolchain.handling_of_build_ok (Prod.ext hmade rfl)
    obtain rfl := Except.ok.inj (hfiles.symm.trans hfiles')
    exact h.reported hhandling

end AreNamedApart

namespace Target

/-- When the JSON files of a target collide. The names are those of files, so they hold no slash. -/
structure Collisions (target : Target) : Prop where
  /-- Paths that say the same are also written alike. -/
  same_iff : ∀ m n : String, '/' ∉ m.toList → '/' ∉ n.toList →
    ((target.jsonFile m).Same (target.jsonFile n) ↔ stem m = stem n) ∧
      (target.jsonFile m = target.jsonFile n ↔ stem m = stem n)
  idl : ∀ m n : String, '/' ∉ m.toList → '/' ∉ n.toList →
    hasIdlSuffix m = true → hasIdlSuffix n = true →
      ((target.jsonFile m).Same (target.jsonFile n) ↔ m = n)
  other : ∀ n s : String, '/' ∉ n.toList → hasIdlSuffix n = false → (stem n = s ↔ CutsTo n s)
  mixed : ∀ n s : String, '/' ∉ n.toList → '/' ∉ s.toList → hasIdlSuffix n = false →
    ((target.jsonFile (s ++ ".idl")).Same (target.jsonFile n) ↔ stem n = s)
  runs : ∀ {σ : Type} (toolchain : Toolchain σ) (job : Job) (w : Workspace σ)
    (files : List InputFile), job.target = target →
    job.discovered (job.prepared w.files).2 = .ok files → AreNamedApart files →
      HasOwnPaths target files (toolchain.calls job w) ((toolchain.build job).runIn w).1

/-- JSON files collide where stems are equal, so never for different names that end in `.idl`. -/
theorem jsonFile_collisions (target : Target) : target.Collisions where
  same_iff m n hm hn := by
    refine ⟨target.same_jsonFile_iff hm hn, fun h => ?_, jsonFile_congr⟩
    rw [← target.same_jsonFile_iff hm hn, h]
    exact Path.Same.rfl
  idl m n hm hn hidl hidl' := by
    rw [target.same_jsonFile_iff hm hn]
    exact PackageName.stem_inj_of_idl hidl hidl'
  other n s hn hother := PackageName.stem_eq_iff hn hother
  mixed n s hn hs hother := by
    have hidl : '/' ∉ (s ++ ".idl").toList := by
      rw [String.toList_append, List.mem_append, not_or]
      exact ⟨hs, by decide⟩
    rw [target.same_jsonFile_iff hidl hn, PackageName.stem_idl, eq_comm]
  runs toolchain job w files htarget hfiles h := by
    subst htarget
    exact h.hasOwnPaths hfiles

/-- The JSON paths of two files in different directories, and a name that collides with one of
them. -/
theorem strangers_collisions :
    HasOwnPaths Toolchain.strangers.1.target [⟨⟨"/a/x.idl"⟩⟩, ⟨⟨"/b/y.idl"⟩⟩]
        (Toolchain.copying.calls Toolchain.strangers.1 Toolchain.strangers.2)
        (.ok Toolchain.strangersMade) ∧
      (Toolchain.strangers.1.target.jsonFile "x.idl").Same
        (Toolchain.strangers.1.target.jsonFile "x.txt") ∧
      ¬ (Toolchain.strangers.1.target.jsonFile "x.idl").Same
        (Toolchain.strangers.1.target.jsonFile "x.y.txt") := by
  have hcollisions := jsonFile_collisions Toolchain.strangers.1.target
  have hmade : ((Toolchain.copying.build Toolchain.strangers.1).runIn Toolchain.strangers.2).1
      = .ok Toolchain.strangersMade := by
    decide +kernel
  have hnamed : AreNamedApart [⟨⟨"/a/x.idl"⟩⟩, ⟨⟨"/b/y.idl"⟩⟩] :=
    ⟨by decide +kernel, by decide +kernel⟩
  refine ⟨?_, ?_, ?_⟩
  · rw [← hmade]
    exact hcollisions.runs _ _ _ _ rfl (by decide +kernel) hnamed
  · exact (hcollisions.mixed "x.txt" "x" (by decide) (by decide) (by decide +kernel)).2
      (by decide +kernel)
  · rw [(hcollisions.same_iff "x.idl" "x.y.txt" (by decide) (by decide)).1]
    decide +kernel

end Target

end IdlBuild
