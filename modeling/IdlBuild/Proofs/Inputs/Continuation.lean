import IdlBuild.Proofs.Inputs.Membership

/-!
# Selections that go on

What was found and reported before decides neither whether an entry of a list can be taken nor what
it stands for; it decides only which of the files are new. So a selection that goes on behind files
found already adds those of a selection of its own that are not among them
(`selectInputs_from`), and the journal does not steer it (`selectInputs_journal`).
-/

namespace IdlBuild

open FileSystem

/-- Files found first, and then those of a second list that are not among them. -/
def merged (front back : List InputFile) : List InputFile :=
  front ++ back.filter fun file => !front.any fun found => decide (found.path.Same file.path)

theorem merged_nil (back : List InputFile) : merged [] back = back := by
  simp [merged]

theorem merged_self (files : List InputFile) : merged files files = files := by
  have hnone : (files.filter fun file =>
      !files.any fun found => decide (found.path.Same file.path)) = [] := by
    refine List.filter_eq_nil_iff.2 fun file hfile => ?_
    simpa using ⟨file, hfile, Path.Same.rfl⟩
  rw [merged, hnone, List.append_nil]

/-! ### Findings that go on -/

/-- Whether a finding holds what another one has found, behind files that were found before. -/
def Finding.Continues (front : List InputFile) (f g : Finding) : Prop :=
  f.files = merged front g.files

namespace Finding.Continues

variable {front : List InputFile} {f g : Finding}

theorem holds_iff (h : f.Continues front g) (p : Path) :
    f.Holds p ↔ (∃ file ∈ front, file.path.Same p) ∨ g.Holds p := by
  unfold Holds
  rw [h]
  simp only [merged, List.mem_append, List.mem_filter, Bool.not_eq_true', or_and_right, exists_or]
  refine or_congr_right' fun hnew => ⟨?_, ?_⟩
  · rintro ⟨file, ⟨hfile, -⟩, hsame⟩
    exact ⟨file, hfile, hsame⟩
  -- A file that was left out would have its match in front.
  rintro ⟨file, hfile, hsame⟩
  refine ⟨file, ⟨hfile, ?_⟩, hsame⟩
  refine List.any_eq_false.2 fun found hfound => ?_
  rw [decide_eq_true_iff]
  exact fun hfirst => hnew ⟨found, hfound, hfirst.trans hsame⟩

theorem add (h : f.Continues front g) (file : InputFile) :
    (f.add file).Continues front (g.add file) := by
  have hholds := h.holds_iff file.path
  unfold Finding.Continues at *
  unfold Finding.add
  rw [← any_same_iff, ← any_same_iff] at hholds
  by_cases hg : (g.files.any fun found => decide (found.path.Same file.path)) = true
  · rw [if_pos (hholds.2 (Or.inr hg)), if_pos hg, h]
  -- The file is new behind; whether it is new in all depends on the files in front.
  rw [if_neg hg]
  by_cases hfront : ∃ found ∈ front, found.path.Same file.path
  · rw [if_pos (hholds.2 (Or.inl hfront))]
    have hleft : (front.any fun found => decide (found.path.Same file.path)) = true := by
      simpa using hfront
    simp only [h, merged, List.filter_append, List.filter_singleton, hleft, Bool.not_true,
      cond_false, List.append_nil]
  · rw [if_neg fun hf => (hholds.1 hf).elim hfront hg]
    have hkept : (front.any fun found => decide (found.path.Same file.path)) = false := by
      simpa using hfront
    simp only [h, merged, List.filter_append, List.filter_singleton, hkept, Bool.not_false,
      cond_true, List.append_assoc]

theorem addPath (fs : FileSystem) (h : f.Continues front g) (p : Path) :
    (f.addPath fs p).1 = (g.addPath fs p).1 ∧
      (f.addPath fs p).2.Continues front (g.addPath fs p).2 := by
  unfold Finding.addPath
  cases InputFile.ofPath fs p with
  | error failure => exact ⟨rfl, h⟩
  | ok file => exact ⟨rfl, h.add file⟩

theorem visit (fs : FileSystem) (directory : Path) (exclusions : Exclusions)
    (h : f.Continues front g) (visit : Visit) :
    (considerVisit fs directory exclusions f visit).1
        = (considerVisit fs directory exclusions g visit).1 ∧
      (considerVisit fs directory exclusions f visit).2.Continues front
        (considerVisit fs directory exclusions g visit).2 := by
  cases visit with
  | fault fault => exact ⟨rfl, h⟩
  | entry p kind =>
    cases kind with
    | directory => exact ⟨rfl, h⟩
    | file =>
      simp only [considerVisit]
      split
      · exact ⟨rfl, h⟩
      · split
        · exact ⟨rfl, h⟩
        · exact h.addPath fs p

theorem input (fs : FileSystem) (exclusions : Exclusions) (h : f.Continues front g)
    (input : String) :
    (considerInput fs exclusions f input).1 = (considerInput fs exclusions g input).1 ∧
      (considerInput fs exclusions f input).2.Continues front
        (considerInput fs exclusions g input).2 := by
  simp only [considerInput]
  split
  · exact ⟨rfl, h⟩
  · split
    · exact inTurn_related (R := Continues front)
        (fun _ _ visit h => h.visit fs (.ofText input) exclusions visit) _ h
    · exact h.addPath fs _

end Finding.Continues

/-! ### Selections -/

section Selections

variable (fs : FileSystem) (exclusions : Exclusions)

/-- The files that were found, if nothing failed until then. -/
def filesOf (run : Except Failure Unit × Finding) : Except Failure (List InputFile) :=
  run.1.map fun _ => run.2.files

theorem selectInputs_fst (inputs : String) (journal : Journal) :
    (selectInputs fs inputs exclusions journal).1 =
      filesOf (inTurn (considerInput fs exclusions)
        ⟨[], journal.add .debug s!"Tokenizing idl-files={inputs}"⟩ (commaList inputs)) := by
  simp only [selectInputs]
  rcases inTurn (considerInput fs exclusions)
      ⟨[], journal.add .debug s!"Tokenizing idl-files={inputs}"⟩ (commaList inputs) with
    ⟨failure | ⟨⟩, finding⟩
  · rfl
  · rfl

/-- Behind files that were found before, the entries of a list fail as they do in a selection of
their own, or add those of its files that are new. -/
theorem selectInputs_from (inputs : String) (journal : Journal) (finding : Finding) :
    filesOf (inTurn (considerInput fs exclusions) finding (commaList inputs)) =
      (selectInputs fs inputs exclusions journal).1.map (merged finding.files) := by
  have hstart : finding.Continues finding.files
      ⟨[], journal.add .debug s!"Tokenizing idl-files={inputs}"⟩ := by
    simp [Finding.Continues, merged]
  obtain ⟨hresult, hfiles⟩ := inTurn_related (R := Finding.Continues finding.files)
    (fun _ _ input h => h.input fs exclusions input) (commaList inputs) hstart
  unfold Finding.Continues at hfiles
  rw [selectInputs_fst, filesOf, filesOf, hresult, hfiles]
  cases (inTurn (considerInput fs exclusions)
    ⟨[], journal.add .debug s!"Tokenizing idl-files={inputs}"⟩ (commaList inputs)).1 with
  | error failure => rfl
  | ok _ => rfl

/-- The files that a list of inputs stands for, whatever the journal holds. -/
theorem selectInputs_journal (inputs : String) (journal journal' : Journal) :
    (selectInputs fs inputs exclusions journal).1
      = (selectInputs fs inputs exclusions journal').1 := by
  -- The run of the one selection goes on behind no files.
  rw [selectInputs_fst, selectInputs_from fs exclusions inputs journal']
  cases (selectInputs fs inputs exclusions journal').1 with
  | error failure => rfl
  | ok files => exact congrArg Except.ok (merged_nil files)

end Selections

end IdlBuild
