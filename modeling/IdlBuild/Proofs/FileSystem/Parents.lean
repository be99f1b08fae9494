import IdlBuild.Proofs.FileSystem.Growth
import IdlBuild.Proofs.FileSystem.Shrinking

/-!
# Parents of files

Where a file is found at a path from the root, the parent of the path leads to a directory that
holds its last name (`exists_parent_of_status`), whatever `..`, dots and doubled slashes the path is
written with.
-/

namespace IdlBuild

namespace Path

/-- The pieces of a path for a walk, cut at the last one that means something. -/
theorem exists_steps_cut {p : Path} {front : List Component} {last : Component}
    (hbody : p.body = front ++ [last]) :
    ∃ init dots, FileSystem.steps p = init ++ last.bytes :: dots ∧
      init.filter (· ≠ [dot]) = front.map Component.bytes ∧ ∀ piece ∈ dots, piece = [dot] := by
  have hbare : p.named.filter (· ≠ [dot]) = front.map Component.bytes ++ [last.bytes] := by
    have hfilter := filter_named p.pieces
    rw [← Path.body, hbody, List.map_append] at hfilter
    exact hfilter
  obtain ⟨before, behind, hnamed, hbefore, hbehind⟩ := List.filter_eq_append_iff.1 hbare
  obtain ⟨idle, dots, rfl, hidle, -, hdots⟩ := List.filter_eq_cons_iff.1 hbehind
  have hinit : (before ++ idle).filter (· ≠ [dot]) = front.map Component.bytes := by
    rw [List.filter_append, hbefore, List.filter_eq_nil_iff.2 hidle, List.append_nil]
  have hsilent : ∀ piece ∈ dots, piece = [dot] := by
    intro piece hpiece
    simpa using List.filter_eq_nil_iff.1 hdots piece hpiece
  rw [← List.append_assoc] at hnamed
  rcases FileSystem.steps_eq_or p with hsteps | hsteps
  · exact ⟨before ++ idle, dots, by rw [hsteps, hnamed], hinit, hsilent⟩
  · refine ⟨before ++ idle, dots ++ [[dot]], ?_, hinit, ?_⟩
    · rw [hsteps, hnamed, List.append_assoc, List.cons_append]
    · intro piece hpiece
      rcases List.mem_append.1 hpiece with hpiece | hpiece
      · exact hsilent piece hpiece
      · exact List.mem_singleton.1 hpiece

theorem isAbsolute_join_of_left {p : Path} (h : p.isAbsolute = true) (q : Path) :
    (p.join q).isAbsolute = true := by
  by_cases hq : q.isAbsolute = true
  · rw [join, if_pos hq]
    exact hq
  · have hne : p.bytes ≠ [] := by
      intro hempty
      rw [isAbsolute, hempty] at h
      exact absurd h (by decide)
    rw [isAbsolute_join hne (by simpa using hq), h]

theorem extend_cons (start : Path) (component : Component) (components : List Component) :
    extend start (component :: components) = extend (start.join ⟨component.bytes⟩) components := rfl

theorem isAbsolute_extend {start : Path} (h : start.isAbsolute = true)
    (components : List Component) : (extend start components).isAbsolute = true := by
  induction components generalizing start with
  | nil => exact h
  | cons component components ih =>
    rw [extend_cons]
    exact ih (isAbsolute_join_of_left h _)

theorem isAbsolute_absoluteFrom {directory : Path} (h : directory.isAbsolute = true) (p : Path) :
    (absoluteFrom directory p).isAbsolute = true := by
  simp only [absoluteFrom]
  generalize (p.bytes.take 2 == [slash, slash] && p.bytes.take 3 != [slash, slash, slash])
    = doubled
  have hextended : (extend
      (if doubled then ⟨[slash, slash]⟩ else if p.isAbsolute then ⟨[]⟩ else directory)
      (p.components.filter fun c => !(c == .here || (doubled && c == .root)))).isAbsolute
        = true := by
    cases doubled with
    | true =>
      have hstart : (Path.mk [slash, slash]).isAbsolute = true := by decide
      exact isAbsolute_extend hstart _
    | false =>
      by_cases hp : p.isAbsolute = true
      · -- The root is the first component that is written.
        have hroot : ((Path.mk []).join ⟨Component.root.bytes⟩).isAbsolute = true := by decide
        have hcomponents : p.components.filter (fun c => !(c == .here || (false && c == .root)))
            = .root :: p.body.filter (fun c => !(c == .here || (false && c == .root))) := by
          rw [components_eq, if_pos hp]
          rfl
        rw [hcomponents, if_neg Bool.false_ne_true, if_pos hp, extend_cons]
        exact isAbsolute_extend hroot _
      · rw [if_neg Bool.false_ne_true, if_neg hp]
        exact isAbsolute_extend h _
  by_cases hslash : p.endsWithSlash = true
  · rw [if_pos hslash]
    exact isAbsolute_join_of_left hextended _
  · rw [if_neg hslash]
    exact hextended

end Path

namespace FileSystem

variable {fs : FileSystem} {p : Path} {location : Location} {node : Node}

theorem isAbsolute_of_absolute {q : Path} (h : fs.absolute p = .ok q) : q.isAbsolute = true := by
  unfold absolute at h
  split_ifs at h
  · cases h
    exact Path.isAbsolute_absoluteFrom (by decide) p
  · cases h
    refine Path.isAbsolute_absoluteFrom ?_ p
    simp [pathOf, Path.isAbsolute]

/-- Where something is found that is no directory, the front of the pieces leads to a directory that
holds the last of them. -/
theorem exists_leads_of_status {front : List Component} {last : Component}
    (hbody : p.body = front ++ [last]) (h : fs.status p = .ok (location, node))
    (hne : node ≠ .directory) :
    ∃ name start links directory found, last = .name name ∧ fs.start p = .ok start ∧
      Leads fs linkLimit start (front.map Component.bytes) links directory ∧
      fs.node? (directory ++ [name]) = some found := by
  obtain ⟨start, hstart, hfollow⟩ := status_eq_ok h
  obtain ⟨init, dots, hsteps, hinit, hdots⟩ := Path.exists_steps_cut hbody
  rw [hsteps, (Dotted.of_filter init (List.cons_ne_nil _ _)).follow_eq, hinit] at hfollow
  rcases leads_or_error fs linkLimit start (front.map Component.bytes) with
    ⟨links, directory, hleads⟩ | ⟨fault, herror⟩
  · rw [follow_of_leads hleads (Or.inr rfl)] at hfollow
    have hmem : last ∈ p.body := by simp [hbody]
    cases last with
    | root => exact absurd rfl (Path.ne_of_mem_body hmem).1
    | here => exact absurd rfl (Path.ne_of_mem_body hmem).2
    | up =>
      -- Two dots lead to a directory, and so do the dots behind them.
      rw [Component.bytes, follow_up, follow_dots hdots] at hfollow
      cases hfollow
      exact absurd rfl hne
    | name name =>
      have hplain : Path.IsPlain name := by
        refine Path.isPlain_of_name_mem (p := p) ?_
        rw [Path.components_eq]
        exact List.mem_append_right _ hmem
      cases hnode : fs.node? (directory ++ [name]) with
      | some found => exact ⟨name, start, links, directory, found, rfl, hstart, hleads, hnode⟩
      | none =>
        rw [Component.bytes, follow_cons, if_neg hplain.2.1, if_neg hplain.2.2.1, hnode] at hfollow
        dsimp only at hfollow
        split_ifs at hfollow
        cases hfollow
  · rw [herror true _ (List.cons_ne_nil _ _)] at hfollow
    cases hfollow

/-- What is found at a path from the root and is no directory lies in the directory that the parent
of the path leads to, under its last name. -/
theorem exists_parent_of_status (ha : p.isAbsolute = true)
    (h : fs.status p = .ok (location, node)) (hne : node ≠ .directory) :
    ∃ q name directory found, p.parent? = some q ∧ p.fileName? = some name ∧
      fs.status q = .ok (directory, .directory) ∧
      fs.node? (directory ++ [name]) = some found := by
  cases hbody : p.body using List.reverseRecOn with
  | nil =>
    obtain ⟨start, hstart, -⟩ := status_eq_ok h
    rw [status_of_body_nil hbody, hstart] at h
    cases h
    exact absurd rfl hne
  | append_singleton front last =>
    obtain ⟨name, start, links, directory, found, rfl, hstart, hleads, hnode⟩ :=
      exists_leads_of_status hbody h hne
    obtain ⟨q, hq, hqbody⟩ := Path.exists_parent hbody
    have hname : p.fileName? = some name :=
      Path.fileName_eq_some_iff.2 (Path.getLast_components_of_body hbody)
    -- Both paths begin at the root, so what leads along the front is where the parent leads.
    have hqstart : fs.start q = .ok start := by
      refine start_of_isPrefix hstart ?_ (Path.parent_isPrefix hq) (Path.isAbsolute_parent hq)
      intro hempty
      rw [← Path.isAbsolute_parent hq, Path.isAbsolute, hempty] at ha
      exact absurd ha (by decide)
    refine ⟨q, name, directory, found, hq, hname, ?_, hnode⟩
    cases front using List.reverseRecOn with
    | nil =>
      cases hleads
      rw [status_of_body_nil hqbody, hqstart]
      rfl
    | append_singleton front last =>
      exact status_of_leads (Path.endsWith_parent hq hqbody) hqstart hleads

end FileSystem

end IdlBuild
