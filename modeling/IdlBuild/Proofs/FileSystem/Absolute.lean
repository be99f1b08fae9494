import IdlBuild.Proofs.FileSystem.Parents
import IdlBuild.Proofs.FileSystem.Vacating

/-!
# Absolute forms

The absolute form of a path says what the path says, behind the names of the working directory when
the path is relative (`components_absolute`). So it leads where the path leads, unless it is too
long to be followed or the path ends in a way that asks for a directory: the dots and slashes that
it was written with are gone (`locate_absolute`). What is no directory is found at the absolute form
as it is at the path (`status_absolute`).
-/

namespace IdlBuild

namespace Path

variable {p directory start : Path} {front : List Component} {last c : Component}

/-! ### What absolute forms say -/

/-- What a path says can be written behind another path. -/
theorem endsWith_join_bytes (start : Path) (h : c ∈ p.body) :
    (start.join ⟨c.bytes⟩).EndsWith start.body c := by
  cases c with
  | root => exact absurd rfl (ne_of_mem_body h).1
  | here => exact absurd rfl (ne_of_mem_body h).2
  | up =>
    have hup : (Path.mk [dot, dot]).EndsWith [] .up := ⟨by decide, [], by decide⟩
    exact List.append_nil start.body ▸ EndsWith.join start (by decide) hup
  | name name =>
    refine endsWith_join_name start (isPlain_of_name_mem (p := p) ?_)
    rw [components_eq]
    exact List.mem_append_right _ h

theorem extend_concat (start : Path) (components : List Component) (c : Component) :
    extend start (components ++ [c]) = (extend start components).join ⟨c.bytes⟩ :=
  List.foldl_concat ..

theorem body_extend (start : Path) {components : List Component} (h : components ⊆ p.body) :
    (extend start components).body = start.body ++ components := by
  induction components using List.reverseRecOn with
  | nil => exact (List.append_nil _).symm
  | append_singleton front last ih =>
    obtain ⟨hfront, hlast⟩ := List.append_subset.1 h
    rw [extend_concat, (endsWith_join_bytes _ (hlast (List.mem_singleton_self last))).body, ih hfront,
      List.append_assoc]

theorem filter_body {keep : Component → Bool} (hname : ∀ name, keep (.name name) = true)
    (hup : keep .up = true) (p : Path) : p.body.filter keep = p.body := by
  refine List.filter_eq_self.2 fun c hc => ?_
  cases c with
  | root => exact absurd rfl (ne_of_mem_body hc).1
  | here => exact absurd rfl (ne_of_mem_body hc).2
  | up => exact hup
  | name name => exact hname name

/-- An absolute form is written behind the root, or behind the directory when the path is
relative. -/
theorem exists_absoluteFrom (directory p : Path) :
    ∃ start : Path,
      (start.bytes = [slash] ∨ start.bytes = [slash, slash] ∨
        p.isAbsolute = false ∧ start = directory) ∧
      start.body = (if p.isAbsolute then [] else directory.body) ∧
      absoluteFrom directory p =
        if p.endsWithSlash then (extend start p.body).join ⟨[]⟩ else extend start p.body := by
  by_cases ha : p.isAbsolute = true
  · obtain ⟨rest, hrest⟩ := bytes_of_isAbsolute ha
    have hroot : ∀ keep : Component → Bool, (∀ name, keep (.name name) = true) →
        keep .up = true → p.components.filter keep = [Component.root].filter keep ++ p.body := by
      intro keep hname hup
      rw [components_eq, if_pos ha, List.filter_append, filter_body hname hup]
    rw [if_pos ha]
    by_cases hdoubled : (p.bytes.take 2 == [slash, slash] &&
        p.bytes.take 3 != [slash, slash, slash]) = true
    · refine ⟨⟨[slash, slash]⟩, Or.inr (Or.inl rfl), by decide, ?_⟩
      simp only [absoluteFrom, hdoubled, if_true]
      rw [hroot _ (fun _ => rfl) rfl]
      rfl
    · refine ⟨⟨[slash]⟩, Or.inl rfl, by decide, ?_⟩
      simp only [absoluteFrom, hdoubled, if_false, ha, if_true, Bool.false_eq_true]
      rw [hroot _ (fun _ => rfl) rfl]
      -- The root is written onto nothing.
      have hwritten : extend ⟨[]⟩ (.root :: p.body) = extend ⟨[slash]⟩ p.body := by
        rw [extend_cons]
        congr 1
      exact if_congr Iff.rfl (congrArg (·.join ⟨[]⟩) hwritten) hwritten
  · have hrelative : p.isAbsolute = false := by simpa using ha
    refine ⟨directory, Or.inr (Or.inr ⟨hrelative, rfl⟩), by rw [if_neg ha], ?_⟩
    have hdoubled : (p.bytes.take 2 == [slash, slash] &&
        p.bytes.take 3 != [slash, slash, slash]) = false := by
      rw [isAbsolute] at hrelative
      cases hbytes : p.bytes with
      | nil => rfl
      | cons c rest =>
        rw [hbytes] at hrelative
        have hc : c ≠ slash := by simpa using hrelative
        cases rest <;> simp [hc]
    have hbody : (p.components.filter fun c => !(c == .here || (false && c == .root)))
        = p.body := by
      rw [components_eq, if_neg ha, List.filter_append, filter_body (fun _ => rfl) rfl]
      split_ifs <;> rfl
    simp only [absoluteFrom, hdoubled, if_false, hrelative, Bool.false_eq_true, hbody]

theorem endsWith_absoluteFrom (directory : Path) (hbody : p.body = front ++ [last])
    (hslash : p.endsWithSlash = false) :
    (absoluteFrom directory p).EndsWith
      ((if p.isAbsolute then [] else directory.body) ++ front) last := by
  obtain ⟨start, -, hstart, hform⟩ := exists_absoluteFrom directory p
  rw [hform, if_neg (by simp [hslash]), hbody, extend_concat, ← hstart,
    ← body_extend start (p := p) (hbody ▸ List.subset_append_left front [last])]
  exact endsWith_join_bytes _ (p := p) (by simp [hbody])

theorem not_mem_join {byte : UInt8} (hbyte : byte ≠ slash) {q : Path} (hp : byte ∉ p.bytes)
    (hq : byte ∉ q.bytes) : byte ∉ (p.join q).bytes := by
  unfold join
  split_ifs
  · exact hq
  · simp [hp, hq]
  · simp [hp, hq, hbyte]

theorem not_mem_absoluteFrom (hp : nul ∉ p.bytes)
    (hdirectory : nul ∉ directory.bytes) :
    nul ∉ (absoluteFrom directory p).bytes := by
  obtain ⟨start, hbytes, -, hform⟩ := exists_absoluteFrom directory p
  have hstart : nul ∉ start.bytes := by
    rcases hbytes with hbytes | hbytes | ⟨-, rfl⟩
    · rw [hbytes]
      decide
    · rw [hbytes]
      decide
    · exact hdirectory
  have hextended : ∀ components ⊆ p.body, nul ∉ (extend start components).bytes := by
    intro components
    induction components using List.reverseRecOn with
    | nil => exact fun _ => hstart
    | append_singleton front last ih =>
      intro hmem
      obtain ⟨hfront, hlast⟩ := List.append_subset.1 hmem
      obtain ⟨piece, hpiece, hlast⟩ := List.mem_filterMap.1 (hlast (List.mem_singleton_self last))
      rw [extend_concat]
      refine not_mem_join (by decide) (ih hfront) fun hnul => hp ?_
      rw [bytes_ofPiece hlast] at hnul
      exact Text.mem_of_mem_fields hpiece hnul
  rw [hform]
  split_ifs
  · exact not_mem_join (by decide) (hextended _ (List.Subset.refl _)) (by simp)
  · exact hextended _ (List.Subset.refl _)

end Path

namespace FileSystem

variable {fs : FileSystem} {p q : Path} {location start : Location} {node : Node}
  {front : List Component} {last : Component}

/-! ### The path of a location -/

theorem body_pathOf (h : ∀ name ∈ location, IsName name) :
    (pathOf location).body = location.map .name := by
  have hslash : ∀ piece ∈ location, slash ∉ piece := fun name hname => (h name hname).2.2.2.1
  have hnames : location.filterMap Component.ofPiece? = location.map .name := by
    rw [← List.filterMap_eq_map]
    exact List.filterMap_congr fun name hname =>
      Path.ofPiece_of_isPlain (isPlain_of_isName (h name hname))
  rw [Path.body, Path.pieces, pathOf, Text.fields, if_pos rfl, List.filterMap_cons_none rfl,
    Path.filterMap_fields_intercalated hslash, hnames]

theorem mem_intercalated {sep byte : UInt8} {pieces : List FileName}
    (h : byte ∈ Text.intercalated sep pieces) : byte = sep ∨ ∃ piece ∈ pieces, byte ∈ piece := by
  induction pieces with
  | nil => cases h
  | cons piece pieces ih =>
    cases pieces with
    | nil => exact Or.inr ⟨piece, List.mem_singleton_self _, h⟩
    | cons next rest =>
      rcases List.mem_append.1 h with h | h
      · exact Or.inr ⟨piece, List.mem_cons_self .., h⟩
      · rcases List.mem_cons.1 h with rfl | h
        · exact Or.inl rfl
        · refine (ih h).imp_right ?_
          rintro ⟨found, hfound, hbyte⟩
          exact ⟨found, List.mem_cons_of_mem _ hfound, hbyte⟩

theorem not_mem_pathOf (h : ∀ name ∈ location, IsName name) :
    nul ∉ (pathOf location).bytes := by
  rw [pathOf]
  intro hmem
  rcases List.mem_cons.1 hmem with hmem | hmem
  · exact absurd hmem (by decide)
  rcases mem_intercalated hmem with hmem | ⟨piece, hpiece, hmem⟩
  · exact absurd hmem (by decide)
  · exact (h piece hpiece).2.2.2.2.1 hmem

/-! ### Where absolute forms lead -/

theorem leads_of_isDirectory (h : fs.IsDirectory location) (links : Nat) :
    Leads fs links [] location links location := by
  induction location using List.reverseRecOn with
  | nil => exact .done
  | append_singleton front last ih =>
    have hnode := (isDirectory_iff fs _).1 h
    exact (ih (isDirectory_of_node hnode)).append (.into hnode)

/-- What an absolute form is written from: a working directory, which is there, or nothing. -/
theorem exists_of_absolute (h : fs.absolute p = .ok q) :
    ∃ directory, q = Path.absoluteFrom directory p ∧ nul ∉ directory.bytes ∧
      ∃ base, (if p.isAbsolute then [] else directory.body) = base.map .name ∧
        base = (if p.isAbsolute then [] else fs.workingDirectory) ∧
        ∀ links, Leads fs links [] base links base := by
  unfold absolute at h
  split_ifs at h with hempty ha hlost
  · cases h
    exact ⟨⟨[slash]⟩, rfl, by decide, [], by simp [ha], by simp [ha], fun _ => .done⟩
  · cases h
    have hdirectory := isDirectory_of_placedIn fs.placed hlost
    have hnames : ∀ name ∈ fs.workingDirectory, IsName name :=
      fun _ => fs.isName_of_mem_directory hdirectory
    refine ⟨_, rfl, not_mem_pathOf hnames, fs.workingDirectory, ?_, by simp [ha],
      leads_of_isDirectory hdirectory⟩
    rw [if_neg ha, body_pathOf hnames]

theorem components_absolute (habsolute : fs.absolute p = .ok q)
    (hbody : p.body = front ++ [last]) (hslash : p.endsWithSlash = false) :
    q.components = .root ::
      ((if p.isAbsolute then [] else fs.workingDirectory.map .name) ++ front) ++ [last] := by
  have ha := isAbsolute_of_absolute habsolute
  obtain ⟨directory, rfl, -, base, hbase, rfl, -⟩ := exists_of_absolute habsolute
  have hends := Path.endsWith_absoluteFrom directory hbody hslash
  rw [Path.components_eq, if_pos ha, hends.body, hbase]
  split_ifs <;> rfl

theorem exists_endsWith_of_absolute (habsolute : fs.absolute p = .ok q)
    (hbody : p.body = front ++ [last]) (hslash : p.endsWithSlash = false) :
    ∃ front', q.EndsWith front' last := by
  obtain ⟨directory, rfl, -⟩ := exists_of_absolute habsolute
  exact ⟨_, Path.endsWith_absoluteFrom directory hbody hslash⟩

/-- An absolute form that is short enough leads where the pieces of the path lead. -/
theorem locate_absolute (habsolute : fs.absolute p = .ok q)
    (hsize : q.bytes.length < pathLimit) (hnul : nul ∉ p.bytes)
    (hbody : p.body = front ++ [last]) (hslash : p.endsWithSlash = false) (followLast : Bool) :
    fs.locate followLast q =
      fs.follow followLast linkLimit (if p.isAbsolute then [] else fs.workingDirectory)
        (front.map Component.bytes ++ [last.bytes]) := by
  have ha := isAbsolute_of_absolute habsolute
  obtain ⟨directory, rfl, hdirectory, base, hbase, hplace, hleads⟩ := exists_of_absolute habsolute
  have hends := Path.endsWith_absoluteFrom directory hbody hslash
  have hstart : fs.start (Path.absoluteFrom directory p) = .ok [] := by
    refine start_eq_ok_iff.2 ⟨Path.not_mem_absoluteFrom hnul hdirectory, hends.bytes_ne_nil,
      hsize, ?_⟩
    rw [if_pos ha]
  have hnames : (base.map Component.name).map Component.bytes = base := by
    rw [List.map_map]
    exact List.map_id base
  rw [locate_of_endsWith hends hstart, hbase, List.map_append, hnames, List.append_assoc,
    follow_of_leads (hleads _) (Or.inl (by simp)), hplace]

theorem steps_of_endsWithSlash (hslash : p.endsWithSlash = true) (hne : p.named ≠ []) :
    steps p = p.named ++ [[dot]] := by
  have hasked : (p.endsWithSlash && !p.named.isEmpty) = true := by simp [hslash, hne]
  exact if_pos hasked

/-- A path at which something is found that is no directory ends with its last component. -/
theorem endsWith_of_status (h : fs.status p = .ok (location, node)) (hne : node ≠ .directory) :
    p.endsWithSlash = false ∧ ∃ front last, p.body = front ++ [last] ∧
      ∃ init, steps p = init ++ [last.bytes] ∧
        init.filter (· ≠ [dot]) = front.map Component.bytes := by
  obtain ⟨start, -, hfollow⟩ := status_eq_ok h
  have hlast : ∀ pieces, steps p ≠ pieces ++ [[dot]] := by
    intro pieces hsteps
    rw [hsteps] at hfollow
    obtain ⟨other, hother⟩ := directory_of_follow_here hfollow
    cases hother
    exact hne rfl
  cases hbody : p.body using List.reverseRecOn with
  | nil =>
    rw [follow_dots (steps_of_body_nil hbody)] at hfollow
    cases hfollow
    exact absurd rfl hne
  | append_singleton front last =>
    obtain ⟨init, dots, hsteps, hinit, hdots⟩ := Path.exists_steps_cut hbody
    refine ⟨?_, front, last, rfl, init, ?_, hinit⟩
    · by_contra hslash
      have hnamed : p.named ≠ [] := by
        intro hnil
        have hbare := Path.filter_named p.pieces
        rw [← Path.named, ← Path.body, hnil, hbody] at hbare
        simp at hbare
      exact hlast _ (steps_of_endsWithSlash (by simpa using hslash) hnamed)
    · cases dots using List.reverseRecOn with
      | nil => exact hsteps
      | append_singleton more dot =>
        obtain rfl := hdots dot (by simp)
        exact absurd hsteps (by rw [← List.cons_append, ← List.append_assoc]; exact hlast _)

/-- What is found at a path and is no directory is found at its absolute form. -/
theorem status_absolute (habsolute : fs.absolute p = .ok q)
    (hsize : q.bytes.length < pathLimit) (h : fs.status p = .ok (location, node))
    (hne : node ≠ .directory) : fs.status q = .ok (location, node) := by
  obtain ⟨start, hstart, hfollow⟩ := status_eq_ok h
  obtain ⟨hnul, -, -, rfl⟩ := start_eq_ok_iff.1 hstart
  obtain ⟨hslash, front, last, hbody, init, hsteps, hinit⟩ := endsWith_of_status h hne
  rw [hsteps, (Dotted.of_filter init (List.cons_ne_nil _ _)).follow_eq, hinit] at hfollow
  unfold status
  rw [locate_absolute habsolute hsize hnul hbody hslash, hfollow]
  rfl

end FileSystem

end IdlBuild
