import IdlBuild.Proofs.FileSystem.Absolute
import IdlBuild.Proofs.Targets.Containment

/-!
# Names and directories of packages

The name of a package and its directory say the same in two ways, the one with dots between segments
and the other with one component for each. The directory passes over empty segments and the name
keeps them, so the directory gives the name back when the name has none (`Corresponds`).
-/

namespace IdlBuild

namespace Text

variable {α : Type}

/-! ### Empty fields -/

theorem doubled_infix_cons {sep c : α} {cs : List α} :
    [sep, sep] <:+: c :: cs ↔ c = sep ∧ cs.head? = some sep ∨ [sep, sep] <:+: cs := by
  have hprefix : [sep, sep] <+: c :: cs ↔ c = sep ∧ cs.head? = some sep := by
    rw [List.cons_prefix_cons, eq_comm]
    cases cs with
    | nil => simp
    | cons d ds => simp [List.cons_prefix_cons, eq_comm (a := sep)]
  rw [List.infix_cons_iff, hprefix]

variable [DecidableEq α]

theorem head?_fields (sep : α) (cs : List α) :
    (fields sep cs).head? = some [] ↔ cs = [] ∨ cs.head? = some sep := by
  cases cs with
  | nil => simp [fields_nil]
  | cons c cs =>
    by_cases h : c = sep
    · simp [fields_cons, h]
    · obtain ⟨piece, pieces, -, hc⟩ := fields_cons_of_ne h cs
      simp [hc, h]

/-- A field behind the first one is empty where two separators meet, or where one stands last. -/
theorem nil_mem_tail_fields (sep : α) (cs : List α) :
    [] ∈ (fields sep cs).tail ↔ cs.getLast? = some sep ∨ [sep, sep] <:+: cs := by
  induction cs with
  | nil => simp [fields_nil]
  | cons c cs ih =>
    have hlast : (c :: cs).getLast? = some sep ↔
        cs = [] ∧ c = sep ∨ cs.getLast? = some sep := by
      cases cs with
      | nil => simp
      | cons d ds => simp
    rw [hlast, doubled_infix_cons]
    by_cases h : c = sep
    -- Behind a separator the first field of the rest counts too.
    · have hfirst := head?_fields sep cs
      cases hf : fields sep cs with
      | nil => exact absurd hf (fields_ne_nil sep cs)
      | cons piece pieces =>
        rw [hf] at ih hfirst
        simp only [List.head?_cons, Option.some.injEq, List.tail_cons] at hfirst ih
        simp only [fields_cons, h, if_true, hf, List.tail_cons, List.mem_cons, ih,
          eq_comm (a := []), hfirst, true_and, and_true]
        exact or_or_or_comm
    · obtain ⟨piece, pieces, hf, hc⟩ := fields_cons_of_ne h cs
      rw [hf, List.tail_cons] at ih
      rw [hc, List.tail_cons, ih]
      simp [h]

/-- No field is empty in a text that is not empty, begins and ends with no separator and has no two
of them in a row. -/
theorem nil_mem_fields {sep : α} {cs : List α} :
    [] ∈ fields sep cs ↔
      cs = [] ∨ cs.head? = some sep ∨ cs.getLast? = some sep ∨ [sep, sep] <:+: cs := by
  have hfirst := head?_fields sep cs
  have htail := nil_mem_tail_fields sep cs
  cases hf : fields sep cs with
  | nil => exact absurd hf (fields_ne_nil sep cs)
  | cons piece pieces =>
    rw [hf, List.head?_cons, Option.some.injEq] at hfirst
    rw [hf, List.tail_cons] at htail
    rw [List.mem_cons, eq_comm, hfirst, htail, or_assoc]

/-- Only separators make no field but empty ones. -/
theorem fields_eq_nil_iff {sep : α} {cs : List α} :
    (∀ piece ∈ fields sep cs, piece = []) ↔ ∀ c ∈ cs, c = sep := by
  induction cs with
  | nil => simp [fields_nil]
  | cons c cs ih =>
    by_cases h : c = sep
    · simp [fields_cons, h, ih]
    · obtain ⟨piece, pieces, -, hc⟩ := fields_cons_of_ne h cs
      simp [hc, h]

end Text

namespace PackageName

/-! ### Segments -/

/-- Whether a name is made of segments with single dots between them. -/
def IsDotted (name : String) : Prop :=
  ∃ parts : List String, parts ≠ [] ∧ (∀ s ∈ parts, IsSegment s) ∧ name = ".".intercalate parts

/-- The name that a directory spells: its components with dots between them. -/
def spelledBy (directory : Path) : String :=
  ".".intercalate (directory.components.map fun c => Text.decodeLossy c.bytes)

theorem toList_dotted (parts : List String) :
    (".".intercalate parts).toList = Text.intercalated '.' (parts.map String.toList) := by
  rw [String.toList_intercalate]
  exact Text.intercalate_eq_intercalated _ _

theorem fields_dotted {parts : List String} (hne : parts ≠ []) (h : ∀ s ∈ parts, IsSegment s) :
    Text.fields '.' (".".intercalate parts).toList = parts.map String.toList := by
  rw [toList_dotted]
  refine Text.fields_intercalated (by simpa using hne) fun piece hpiece => ?_
  obtain ⟨s, hs, rfl⟩ := List.mem_map.1 hpiece
  exact fun hdot => not_isWordChar_dot ((h s hs).2 '.' hdot)

theorem segments_empty : segments "" = [] := by decide

/-- Segments with dots between them are found again. -/
theorem segments_dotted {parts : List String} (h : ∀ s ∈ parts, IsSegment s) :
    segments (".".intercalate parts) = parts := by
  by_cases hne : parts = []
  · rw [hne]
    exact segments_empty
  · have hkept : ∀ s ∈ parts, decide (s.toList ≠ []) = true := by
      intro s hs
      simpa using (h s hs).1
    rw [segments, fields_dotted hne h, List.filter_map, List.map_map]
    have hall : parts.filter ((fun piece => decide (piece ≠ [])) ∘ String.toList) = parts :=
      List.filter_eq_self.2 hkept
    rw [hall]
    simp

theorem segments_append (base last : String) :
    segments (base ++ "." ++ last) = segments base ++ segments last := by
  have hlist : (base ++ "." ++ last).toList = base.toList ++ '.' :: last.toList := by
    simp
  rw [segments, hlist, Text.fields_append, List.filter_append, List.map_append, segments, segments]

/-- A file's package has the segments of the base package and then those of the file's stem. -/
theorem segments_ofFile (base fileName : String) :
    segments (ofFile base fileName) = segments base ++ segments (cleaned (stem fileName)) := by
  unfold ofFile
  by_cases h : base.isEmpty = true
  · rw [if_pos h, String.isEmpty_iff.1 h, segments_empty, List.nil_append]
  · rw [if_neg h, segments_append]

/-! ### Clean names -/

theorem cleaned_eq_self_iff {name : String} :
    cleaned name = name ↔ ∀ c ∈ name.toList, IsWordChar c ∨ c = '.' := by
  rw [cleaned, ← String.toList_inj, String.toList_ofList, List.filter_eq_self]
  simp only [isAllowed_iff]

theorem cleaned_append (s t : String) : cleaned (s ++ t) = cleaned s ++ cleaned t := by
  simp [cleaned]

theorem cleaned_ofFile (basePackage fileName : String) :
    cleaned (ofFile (cleaned basePackage) fileName) = ofFile (cleaned basePackage) fileName := by
  have hdot : cleaned "." = "." := by decide
  unfold ofFile
  split_ifs
  · exact cleaned_cleaned _
  · rw [cleaned_append, cleaned_append, hdot, cleaned_cleaned, cleaned_cleaned]

theorem segments_eq_nil_iff {name : String} : segments name = [] ↔ ∀ c ∈ name.toList, c = '.' := by
  rw [segments, List.map_eq_nil_iff, List.filter_eq_nil_iff, ← Text.fields_eq_nil_iff]
  simp

theorem mem_cleaned {c : Char} {s : String} :
    c ∈ (cleaned s).toList ↔ c ∈ s.toList ∧ (IsWordChar c ∨ c = '.') := by
  rw [cleaned, String.toList_ofList, List.mem_filter, isAllowed_iff]

theorem segments_cleaned_eq_nil_iff {s : String} :
    segments (cleaned s) = [] ↔ ∀ c ∈ s.toList, ¬ IsWordChar c := by
  rw [segments_eq_nil_iff]
  constructor
  · intro h c hc hword
    have hdot := h c (mem_cleaned.2 ⟨hc, .inl hword⟩)
    rw [hdot] at hword
    exact not_isWordChar_dot hword
  · intro h c hc
    obtain ⟨hmem, hallowed⟩ := mem_cleaned.1 hc
    exact hallowed.resolve_left (h c hmem)

/-- Nothing is left of a text when it leaves no segment and has no dot. -/
theorem cleaned_eq_empty_iff {s : String} :
    cleaned s = "" ↔ segments (cleaned s) = [] ∧ '.' ∉ s.toList := by
  rw [segments_cleaned_eq_nil_iff, ← String.toList_eq_nil_iff, List.eq_nil_iff_forall_not_mem]
  simp only [mem_cleaned, not_and, not_or]
  constructor
  · exact fun h => ⟨fun c hc => (h c hc).1, fun hdot => (h '.' hdot).2 rfl⟩
  · rintro ⟨hword, hdot⟩ c hc
    exact ⟨hword c hc, fun heq => hdot (heq ▸ hc)⟩

section Clean

variable {name : String}

theorem isSegment_of_clean (h : cleaned name = name) : ∀ s ∈ segments name, IsSegment s := by
  rw [← h]
  exact fun s hs => isSegment_of_mem_segments hs

theorem components_directory (h : cleaned name = name) :
    (directory name).components = ((segments name).map Text.encode).map .name := by
  have hplain := isPlain_of_mem_segments name
  rw [h] at hplain
  exact components_ofNames hplain

theorem spelledBy_directory (h : cleaned name = name) :
    spelledBy (directory name) = ".".intercalate (segments name) := by
  have hshown : ∀ s, Text.decodeLossy (Component.name (Text.encode s)).bytes = s :=
    Text.decodeLossy_encode
  rw [spelledBy, components_directory h, List.map_map, List.map_map]
  simp only [Function.comp_def, hshown, List.map_id']

theorem directory_spelledBy (h : cleaned name = name) :
    directory (spelledBy (directory name)) = directory name := by
  rw [directory, spelledBy_directory h, segments_dotted (isSegment_of_clean h), directory]

/-- The name that is spelled by a directory is dotted, or empty where there is no segment. -/
theorem isDotted_spelledBy (h : cleaned name = name) :
    spelledBy (directory name) = "" ∨ IsDotted (spelledBy (directory name)) := by
  rw [spelledBy_directory h]
  by_cases hnil : segments name = []
  · left
    rw [hnil]
    rfl
  · exact .inr ⟨_, hnil, isSegment_of_clean h, rfl⟩

/-- Nothing is lost on the way through the directory but empty segments. -/
theorem spelledBy_eq_iff (h : cleaned name = name) :
    spelledBy (directory name) = name ↔ name = "" ∨ IsDotted name := by
  constructor
  · intro hname
    rw [← hname]
    exact isDotted_spelledBy h
  · rintro (rfl | ⟨parts, -, hparts, rfl⟩)
    · decide
    · rw [spelledBy_directory h, segments_dotted hparts]

theorem isDotted_iff_fields (h : cleaned name = name) :
    IsDotted name ↔ [] ∉ Text.fields '.' name.toList := by
  constructor
  · rintro ⟨parts, hne, hparts, rfl⟩ hnil
    rw [fields_dotted hne hparts, List.mem_map] at hnil
    obtain ⟨s, hs, hempty⟩ := hnil
    exact (hparts s hs).1 (String.toList_eq_nil_iff.1 hempty)
  · intro hnil
    have hkept : (Text.fields '.' name.toList).filter (· ≠ []) = Text.fields '.' name.toList := by
      rw [List.filter_eq_self]
      intro piece hpiece
      have hne : piece ≠ [] := fun hempty => hnil (hempty ▸ hpiece)
      simpa using hne
    have hsegments : (segments name).map String.toList = Text.fields '.' name.toList := by
      rw [segments, hkept, List.map_map]
      simp
    refine ⟨segments name, fun hempty => ?_, isSegment_of_clean h, ?_⟩
    · rw [hempty] at hsegments
      exact Text.fields_ne_nil _ _ hsegments.symm
    · rw [← String.toList_inj, toList_dotted, hsegments, Text.intercalated_fields]

/-- A name is dotted when it is not empty, begins and ends with no dot and has no two dots in a
row. -/
theorem isDotted_iff (h : cleaned name = name) :
    IsDotted name ↔ name ≠ "" ∧ name.toList.head? ≠ some '.' ∧ name.toList.getLast? ≠ some '.' ∧
      ¬ ['.', '.'] <:+: name.toList := by
  rw [isDotted_iff_fields h, Text.nil_mem_fields]
  simp [not_or]

end Clean

/-- How the name of a package and its directory belong together. -/
structure Corresponds (name : String) : Prop where
  allowed : ∀ c ∈ name.toList, IsWordChar c ∨ c = '.'
  components : ∃ parts : List String, (∀ s ∈ parts, IsSegment s) ∧
    (directory name).components = parts.map fun s => .name (Text.encode s)
  dotted : IsDotted name ↔ name ≠ "" ∧ name.toList.head? ≠ some '.' ∧
    name.toList.getLast? ≠ some '.' ∧ ¬ ['.', '.'] <:+: name.toList
  spelled : spelledBy (directory name) = name ↔ name = "" ∨ IsDotted name
  /-- Without its empty segments a name has the same directory. -/
  tidied : (spelledBy (directory name) = "" ∨ IsDotted (spelledBy (directory name))) ∧
    directory (spelledBy (directory name)) = directory name

theorem corresponds_of_clean {name : String} (h : cleaned name = name) : Corresponds name where
  allowed := cleaned_eq_self_iff.1 h
  components := ⟨segments name, isSegment_of_clean h,
    (components_directory h).trans List.map_map⟩
  dotted := isDotted_iff h
  spelled := spelledBy_eq_iff h
  tidied := ⟨isDotted_spelledBy h, directory_spelledBy h⟩

/-! ### Packages of files -/

theorem ofFile_eq_empty_iff (basePackage fileName : String) :
    ofFile basePackage fileName = "" ↔ basePackage = "" ∧ cleaned (stem fileName) = "" := by
  unfold ofFile
  by_cases h : basePackage = ""
  · simp [h]
  · simp [h, String.append_eq_empty_iff]

theorem isDotted_ofFile {basePackage : String} (h : cleaned basePackage = basePackage)
    (fileName : String) :
    IsDotted (ofFile basePackage fileName) ↔
      (basePackage = "" ∨ IsDotted basePackage) ∧ IsDotted (cleaned (stem fileName)) := by
  by_cases hbase : basePackage = ""
  · simp [ofFile, hbase]
  · have hclean := cleaned_ofFile basePackage fileName
    rw [h] at hclean
    have hfields : Text.fields '.' (ofFile basePackage fileName).toList =
        Text.fields '.' basePackage.toList ++
          Text.fields '.' (cleaned (stem fileName)).toList := by
      rw [← Text.fields_append]
      simp [ofFile, hbase]
    rw [isDotted_iff_fields hclean, isDotted_iff_fields h, isDotted_iff_fields (cleaned_cleaned _),
      hfields, List.mem_append, not_or]
    simp [hbase]

end PackageName

end IdlBuild
