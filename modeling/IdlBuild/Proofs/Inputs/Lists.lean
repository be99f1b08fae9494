import IdlBuild.Proofs.FileSystem.Absolute
import IdlBuild.Proofs.Inputs.Concatenation

/-!
# Comma-separated lists read back

A text writes a list of entries when each stands in a field of its own between commas, blanks around
it, and the other fields are blank. Reading such a text gives the entries in order, and every text is
one of those that write what is read from it (`commaList_readsBack`).
-/

namespace IdlBuild

namespace Text

/-! ### Trimmed texts -/

theorem trimmed_of_blank {cs : List Char} (h : ∀ c ∈ cs, isBlank c = true) : trimmed cs = [] := by
  have hfront : cs.dropWhile isBlank = [] := List.dropWhile_eq_nil_iff.2 h
  rw [trimmed, hfront]
  rfl

theorem getLast?_trimmed {cs : List Char} {c : Char} (h : (trimmed cs).getLast? = some c) :
    isBlank c = false := by
  have hhead := List.head?_dropWhile_not isBlank (cs.dropWhile isBlank).reverse
  rw [trimmed, List.getLast?_reverse] at h
  rw [h] at hhead
  exact hhead

theorem head?_trimmed {cs : List Char} {c : Char} (h : (trimmed cs).head? = some c) :
    isBlank c = false := by
  have hhead := List.head?_dropWhile_not isBlank cs
  have hprefix : trimmed cs <+: cs.dropWhile isBlank := by
    have hsuffix := List.dropWhile_suffix (l := (cs.dropWhile isBlank).reverse) isBlank
    rw [trimmed, ← List.reverse_suffix, List.reverse_reverse]
    exact hsuffix
  obtain ⟨rest, hrest⟩ := hprefix
  rw [← hrest, List.head?_append, h] at hhead
  exact hhead

end Text

open Text (isBlank trimmed)

/-! ### Written lists -/

/-- Whether a text can be an entry of a list. -/
structure IsEntry (entry : String) : Prop where
  ne_empty : entry ≠ ""
  comma : ',' ∉ entry.toList
  first : ∀ c, entry.toList.head? = some c → isBlank c = false
  last : ∀ c, entry.toList.getLast? = some c → isBlank c = false

theorem isEntry_iff {entry : String} :
    (entry ≠ "" ∧ ',' ∉ entry.toList ∧ entry.toList.head?.all (!isBlank ·) = true ∧
      entry.toList.getLast?.all (!isBlank ·) = true) ↔ IsEntry entry := by
  simp only [Option.all_eq_true, Bool.not_eq_true']
  constructor
  · rintro ⟨hne, hcomma, hfirst, hlast⟩
    exact ⟨hne, hcomma, hfirst, hlast⟩
  · rintro ⟨hne, hcomma, hfirst, hlast⟩
    exact ⟨hne, hcomma, hfirst, hlast⟩

instance (entry : String) : Decidable (IsEntry entry) := decidable_of_iff _ isEntry_iff

def IsBlankText (s : String) : Prop := ∀ c ∈ s.toList, isBlank c = true

instance (s : String) : Decidable (IsBlankText s) := decidable_of_iff _ List.all_eq_true

/-- The fields that some entries can stand in. -/
inductive StandIn : (entries fields : List String) → Prop where
  | nil : StandIn [] []
  | blank {entries fields : List String} {field : String} (hfield : IsBlankText field)
      (hrest : StandIn entries fields) : StandIn entries (field :: fields)
  | entry {entries fields : List String} {before entry after : String} (hentry : IsEntry entry)
      (hbefore : IsBlankText before) (hafter : IsBlankText after)
      (hrest : StandIn entries fields) :
      StandIn (entry :: entries) ((before ++ entry ++ after) :: fields)

/-- Whether a text writes a list of entries. -/
def Writes (list : String) (entries : List String) : Prop :=
  ∃ fields, StandIn entries fields ∧ list = ",".intercalate fields

theorem toList_fields (fields : List String) :
    (",".intercalate fields).toList = Text.intercalated ',' (fields.map String.toList) := by
  rw [String.toList_intercalate]
  exact Text.intercalate_eq_intercalated _ _

namespace StandIn

variable {entries fields : List String}

theorem isEntry (h : StandIn entries fields) : ∀ entry ∈ entries, IsEntry entry := by
  induction h with
  | nil => simp
  | blank hfield hrest ih => exact ih
  | entry hentry hbefore hafter hrest ih =>
    intro other hmem
    rcases List.mem_cons.1 hmem with rfl | hmem
    · exact hentry
    · exact ih other hmem

theorem not_mem_comma (h : StandIn entries fields) : ∀ field ∈ fields, ',' ∉ field.toList := by
  have hblank : ∀ {s : String}, IsBlankText s → ',' ∉ s.toList := by
    intro s hs hcomma
    have hfalse := hs ',' hcomma
    exact absurd hfalse (by decide)
  induction h with
  | nil => simp
  | blank hfield hrest ih =>
    intro field hmem
    rcases List.mem_cons.1 hmem with rfl | hmem
    · exact hblank hfield
    · exact ih field hmem
  | entry hentry hbefore hafter hrest ih =>
    intro field hmem
    rcases List.mem_cons.1 hmem with rfl | hmem
    · simp only [String.toList_append, List.mem_append, not_or]
      exact ⟨⟨hblank hbefore, hentry.comma⟩, hblank hafter⟩
    · exact ih field hmem

theorem entries_eq (h : StandIn entries fields) :
    (((fields.map String.toList).map trimmed).filter (· ≠ [])).map String.ofList = entries := by
  induction h with
  | nil => rfl
  | blank hfield hrest ih =>
    have htrimmed := Text.trimmed_of_blank hfield
    simp only [List.map_cons, htrimmed, ne_eq, not_true_eq_false, decide_false,
      List.filter_cons_of_neg, Bool.false_eq_true, not_false_eq_true]
    exact ih
  | @entry entries fields before entry after hentry hbefore hafter hrest ih =>
    have hne : entry.toList ≠ [] := fun hnil => hentry.ne_empty (by simpa using hnil)
    have htrimmed : trimmed (before ++ entry ++ after).toList = entry.toList := by
      rw [String.toList_append, String.toList_append]
      exact Text.trimmed_padded hbefore hafter hne hentry.first hentry.last
    simp only [List.map_cons, htrimmed]
    rw [List.filter_cons_of_pos (by simpa using hne), List.map_cons, String.ofList_toList, ih]

/-- Whatever stands around them, the entries are read. -/
theorem commaList_eq (h : StandIn entries fields) :
    commaList (",".intercalate fields) = entries := by
  by_cases hnil : fields = []
  · subst hnil
    cases h
    decide
  · have hfields : Text.fields ',' (",".intercalate fields).toList = fields.map String.toList := by
      rw [toList_fields]
      refine Text.fields_intercalated (by simpa using hnil) fun piece hpiece => ?_
      obtain ⟨field, hfield, rfl⟩ := List.mem_map.1 hpiece
      exact h.not_mem_comma field hfield
    rw [commaList, hfields, h.entries_eq]

end StandIn

theorem standIn_pieces {pieces : List (List Char)} (h : ∀ piece ∈ pieces, ',' ∉ piece) :
    StandIn (((pieces.map trimmed).filter (· ≠ [])).map String.ofList)
      (pieces.map String.ofList) := by
  induction pieces with
  | nil => exact .nil
  | cons piece pieces ih =>
    have hrest := ih fun other hother => h other (List.mem_cons_of_mem _ hother)
    obtain ⟨before, after, hbefore, hafter, hpiece⟩ := Text.exists_padded piece
    by_cases hblank : trimmed piece = []
    · rw [hblank, List.append_nil] at hpiece
      rw [List.map_cons, List.filter_cons_of_neg (by simp [hblank]), List.map_cons]
      refine .blank (fun c hc => ?_) hrest
      rw [String.toList_ofList, hpiece, List.mem_append] at hc
      exact hc.elim (hbefore c) (hafter c)
    · have hentry : IsEntry (String.ofList (trimmed piece)) := by
        refine ⟨by simpa using hblank, ?_, ?_, ?_⟩
        · rw [String.toList_ofList]
          intro hcomma
          refine h piece (List.mem_cons_self ..) ?_
          rw [hpiece]
          simp [hcomma]
        · rw [String.toList_ofList]
          exact fun c => Text.head?_trimmed
        · rw [String.toList_ofList]
          exact fun c => Text.getLast?_trimmed
      have hfield : String.ofList piece
          = String.ofList before ++ String.ofList (trimmed piece) ++ String.ofList after := by
        rw [← String.ofList_append, ← String.ofList_append, ← hpiece]
      rw [List.map_cons, List.filter_cons_of_pos (by simpa using hblank), List.map_cons,
        List.map_cons, hfield]
      refine .entry hentry (fun c hc => ?_) (fun c hc => ?_) hrest
      · exact hbefore c (by simpa using hc)
      · exact hafter c (by simpa using hc)

theorem writes_commaList (list : String) : Writes list (commaList list) := by
  refine ⟨_, standIn_pieces fun piece => Text.not_mem_of_mem_fields, ?_⟩
  apply String.toList_injective
  rw [toList_fields, List.map_map]
  simp only [Function.comp_def, String.toList_ofList, List.map_id']
  exact (Text.intercalated_fields ',' list.toList).symm

/-- What a text writes is what is read from it. -/
theorem writes_iff {list : String} {entries : List String} :
    Writes list entries ↔ commaList list = entries := by
  constructor
  · rintro ⟨fields, hfields, rfl⟩
    exact hfields.commaList_eq
  · rintro rfl
    exact writes_commaList list

theorem isEntry_of_mem_commaList {list entry : String} (h : entry ∈ commaList list) :
    IsEntry entry := by
  obtain ⟨fields, hfields, -⟩ := writes_commaList list
  exact hfields.isEntry entry h

theorem Exclusions.ofList_of_writes {list : String} {names : List String}
    (h : Writes list names) :
    (ofList list).same (ofNames names) = true ∧
      (∀ name, (ofList list).contains name = true ↔ name ∈ names) ∧
      ((ofList list).isEmpty = true ↔ names = []) := by
  have hset : ofList list = ofNames names := congrArg ofNames (writes_iff.1 h)
  rw [hset]
  refine ⟨(same_iff _ _).2 fun _ => rfl, fun name => ?_, ?_⟩
  · exact List.contains_iff_mem
  · exact List.isEmpty_iff

/-! ### Reading back -/

/-- A list reads back: the entries that a text writes are those that are read from it, in order, and
the set of names that is read is the set of those entries. What is read can stand in a list again,
and lists with a comma between them are read one behind the other. -/
theorem commaList_readsBack :
    (∀ list entries, Writes list entries ↔ commaList list = entries) ∧
    (∀ list names, Writes list names →
      (Exclusions.ofList list).same (.ofNames names) = true ∧
        (∀ name, (Exclusions.ofList list).contains name = true ↔ name ∈ names) ∧
        ((Exclusions.ofList list).isEmpty = true ↔ names = [])) ∧
    (∀ list, ∀ entry ∈ commaList list, IsEntry entry) ∧
    ∀ as bs, commaList (as ++ "," ++ bs) = commaList as ++ commaList bs :=
  ⟨fun _ _ => writes_iff, fun _ _ => Exclusions.ofList_of_writes,
    fun _ _ => isEntry_of_mem_commaList, commaList_append⟩

/-- Two names with blanks around them, and blank fields between and behind them. -/
theorem commaList_readsBack_padded :
    (Exclusions.ofList "\t a.idl ,, b c.idl\u3000, ").same
        (.ofNames ["a.idl", "b c.idl"]) = true ∧
      (Exclusions.ofList "\t a.idl ,, b c.idl\u3000, ").contains "b c.idl" = true ∧
      (Exclusions.ofList "\t a.idl ,, b c.idl\u3000, ").contains " b c.idl" = false := by
  obtain ⟨-, hsets, -⟩ := commaList_readsBack
  have hwrites : Writes "\t a.idl ,, b c.idl\u3000, " ["a.idl", "b c.idl"] := by
    refine ⟨["\t " ++ "a.idl" ++ " ", "", " " ++ "b c.idl" ++ "\u3000", " "], ?_, by decide⟩
    refine .entry (by decide) (by decide) (by decide) ?_
    refine .blank (by decide) ?_
    refine .entry (by decide) (by decide) (by decide) ?_
    exact .blank (by decide) .nil
  obtain ⟨hsame, hcontains, -⟩ := hsets _ _ hwrites
  refine ⟨hsame, (hcontains _).2 (by simp), ?_⟩
  rw [Bool.eq_false_iff, ne_eq, hcontains]
  decide

end IdlBuild
