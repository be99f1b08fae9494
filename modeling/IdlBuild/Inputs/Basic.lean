import IdlBuild.Failure
import IdlBuild.FileSystem.Resolve
import IdlBuild.Text.Blank

/-!
# Inputs

How the inputs of a build are named. Files and directories stand in a comma-separated list, and so
do the names that are left out in directories. An input file is known by its absolute path.
-/

namespace IdlBuild

open Text (trimmed fields)

/-! ### Comma-separated lists -/

/-- The entries between commas, blanks around them taken off and empty ones left out. -/
def commaList (list : String) : List String :=
  (((fields ',' list.toList).map trimmed).filter (· ≠ [])).map String.ofList

/-- File names that are left out when a directory is walked. -/
structure Exclusions where
  names : List String
deriving Repr

namespace Exclusions

/-- The set of some names. -/
def ofNames (names : List String) : Exclusions := ⟨names⟩

/-- The set of the names in a comma-separated list. -/
def ofList (list : String) : Exclusions := ofNames (commaList list)

/-- Whether a name is left out. -/
def contains (set : Exclusions) (name : String) : Bool := set.names.contains name

/-- Whether nothing is left out. -/
def isEmpty (set : Exclusions) : Bool := set.names.isEmpty

/-- Whether two sets hold the same names. -/
def same (s t : Exclusions) : Bool := s.names.all t.contains && t.names.all s.contains

theorem same_iff (s t : Exclusions) :
    s.same t = true ↔ ∀ name, s.contains name = t.contains name := by
  simp only [same, contains, Bool.and_eq_true, List.all_eq_true, List.contains_iff_mem]
  constructor
  · rintro ⟨hst, hts⟩ name
    rw [Bool.eq_iff_iff, List.contains_iff_mem, List.contains_iff_mem]
    exact ⟨hst name, hts name⟩
  · intro h
    refine ⟨fun name hn => ?_, fun name hn => ?_⟩
    · have hc := h name
      rw [Bool.eq_iff_iff, List.contains_iff_mem, List.contains_iff_mem] at hc
      exact hc.1 hn
    · have hc := h name
      rw [Bool.eq_iff_iff, List.contains_iff_mem, List.contains_iff_mem] at hc
      exact hc.2 hn

end Exclusions

/-! ### Input files -/

/-- An IDL file, known by its absolute path. -/
structure InputFile where
  path : Path
deriving DecidableEq, Repr

namespace InputFile

/-- The input file at a path. -/
def ofPath (fs : FileSystem) (p : Path) : Except Failure InputFile :=
  match fs.absolute p with
  | .ok absolute => .ok ⟨absolute⟩
  | .error fault => .error (.operation s!"resolve {p.text}" fault)

/-- The last name of the path. -/
def fileName (file : InputFile) : FileName := file.path.fileName?.getD []

/-- The bare name, as it is shown. -/
def bareName (file : InputFile) : String := Text.decodeLossy file.fileName

/-- The directory that holds the file. -/
def directory (file : InputFile) : Path := file.path.parent?.getD ⟨[slash]⟩

end InputFile

end IdlBuild
