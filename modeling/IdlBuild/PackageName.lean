import IdlBuild.Path.Basic

/-!
# Package names

A package has a dotted name. Text from outside, be it a configured base package or a file name, is
first reduced to letters, digits, underscores and dots (`cleaned`). As a directory a package has
one component for each non-empty segment. The package of one IDL file is its base package followed
by its cleaned stem.
-/

namespace IdlBuild.PackageName

/-! ### Cleaning -/

/-- The characters that a package name may hold. -/
def isAllowed (c : Char) : Bool :=
  ('A' ≤ c && c ≤ 'Z') || ('a' ≤ c && c ≤ 'z') || ('0' ≤ c && c ≤ '9') || c == '_' || c == '.'

/-- The allowed characters of a text, in order. -/
def cleaned (s : String) : String := String.ofList (s.toList.filter isAllowed)

/-- A cleaned text has nothing left to clean. -/
theorem cleaned_cleaned (s : String) : cleaned (cleaned s) = cleaned s := by
  simp [cleaned, List.filter_filter]

/-! ### Directories -/

/-- The non-empty segments between the dots. -/
def segments (package : String) : List String :=
  ((Text.fields '.' package.toList).filter (· ≠ [])).map String.ofList

/-- The relative directory of a package, one component for each segment. -/
def directory (package : String) : Path := Path.ofNames ((segments package).map Text.encode)

/-! ### Files -/

/-- The suffix of IDL files. -/
def suffix : String := ".idl"

/-- A list without an ending that it has. -/
def dropEnding? (ending cs : List Char) : Option (List Char) :=
  if ending.isSuffixOf cs then some (cs.take (cs.length - ending.length)) else none

/-- The stem of an IDL file's name: the name without `.idl`, or without its last extension when it
has another one. -/
def stem (fileName : String) : String :=
  match dropEnding? suffix.toList fileName.toList with
  | some kept => String.ofList kept
  | none => ((Path.ofText fileName).fileStem?.bind Text.decode).getD fileName

/-- The package that one IDL file is generated into. -/
def ofFile (basePackage fileName : String) : String :=
  let last := cleaned (stem fileName)
  if basePackage.isEmpty then last else basePackage ++ "." ++ last

end IdlBuild.PackageName
