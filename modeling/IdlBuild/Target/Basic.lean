import IdlBuild.PackageName

/-!
# Targets

Where one build writes. The sources of a base package lie below an output root, in one directory for
each segment of the package's name; the JSON files of a build lie in that directory too.
-/

namespace IdlBuild

/-- Where one build writes. -/
structure Target where
  /-- The root of the generated sources. -/
  root : Path
  /-- The cleaned name of the base package. -/
  basePackage : String
  /-- The directory of the base package below the root. -/
  directory : Path
deriving DecidableEq, Repr

namespace Target

/-- The target of a base package below a root. -/
def below (root : Path) (basePackage : String) : Target :=
  let name := PackageName.cleaned basePackage
  ⟨root, name, root.join (PackageName.directory name)⟩

/-- The JSON file of an IDL file. -/
def jsonFile (target : Target) (idlFileName : String) : Path :=
  target.directory.join (.ofText (PackageName.stem idlFileName ++ ".json"))

end Target

end IdlBuild
