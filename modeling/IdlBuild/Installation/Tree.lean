import IdlBuild.Installation.Tools

/-!
# The tree of an installation

The entries that are there before a build begins: directories, devices, and the files of the standard
programs.
-/

namespace IdlBuild.Installation

/-- The directories, each behind the one that it lies in. -/
def directories : List Location :=
  [["dev"], ["etc"], ["home"], ["opt"], ["root"], ["tmp"], ["usr"], ["var"], ["usr", "bin"],
   ["usr", "lib"], ["usr", "local"], ["usr", "sbin"], ["usr", "share"], ["usr", "local", "bin"],
   ["usr", "local", "sbin"], ["var", "tmp"]]

/-- The links, with what they lead to. -/
def links : List (Location × String) :=
  [(["bin"], "usr/bin"), (["sbin"], "usr/sbin"), (["lib"], "usr/lib")]

/-- The names of the devices. -/
def devices : List String := ["full", "null", "tty", "zero"]

/-- The mode of a program. -/
def programMode : Nat := 0o755

/-- The mode of a device. -/
def deviceMode : Nat := 0o666

/-- All entries. -/
def entries : List (Location × Node) :=
  directories.map (fun l => (l, Node.directory)) ++
    links.map (fun (l, target) => (l, Node.link ⟨target⟩)) ++
    devices.map (fun name : String => ((["dev", name] : Location), Node.file [] deviceMode)) ++
    names.map (fun name : String =>
      ((["usr", "bin", name] : Location), Node.file (Shell.Programs.imageOf name) programMode))

/-- A file system with the entries of an installation where nothing else stands. -/
def installedOn (fs : FileSystem) : FileSystem :=
  entries.foldl (fun fs (location, node) =>
    fs.add location.dropLast (location.getLast?.getD []) node) fs

/-- Nothing but the installation. -/
def tree : FileSystem := installedOn .empty

/-- The entries that an installation does not account for. -/
def ownEntries (fs : FileSystem) : List (Location × Node) :=
  fs.entries.filter fun e => !entries.contains e

end IdlBuild.Installation
