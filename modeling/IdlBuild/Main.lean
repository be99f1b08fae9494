import IdlBuild.CommandLine.Program
import IdlBuild.FileSystem.Archive
import IdlBuild.Installation.Launch

/-!
# The executable

Runs the command-line program on a tree of files that stands on the standard input as an archive;
its root is the working directory. The journal and the report of a failure go to the error stream,
and the tree as the build leaves it goes to the standard output, again as an archive.
-/

namespace IdlBuild.Main

open Text (Bytes)

/-- Everything that a stream still holds. -/
partial def readRest (stream : IO.FS.Stream) (read : ByteArray) : IO ByteArray := do
  let chunk ← stream.read 65536
  if chunk.isEmpty then return read else readRest stream (read ++ chunk)

/-- The bytes of a list as the streams take them. -/
def byteArray (bytes : Bytes) : ByteArray := ⟨bytes.toArray⟩

/-- A line of the journal as it is printed. -/
def shown (line : Line) : String := line.severity.label ++ " " ++ line.message

/-- What is said of an input that is no archive. -/
def unreadable : String := "the standard input is no archive"

/-- Prints how a run of the program ended and gives its status. -/
def finish (done : CommandLine.Outcome) : IO UInt32 := do
  for line in done.lines do
    IO.eprintln (shown line)
  match done.failure with
  | some failure => IO.eprint ("\n".intercalate (CommandLine.failureReport failure))
  | none => IO.print done.printed
  return done.status.toUInt32

/-- What the program calls: programs on the files in memory, and no service. -/
def surroundings : Surroundings Unit := ⟨Installation.launcher, Http.unreachable⟩

end IdlBuild.Main

open IdlBuild in
/-- Runs the program. The journal is filtered as the environment says. -/
def main (arguments : List String) : IO UInt32 := do
  let setting ← IO.getEnv "IDL2SRC_LOG"
  let words := arguments.map Text.encode
  match CommandLine.read words with
  | .ok (.build _) =>
    let input ← Main.readRest (← IO.getStdin) .empty
    match FileSystem.Archive.decode input.toList with
    | none =>
      IO.eprintln Main.unreadable
      return 2
    | some files =>
      let (done, after) :=
        CommandLine.runProgram Main.surroundings words setting
          ⟨Installation.installedOn files, .empty, ()⟩
      let left := Installation.ownEntries after.files
      (← IO.getStdout).write (Main.byteArray (FileSystem.Archive.encodeEntries left))
      Main.finish done
  | _ =>
    let start : Workspace Unit := ⟨.empty, .empty, ()⟩
    Main.finish (CommandLine.runProgram Main.surroundings words setting start).1
