import IdlBuild.Shell.Run
import IdlBuild.Tool.Awk.Running
import IdlBuild.Tool.Calling
import IdlBuild.Tool.Columns
import IdlBuild.Tool.Copying
import IdlBuild.Tool.Counting
import IdlBuild.Tool.Differences.Reporting
import IdlBuild.Tool.Digests
import IdlBuild.Tool.Dumping
import IdlBuild.Tool.Entries
import IdlBuild.Tool.Expressions
import IdlBuild.Tool.Finding
import IdlBuild.Tool.Grep
import IdlBuild.Tool.Listing
import IdlBuild.Tool.Ordering
import IdlBuild.Tool.Paths
import IdlBuild.Tool.Sed.Running
import IdlBuild.Tool.Streams
import IdlBuild.Tool.Telling
import IdlBuild.Tool.Translating

/-!
# The tools that are installed

Which program each name stands for. The tools are there so that builds which call them can be run;
no theorem is about them.
-/

namespace IdlBuild.Installation

open Shell (Tool Caller Toolbox)
open Tool

/-- The tools that call no others. -/
def plainTools : List (String × Tool) :=
  [("[", bracket), ("arch", arch), ("base32", codeTool 5 5 8), ("base64", codeTool 6 3 4),
   ("basename", basename), ("cat", cat), ("chgrp", chown), ("chmod", chmod), ("chown", chown),
   ("cksum", cksum), ("cmp", Differences.cmp), ("comm", comm), ("cp", cp), ("cut", cut), ("dd", dd),
   ("diff", Differences.diff), ("dir", lsAs [("C", "")]), ("dirname", dirname), ("echo", echo),
   ("egrep", oldGrep "E"), ("expand", expand), ("expr", expr), ("factor", factor),
   ("false", doNothing 1), ("fgrep", oldGrep "F"), ("fold", fold), ("grep", grep),
   ("groups", groups), ("head", head), ("id", id), ("install", install), ("join", join),
   ("link", link), ("ln", ln), ("logname", logname), ("ls", ls),
   ("md5sum", digestTool "MD5" Digest.md5 32), ("mkdir", mkdir), ("mktemp", mktemp), ("mv", mv),
   ("nl", nl), ("nproc", nproc), ("od", od), ("paste", paste), ("printenv", printenv),
   ("printf", printf), ("pwd", pwd), ("readlink", readlink), ("realpath", realpath), ("rm", rm),
   ("rmdir", rmdir), ("sed", Sed.sed), ("seq", seq),
   ("sha1sum", digestTool "SHA1" Digest.sha1 40),
   ("sha224sum", digestTool "SHA224" Digest.sha224 56),
   ("sha256sum", digestTool "SHA256" Digest.sha256 64),
   ("sha384sum", digestTool "SHA384" Digest.sha384 96),
   ("sha512sum", digestTool "SHA512" Digest.sha512 128), ("shuf", shuf), ("sleep", sleep),
   ("sort", sort), ("split", split), ("stat", stat), ("sum", sum), ("sync", sync), ("tac", tac),
   ("tail", tail), ("tee", tee), ("test", test), ("touch", touch), ("tr", tr),
   ("true", doNothing 0), ("truncate", truncate), ("tsort", tsort), ("tty", tty), ("uname", uname),
   ("unexpand", unexpand), ("uniq", uniq), ("unlink", unlink),
   ("vdir", lsAs [("l", "")]), ("wc", wc), ("which", which), ("whoami", whoami), ("yes", yes)]

/-- The tools that call others. -/
def callingTools (caller : Caller) : List (String × Tool) :=
  [("awk", Awk.awk caller), ("env", env caller), ("find", Finding.find caller),
   ("mawk", Awk.awk caller), ("nice", nice caller), ("nohup", nohup caller),
   ("setsid", setsid caller), ("stdbuf", stdbuf caller), ("timeout", timeout caller),
   ("xargs", xargs caller)]

/-- The tools that are installed but do nothing that shows in files or in what is printed, with the
status of a wrong call. -/
def silentTools : List (String × Nat) :=
  [("b2sum", 1), ("chcon", 1), ("chroot", 125), ("csplit", 1), ("date", 1), ("df", 1),
   ("dircolors", 1), ("du", 1), ("fmt", 1), ("getopt", 2), ("hostid", 1), ("hostname", 255),
   ("mkfifo", 1), ("mknod", 1), ("numfmt", 1), ("pathchk", 1), ("pinky", 1), ("pr", 1), ("ptx", 1),
   ("runcon", 125), ("shred", 1), ("stty", 1), ("users", 1), ("who", 1)]

/-- The standard program of a name. -/
def toolbox : Toolbox := fun caller name =>
  match plainTools.lookup name |>.or ((callingTools caller).lookup name) with
  | some tool => some (withCheckedOutput tool)
  | none => (silentTools.lookup name).map fun status => withOptions [] status fun _ _ s => s

/-- The names of all programs. -/
def names : List String :=
  Shell.Run.shellNames ++ plainTools.map Prod.fst ++
    (callingTools fun _ s => s).map Prod.fst ++ silentTools.map Prod.fst

end IdlBuild.Installation
