import IdlBuild.Child.Account
import IdlBuild.Workspace

/-!
# Running child programs

A program is started, its output is reported line by line, and it is waited for. The run succeeds
when the program ends by itself with status 0. When a time limit is set, the wait for the output of
what the program itself has started is bounded too; what is still open then is left with a warning.

The two workers that read the output are taken to start whenever the program does. What happens when
the operating system refuses one of them a thread is left out: the program is then killed and waited
for, and the run fails with `failed to start output drain` and the reason.
-/

namespace IdlBuild.Child

/-- Said of a stream that is left open. -/
def heldOpenWarning : String := "process output still open after exit; no longer waiting for it"

/-- A command line cannot hold a NUL character. -/
def nulInArgument : IoFault := .other "nul byte found in provided data"

/-- What is reported of a run, oldest line first. -/
def accountLines (limit : Option Nat) (account : Account) : List Line :=
  supervise account.turns (account.awaited limit) ++
    (if limit.isSome then account.heldOpen.map fun _ => ⟨.warn, heldOpenWarning⟩ else [])

/-- A launcher that refuses arguments that cannot be handed over. -/
def checked {σ : Type} (launcher : Launcher σ) : Launcher σ := fun arguments limit files callees =>
  if arguments.any fun a => a.toList.contains '\x00' then (.error nulInArgument, files, callees)
  else launcher arguments limit files callees

/-- Runs a program to its end. The result says what went wrong, if anything did. -/
def run {σ : Type} (launcher : Launcher σ) (arguments : List String) (limit : Option Nat) :
    BuildM σ (Option String) :=
  if arguments = [] then return some "empty command line"
  else BuildM.ofFunction fun w =>
    match checked launcher arguments limit w.files w.callees with
    | (.error fault, files, callees) =>
      (.ok (some s!"failed to start: {fault.message}"), { w with files, callees })
    | (.ok account, files, callees) =>
      (.ok (account.ending.failure? limit),
        { journal := ⟨w.journal.lines ++ accountLines limit account⟩, files, callees })

end IdlBuild.Child
