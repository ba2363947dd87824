import CommandShell.Program.Script.Program
import CommandShell.Program.Utility.Concatenate
import CommandShell.Program.Utility.Echo
import CommandShell.Program.Utility.Print
import CommandShell.Program.Utility.WordCount

/-!
# The programs of a machine

* `Toolbox.installed`  : the programs by name;
* `FileTree.installed` : a file tree that has them in `/bin` and `/usr/bin`.
-/

namespace CommandShell

/-- The names of the programs. -/
def programNames : List String :=
  ["sh", "cat", "printf", "true", "false", "echo", "pwd", "wc"]

/-- The programs by name; scripts run scripts up to a depth. -/
def Toolbox.upTo : Nat → Toolbox
  | depth, name =>
    match name with
    | "cat" => some Utility.concatenate
    | "printf" => some Utility.printFormat
    | "true" => some Utility.succeed
    | "false" => some Utility.fail
    | "echo" => some Utility.echo
    | "pwd" => some Utility.workingDirectory
    | "wc" => some Utility.wordCount
    | "sh" =>
      match depth with
      | 0 => none
      | depth + 1 => some (Script.program (Toolbox.upTo depth))
    | _ => none

/-- The programs by name. -/
def Toolbox.installed : Toolbox := Toolbox.upTo 16

/-- A file tree with the programs and without other files. -/
def FileTree.installed : FileTree :=
  let folders : List (Place × Entry) :=
    [(["bin"], .directory), (["usr"], .directory), (["usr", "bin"], .directory),
      (["tmp"], .directory), (["dev"], .directory), (["dev", "null"], .null)]
  let programs (name : String) : List (Place × Entry) :=
    [(["bin", name], .program name), (["usr", "bin", name], .program name)]
  ⟨folders ++ programNames.flatMap programs⟩

end CommandShell
