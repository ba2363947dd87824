/-!
# Built-in commands

* `Builtin`       : the commands that the shell itself runs;
* `Builtin.names` : the names of a command, the first of which is its own;
* `Builtin.find?` : the command of a name.
-/

namespace CommandShell

/-- The commands that the shell itself runs. -/
inductive Builtin where
  | cd
  | clear
  | echo
  | exit
  | pwd
  | resetConfig
  | split
  deriving DecidableEq, Repr

namespace Builtin

/-- All commands, in the order of their names. -/
def all : List Builtin := [cd, clear, echo, exit, pwd, resetConfig, split]

/-- The name of a command. -/
def name : Builtin → String
  | cd => "cd"
  | clear => "clear"
  | echo => "echo"
  | exit => "exit"
  | pwd => "pwd"
  | resetConfig => "reset-config"
  | split => "split"

/-- Further names of a command. -/
def aliases : Builtin → List String
  | clear => ["cls"]
  | _ => []

/-- All names of a command. -/
def names (b : Builtin) : List String := b.name :: b.aliases

/-- The command of a name among some commands. -/
def find? (commands : List Builtin) (name : String) : Option Builtin :=
  commands.find? fun b => b.names.contains name

end Builtin

end CommandShell
