import CommandShell.Program.Script.Builtin.Basic
import CommandShell.Program.Script.Parse

/-!
# Scripts: what command names stand for

* `Script.Target` : what a command name stands for;
* `Script.find`   : finds it.
-/

namespace CommandShell.Script

/-- The built-in commands whose failure does not end a script. -/
def regularNames : List String :=
  ["[", "alias", "bg", "cd", "chdir", "command", "echo", "false", "fg", "getopts", "hash", "jobs",
    "kill", "printf", "pwd", "read", "test", "true", "type", "ulimit", "umask", "unalias", "wait"]

/-- Whether a name is that of a built-in command. -/
def isBuiltin (name : String) : Bool := specialNames.contains name || regularNames.contains name

/-- What a command name stands for. -/
inductive Target where
  | builtin
  | function (body : Command)
  /-- A program at a path. -/
  | program (path : String)
  /-- Nothing, and why. -/
  | missing (reason : String)

/-- The text of an error where a program is started. -/
def startReason : OsError → String
  | .notFound | .notDirectory => "not found"
  | e => Message.reason e

/-- Looks for a program in some directories; `reason` tells why it was not found before. -/
def searchFrom (s : State) (name : String) : String → List String → Target
  | reason, [] => .missing reason
  | reason, dir :: rest =>
    let path := if dir = "" then name else dir ++ "/" ++ name
    match s.tree.stat s.cwd (Narrow.toBytes path) with
    | .ok (_, .program _) => .program path
    | .ok _ => searchFrom s name "Permission denied" rest
    | .error .notFound => searchFrom s name reason rest
    | .error .notDirectory => searchFrom s name reason rest
    | .error e => searchFrom s name (Message.reason e) rest

/-- The directories that programs are looked for in. -/
def State.searchPath (s : State) : String := (s.get? "PATH").getD ""

/-- The directories that have all programs. -/
def standardPath : String := "/usr/local/sbin:/usr/local/bin:/usr/sbin:/usr/bin:/sbin:/bin"

/-- What a command name stands for, without programs that were found before. -/
def State.target (s : State) (withFunctions : Bool) (path name : String) : Target :=
  if name.toList.contains '/' then .program name
  else
    match if withFunctions then s.functions.lookup name else none with
    | some body => .function body
    | none =>
      if isBuiltin name then .builtin
      else searchFrom s name "not found" (Text.split ":" path)

/-- Finds what a command name stands for; programs in the directories of `PATH` are kept in
mind. -/
def find (withFunctions : Bool) (path : Option String) (name : String) : Run Target := do
  let s ← Action.get
  let target := s.target withFunctions (path.getD s.searchPath) name
  match target, path with
  | .program place, none =>
    if name.toList.contains '/' then pure ()
    else
      Action.modify fun s =>
        if (s.found.lookup name).isSome then s else { s with found := s.found ++ [(name, place)] }
  | _, _ => pure ()
  return target

end CommandShell.Script
