import CommandShell.Machine.Basic

/-!
# Programs

A program is a function: from its arguments and the machine it starts on, to what it writes, how it
ends and what it leaves behind.

* `Program` : the type, with `Invocation` and `Completion` as its two sides;
* `Toolbox` : the programs that the names in a file tree stand for;
* `FileTree.findProgram?` : the program that a command name leads to.
-/

namespace CommandShell

/-- What standard input is. -/
inductive InputKind where
  /-- A pipe or a device. -/
  | stream
  | file (place : Place) (size : Nat)
  | directory
  | closed
  deriving DecidableEq, Repr

/-- What a program starts with. -/
structure Invocation where
  name : String
  args : List String
  env : Environment
  cwd : Place
  tree : FileTree
  /-- What is not read yet of standard input. -/
  input : Bytes
  inputKind : InputKind := .stream
  /-- The file that standard output goes to, if it goes to one, and how far it is written. -/
  outputFile : Option (Place × Nat) := none

/-- How a program ends. -/
inductive Status where
  | exited (code : Nat)
  | killed (signal : Nat)
  deriving DecidableEq, Repr

/-- The exit code that the shell reports. -/
def Status.code : Status → Int
  | exited code => code
  | killed _ => -1

/-- Something that a program writes. -/
inductive Write where
  | out (bs : Bytes)
  | err (bs : Bytes)
  deriving DecidableEq, Repr

/-- What goes to standard output. -/
def Write.output : Write → Bytes
  | out bs => bs
  | err _ => []

/-- What goes to standard error. -/
def Write.errors : Write → Bytes
  | out _ => []
  | err bs => bs

/-- What a program leaves behind. -/
structure Completion where
  /-- What it wrote, in order. -/
  writes : List Write
  status : Status
  tree : FileTree
  /-- What it did not read of standard input. -/
  unread : Bytes

/-- What a program wrote to standard output. -/
def Completion.output (c : Completion) : Bytes := c.writes.flatMap Write.output

/-- What a program wrote to standard error. -/
def Completion.errors (c : Completion) : Bytes := c.writes.flatMap Write.errors

/-- A program that can be run. -/
abbrev Program := Invocation → Completion

/-- The programs that names stand for. -/
abbrev Toolbox := String → Option Program

namespace Invocation

/-- Ends without effects on files and input. -/
def finish (i : Invocation) (writes : List Write) (code : Nat) : Completion :=
  ⟨writes, .exited code, i.tree, i.input⟩

/-- Ends without effects, with output and an exit code. -/
def print (i : Invocation) (output : Bytes) (code : Nat) : Completion :=
  i.finish [.out output] code

end Invocation

/-- The name of the program that a path leads to. -/
def FileTree.programAt? (t : FileTree) (cwd : Place) (path : Bytes) : Option String :=
  match t.stat cwd path with
  | .ok (_, .program name) => some name
  | _ => none

/-- The directories that programs are searched in. -/
def Environment.searchPath (env : Environment) : List String :=
  match env.get? "PATH" with
  | some path => Text.split ":" path
  | none => ["/bin", "/usr/bin"]

/-- The name of the program that a command name leads to: a path where it has a slash, else the
first program of this name in the search path. An empty directory is the working directory. -/
def FileTree.findProgram? (t : FileTree) (cwd : Place) (env : Environment) (name : String) :
    Option String :=
  if name = "" then none
  else if name.toList.contains '/' then t.programAt? cwd name
  else env.searchPath.findSome? fun dir =>
    t.programAt? cwd (if dir = "" then name else dir ++ "/" ++ name)

end CommandShell
