import CommandShell.Action
import CommandShell.Machine.FileTree

/-!
# The machine

What the shell runs on: a file tree, a working directory, an environment and standard input.

* `Environment.get?`, `Environment.set`, `Environment.unset`;
* `Machine.home?` : the home directory;
* `Machine.currentDirectory` : the path of the working directory, if that is still there;
* `Machine.readText`, `Machine.writeText`, `Machine.createAll` : file operations as actions.
-/

namespace CommandShell

/-- The names and values of the environment, which are texts. -/
abbrev Environment := List (String × String)

namespace Environment

/-- The value of a name. -/
def get? (env : Environment) (name : String) : Option String :=
  env.lookup name

/-- Gives a name a value. -/
def set (name value : String) : Environment → Environment
  | [] => [(name, value)]
  | (n, v) :: rest => if n = name then (name, value) :: rest else (n, v) :: set name value rest

/-- Takes a name out. -/
def unset (name : String) (env : Environment) : Environment :=
  env.filter fun (n, _) => n != name

/-- Names that the environment can hold. -/
def isName (name : String) : Bool :=
  name != "" && !name.toList.contains '=' && !name.toList.contains '\x00'

end Environment

/-- What the shell runs on. -/
structure Machine where
  tree : FileTree
  cwd : Place
  env : Environment
  /-- The home directory of the account, for an environment that names none. -/
  accountHome : Option String
  /-- What is not read yet of standard input. -/
  input : Bytes
  deriving DecidableEq

namespace Machine

/-- A place as an absolute path. -/
def pathOf (p : Place) : Bytes :=
  Path.slash :: Path.unsplit p

/-- The working directory as a path. -/
def cwdPath (m : Machine) : Bytes := pathOf m.cwd

/-- The path of the working directory. It has none once it was taken away. -/
def currentDirectory (m : Machine) : Except OsError Bytes :=
  if (m.tree.get? m.cwd).any Entry.isDirectory then .ok m.cwdPath else .error .notFound

/-- The home directory: `HOME`, or the account's. -/
def home? (m : Machine) : Option String :=
  match m.env.get? "HOME" with
  | some "" => m.accountHome
  | some h => some h
  | none => m.accountHome

/-- The text of a file. -/
def readText (path : Bytes) : Action Machine OsError String := fun m =>
  (m.tree.readText m.cwd path, m)

/-- Writes a text file. -/
def writeText (path : Bytes) (content : String) : Action Machine OsError Unit := fun m =>
  match m.tree.write m.cwd path (Utf8.encode content) with
  | .ok tree => (.ok (), { m with tree := tree })
  | .error e => (.error e, m)

/-- Makes a directory and those above it. -/
def createAll (path : Bytes) : Action Machine OsError Unit := fun m =>
  match m.tree.createAll m.cwd path with
  | (r, tree) => (r, { m with tree := tree })

end Machine

end CommandShell
