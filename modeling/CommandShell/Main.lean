import CommandShell.CommandLine.Run
import CommandShell.Program.Installed

/-!
# The command

Runs the shell on the arguments, the environment and the standard input of the host.  The files of
the working directory and the configuration file are taken from the host before the run, and what
changed is given back after it.
-/

namespace CommandShell.Host

/-- The names of the environment that the shell gets to see. -/
def variableNames : List String :=
  ["PATH", "HOME", "USER", "USERNAME", "TERM", "XDG_CONFIG_HOME"]

/-- The environment of the host. -/
def environment : IO Environment :=
  variableNames.filterMapM fun name => do
    return (← IO.getEnv name).map fun value => (name, value)

/-- Standard input up to its end. -/
partial def readAll (stream : IO.FS.Stream) (acc : ByteArray) : IO Bytes := do
  let chunk ← stream.read 65536
  if chunk.isEmpty then return acc.toList else readAll stream (acc ++ chunk)

/-- The place of an absolute path. -/
def placeOf (path : Bytes) : Place :=
  (Path.split path).filter (· != [])

/-- The places on the way to a place, the place itself apart. -/
def above (p : Place) : List Place :=
  (List.range p.length).map p.take

/-- Takes a file of the host into a tree, if there is one. -/
def takeFile (t : FileTree) (path : String) : IO FileTree := do
  try
    let content ← IO.FS.readBinFile path
    let p := placeOf path
    let t := (above p).foldl (fun t q => if q = [] then t else t.put q .directory) t
    return t.put p (.file content.toList)
  catch _ => return t

/-- Takes the files of a directory of the host into a tree. -/
def takeDirectory (t : FileTree) (path : String) : IO FileTree := do
  let p := placeOf path
  let mut tree := (above p ++ [p]).foldl (fun t q => if q = [] then t else t.put q .directory) t
  for entry in ← (← IO.currentDir).readDir do
    if ← entry.path.isDir then tree := tree.put (p ++ [(entry.fileName : Bytes)]) .directory
    else tree ← takeFile tree entry.path.toString
  return tree

/-- Gives the directories and files that changed back to the host. -/
def giveBack (before after : FileTree) : IO Unit := do
  for (p, e) in after.entries do
    if before.get? p ≠ some e then
      match e with
      | .directory => IO.FS.createDirAll (Path.display (Machine.pathOf p))
      | .file content => IO.FS.writeBinFile (Path.display (Machine.pathOf p)) ⟨content.toArray⟩
      | _ => pure ()

/-- Runs the shell on the host. -/
def run (args : List String) : IO UInt32 := do
  let env ← environment
  let cwd := (← IO.currentDir).toString
  let input ← readAll (← IO.getStdin) .empty
  let tree ← takeDirectory .installed cwd
  let tree ← match Config.defaultPath? ⟨tree, placeOf cwd, env, none, []⟩ with
    | some path => takeFile tree path
    | none => pure tree
  let c := CommandLine.program .installed none
    { name := "lumi", args := args, env := env, cwd := placeOf cwd, tree := tree, input := input }
  giveBack tree c.tree
  (← IO.getStdout).write ⟨c.output.toArray⟩
  (← IO.getStderr).write ⟨c.errors.toArray⟩
  return UInt32.ofNat c.status.code.toNat

end CommandShell.Host

/-- The shell. -/
def main (args : List String) : IO UInt32 := CommandShell.Host.run args
