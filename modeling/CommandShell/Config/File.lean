import CommandShell.Config.Document
import CommandShell.Config.Error
import CommandShell.Machine.Basic

/-!
# Configuration files

* `Config.load`         : the configuration of a file; a file that is missing is written first;
* `Config.save`         : writes the file that backs a configuration, if there is one;
* `Config.defaultPath?` : the file of a user who names none.
-/

namespace CommandShell.Config

/-- Makes the directory that is to hold a file. -/
def createParent (path : String) : Action Machine ConfigError Unit :=
  match Path.parent? path with
  | some parent => (Machine.createAll parent).mapError (.write (Path.display parent))
  | none => pure ()

/-- Writes a configuration to a file. -/
def saveTo (path : String) (c : Config) : Action Machine ConfigError Unit := do
  createParent path
  (Machine.writeText path c.toDocument).mapError (.write path)

/-- Writes the file that backs a configuration, if there is one. -/
def save (c : Config) : Action Machine ConfigError Unit :=
  match c.path with
  | some path => saveTo path c
  | none => pure ()

/-- The configuration that a text of a file holds. -/
def parse (path text : String) : Except ConfigError Config :=
  match ofDocument? text with
  | some c => .ok { c with path := some path }
  | none => .error (.parse path)

/-- The configuration of a file. Where there is no file, the defaults are written first. -/
def load (path : String) : Action Machine ConfigError Config := do
  let m ← Action.get
  if m.tree.hasPath m.cwd path then
    let text ← (Machine.readText path).mapError (.read path)
    Action.lift (parse path text)
  else
    let c : Config := { path := some path }
    c.save
    return c

/-- The file of a user who names none: in `XDG_CONFIG_HOME`, if that is an absolute path, or in
`.config` in the home directory. -/
def defaultPath? (m : Machine) : Option String :=
  match m.home? with
  | none => none
  | some home =>
    let base : Bytes :=
      match m.env.get? "XDG_CONFIG_HOME" with
      | some dir => if Path.isAbsolute dir then dir else Path.join home ".config"
      | none => Path.join home ".config"
    some (Path.display (Path.join (Path.join base "lumi") "lumi.toml"))

end CommandShell.Config
