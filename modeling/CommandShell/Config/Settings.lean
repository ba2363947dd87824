import CommandShell.Variable.Store

/-!
# Settings and configurations

* `Settings` : what the user can set;
* `Config`   : settings, the two stores of variables and the file that backs them.
-/

namespace CommandShell

/-- Named colours, kept as texts. -/
structure ColorScheme where
  foreground : String := "#BFBFBF"
  background : String := "#250440"
  error : String := "#FF4383"
  warning : String := "#F9B816"
  notice : String := "#1D88F1"
  promptUserName : String := "#50B1FF"
  promptDirectory : String := "#F8B068"
  deriving DecidableEq, Repr

/-- What the user can set. -/
structure Settings where
  /-- Show the home directory as `~`. -/
  useTilde : Bool := true
  /-- The scope of a variable that names none. -/
  defaultScope : Option String := none
  /-- Built-in commands that give way to programs of the same name. -/
  disabledCommands : List String := []
  /-- All built-in commands give way. -/
  disableAll : Bool := false
  /-- Colours. -/
  colors : ColorScheme := {}
  deriving DecidableEq, Repr

/-- Settings, variables and the file that backs them. -/
structure Config where
  /-- What the user can set. -/
  settings : Settings := {}
  /-- Variables that are saved. -/
  persistent : Store := .empty
  /-- Variables that end with the session. -/
  temporary : Store := .empty
  /-- The file that backs the configuration. -/
  path : Option String := none
  deriving DecidableEq

namespace Config

/-- Whether a built-in command of this name gives way to a program. -/
def isDisabled (c : Config) (name : String) : Bool :=
  c.settings.disableAll || c.settings.disabledCommands.any (Text.sameFold · name)

/-- The defaults with the temporary variables and the file of `c`. -/
def cleared (c : Config) : Config :=
  { temporary := c.temporary, path := c.path }

end Config

end CommandShell
