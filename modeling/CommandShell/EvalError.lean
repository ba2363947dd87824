import CommandShell.Config.Error
import CommandShell.Config.Property
import CommandShell.Value

/-!
# Errors of evaluation

An error ends the line it arises in.  A command that fails is not an error: it has an exit code.
-/

namespace CommandShell

/-- Places that take one text only. -/
inductive WordPlace where
  /-- The name of a command. -/
  | commandName
  /-- The device of a redirection. -/
  | device
  deriving DecidableEq, Repr

/-- How messages name a place that takes one text only. -/
def WordPlace.message : WordPlace → String
  | commandName => "a command name"
  | device => "a redirection device"

/-- Why a line cannot be evaluated. -/
inductive EvalError where
  /-- No program of this name can be run. -/
  | programNotFound (name : String)
  /-- No scope has this name. -/
  | unknownScope (name : String)
  /-- No setting has this path. -/
  | unknownProperty (name : String)
  /-- A store does not hold this name. -/
  | unknownVariable (scope : Scope) (name : String)
  /-- The environment cannot hold this name. -/
  | invalidName (name : String)
  /-- The environment cannot hold the value of this name. -/
  | invalidValue (name : String)
  /-- A setting does not take this text. -/
  | invalidSetting (refusal : Property.Refusal)
  /-- A value that is not one text in a place that takes one text only. -/
  | unexpectedShape (place : WordPlace) (found : Value)
  /-- A device name that is kept free for hardware. -/
  | deviceUnsupported (name : String)
  /-- A device to read from that is not there. -/
  | deviceNotFound (name : String)
  /-- A file operation failed. -/
  | io (path : String) (cause : OsError)
  /-- The configuration cannot be saved. -/
  | config (cause : ConfigError)
  /-- The session is to end. -/
  | exit (code : Int)
  deriving DecidableEq, Repr

/-- The text of an error. -/
def EvalError.message : EvalError → String
  | programNotFound name => "'" ++ name ++ "' is not a known command or executable file"
  | unknownScope name => "Invalid variable scope '" ++ name ++ "'"
  | unknownProperty name => "Unknown config variable '" ++ name ++ "'"
  | unknownVariable scope name =>
    "Variable '" ++ name ++ "' is not set in scope '" ++ scope.name ++ "'"
  | invalidName name => "'" ++ name ++ "' is not a valid environment variable name"
  | invalidValue name =>
    "The value for environment variable '" ++ name ++ "' contains a NUL character"
  | invalidSetting r =>
    "Invalid value '" ++ r.value ++ "' for '" ++ r.property.path ++ "', expected " ++
      r.property.expected
  | unexpectedShape place found =>
    "Unexpected argument shape: " ++ place.message ++ " must be a single string, found " ++
      found.shape
  | deviceUnsupported name =>
    "Opening special device '" ++ name ++ "' is not supported, only NUL is allowed"
  | deviceNotFound name => "Could not find device '" ++ name ++ "'"
  | io path cause => "I/O error on '" ++ path ++ "': " ++ cause.message
  | config cause => cause.message
  | exit code => "exit " ++ toString code

end CommandShell
