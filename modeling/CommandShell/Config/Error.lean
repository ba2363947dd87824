import CommandShell.Machine.OsError

/-!
# Errors of configuration files
-/

namespace CommandShell

/-- Why a configuration cannot be loaded or saved. -/
inductive ConfigError where
  /-- The file cannot be read. -/
  | read (path : String) (cause : OsError)
  /-- The file holds no configuration. -/
  | parse (path : String)
  /-- The file, or the directory that is to hold it, cannot be written. -/
  | write (path : String) (cause : OsError)
  /-- There is no home to keep it in. -/
  | noDirectory
  deriving DecidableEq, Repr

namespace ConfigError

/-- The text of an error. -/
def message : ConfigError → String
  | read path cause => "failed to read config file '" ++ path ++ "': " ++ cause.message
  | parse path => "failed to parse config file '" ++ path ++ "'"
  | write path cause => "failed to write config file '" ++ path ++ "': " ++ cause.message
  | noDirectory => "could not determine a configuration directory"

/-- The error of the machine behind an error. -/
def cause? : ConfigError → Option OsError
  | read _ cause => some cause
  | write _ cause => some cause
  | _ => none

end ConfigError

end CommandShell
