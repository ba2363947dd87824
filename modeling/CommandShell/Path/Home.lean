import CommandShell.Path.Basic

/-!
# The home directory in paths

* `Path.expandHome`     : a leading `~` stands for the home directory;
* `Path.abbreviateHome` : the home directory is shown as `~`.
-/

namespace CommandShell.Path

/-- A leading `~`, alone or before a slash or a backslash, stands for the home directory. Names of
the form `~user` stay as they are. -/
def expandHome (home : Bytes) (value : String) : Bytes :=
  if value = "~" then home
  else
    match Text.after? "~/" value, Text.after? "~\\" value with
    | some rest, _ => join home rest
    | none, some rest => join home rest
    | none, none => value

/-- Shows a path, one in the home directory from `~` on. -/
def abbreviateHome (home p : Bytes) : String :=
  match below? home p with
  | some [] => "~"
  | some rest => "~/" ++ display rest
  | none => display p

end CommandShell.Path
