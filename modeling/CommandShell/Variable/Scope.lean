import CommandShell.Text.Class

/-!
# Scopes of variables

* `Scope`       : where a variable lives;
* `Scope.name`  : the name of a scope in messages;
* `Scope.ofName?` : the scope of a name or of one of its short forms, in any case.
-/

namespace CommandShell

/-- Where a variable lives. -/
inductive Scope where
  /-- A setting of the configuration. -/
  | config
  /-- The environment. -/
  | system
  /-- The environment. -/
  | user
  /-- The store that is saved. -/
  | persistent
  /-- The store that ends with the session. -/
  | temporary
  /-- The environment. -/
  | process
  deriving DecidableEq, Repr

namespace Scope

/-- The name of a scope. -/
def name : Scope → String
  | config => "config"
  | system => "system"
  | user => "user"
  | persistent => "persistent"
  | temporary => "temporary"
  | process => "process"

/-- All names of a scope. -/
def names : Scope → List String
  | config => ["cfg", "conf", "config"]
  | system => ["sys", "system"]
  | user => ["usr", "user"]
  | persistent => ["pers", "persist", "persistent"]
  | temporary => ["tmp", "temp", "temporary"]
  | process => ["proc", "process", "env", "environment"]

/-- All scopes. -/
def all : List Scope := [config, system, user, persistent, temporary, process]

/-- The scope that a name stands for. -/
def ofName? (s : String) : Option Scope :=
  all.find? fun scope => scope.names.contains (Text.fold s)

/-- The scopes that share the environment. -/
def isEnvironment : Scope → Bool
  | system | user | process => true
  | _ => false

end Scope

end CommandShell
