import CommandShell.Config.File
import CommandShell.State

/-!
# Reading and writing variables

* `Variable.resolve` : the scope of a reference;
* `Variable.get`     : the value of a variable;
* `Variable.put`     : the configuration and the environment after a value is put or taken out;
* `Variable.set`     : a write, with the watchers asked and the configuration saved.
-/

namespace CommandShell.Variable

/-- The scope of a reference: the one it names, or the default of the settings, or the temporary
one. -/
def resolve (scope : Option String) (c : Config) : Except EvalError Scope :=
  match scope.or c.settings.defaultScope with
  | none => .ok .temporary
  | some name =>
    match Scope.ofName? name with
    | some s => .ok s
    | none => .error (.unknownScope name)

/-- The value of a name in a store. -/
def stored (store : Store) (scope : Scope) (name : String) : Except EvalError Value :=
  match store.get? name with
  | some v => .ok (.scalar v)
  | none => .error (.unknownVariable scope name)

/-- The value of a name in the environment; a name that is not set has no value. -/
def fromEnvironment (env : Environment) (name : String) : Value :=
  if Environment.isName name then
    match env.get? name with
    | some v => .scalar v
    | none => .absent
  else .absent

/-- The value of a variable. -/
def get (c : Config) (env : Environment) (scope : Scope) (name : String) :
    Except EvalError Value :=
  match scope with
  | .config =>
    match Property.find? name with
    | some p => .ok (.scalar (p.read c.settings))
    | none => .error (.unknownProperty name)
  | .persistent => stored c.persistent scope name
  | .temporary => stored c.temporary scope name
  | .system | .user | .process => .ok (fromEnvironment env name)

/-- The text of a variable, if it has one. -/
def current? (c : Config) (env : Environment) (scope : Scope) (name : String) : Option String :=
  match get c env scope name with
  | .ok (.scalar v) => some v
  | _ => none

/-- A store after a value is put or taken out. -/
def putStore (name : String) (value : Option String) (store : Store) : Store :=
  match value with
  | some v => store.insert name v
  | none => store.erase name

/-- An environment after a value is put or taken out. -/
def putEnvironment (name : String) (value : Option String) (env : Environment) : Environment :=
  match value with
  | some v => env.set name v
  | none => env.unset name

/-- The configuration and the environment after a value is put or taken out. A setting always has a
value, so none is taken out. -/
def put (c : Config) (env : Environment) (scope : Scope) (name : String) (value : Option String) :
    Except EvalError (Config × Environment) :=
  match scope with
  | .config =>
    match value with
    | none => .ok (c, env)
    | some v =>
      match Property.find? name with
      | none => .error (.unknownProperty name)
      | some p =>
        match p.write v c.settings with
        | .ok settings => .ok ({ c with settings := settings }, env)
        | .error refusal => .error (.invalidSetting refusal)
  | .persistent => .ok ({ c with persistent := putStore name value c.persistent }, env)
  | .temporary => .ok ({ c with temporary := putStore name value c.temporary }, env)
  | .system | .user | .process => .ok (c, putEnvironment name value env)

/-- Names and values that a scope cannot hold. -/
def check (scope : Scope) (name value : String) : Except EvalError Unit :=
  if scope.isEnvironment && !Environment.isName name then .error (.invalidName name)
  else if scope.isEnvironment && value.toList.contains '\x00' then .error (.invalidValue name)
  else .ok ()

/-- Puts a value or takes it out. -/
def write (scope : Scope) (name : String) (value : Option String) : Eval Unit := do
  let s ← Action.get
  let (c, env) ← Action.lift (put s.config s.machine.env scope name value)
  Eval.setConfig c
  Eval.setEnvironment env

/-- Saves the configuration. -/
def saveConfig : Eval Unit := do
  let s ← Action.get
  Eval.onMachine .config s.config.save

/-- The scopes that are saved. -/
def isSaved : Scope → Bool
  | .config | .persistent => true
  | _ => false

/-- Writes a variable: the value is put, the watchers are asked, the old value comes back if one of
them says so, and what is kept in the configuration file is saved. -/
def set (watchers : Watchers) (scope : Scope) (name value : String) : Eval Unit := do
  Action.lift (check scope name value)
  let s ← Action.get
  let old := current? s.config s.machine.env scope name
  write scope name (some value)
  Eval.record (.assigned scope name value)
  let (seen, reverted) := watchers.ask ⟨scope, name, old, value, false⟩
  Eval.recordAll (seen.map .watched)
  if reverted then write scope name old
  if isSaved scope then saveConfig

end CommandShell.Variable
