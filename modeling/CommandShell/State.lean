import CommandShell.Config.Error
import CommandShell.Config.Settings
import CommandShell.EvalError
import CommandShell.Machine.Program
import CommandShell.Variable.Watch

/-!
# The state of a session

* `Event`    : what evaluation does that others can see;
* `State`    : the configuration, the machine and the events so far;
* `Eval`     : actions on the state that may end with an error;
* `Eval.record`, `Eval.onMachine`, `Eval.setConfig` : steps of such actions.
-/

namespace CommandShell

/-- What evaluation does that others can see. -/
inductive Event where
  /-- A built-in command or a program ended. -/
  | ran (name : String) (outcome : Outcome)
  /-- Lines were written to a device, from a working directory. -/
  | wrote (cwd : Place) (device : String) (lines : List String)
  /-- A variable was given a value. -/
  | assigned (scope : Scope) (name value : String)
  /-- A watcher was asked about a write. -/
  | watched (change : Change)
  /-- The value of a statement was handed on while the line goes on. -/
  | emitted (value : Value)
  /-- A program wrote to the console. -/
  | printed (output errors : Bytes)
  deriving DecidableEq, Repr

/-- The state of a session. -/
structure State where
  config : Config
  machine : Machine
  log : List Event
  deriving DecidableEq

/-- Actions of a session. -/
abbrev Eval (α : Type) := Action State EvalError α

namespace Eval

/-- Adds an event to the log. -/
def record (e : Event) : Eval Unit :=
  Action.modify fun s => { s with log := s.log ++ [e] }

/-- Adds events to the log. -/
def recordAll (es : List Event) : Eval Unit :=
  Action.modify fun s => { s with log := s.log ++ es }

/-- An action on the machine. -/
def onMachine {ε α : Type} (wrap : ε → EvalError) (m : Action Machine ε α) : Eval α :=
  (Action.within State.machine (fun machine s => { s with machine := machine }) m).mapError wrap

/-- Replaces the configuration. -/
def setConfig (c : Config) : Eval Unit :=
  Action.modify fun s => { s with config := c }

/-- Replaces the environment. -/
def setEnvironment (env : Environment) : Eval Unit :=
  Action.modify fun s => { s with machine := { s.machine with env := env } }

end Eval

end CommandShell
