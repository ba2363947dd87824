import CommandShell.Builtin.Run
import CommandShell.Device
import CommandShell.Program.Call
import CommandShell.Segment.Basic

/-!
# Evaluation of segments

A segment is evaluated with an input and with a flag that asks for the output of programs.  A
command that fails ends pipes, arguments and `&`-sequences with its outcome; an error ends the
line.

* `Context`        : what a session offers: commands, programs, watchers, and a place for the
  values of statements that are not the last;
* `Segment.eval`   : the outcome of a segment;
* `Segment.runCommand` : the outcome of a command by name.
-/

namespace CommandShell

/-- What a session offers. -/
structure Context where
  /-- The built-in commands. -/
  commands : List Builtin
  /-- The programs. -/
  tools : Toolbox
  /-- The watchers of variables. -/
  watchers : Watchers
  /-- The values of statements that are not the last one are handed on. -/
  emits : Bool

namespace Segment

/-- The built-in command that runs under a name, unless it is disabled by this name or its own. -/
def enabled? (ctx : Context) (c : Config) (name : String) : Option Builtin :=
  match Builtin.find? ctx.commands name with
  | some b => if c.isDisabled name || c.isDisabled b.name then none else some b
  | none => none

/-- The lines that a program gets as its input; no value is no input. -/
def inputLines : Value → Option (List String)
  | .absent => none
  | v => some v.lineList

/-- Runs a built-in command and records its outcome. -/
def runBuiltin (b : Builtin) (name : String) (args : List String) (input : Value) :
    Eval Outcome := do
  let o ← b.run args input
  Eval.record (.ran name o)
  return o

/-- Runs the built-in command or the program of a name. -/
def runCommand (ctx : Context) (name : String) (args : List String) (input : Value)
    (capture : Bool) : Eval Outcome := do
  let s ← Action.get
  match enabled? ctx s.config name with
  | some b => runBuiltin b name args input
  | none => Program.call ctx.tools name args (inputLines input) capture

/-- The text that a place takes: a single one, of a success. -/
def wordOf (place : WordPlace) (o : Outcome) : Except EvalError String :=
  match o.isSuccess, o.value with
  | true, .scalar s => .ok s
  | _, v => .error (.unexpectedShape place v)

/-- Reads a variable, or writes the input to it. -/
def evalReference (ctx : Context) (scope : Option String) (name : String) (input : Value)
    (capture : Bool) : Eval Outcome := do
  let s ← Action.get
  let scope ← Action.lift (Variable.resolve scope s.config)
  if input.isAbsent then
    let v ← Action.lift (Variable.get s.config s.machine.env scope name)
    return ⟨0, v⟩
  else
    Variable.set ctx.watchers scope name input.joined
    return if capture then .scalar input.joined else .absent

/-- Hands the value of a statement on, if there is one and somebody wants it. -/
def emit (ctx : Context) (v : Value) : Eval Unit :=
  if ctx.emits && !v.isAbsent then Eval.record (.emitted v) else pure ()

/-- Writes the output of a success to a device. -/
def writeOutcome (mode : RedirectMode) (device : String) (o : Outcome) : Eval Outcome :=
  if o.isSuccess then do
    let cwd ← Action.gets fun s => s.machine.cwd
    Device.write device (o.value.select mode)
    Eval.record (.wrote cwd device (o.value.select mode))
    return .absent
  else return o

mutual

/-- The outcome of a segment. -/
def eval (ctx : Context) : Segment → Value → Bool → Eval Outcome
  | .text s, _, _ => return .scalar s
  | .bare head, input, capture => do
    let h ← eval ctx head .absent true
    let name ← Action.lift (wordOf .commandName h)
    runCommand ctx name [] input capture
  | .command head args, input, capture => do
    let h ← eval ctx head .absent true
    let name ← Action.lift (wordOf .commandName h)
    let values ← evalAll ctx args
    match values with
    | .ok vs => runCommand ctx name (vs.flatMap Value.arguments) input capture
    | .error failed => return failed
  | .pipe left right, input, capture => do
    let o ← eval ctx left input true
    if o.isSuccess then eval ctx right o.value capture else return o
  | .sequence left right stop, _, _ => do
    let o ← eval ctx left .absent false
    if stop && !o.isSuccess then return o
    else
      emit ctx o.value
      eval ctx right .absent false
  | .redirect left device mode, input, capture => do
    let d ← eval ctx device .absent true
    if d.isSuccess then
      let path ← Action.lift (wordOf .device d)
      match mode with
      | .stdIn => do
        let ls ← Device.read path
        eval ctx left (.lines ls) capture
      | mode => do
        let o ← eval ctx left input true
        writeOutcome mode path o
    else return d
  | .interpolation parts, _, _ => do
    let values ← evalAll ctx parts
    match values with
    | .ok vs => return .scalar (String.join (vs.map Value.contribution))
    | .error failed => return failed
  | .substitution inner, input, capture => eval ctx inner input capture
  | .reference scope name, input, capture => evalReference ctx scope name input capture

/-- The values of segments, or the outcome of the first that fails. -/
def evalAll (ctx : Context) : List Segment → Eval (Except Outcome (List Value))
  | [] => return .ok []
  | s :: rest => do
    let o ← eval ctx s .absent true
    if o.isSuccess then
      let more ← evalAll ctx rest
      match more with
      | .ok vs => return .ok (o.value :: vs)
      | .error failed => return .error failed
    else return .error o

end

end Segment

end CommandShell
