import CommandShell.Program.Script.Builtin.Basic
import CommandShell.Program.Script.Signal

/-!
# Scripts: built-in commands for signals and jobs

* `Script.sendSignal`, `Script.setTrap`, `Script.waitFor`, `Script.resume`;
* `Script.showTimes`, `Script.showLimit`.
-/

namespace CommandShell.Script

/-- How to send a signal. -/
def sendUsage : String :=
  "Usage: kill [-s sigspec | -signum | -sigspec] [pid | job]... or\nkill -l [exitstatus]"

/-- Shows the names of signals. -/
def showSignals : List String → Run Nat
  | [] => do
    say "0\n"
    for n in List.range (signalLimit - 1) do say (signalName (n + 1) ++ "\n")
    return 0
  | arg :: _ => do
    let n ← count arg
    let signal := if n > 128 then n - 128 else n
    if 0 < signal ∧ signal < signalLimit then
      say (signalName signal ++ "\n")
      return 0
    else raise ("invalid signal number or exit status: " ++ arg)

/-- Sends a signal to one process. -/
def sendTo (signal : Nat) (arg : String) : Run Bool := do
  match arg.toList with
  | '%' :: _ => raise ("No such job: " ++ arg)
  | _ =>
    let isGroup := arg.toList.head? == some '-'
    let n ← count (if isGroup then String.ofList arg.toList.tail else arg)
    if n = scriptNumber || n = 0 then
      deliver signal
      return true
    else
      warn "No such process\n"
      return false

/-- The signal that the options ask for, whether names are asked for, and the arguments. -/
def signalFlags (args : List String) : Run (Option Nat × Bool × List String) := do
  match args with
  | [] => return (none, false, [])
  | arg :: rest =>
    match arg.toList with
    | '-' :: text =>
      match signalNumber? 1 (String.ofList text) with
      | some n => return (some n, false, rest)
      | none => do
        let (flags, args) ← readFlags "ls:" args
        let names := (flags.filter (·.letter = 's')).filterMap (·.value)
        let mut signal : Option Nat := none
        for name in names do
          match signalNumber? 1 name with
          | some n => signal := some n
          | none => raise ("invalid signal number or name: " ++ name)
        return (signal, given flags 'l', args)
    | _ => return (none, false, args)

/-- Sends a signal. -/
def sendSignal : Builtin := fun args => do
  if args.isEmpty then raise sendUsage
  else
    let (signal, names, args) ← signalFlags args
    if names then
      if signal.isSome then raise sendUsage else showSignals args
    else if args.isEmpty then raise sendUsage
    else
      let mut code := 0
      for arg in args do
        let sent ← sendTo (signal.getD 15) arg
        if !sent then code := 1
      return code

/-- What is done on a signal. -/
def putTrap (signal : Nat) (action : Option String) (traps : List (Nat × String)) :
    List (Nat × String) :=
  let others := traps.filter (·.1 != signal)
  match action with
  | some text => (signal, text) :: others
  | none => others

/-- Sets what is done on signals. -/
def setTraps (action : Option String) : List String → Run Nat
  | [] => return 0
  | arg :: rest =>
    match signalNumber? 0 arg with
    | none => do
      let _ ← write 2 (Narrow.toBytes ("trap: " ++ arg ++ ": bad trap\n"))
      return 1
    | some signal => do
      Action.modify fun s => { s with traps := putTrap signal action s.traps }
      setTraps action rest

/-- Sets or shows what is done on signals. -/
def setTrap : Builtin := fun args => do
  let (_, args) ← readFlags "" args
  match args with
  | [] => do
    let s ← Action.get
    for n in List.range signalLimit do
      match s.traps.lookup n with
      | some text => say ("trap -- " ++ inQuotes text ++ " " ++ signalName n ++ "\n")
      | none => pure ()
    return 0
  | [arg] => setTraps none [arg]
  | action :: rest =>
    if (numberedSignal? action).isSome then setTraps none args
    else setTraps (if action = "-" then none else some action) rest

/-- Waits for commands in the background, which have all ended. -/
def waitFor : Builtin := fun args => do
  let (_, args) ← readFlags "" args
  let mut code := 0
  for arg in args do
    match arg.toList with
    | '%' :: _ => raise ("No such job: " ++ arg)
    | _ => do
      let n ← count arg
      let s ← Action.get
      code := (s.jobs.lookup n).getD 127
  return code

/-- Goes on with a command that was stopped; there is none. -/
def resume : Builtin := fun args => do
  let (_, args) ← readFlags "" args
  match args with
  | arg :: _ => raise ("No such job: " ++ arg)
  | [] => raise "No current job"

/-- Shows the commands in the background; there is none that runs. -/
def showJobs : Builtin := fun args => do
  let (_, args) ← readFlags "lp" args
  match args with
  | arg :: _ => raise ("No such job: " ++ arg)
  | [] => return 0

/-- Shows the time that the script took, which is none. -/
def showTimes : Builtin := fun _ => do
  say "0m0.000000s 0m0.000000s\n0m0.000000s 0m0.000000s\n"
  return 0

/-- Shows the limit of resources, which there is not. -/
def showLimit : Builtin := fun _ => do
  say "unlimited\n"
  return 0

end CommandShell.Script
