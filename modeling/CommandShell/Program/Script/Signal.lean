import CommandShell.Program.Script.State

/-!
# Scripts: signals

* `Script.signalNumber?` : the signal that a text names;
* `Script.signalName`    : the name of a signal;
* `Script.deliver`       : what the script does when it gets a signal.
-/

namespace CommandShell.Script

/-- The names of the signals from 1 to 31; a number stands for one without a name. -/
def namedSignals : List String :=
  ["HUP", "INT", "QUIT", "ILL", "TRAP", "ABRT", "BUS", "FPE", "KILL", "USR1", "SEGV", "USR2",
    "PIPE", "ALRM", "TERM", "16", "CHLD", "CONT", "STOP", "TSTP", "TTIN", "TTOU", "URG", "XCPU",
    "XFSZ", "VTALRM", "PROF", "WINCH", "IO", "PWR", "SYS"]

/-- The name of a signal that counts up from the first of its kind or down from the last. -/
def realTimeName (signal : Nat) : String :=
  if signal = 34 then "RTMIN"
  else if signal = 64 then "RTMAX"
  else if signal < 50 then "RTMIN+" ++ toString (signal - 34)
  else "RTMAX-" ++ toString (64 - signal)

/-- The name of a signal. -/
def signalName (signal : Nat) : String :=
  if signal = 0 then "EXIT"
  else if signal ≤ 31 then (namedSignals[signal - 1]?).getD ""
  else if signal < 34 then toString signal
  else realTimeName signal

/-- The number after the last signal. -/
def signalLimit : Nat := 65

/-- The signal that a number is. -/
def numberedSignal? (text : String) : Option Nat :=
  if text ≠ "" ∧ text.toList.all Char.isDigit ∧ numeral text < signalLimit then some (numeral text)
  else none

/-- The signal that a text names, by its number or its name, from the signal `least` on. -/
def signalNumber? (least : Nat) (text : String) : Option Nat :=
  match numberedSignal? text with
  | some n => some n
  | none =>
    let name := text.toList.map Char.toUpper
    (List.range signalLimit).find? fun n => least ≤ n && (signalName n).toList = name

/-- Signals that do nothing by themselves. -/
def isHarmless (signal : Nat) : Bool :=
  signal == 0 || signal == 17 || signal == 18 || signal == 23 || signal == 28 ||
    (19 ≤ signal && signal ≤ 22)

/-- What the shell tells of a command that a signal ended. -/
def signalText (signal : Nat) : String :=
  match signal with
  | 1 => "Hangup"
  | 2 => ""
  | 3 => "Quit"
  | 4 => "Illegal instruction"
  | 5 => "Trace/breakpoint trap"
  | 6 => "Aborted"
  | 7 => "Bus error"
  | 8 => "Floating point exception"
  | 9 => "Killed"
  | 10 => "User defined signal 1"
  | 11 => "Segmentation fault"
  | 12 => "User defined signal 2"
  | 13 => ""
  | 14 => "Alarm clock"
  | 15 => "Terminated"
  | 16 => "Stack fault"
  | 24 => "CPU time limit exceeded"
  | 25 => "File size limit exceeded"
  | 26 => "Virtual timer expired"
  | 27 => "Profiling timer expired"
  | 29 => "I/O possible"
  | 30 => "Power failure"
  | 31 => "Bad system call"
  | n => "Real-time signal " ++ toString (n - 34)

/-- The script gets a signal. One that cannot be caught ends it; else it may be ignored or be kept
until the next command. -/
def deliver (signal : Nat) : Run Unit := do
  let s ← Action.get
  let ends := if isHarmless signal then pure () else (Action.fail (.killed signal) : Run Unit)
  if signal = 9 then ends
  else
    match if signal = 0 then none else s.traps.lookup signal with
    | some "" => pure ()
    | some _ => Action.modify fun s => { s with arrived := s.arrived ++ [signal] }
    | none => ends

end CommandShell.Script
