import CommandShell.Program.Script.Lookup
import CommandShell.Program.Script.Redirect
import CommandShell.Program.Script.Signal

/-!
# Scripts: texts, subshells and programs

The parts of running a script that need a way to run commands.

* `Script.Runner`     : runs a command;
* `Script.runText`    : runs a text, line by line;
* `Script.inSubshell` : runs something that leaves variables as they are;
* `Script.outputOf`   : what a command writes;
* `Script.start`      : runs a program.
-/

namespace CommandShell.Script

/-- Runs a command, and leaves its exit code in the state. `tested` tells that something depends on
the exit code, so that a failure does not end the script. -/
abbrev Runner := (tested : Bool) → Command → Run Unit

/-! ## Texts -/

/-- How a text is run. -/
structure Source where
  tested : Bool := false
  /-- Lines are shown before they run, if the script asks for it. -/
  shown : Bool := false

/-- Shows the lines that were read. -/
def showLines (before after : Reader) : Run Unit := do
  let s ← Action.get
  if s.has 'v' then
    let text := before.rest.take (before.rest.length - after.rest.length)
    let _ ← write 2 (Narrow.toBytes (String.ofList text))
  else pure ()

/-- Runs the lines of a text; `code` is the exit code of the line before. -/
def runLines (run : Runner) (source : Source) : Nat → Reader → Nat → Run Nat
  | 0, _, code => return code
  | fuel + 1, r, code => do
    let s ← Action.get
    let r :=
      { r with aliases := s.aliases, documents := s.documents, nextIndex := s.nextDocument }
    match parseLine r with
    | (.error fault, r') => do
      if source.shown then showLines r r'
      Action.modify fun s => { s with line := r'.line }
      raise ("Syntax error: " ++ fault.message)
    | (.ok none, r') => do
      if source.shown then showLines r r'
      return code
    | (.ok (some c), r') => do
      if source.shown then showLines r r'
      Action.modify fun s =>
        { s with
          documents := r'.documents, nextDocument := r'.nextIndex, lineRead := r'.line }
      match c with
      | .nothing => runLines run source fuel r' code
      | c => do
        run source.tested c
        let s ← Action.get
        runLines run source fuel r' s.status

/-- Runs a text; gives the exit code of its last command. -/
def runText (run : Runner) (source : Source) (text : String) : Run Nat := do
  let before ← Action.get
  ensuring (runLines run source stepLimit { rest := text.toList } 0)
    (Action.modify fun s => { s with lineRead := before.lineRead })

/-! ## Traps -/

/-- Does what is to be done on signals that arrived, in their order. -/
def runTraps (run : Runner) : Nat → Run Unit
  | 0 => pure ()
  | fuel + 1 => do
    let s ← Action.get
    match s.arrived.mergeSort (· ≤ ·) with
    | [] => pure ()
    | signal :: rest => do
      Action.modify fun s => { s with arrived := rest }
      match s.traps.lookup signal with
      | none => pure ()
      | some text => do
        Action.modify fun s' => { s' with statusBefore := some s.status }
        let _ ← runText run {} text
        Action.modify fun s' => { s' with status := s.status, statusBefore := s.statusBefore }
      runTraps run fuel

/-- Does what is to be done at the end of a script. -/
def runEndTrap (run : Runner) : Run Unit := do
  let s ← Action.get
  match s.traps.lookup 0 with
  | none => pure ()
  | some text => do
    Action.modify fun s' =>
      { s' with traps := s.traps.filter (·.1 != 0), statusBefore := some s.status }
    let r ← attempt (runText run {} text)
    match r with
    | .error .exit | .error .error => pure ()
    | .error (.killed signal) => Action.fail (.killed signal)
    | _ => setStatus s.status

/-- Ends a script or a subshell after it ran: what is to be done at the end is done, and only a
signal goes on. -/
def conclude (run : Runner) (body : Run Unit) : Run Unit := do
  match ← attempt body with
  | .error (.killed signal) => Action.fail (.killed signal)
  | _ => do
    let _ ← flush
    runEndTrap run

/-! ## Subshells -/

/-- Runs something that leaves variables, streams and directories as they are; gives its exit
code. -/
def inSubshell (run : Runner) (body : Run Unit) : Run Nat := do
  let before ← Action.get
  Action.modify fun s =>
    { s with traps := s.traps.filter (·.2 = ""), arrived := [], jobs := [], statusBefore := none }
  let r ← attempt (conclude run body)
  let after ← Action.get
  Action.modify fun _ =>
    { before with
      tree := after.tree, handles := after.handles, log := after.log
      documents := after.documents, nextDocument := after.nextDocument }
  match r with
  | .error stop => Action.fail stop
  | .ok _ => return after.status % 256

/-- Connects a stream with a handle of its own; gives the index of the handle. -/
def attach (stream : Nat) (h : Handle) : Run Nat := do
  let s ← Action.get
  Action.modify (·.opened stream h)
  return s.handles.size

/-- What was collected in an open file. -/
def State.collected (s : State) (index : Nat) : Bytes :=
  match s.handles[index]? with
  | some (.sink parts) => parts.reverse.flatten
  | _ => []

/-- Runs something in a subshell and collects what it writes; gives that and the exit code. -/
def collect (run : Runner) (body : Run Unit) : Run (Bytes × Nat) := do
  let s ← Action.get
  let index := s.handles.size
  let code ← inSubshell run do
    let _ ← attach 1 (.sink [])
    body
  let s ← Action.get
  let bs := s.collected index
  Action.modify fun s => { s with handles := s.handles.setIfInBounds index .null }
  return (bs, code)

/-- A text without line ends at its end. -/
def dropLineEnds (bs : Bytes) : Bytes :=
  (bs.reverse.dropWhile (· == 10)).reverse

/-- What a command writes, without line ends at its end. -/
def outputOf (run : Runner) : OutputOf
  | .nothing => return ""
  | c => do
    let (bs, code) ← collect run (run false c)
    Action.modify fun s => { s with outputStatus := code }
    return Narrow.ofBytes (dropLineEnds (bs.filter (· != 0)))

/-! ## Programs -/

/-- What standard input is for a program. -/
def State.inputKind (s : State) : InputKind :=
  match s.handle? 0 with
  | none => .closed
  | some (.file place _ _) => .file place (contentAt s.tree place).length
  | some .folder => .directory
  | _ => .stream

/-- The file that standard output goes to. -/
def State.outputFile (s : State) : Option (Place × Nat) :=
  match s.handle? 1 with
  | some (.file place offset append) =>
    some (place, if append then (contentAt s.tree place).length else offset)
  | _ => none

/-- Writes what a program wrote. -/
def writeAll : List Write → Run Unit
  | [] => pure ()
  | .out bs :: rest => do
    let _ ← write 1 bs
    writeAll rest
  | .err bs :: rest => do
    let _ ← write 2 bs
    writeAll rest

/-- Why a program cannot be started, and the exit code that tells it. -/
def startFault : OsError → Nat × String
  | .notFound => (127, startReason .notFound)
  | .notDirectory => (127, startReason .notDirectory)
  | .nameTooLong => (127, startReason .nameTooLong)
  | e => (126, startReason e)

/-- Runs the program at a path. -/
def start (tools : Toolbox) (path name : String) (args : List String) :
    Run (Except (Nat × String) Status) := do
  let s ← Action.get
  match s.tree.stat s.cwd (Narrow.toBytes path) with
  | .error e => return .error (startFault e)
  | .ok (_, .program program) =>
    match tools program with
    | none => return .error (127, "not found")
    | some program => do
      let c := program
        { name := Narrow.toText name, args := args.map Narrow.toText, env := s.environment
          cwd := s.cwd, tree := s.tree, input := ((s.handle? 0).map s.available).getD []
          inputKind := s.inputKind, outputFile := s.outputFile }
      Action.modify fun s => { s with tree := c.tree }.leave 0 c.unread
      writeAll c.writes
      return .ok c.status
  | .ok _ => return .error (126, "Permission denied")

/-- Runs the program at a path, and tells what went wrong. -/
def runProgram (tools : Toolbox) (path name : String) (args : List String) : Run Unit := do
  match ← start tools path name args with
  | .ok (.exited code) => setStatus (code % 256)
  | .ok (.killed signal) => do
    let text := signalText signal
    if text ≠ "" then
      let _ ← write 2 (Narrow.toBytes (text ++ "\n"))
    setStatus (128 + signal)
  | .error (code, reason) => do
    warn (name ++ ": " ++ reason)
    setStatus code

end CommandShell.Script
