import CommandShell.Program.Message
import CommandShell.Program.Script.Basic

/-!
# Scripts: the state of a run

* `Script.State`  : variables, streams and the machine of a running script;
* `Script.Stop`   : why a step does not go on;
* `Script.Run`    : steps of a running script;
* `Script.write`, `Script.warn`, `Script.raise` : what such steps write.

All texts are narrow.
-/

namespace CommandShell.Script

/-- A variable. -/
structure Variable where
  /-- Its value; a variable may have marks and no value. -/
  value : Option String
  /-- Programs get to see it. -/
  exported : Bool := false
  /-- It cannot be changed. -/
  fixed : Bool := false
  deriving DecidableEq, Repr

/-- An open file. -/
inductive Handle where
  /-- The standard output and the standard error of the script itself. -/
  | output
  | errors
  /-- A stream to read from. -/
  | source (rest : Bytes)
  /-- Collects what is written, last part first. -/
  | sink (parts : List Bytes)
  | file (place : Place) (offset : Nat) (append : Bool)
  | null
  | folder
  deriving DecidableEq, Repr

/-- The state of a running script. -/
structure State where
  vars : List (String × Variable)
  functions : List (String × Command)
  aliases : List (String × String)
  /-- The name of the script. -/
  name : String
  /-- Its arguments. -/
  args : List String
  /-- The options that are on, by letter. -/
  options : List Char
  tree : FileTree
  cwd : Place
  /-- The working directory as it is shown. -/
  directory : String
  /-- The open files. -/
  handles : Array Handle
  /-- Streams and the open files that they are. -/
  streams : List (Nat × Nat)
  /-- What was written to standard output and standard error, last part first. -/
  log : List Write
  /-- The exit code of the last command. -/
  status : Nat
  /-- The exit code of the last output that was replaced. -/
  outputStatus : Nat
  /-- The exit code before the trap that runs. -/
  statusBefore : Option Nat
  /-- The line of the command that runs. -/
  line : Nat
  /-- The line up to which the script is read. -/
  lineRead : Nat
  /-- The built-in command that runs. -/
  running : Option String
  /-- The number of loops around the command that runs. -/
  loops : Nat
  /-- The number of functions around the command that runs. -/
  calls : Nat
  /-- The variables that functions have hidden, innermost first. -/
  hidden : List (List (String × Option Variable))
  /-- What is done on signals; an empty text ignores them. Signal 0 is the end of the script. -/
  traps : List (Nat × String)
  /-- Signals that arrived and that something is done on. -/
  arrived : List Nat
  /-- The number of the last command in the background. -/
  lastJob : Option Nat
  /-- Commands in the background that ended, with their exit codes. -/
  jobs : List (Nat × Nat)
  /-- The texts of the script that redirections read. -/
  documents : List (Nat × Word)
  nextDocument : Nat
  /-- The argument that options are read from next, counted from one, and how far the one before it
  is read. -/
  optionIndex : Nat
  optionOffset : Option Nat
  /-- What a built-in command writes when it ends, last part first. -/
  unwritten : List String
  /-- Programs that were found, and where. -/
  found : List (String × String)
  umask : Nat

/-- Why a step does not go on. -/
inductive Stop where
  /-- The script ends. -/
  | exit
  /-- Something went wrong that a script does not go on after. -/
  | error
  /-- A signal ends the script. -/
  | killed (signal : Nat)
  /-- Loops are left. -/
  | leaves (loops : Nat)
  /-- A loop goes on with its next round, after others were left. -/
  | continues (loops : Nat)
  /-- A function ends. -/
  | returns
  deriving DecidableEq, Repr

/-- Steps of a running script. -/
abbrev Run (α : Type) := Action State Stop α

/-- Runs a step, and gives why it did not go on. -/
def attempt {α : Type} (step : Run α) : Run (Except Stop α) := fun s =>
  match step s with
  | (r, s') => (.ok r, s')

/-- Runs a step and then another one, even if the first does not go on. -/
def ensuring {α : Type} (step : Run α) (after : Run Unit) : Run α := do
  let r ← attempt step
  after
  Action.lift r

/-- The number that `$$` stands for. -/
def scriptNumber : Nat := 4242

/-- Whether an option is on. -/
def State.has (s : State) (letter : Char) : Bool := s.options.contains letter

/-! ## Variables -/

/-- The value of a variable. -/
def State.get? (s : State) (name : String) : Option String :=
  (s.vars.lookup name).bind (·.value)

/-- Replaces a variable. -/
def putVariable (name : String) (v : Variable) :
    List (String × Variable) → List (String × Variable)
  | [] => [(name, v)]
  | (n, w) :: rest => if n = name then (name, v) :: rest else (n, w) :: putVariable name v rest

/-- The environment that programs get to see. -/
def State.environment (s : State) : Environment :=
  s.vars.filterMap fun (name, v) =>
    if v.exported then v.value.map fun value => (Narrow.toText name, Narrow.toText value) else none

/-! ## Streams -/

/-- The open file that a stream is. -/
def State.handle? (s : State) (stream : Nat) : Option Handle :=
  (s.streams.lookup stream).bind fun i => s.handles[i]?

/-- Connects a stream with an open file. -/
def setStream (stream index : Nat) : List (Nat × Nat) → List (Nat × Nat)
  | [] => [(stream, index)]
  | (n, i) :: rest =>
    if n = stream then (stream, index) :: rest else (n, i) :: setStream stream index rest

/-- Opens a file as a stream. -/
def State.opened (s : State) (stream : Nat) (h : Handle) : State :=
  { s with handles := s.handles.push h, streams := setStream stream s.handles.size s.streams }

/-- Closes a stream. -/
def State.closed (s : State) (stream : Nat) : State :=
  { s with streams := s.streams.filter (·.1 != stream) }

/-- The content of a file. -/
def contentAt (tree : FileTree) (p : Place) : Bytes :=
  match tree.get? p with
  | some (.file content) | some (.writeOnly content) => content
  | _ => []

/-- Content with bytes written at a position; a gap before them is filled with zeros. -/
def overwrite (content : Bytes) (offset : Nat) (bs : Bytes) : Bytes :=
  content.take offset ++ List.replicate (offset - content.length) 0 ++ bs ++
    content.drop (offset + bs.length)

/-- Writes to an open file. -/
def State.writeTo (s : State) (index : Nat) (bs : Bytes) : State :=
  match s.handles[index]? with
  | some .output => { s with log := .out bs :: s.log }
  | some .errors => { s with log := .err bs :: s.log }
  | some (.sink parts) => { s with handles := s.handles.setIfInBounds index (.sink (bs :: parts)) }
  | some (.file place offset append) =>
    let content := contentAt s.tree place
    let start := if append then content.length else offset
    { s with
      tree := s.tree.putFile place (overwrite content start bs)
      handles := s.handles.setIfInBounds index (.file place (start + bs.length) append) }
  | _ => s

/-- Writes to a stream; tells whether it could be written. -/
def write (stream : Nat) (bs : Bytes) : Run Bool := do
  let s ← Action.get
  match s.streams.lookup stream with
  | none => return false
  | some index =>
    if bs ≠ [] then Action.modify fun s => s.writeTo index bs
    return true

/-- What can be read from an open file. -/
def State.available (s : State) : Handle → Bytes
  | .source rest => rest
  | .file place offset _ => (contentAt s.tree place).drop offset
  | _ => []

/-- Keeps what is left to read from a stream after some of it was read. -/
def State.leave (s : State) (stream : Nat) (rest : Bytes) : State :=
  match s.streams.lookup stream with
  | none => s
  | some index =>
    match s.handles[index]? with
    | some (.source _) => { s with handles := s.handles.setIfInBounds index (.source rest) }
    | some (.file place offset append) =>
      let size := (contentAt s.tree place).length
      { s with
        handles := s.handles.setIfInBounds index
          (.file place (max offset (size - rest.length)) append) }
    | _ => s

/-! ## Messages -/

/-- Sets the exit code. -/
def setStatus (code : Nat) : Run Unit := Action.modify fun s => { s with status := code }

/-- A message with the place it comes from. -/
def warn (message : String) : Run Unit := do
  let s ← Action.get
  let place := s.name ++ ": " ++ toString s.line ++ ": " ++
    (s.running.map (· ++ ": ")).getD ""
  let _ ← write 2 (Narrow.toBytes (place ++ message ++ "\n"))

/-- A message, and the exit code 2. -/
def raise {α : Type} (message : String) : Run α := do
  warn message
  setStatus 2
  Action.fail .error

/-- Writes a text when the built-in command ends. -/
def say (text : String) : Run Unit :=
  Action.modify fun s => { s with unwritten := text :: s.unwritten }

/-- Writes what is waiting; tells whether it could be written. -/
def flush : Run Bool := do
  let s ← Action.get
  match s.unwritten with
  | [] => return true
  | parts => do
    Action.modify fun s => { s with unwritten := [] }
    let bs := parts.reverse.flatMap Narrow.toBytes
    if bs.isEmpty then return true else write 1 bs

/-! ## Assignments -/

/-- The number that a text of digits stands for; other texts stand for zero. -/
def numeral (s : String) : Nat :=
  (s.toList.takeWhile Char.isDigit).foldl (fun n c => n * 10 + (c.toNat - 48)) 0

/-- What follows from a new value of a variable: options are read from another argument, or programs
are looked for elsewhere. -/
def State.follow (s : State) (name : String) : State :=
  if name = "OPTIND" then
    { s with optionIndex := max 1 (numeral ((s.get? name).getD "")), optionOffset := none }
  else if name = "PATH" then { s with found := [] }
  else s

/-- Gives a variable a value and perhaps more marks. -/
def State.put (s : State) (name : String) (value : Option String) (change : Variable → Variable) :
    State :=
  let v := (s.vars.lookup name).getD ⟨none, s.has 'a', false⟩
  let v := match value with
    | some text => { v with value := some text }
    | none => v
  { s with vars := putVariable name (change v) s.vars }.follow name

/-- Gives a variable a value and perhaps more marks, if it can be changed. -/
def assignWith (change : Variable → Variable) (name value : String) : Run Unit := do
  let s ← Action.get
  if (s.vars.lookup name).any (·.fixed) then raise (name ++ ": is read only")
  else
    Action.modify fun s => s.put name (some value) change
    if name = "OPTIND" ∧ (value = "" ∨ !value.toList.all Char.isDigit) then
      raise ("Illegal number: " ++ value)
    else pure ()

/-- Gives a variable a value. -/
def assign (name value : String) : Run Unit := assignWith id name value

/-- Changes the marks of a variable. -/
def markVariable (change : Variable → Variable) (name : String) : Run Unit :=
  Action.modify fun s => s.put name none change

/-- Gives a variable a value, if it has the name of one. -/
def assignNamed (name value : String) : Run Unit :=
  if isName name then assign name value else raise (name ++ ": bad variable name")

/-- Takes a variable away. -/
def unassign (name : String) : Run Unit := do
  let s ← Action.get
  match s.vars.lookup name with
  | some v =>
    if v.fixed then raise (name ++ ": is read only")
    else Action.modify fun s => { s with vars := s.vars.filter (·.1 != name) }.follow name
  | none => pure ()

end CommandShell.Script
