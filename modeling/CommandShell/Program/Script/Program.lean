import CommandShell.Program.Script.Run

/-!
# Scripts: the program

* `Script.program` : the program that runs scripts.
-/

namespace CommandShell.Script

/-! ## The state at the start -/

/-- The variables that a script begins with. -/
def initialVariables (env : Environment) : List (String × Variable) :=
  let given := env.filterMap fun (name, value) =>
    let name := Narrow.ofText name
    if isName name then some (name, (⟨some (Narrow.ofText value), true, false⟩ : Variable))
    else none
  let given := given.foldl (fun vars (name, v) => putVariable name v vars) []
  let ensure := fun (name value : String) (vars : List (String × Variable)) =>
    if (vars.lookup name).isSome then vars else vars ++ [(name, ⟨some value, false, false⟩)]
  let set := fun (name value : String) (vars : List (String × Variable)) =>
    let v := (vars.lookup name).getD ⟨none, false, false⟩
    putVariable name { v with value := some value } vars
  let vars := ensure "PATH" standardPath given
  let vars := ensure "PS1" "# " (ensure "PS2" "> " (ensure "PS4" "+ " vars))
  set "IFS" " \t\n" (set "OPTIND" "1" (set "PPID" (toString (scriptNumber - 1)) vars))

/-- What standard input is at the start. -/
def inputHandle (i : Invocation) : Option Handle :=
  match i.inputKind with
  | .closed => none
  | .directory => some .folder
  | .file place size => some (.file place (size - i.input.length) false)
  | .stream => some (.source i.input)

/-- The state at the start of a script. -/
def initialState (i : Invocation) : State where
  vars := initialVariables i.env
  functions := []
  aliases := []
  name := Narrow.ofText i.name
  args := []
  options := []
  tree := i.tree
  cwd := i.cwd
  directory := placeName i.cwd
  handles := #[(inputHandle i).getD .null, .output, .errors]
  streams := (if (inputHandle i).isSome then [(0, 0)] else []) ++ [(1, 1), (2, 2)]
  log := []
  status := 0
  outputStatus := 0
  statusBefore := none
  line := 0
  lineRead := 1
  running := none
  loops := 0
  calls := 0
  hidden := []
  traps := []
  arrived := []
  lastJob := none
  jobs := []
  documents := []
  nextDocument := 0
  optionIndex := 1
  optionOffset := none
  unwritten := []
  found := []
  umask := 18

/-- Takes the name of the working directory from the environment, if it is one. -/
def findDirectory : Run Unit := Action.modify fun s =>
  let named := match s.get? "PWD" with
    | some path =>
      if path.toList.head? = some '/' ∧ s.entryAt? path = some (s.cwd, Entry.directory) then
        some path
      else none
    | none => none
  let directory := named.getD s.directory
  { s with directory := directory }.put "PWD" (some directory) fun v => { v with exported := true }

/-! ## Options -/

/-- What the options of the program ask for. -/
structure Demand where
  /-- The first argument is a script. -/
  isText : Bool := false
  args : List String

/-- Reads the letters of an argument with options. -/
def readStartLetters (on : Bool) (d : Demand) : List Char → Run Demand
  | [] => return d
  | 'c' :: rest => readStartLetters on { d with isText := true } rest
  | 'l' :: rest => readStartLetters on d rest
  | 'o' :: rest =>
    match d.args with
    | name :: args => do
      switchNamed name on
      readStartLetters on { d with args := args } rest
    | [] => do
      showOptions on
      readStartLetters on d rest
  | c :: rest => do
    switch c on
    readStartLetters on d rest

/-- Reads the options of the program. -/
def readStart : Nat → Demand → Run Demand
  | 0, d => return d
  | fuel + 1, d =>
    match d.args with
    | [] => return d
    | arg :: rest =>
      match arg.toList with
      | ['-'] => return { d with args := rest }
      | ['-', '-'] => return { d with args := rest }
      | '-' :: cs => do
        let d ← readStartLetters true { d with args := rest } cs
        readStart fuel d
      | '+' :: cs => do
        let d ← readStartLetters false { d with args := rest } cs
        readStart fuel d
      | _ => return d

/-! ## The program -/

/-- Runs what standard input holds. -/
def runInput (run : Runner) : Run Unit := do
  let s ← Action.get
  let input := ((s.handle? 0).map s.available).getD []
  Action.modify fun s => s.leave 0 []
  let code ← runText run { shown := true } (Narrow.ofBytes input)
  setStatus code

/-- Runs the script that the arguments ask for. -/
def runScript (run : Runner) (args : List String) : Run Unit := do
  findDirectory
  let d ← readStart (args.length + 1) { args := args }
  let _ ← flush
  let s ← Action.get
  match d.isText, d.args with
  | true, [] => raise "-c requires an argument"
  | true, text :: rest => do
    Action.modify fun s => { s with name := rest.head?.getD s.name, args := rest.tail }
    let code ← runText run {} text
    setStatus code
    if s.has 's' then runInput run else pure ()
  | false, [] => runInput run
  | false, path :: rest =>
    if s.has 's' then do
      Action.modify fun s => { s with args := path :: rest }
      runInput run
    else do
      let text ← scriptText path
      Action.modify fun s => { s with name := path, args := rest }
      let code ← runText run { shown := true } text
      setStatus code

/-- What is left to read of standard input. -/
def State.unread (s : State) : Bytes :=
  (s.handles[0]?.map s.available).getD []

/-- The program that runs scripts, which may use other programs. -/
def program (tools : Toolbox) : Program := fun i =>
  let runner := run tools stepLimit
  match conclude runner (runScript runner (i.args.map Narrow.ofText)) (initialState i) with
  | (r, s) =>
    let status : Status := match r with
      | .error (.killed signal) => .killed signal
      | _ => .exited (s.status % 256)
    ⟨s.log.reverse, status, s.tree, s.unread⟩

end CommandShell.Script
