import CommandShell.Program.Script.Builtin.Directory
import CommandShell.Program.Script.Builtin.Names
import CommandShell.Program.Script.Builtin.Signals
import CommandShell.Program.Script.Engine
import CommandShell.Program.Script.Print
import CommandShell.Program.Script.Test

/-!
# Scripts: running

* `Script.builtin?`  : the built-in commands by name;
* `Script.runSimple` : simple commands;
* `Script.run`       : commands.
-/

namespace CommandShell.Script

/-! ## Built-in commands that control the script -/

/-- Ends the script. -/
def exitScript : Builtin := fun args => do
  let s ← Action.get
  let code ← match args with
    | arg :: _ => count arg
    | [] => pure (s.statusBefore.getD s.status)
  setStatus code
  Action.fail .exit

/-- Ends a function. -/
def returnFrom : Builtin := fun args => do
  let s ← Action.get
  let code ← match args with
    | arg :: _ => count arg
    | [] => pure s.status
  setStatus code
  Action.fail .returns

/-- Leaves loops; `stop` tells how. -/
def leaveLoops (stop : Nat → Stop) : Builtin := fun args => do
  let n ← match args with
    | arg :: _ => do
      let n ← count arg
      if n = 0 then raise ("Illegal number: " ++ arg) else pure n
    | [] => pure 1
  let s ← Action.get
  if s.loops = 0 then return 0
  else
    setStatus 0
    Action.fail (stop (min n s.loops))

/-- Runs its arguments as a text. -/
def evaluate (run : Runner) (tested : Bool) : Builtin := fun args =>
  runText run { tested := tested } (Text.join " " args)

/-- The file of a script to run in place: one in the directories of `PATH`, unless the name is a
path. -/
def findScript (name : String) : Run String := do
  if name.toList.contains '/' then return name
  else
    let s ← Action.get
    let paths := (Text.split ":" s.searchPath).map fun dir =>
      if dir = "" then name else dir ++ "/" ++ name
    match paths.find? fun path => s.tree.isFile s.cwd (Narrow.toBytes path) with
    | some path => return path
    | none => raise (name ++ ": not found")

/-- The text of a script. -/
def scriptText (path : String) : Run String := do
  let s ← Action.get
  match s.tree.stat s.cwd (Narrow.toBytes path) with
  | .ok (_, .writeOnly _) | .ok (_, .closed) =>
    raise ("cannot open " ++ path ++ ": " ++ openReason .permissionDenied)
  | .ok (place, _) => return Narrow.ofBytes (contentAt s.tree place)
  | .error e => raise ("cannot open " ++ path ++ ": " ++ openReason e)

/-- Runs a script in place. -/
def source (run : Runner) : Builtin := fun args => do
  let (_, args) ← readFlags "" args
  match args with
  | [] => return 0
  | name :: _ => do
    let path ← findScript name
    let text ← scriptText path
    Action.modify fun s => { s with running := some path }
    match ← attempt (runText run { shown := true } text) with
    | .ok code => return code
    | .error .returns => do
      let s ← Action.get
      return s.status
    | .error stop => Action.fail stop

/-- Goes on as a program: the script ends with it. -/
def become (tools : Toolbox) : Builtin := fun args => do
  match args with
  | [] => return 0
  | name :: rest => do
    let s ← Action.get
    let target := if name.toList.contains '/' then Target.program name
      else searchFrom s name "not found" (Text.split ":" s.searchPath)
    let r ← match target with
      | .program path => start tools path name rest
      | .missing reason =>
        pure (.error (if reason = "Permission denied" then 126 else 127, reason))
      | _ => pure (.error (127, "not found"))
    match r with
    | .ok (.exited code) => do
      Action.modify fun s => { s with traps := [], status := code % 256 }
      Action.fail .exit
    | .ok (.killed signal) => Action.fail (.killed signal)
    | .error (code, reason) => do
      warn (name ++ ": " ++ reason)
      setStatus code
      Action.fail .exit

/-- Tells whether a condition holds. -/
def test : Builtin := fun args => do
  return if ← testCondition (args.length + 1) args then 0 else 1

/-- The same, with a closing bracket behind the condition. -/
def bracket : Builtin := fun args =>
  match args.getLast? with
  | some last =>
    if last.toList.head? = some ']' then test args.dropLast else raise "missing ]"
  | none => raise "missing ]"

/-- The built-in commands by name. -/
def builtin? (tools : Toolbox) (run : Runner) (tested : Bool) (name : String) : Option Builtin :=
  match name with
  | "." => some (source run)
  | ":" | "true" => some fun _ => return 0
  | "false" => some fun _ => return 1
  | "[" => some bracket
  | "alias" => some makeAlias
  | "bg" | "fg" => some resume
  | "break" => some (leaveLoops .leaves)
  | "cd" | "chdir" => some changeDirectory
  | "command" => some describeOne
  | "continue" => some (leaveLoops .continues)
  | "echo" => some echo
  | "eval" => some (evaluate run tested)
  | "exec" => some (become tools)
  | "exit" => some exitScript
  | "export" => some exportNames
  | "getopts" => some getOptions
  | "hash" => some showPrograms
  | "jobs" => some showJobs
  | "kill" => some sendSignal
  | "local" => some makeLocal
  | "printf" => some printFormat
  | "pwd" => some showDirectory
  | "read" => some readLine
  | "readonly" => some fixNames
  | "return" => some returnFrom
  | "set" => some setOptions
  | "shift" => some shift
  | "test" => some test
  | "times" => some showTimes
  | "trap" => some setTrap
  | "type" => some describeAll
  | "ulimit" => some showLimit
  | "umask" => some showMask
  | "unalias" => some dropAlias
  | "unset" => some unset
  | "wait" => some waitFor
  | _ => none

/-- Runs a built-in command. An error in a special one ends the script. -/
def runBuiltin (command : Builtin) (special : Bool) (name : String) (args : List String) :
    Run Unit := do
  let before ← Action.get
  Action.modify fun s => { s with running := some name }
  let r ← attempt (command args)
  let written ← flush
  match r with
  | .ok code =>
    if written then setStatus code
    else
      warn (name ++ ": I/O error")
      setStatus (code ||| 1)
  | .error _ => pure ()
  Action.modify fun s => { s with running := before.running }
  match r with
  | .ok _ => pure ()
  | .error .error => if special then Action.fail .error else pure ()
  | .error stop => Action.fail stop

/-! ## Simple commands -/

/-- What is known of a simple command while its words are replaced. -/
structure Plan where
  /-- All words so far. -/
  shown : List String
  /-- The words from the name of the command on. -/
  words : List String
  /-- Words that are not replaced yet. -/
  rest : List Word
  target : Target := .builtin
  /-- The command is a special built-in command, if it is a built-in one. -/
  special : Option Bool := none
  /-- Words that assign are not divided. -/
  assigns : Bool := false
  /-- Functions count. -/
  functions : Bool := true
  /-- The directories that a program is looked for in. -/
  path : Option String := none

/-- Replaces words until there is something. -/
def fillWords (out : OutputOf) : List Word → Run (List String × List Word)
  | [] => return ([], [])
  | w :: rest => do
    match ← expandFields out w with
    | [] => fillWords out rest
    | fields => return (fields, rest)

/-- Whether a word holds the options of `command` that do not ask for a description. -/
def isSearchOption (word : String) : Bool :=
  match word.toList with
  | '-' :: c :: cs => (c :: cs).all (· == 'p')
  | _ => false

/-- Drops `command` and its options from a plan; tells whether a command follows that is to be
run. -/
def skipCommand (out : OutputOf) : Nat → Plan → Run (Plan × Bool)
  | 0, p => return (p, false)
  | fuel + 1, p => do
    let p ← match p.words.tail with
      | [] => do
        let (fields, rest) ← fillWords out p.rest
        pure { p with shown := p.shown ++ fields, words := p.words ++ fields, rest := rest }
      | _ => pure p
    match p.words.tail with
    | [] => return (p, false)
    | word :: later =>
      if word = "--" then
        if later.isEmpty then
          let (fields, rest) ← fillWords out p.rest
          return ({ p with shown := p.shown ++ fields, words := fields, rest := rest },
            !fields.isEmpty)
        else return ({ p with words := later }, true)
      else if isSearchOption word then
        skipCommand out fuel { p with words := p.words.tail, path := some standardPath }
      else if word.toList.head? = some '-' ∧ word.length > 1 then return (p, false)
      else return ({ p with words := p.words.tail }, true)

/-- Built-in commands whose words may assign. -/
def assigningNames : List String := ["alias", "export", "local", "readonly"]

/-- Finds the command of a plan. -/
def resolve (out : OutputOf) : Nat → Plan → Run Plan
  | 0, p => return p
  | fuel + 1, p => do
    let name := p.words.head?.getD ""
    let target ← find p.functions none name
    let p := { p with target := target }
    match target with
    | .builtin => do
      let p :=
        { p with
          special := some (p.special.getD (specialNames.contains name))
          assigns := assigningNames.contains name }
      if name = "command" then
        let before := p.shown.length - p.words.length
        let (p, goesOn) ← skipCommand out stepLimit p
        if goesOn then resolve out fuel { p with functions := false }
        else return { p with words := p.shown.drop before }
      else return p
    | _ => return { p with assigns := false }

/-- Replaces the words that are left. -/
def expandRest (out : OutputOf) (assigns : Bool) : List Word → Run (List String)
  | [] => return []
  | w :: rest => do
    let fields ← if assigns && isAssignment w then do
        let (name, value) ← expandAssignment out w
        pure [name ++ "=" ++ value]
      else expandFields out w
    return fields ++ (← expandRest out assigns rest)

/-- Assigns what stands before a command; gives the words that are shown for it. -/
def assignAll (out : OutputOf) (isLocal exported : Bool) : List Word → Run (List String)
  | [] => return []
  | w :: rest => do
    let (name, value) ← expandAssignment out w
    let change := fun (v : Variable) => { v with exported := v.exported || isLocal || exported }
    if isLocal then makeLocalOne change (name ++ "=" ++ value) else assignWith change name value
    return (name ++ "=" ++ value) :: (← assignAll out isLocal exported rest)

/-- A prompt as a word in quotes. -/
def parsePrompt (s : State) (text : List Char) : Option Word :=
  let doc : Pending := ⟨0, ['\x00'], false, false⟩
  match readDocument (readList stepLimit .optional) doc { rest := text, aliases := s.aliases } with
  | (.ok _, r) => r.documents.lookup 0
  | _ => none

/-- Shows a command before it runs, on the stream that errors went to before its redirections. -/
def trace (out : OutputOf) (stream : Option Nat) (words : List String) : Run Unit := do
  let s ← Action.get
  if s.has 'x' then
    let text := ((s.get? "PS4").getD "").toList
    let lead ← match parsePrompt s text with
      | some w => do
        Action.modify fun s => { s with options := s.options.filter (· != 'x') }
        let lead ← expandQuoted out w
        Action.modify fun s' => { s' with options := s.options }
        pure lead
      | none => pure (String.ofList text)
    match stream with
    | some index =>
      Action.modify fun s =>
        s.writeTo index (Narrow.toBytes (lead ++ Text.join " " words ++ "\n"))
    | none => pure ()
  else pure ()

/-- The largest number of functions inside of one another. -/
def maxCalls : Nat := 1000

/-- Runs a function with its own arguments. -/
def callFunction (run : Runner) (tested : Bool) (body : Command) (args : List String) :
    Run Unit := do
  let before ← Action.get
  if before.calls ≥ maxCalls then
    raise ("Maximum function recursion depth (" ++ toString maxCalls ++ ") reached")
  else
    Action.modify fun s =>
      { s with
        args := args, loops := 0, calls := s.calls + 1, optionIndex := 1, optionOffset := none }
    let r ← attempt (run tested body)
    Action.modify fun s =>
      { s with
        args := before.args, loops := before.loops, calls := before.calls
        optionIndex := before.optionIndex, optionOffset := before.optionOffset }
    match r with
    | .error .returns => pure ()
    | r => Action.lift r

/-- Runs a command whose words are replaced. -/
def execute (tools : Toolbox) (run : Runner) (tested : Bool) (p : Plan) : Run Unit := do
  match p.words with
  | [] => do
    let s ← Action.get
    setStatus s.outputStatus
  | name :: args => do
    let target ← match p.target with
      | .builtin => pure .builtin
      | _ => find p.functions p.path name
    match target with
    | .builtin =>
      match builtin? tools run tested name with
      | some command => runBuiltin command (p.special.getD false) name args
      | none => setStatus 127
    | .function body => callFunction run tested body args
    | .program path => runProgram tools path name args
    | .missing reason => do
      warn (name ++ ": " ++ reason)
      setStatus 127

/-- Runs a simple command. -/
def runSimple (tools : Toolbox) (run : Runner) (tested : Bool) (line : Nat)
    (assignments words : List Word) (redirects : List Redirect) : Run Unit := do
  let out := outputOf run
  Action.modify fun s => { s with line := line, outputStatus := 0 }
  let (fields, rest) ← fillWords out words
  let p ← if fields.isEmpty then pure ⟨[], [], [], .builtin, none, false, true, none⟩
    else resolve out stepLimit { shown := fields, words := fields, rest := rest }
  let more ← expandRest out p.assigns p.rest
  let p := { p with shown := p.shown ++ more, words := p.words ++ more }
  let isExec := p.words.head? == some "exec"
  let isLocal := match p.words, p.special with
    | [], _ => false
    | _, some special => !special
    | _, none => true
  let channels ← channelsOf out redirects
  let before ← Action.get
  if isLocal then Action.modify fun s => { s with hidden := [] :: s.hidden }
  ensuring
    (do
      match ← attempt (redirect out true channels) with
      | .error .error => do
        setStatus 2
        if p.special = some true then Action.fail .error else pure ()
      | .error stop => Action.fail stop
      | .ok _ => do
        let shown ← assignAll out isLocal (isExec && p.words.length > 1) assignments
        trace out (before.streams.lookup 2) (shown ++ p.shown)
        execute tools run tested p)
    (do
      if !isExec then Action.modify fun s => s.restore before channels
      if isLocal then unhide)

/-! ## Compound commands -/

/-- Ends the script after a failure, if it asks for that. -/
def checkFailure (tested : Bool) : Run Unit := do
  let s ← Action.get
  if s.has 'e' && !tested && s.status ≠ 0 then Action.fail .exit else pure ()

/-- What a loop does after one of its parts: whether it goes on, or why it does not. -/
inductive Round where
  | done
  | again
  | left
  deriving DecidableEq, Repr

/-- Runs a part of a loop. -/
def runRound (part : Run Unit) : Run Round := do
  match ← attempt part with
  | .ok _ => return .done
  | .error (.leaves n) => if n ≤ 1 then return .left else Action.fail (.leaves (n - 1))
  | .error (.continues n) => if n ≤ 1 then return .again else Action.fail (.continues (n - 1))
  | .error stop => Action.fail stop

/-- Runs a loop; `code` is the exit code of its last round. -/
def runLoop (run : Runner) (tested inverted : Bool) (test body : Command) : Nat → Nat → Run Unit
  | 0, _ => Action.fail .exit
  | fuel + 1, code => do
    match ← runRound (run true test) with
    | .left => setStatus code
    | .again => runLoop run tested inverted test body fuel code
    | .done => do
      let s ← Action.get
      if (s.status == 0) == inverted then setStatus code
      else
        let round ← runRound (run tested body)
        let s ← Action.get
        if round = .left then pure ()
        else runLoop run tested inverted test body fuel s.status

/-- Runs a loop over words. -/
def runEach (run : Runner) (tested : Bool) (name : String) (body : Command) :
    List String → Run Unit
  | [] => pure ()
  | word :: rest => do
    assign name word
    let round ← runRound (run tested body)
    if round = .left then pure () else runEach run tested name body rest

/-- Whether one of some patterns stands for a text. -/
def matchesAny (out : OutputOf) (text : String) : List Word → Run Bool
  | [] => return false
  | w :: rest => do
    let p ← expandPattern out w
    if isMatch p text.toList then return true else matchesAny out text rest

/-- Runs the first branch that a text belongs to. -/
def runBranches (run : Runner) (tested : Bool) (text : String) : List Branch → Run Unit
  | [] => setStatus 0
  | .mk patterns body :: rest => do
    if ← matchesAny (outputOf run) text patterns then
      match body with
      | .nothing => setStatus 0
      | body => run tested body
    else runBranches run tested text rest

/-- Runs the commands of a pipeline, each with what the one before it wrote as its input. -/
def runPipe (run : Runner) (tested : Bool) : List Command → Option Bytes → Run Nat
  | [], _ => return 0
  | c :: rest, input => do
    let body : Run Unit := do
      match input with
      | some bs => do
        let _ ← attach 0 (.source bs)
        run tested c
      | none => run tested c
    if rest.isEmpty then inSubshell run body
    else do
      let (bs, _) ← collect run body
      runPipe run tested rest (some bs)

/-- Runs something that the script does not wait for: it ends at once, without input. -/
def runBackground (run : Runner) (body : Run Unit) : Run Unit := do
  let code ← inSubshell run do
    let _ ← attach 0 .null
    body
  Action.modify fun s =>
    let number := (s.lastJob.getD scriptNumber) + 1
    { s with lastJob := some number, jobs := (number, code) :: s.jobs, status := 0 }

/-- A loop around something, for the number of loops. -/
def inLoop (body : Run Unit) : Run Unit := do
  Action.modify fun s => { s with loops := s.loops + 1 }
  ensuring body (Action.modify fun s => { s with loops := s.loops - 1 })

/-- Keeps a function. -/
def putFunction (name : String) (body : Command) :
    List (String × Command) → List (String × Command)
  | [] => [(name, body)]
  | (n, c) :: rest =>
    if n = name then (name, body) :: rest else (n, c) :: putFunction name body rest

/-- Runs a command, where `run` runs those inside of it. -/
def runCommand (tools : Toolbox) (run : Runner) (tested : Bool) (c : Command) : Run Unit := do
  let out := outputOf run
  match c with
  | .nothing => pure ()
  | .simple line assignments words redirects => do
    runSimple tools run tested line assignments words redirects
    checkFailure tested
  | .pipe commands background => do
    if background then runBackground run do
      let code ← runPipe run tested commands none
      setStatus code
    else
      let code ← runPipe run tested commands none
      setStatus code
      checkFailure tested
  | .both left right => do
    run true left
    let s ← Action.get
    if s.status = 0 then run tested right else pure ()
  | .either left right => do
    run true left
    let s ← Action.get
    if s.status = 0 then pure () else run tested right
  | .sequence left right => do
    run tested left
    run tested right
  | .negate c => do
    run true c
    let s ← Action.get
    setStatus (if s.status = 0 then 1 else 0)
  | .redirected line c redirects => do
    Action.modify fun s => { s with line := line }
    let channels ← channelsOf out redirects
    let before ← Action.get
    match ← attempt (redirect out true channels) with
    | .ok _ =>
      ensuring (run tested c) (Action.modify fun s => s.restore before channels)
    | .error .error => do
      Action.modify fun s => { s.restore before channels with status := 2 }
      checkFailure tested
    | .error stop => Action.fail stop
  | .subshell line c redirects => do
    Action.modify fun s => { s with line := line }
    let channels ← channelsOf out redirects
    let code ← inSubshell run do
      redirect out false channels
      run tested c
    setStatus code
    checkFailure tested
  | .background line c redirects => do
    if line > 0 then Action.modify fun s => { s with line := line }
    let channels ← channelsOf out redirects
    runBackground run do
      redirect out false channels
      run false c
  | .choice test yes no => do
    run true test
    let s ← Action.get
    if s.status = 0 then run tested yes
    else
      match no with
      | .nothing => setStatus 0
      | no => run tested no
  | .loop inverted test body => inLoop (runLoop run tested inverted test body stepLimit 0)
  | .each line name words body => do
    Action.modify fun s => { s with line := line }
    let fields ← expandRest out false words
    if fields.isEmpty then setStatus 0
    else inLoop (runEach run tested name body fields)
  | .select line subject branches => do
    Action.modify fun s => { s with line := line }
    let text ← expandText out subject
    runBranches run tested text branches
  | .define name body => do
    Action.modify fun s => { s with functions := putFunction name body s.functions, status := 0 }

/-- Runs a command; `fuel` bounds how deep commands are nested. -/
def run (tools : Toolbox) : Nat → Runner
  | 0, _, _ => Action.fail .exit
  | fuel + 1, tested, c => do
    let s ← Action.get
    if s.has 'n' then pure ()
    else
      runTraps (run tools fuel) stepLimit
      runCommand tools (run tools fuel) tested c
      runTraps (run tools fuel) stepLimit

end CommandShell.Script
