import CommandShell.Builtin.Basic
import CommandShell.Path.Home
import CommandShell.Variable.Access

/-!
# Running built-in commands

* `Builtin.splitText`, `Builtin.splitOutcome` : what `split` yields;
* `Builtin.exitCode?` : the exit codes that `exit` takes;
* `Builtin.run`       : runs a built-in command.
-/

namespace CommandShell.Builtin

/-! ## split -/

/-- The pieces of a text between separators. An empty separator divides nothing. -/
def splitText (noEmpty : Bool) (separator text : String) : List String :=
  let pieces := if separator = "" then [text] else Text.split separator text
  if noEmpty then pieces.filter (· != "") else pieces

/-- The flag that drops empty pieces. -/
def isNoEmpty (arg : String) : Bool := arg == "--no-empty" || arg == "-n"

/-- What `split` yields: of one text with a separator, or of each line of the input. -/
def splitOutcome (args : List String) (input : Value) : Outcome :=
  let noEmpty := args.any isNoEmpty
  match args.filter (!isNoEmpty ·) with
  | [] => .failure 1 "split: missing text to split"
  | [separator] => ⟨0, .lines (input.lineList.flatMap (splitText noEmpty separator))⟩
  | text :: separator :: _ => ⟨0, .lines (splitText noEmpty separator text)⟩

/-! ## exit -/

/-- The number that decimal digits stand for. -/
def digits? : List Char → Option Nat
  | [] => none
  | cs => if cs.all Char.isDigit then
      some (cs.foldl (fun n c => n * 10 + (c.toNat - 48)) 0)
    else none

/-- The integer that a text with an optional sign stands for. -/
def integer? : List Char → Option Int
  | '-' :: cs => (digits? cs).map fun n => -(n : Int)
  | '+' :: cs => (digits? cs).map fun n => (n : Int)
  | cs => (digits? cs).map fun n => (n : Int)

/-- The exit code that a text stands for: an integer of 32 bits, with blanks around it. -/
def exitCode? (s : String) : Option Int :=
  match integer? (Text.trim s).toList with
  | some n => if -2147483648 ≤ n ∧ n < 2147483648 then some n else none
  | none => none

/-- Ends the session, unless the argument is no exit code. -/
def runExit (args : List String) : Eval Outcome :=
  match args with
  | [] => Action.fail (.exit 0)
  | code :: _ =>
    match exitCode? code with
    | some n => Action.fail (.exit n)
    | none => return .failure 1 ("exit: '" ++ code ++ "' is not a valid exit code")

/-! ## cd and pwd -/

/-- The path that `cd` goes to. -/
def cdTarget? (home : Option String) (requested : String) : Option Bytes :=
  match home with
  | some home => some (if requested = "" then home else Path.expandHome home requested)
  | none => if requested = "" then none else some requested

/-- Changes the working directory. -/
def runCd (args : List String) : Eval Outcome := do
  let s ← Action.get
  let m := s.machine
  let requested := args.headD ""
  match cdTarget? m.home? requested with
  | none => return .failure (-1) "cd: home directory could not be determined"
  | some target =>
    if m.tree.isFile m.cwd target then
      return .failure (-1) ("cd: '" ++ requested ++ "' is a file, not a directory")
    else if !m.tree.isDirectory m.cwd target then
      return .failure (-1) ("cd: directory '" ++ requested ++ "' could not be found")
    else
      match m.tree.chdir m.cwd target with
      | .error e => Action.fail (.io (Path.display target) e)
      | .ok place => do
        Action.modify fun s => { s with machine := { s.machine with cwd := place } }
        return .absent

/-- A directory as it is shown, with `~` for the home directory where that is wanted. -/
def shownDirectory (useTilde : Bool) (home : Option String) (dir : Bytes) : String :=
  match useTilde, home with
  | true, some home => Path.abbreviateHome home dir
  | _, _ => Path.display dir

/-- The flag that shows the home directory in full. -/
def isExpandTilde (arg : String) : Bool := arg == "-e" || arg == "--expand-tilde"

/-- Yields the working directory. -/
def runPwd (args : List String) : Eval Outcome := do
  let s ← Action.get
  match s.machine.currentDirectory with
  | .error e => Action.fail (.io "." e)
  | .ok dir =>
    let useTilde := s.config.settings.useTilde && !args.any isExpandTilde
    return .scalar (shownDirectory useTilde s.machine.home? dir)

/-! ## The other commands -/

/-- Yields the arguments and the lines of the input with blanks between them. -/
def echoOutcome (args : List String) (input : Value) : Outcome :=
  .scalar (Text.join " " (args ++ input.lineList))

/-- Clears the screen and moves to its first place. -/
def clearSequence : String := "\x1b[2J\x1b[H"

/-- Yields what clears the screen, or a help text. -/
def clearOutcome (args : List String) : Outcome :=
  .scalar (if args.contains "--help" then
    "clear - clear the terminal screen\n\nUsage: clear\n\nAlias: cls" else clearSequence)

/-- Puts the settings and the persistent variables back to their defaults and saves them. -/
def runResetConfig : Eval Outcome := do
  Action.modify fun s => { s with config := s.config.cleared }
  Variable.saveConfig
  return .absent

/-- Runs a built-in command. -/
def run (b : Builtin) (args : List String) (input : Value) : Eval Outcome :=
  match b with
  | cd => runCd args
  | clear => pure (clearOutcome args)
  | echo => pure (echoOutcome args input)
  | exit => runExit args
  | pwd => runPwd args
  | resetConfig => runResetConfig
  | split => pure (splitOutcome args input)

end CommandShell.Builtin
