import CommandShell.Program.Message
import CommandShell.Program.Options

/-!
# Small programs

* `Utility.succeed`, `Utility.fail`   : programs that only have an exit code;
* `Utility.misused`                   : how programs end whose options are wrong;
* `Utility.workingDirectory`          : the program that prints the working directory.
-/

namespace CommandShell.Utility

/-- Succeeds. -/
def succeed : Program := fun i => i.finish [] 0

/-- Fails. -/
def fail : Program := fun i => i.finish [] 1

/-- The arguments as narrow texts. -/
def arguments (i : Invocation) : List String := i.args.map Narrow.ofText

/-- Ends with a fault of the options. -/
def misused (i : Invocation) (e : Options.Fault) : Completion :=
  i.finish [Message.line i e.message, Message.hint i] 1

/-- The options that every program has. -/
def standardChoices : List Options.Choice := [⟨"help", '?', .none⟩, ⟨"version", '!', .none⟩]

/-- Whether help or the version is asked for. -/
def asksForHelp (given : List Options.Given) : Bool :=
  given.any fun g => g.letter == '?' || g.letter == '!'

/-! ## The working directory -/

/-- The options of the program that prints the working directory. -/
def directoryChoices : List Options.Choice :=
  [⟨"logical", 'L', .none⟩, ⟨"physical", 'P', .none⟩] ++ standardChoices

/-- A path that names every directory on its way. -/
def isStraight (path : String) : Bool :=
  path.toList.head? == some '/' &&
    (Text.split "/" path).all fun name => name != "." && name != ".."

/-- The working directory as the environment has it, if it is right. -/
def logicalPath? (i : Invocation) : Option String :=
  match i.env.get? "PWD" with
  | none => none
  | some path =>
    match i.tree.stat i.cwd path with
    | .ok (p, .directory) => if isStraight path && p == i.cwd then some path else none
    | _ => none

/-- Prints the working directory. -/
def workingDirectory : Program := fun i =>
  match Options.read [] directoryChoices (arguments i) with
  | .error e => misused i e
  | .ok (given, operands) =>
    if asksForHelp given then i.finish [] 0
    else
      let logical := (given.getLast?.map (·.letter)) == some 'L'
      let path : Bytes := match if logical then logicalPath? i else none with
        | some path => path
        | none => Machine.pathOf i.cwd
      i.finish
        ((if operands.isEmpty then [] else [Message.line i "ignoring non-option arguments"]) ++
          [.out (path ++ "\n")]) 0

end CommandShell.Utility
