import CommandShell.CommandLine.Arguments
import CommandShell.CommandLine.Console
import CommandShell.Session
import CommandShell.Text.Cluster

/-!
# The command line

* `CommandLine.runLine`  : runs a line and shows what it yields;
* `CommandLine.runLines` : runs lines until one of them ends the session;
* `CommandLine.program`  : the shell as a program.
-/

namespace CommandShell.CommandLine

/-- How the command line runs lines. -/
structure Setup where
  context : Context
  options : Session.Options
  /-- Show outcomes as JSON. -/
  json : Bool
  /-- Show a prompt before each line. -/
  prompts : Bool

/-- What is left after lines have run. -/
structure Progress where
  state : State
  /-- What was shown. -/
  console : Console
  /-- The exit code of the last line. -/
  code : Int
  /-- The session has ended. -/
  ended : Bool

/-- What is shown of a report. -/
def showReport (json : Bool) (r : Session.Report) : Console :=
  .err r.diagnostics ++
    (if json then .out [r.outcome.toJson] else .ofValue r.outcome.value)

/-- What is shown at the end of a line, the exit code, and whether the session ends. -/
def conclude (json : Bool) (line : String) :
    Except Session.LineError Session.Report → Console × Int × Bool
  | .ok r => (showReport json r, r.outcome.exitCode, false)
  | .error (.failed (.exit code)) => ({}, code, true)
  | .error (.failed e) => (.err [e.message], 1, false)
  | .error (.malformed e) => (.err [e.render line], 1, false)

/-- Runs a line: what happens is shown as it happens, the outcome at the end. -/
def runLine (setup : Setup) (line : String) (p : Progress) : Progress :=
  match Session.exec setup.context setup.options line { p.state with log := [] } with
  | (r, s) =>
    let (shown, code, ended) := conclude setup.json line r
    ⟨s, p.console ++ .ofEvents s.log ++ shown, code, ended⟩

/-- Terminals that show no prompt of their own. -/
def plainTerminals : List String := ["dumb", "cons25", "emacs"]

/-- The prompt: user and directory. -/
def promptText (s : State) : String :=
  let env := s.machine.env
  ((env.get? "USER").or (env.get? "USERNAME")).getD "user" ++ "@" ++
    (match s.machine.currentDirectory with
      | .ok dir => Builtin.shownDirectory s.config.settings.useTilde s.machine.home? dir
      | .error _ => "?") ++ "> "

/-- Whether prompts are shown: only on a plain terminal, which is asked for once, at the start. -/
def showsPrompts (env : Environment) : Bool :=
  (env.get? "TERM").any fun term => plainTerminals.any (Text.sameFold · term)

/-- The prompt, where one is shown. -/
def prompt (setup : Setup) (s : State) : Console :=
  if setup.prompts then { output := Utf8.encode (promptText s) } else {}

/-- Runs lines until there are no more or one of them ends the session. -/
def runLines (setup : Setup) : List String → Progress → Progress
  | [], p => { p with console := p.console ++ prompt setup p.state }
  | line :: rest, p =>
    let p := runLine setup line { p with console := p.console ++ prompt setup p.state }
    if p.ended then p else runLines setup rest p

/-- The lines of a text, as typed: the last one need not have an end, and a backspace takes back
what was typed before it. -/
def inputLines (bs : Bytes) : List String :=
  (splitLines 10 13 bs).map fun line => Text.applyBackspaces (Utf8.decodeLossy line)

/-- A text behind a label; its further lines begin below its first one. -/
def labelled (label text : String) : String :=
  let margin := String.ofList (List.replicate label.length ' ')
  label ++ Text.join ("\n" ++ margin) (Text.split "\n" text)

/-- The causes of an error, one behind the other, with numbers if there is more than one. -/
def causeLines : List String → List String
  | [cause] => [labelled "    " cause]
  | causes => causes.zipIdx.map fun (cause, i) => labelled ("    " ++ toString i ++ ": ") cause

/-- What is shown where the configuration cannot be loaded. -/
def loadFailure (path : String) (e : ConfigError) : Console :=
  .err (["Error: Failed to load configuration from " ++ path, "", "Caused by:"] ++
    causeLines (e.message :: (e.cause?.map OsError.message).toList))

/-- The exit code that the machine gets to see. -/
def exitStatus (code : Int) : Nat := (code % 256).toNat

/-- Runs what arguments ask for, with a configuration. -/
def runWith (tools : Toolbox) (a : Arguments) (c : Config) (m : Machine) : Progress :=
  let setup : Setup :=
    ⟨⟨Builtin.all, tools, [], !a.json⟩, ⟨a.tokens, a.tree, a.noExecute⟩, a.json,
      showsPrompts m.env⟩
  match a.eval with
  | some line => runLine setup line ⟨⟨Session.prepare c, m, []⟩, {}, 0, false⟩
  | none =>
    runLines setup (inputLines m.input)
      ⟨⟨Session.prepare c, { m with input := [] }, []⟩, {}, 0, false⟩

/-- What a program leaves behind that shows a text and changes no file. -/
def showing (i : Invocation) (console : Console) (code : Nat) : Completion :=
  i.finish console.writes code

/-- The shell as a program, for an account with a home directory. -/
def program (tools : Toolbox) (accountHome : Option String) : Program := fun i =>
  match Request.ofArgs i.args with
  | .help => showing i { output := Utf8.encode helpText } 0
  | .version => showing i { output := Utf8.encode versionText } 0
  | .misuse => showing i (.err ["error: the arguments are not valid"]) 2
  | .run a =>
    let m : Machine := ⟨i.tree, i.cwd, i.env, accountHome, i.input⟩
    match a.config.or (Config.defaultPath? m) with
    | none => showing i (.err ["Error: " ++ ConfigError.noDirectory.message]) 1
    | some path =>
      match Config.load path m with
      | (.error e, m) =>
        let shown := loadFailure path e
        ⟨shown.writes, .exited 1, m.tree, m.input⟩
      | (.ok c, m) =>
        let p := runWith tools a c m
        ⟨p.console.writes, .exited (exitStatus p.code), p.state.machine.tree,
          p.state.machine.input⟩

end CommandShell.CommandLine
