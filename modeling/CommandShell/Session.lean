import CommandShell.Segment.Eval
import CommandShell.Segment.Outline
import CommandShell.Segment.Parse

/-!
# Sessions

A session runs one line after the other.  A line is read as a whole before anything of it runs.

* `Session.prepare` : the configuration that a session starts with;
* `Session.exec`    : runs a line.
-/

namespace CommandShell.Session

/-- The variable that asks for the tokens of each line. -/
def printTokensName : String := "__PRINT_TOKENS"

/-- The variable that asks for the tree of each line. -/
def printTreeName : String := "__PRINT_TREE"

/-- The variable that keeps lines from running. -/
def noExecuteName : String := "__NO_EXECUTE"

/-- A store with a value for a name that has none. -/
def withDefault (value : String) (store : Store) (name : String) : Store :=
  if store.contains name then store else store.insert name value

/-- The configuration that a session starts with: the three switches have values. -/
def prepare (c : Config) : Config :=
  { c with temporary :=
    [printTokensName, printTreeName, noExecuteName].foldl (withDefault "false") c.temporary }

/-- Switches of a session. Each is also on while its variable says so. -/
structure Options where
  printTokens : Bool := false
  printTree : Bool := false
  noExecute : Bool := false
  deriving DecidableEq, Repr

/-- A variable says `true`. -/
def isOn (c : Config) (name : String) : Bool :=
  match c.temporary.get? name with
  | some v => Text.sameFold (Text.trim v) "true"
  | none => false

/-- The switches that are on, by the options or by the variables. -/
def Options.under (o : Options) (c : Config) : Options :=
  ⟨o.printTokens || isOn c printTokensName, o.printTree || isOn c printTreeName,
    o.noExecute || isOn c noExecuteName⟩

/-- What a line yields. -/
structure Report where
  /-- How the line ended. -/
  outcome : Outcome
  /-- Tokens and tree, where they are asked for. -/
  diagnostics : List String
  deriving DecidableEq, Repr

/-- Why a line yields nothing. -/
inductive LineError where
  /-- The line cannot be read. -/
  | malformed (e : SyntaxError)
  /-- The line cannot be evaluated. -/
  | failed (e : EvalError)
  deriving DecidableEq, Repr

/-- A line that was read, with what is to be shown of it. -/
def read (o : Options) (line : String) : Except SyntaxError (Segment × List String) :=
  match Token.ofLine line with
  | .error e => .error e
  | .ok tokens =>
    match Segment.ofTokens tokens with
    | .error e => .error e
    | .ok segment =>
      .ok (segment, (if o.printTokens then tokens.map Token.describe else []) ++
        (if o.printTree then [segment.outline] else []))

/-- Runs a line, without input and with the output of programs on the console. -/
def exec (ctx : Context) (options : Options) (line : String) : Action State LineError Report := do
  if Text.trim line = "" then return ⟨.absent, []⟩
  else
    let s ← Action.get
    let o := options.under s.config
    let (segment, diagnostics) ← Action.lift ((read o line).mapError .malformed)
    if o.noExecute then return ⟨.absent, diagnostics⟩
    else
      let outcome ← (segment.eval ctx .absent false).mapError .failed
      return ⟨outcome, diagnostics⟩

end CommandShell.Session
