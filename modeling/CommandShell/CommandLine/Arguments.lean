/-!
# Arguments of the command line

* `Arguments`  : what the arguments ask for;
* `Request`    : a run, a text to show, or a usage that is refused;
* `Request.ofArgs` : the request that arguments stand for.

Flags of one letter may stand together behind one dash.  The value of an option stands behind it,
as a word of its own that does not begin with a dash, or in the same word.  No option may come
twice.  A request for help or for the version ends the reading.
-/

namespace CommandShell.CommandLine

/-- What the arguments ask for. -/
structure Arguments where
  /-- The one line to run. -/
  eval : Option String := none
  /-- Show tokens. -/
  tokens : Bool := false
  /-- Show trees. -/
  tree : Bool := false
  /-- Do not run lines. -/
  noExecute : Bool := false
  /-- The configuration file. -/
  config : Option String := none
  /-- Show outcomes as JSON. -/
  json : Bool := false
  deriving DecidableEq, Repr

/-- What the command line is to do. -/
inductive Request where
  | run (args : Arguments)
  | help
  | version
  /-- The arguments are refused. -/
  | misuse
  deriving DecidableEq, Repr

/-- Options without a value. -/
inductive Switch where
  | tokens
  | tree
  | noExecute
  | json
  | help
  | version
  deriving DecidableEq, Repr

/-- Options with a value. -/
inductive Setting where
  | eval
  | config
  deriving DecidableEq, Repr

/-- An option. -/
inductive Flag where
  | switch (s : Switch)
  | setting (s : Setting)
  deriving DecidableEq, Repr

/-- The option of a letter. -/
def ofLetter? (c : Char) : Option Flag :=
  match c with
  | 'e' => some (.setting .eval)
  | 't' => some (.switch .tokens)
  | 'T' => some (.switch .tree)
  | 'E' => some (.switch .noExecute)
  | 'h' => some (.switch .help)
  | 'V' => some (.switch .version)
  | _ => none

/-- The option of a name. -/
def ofName? (s : String) : Option Flag :=
  match s with
  | "eval" => some (.setting .eval)
  | "tokens" => some (.switch .tokens)
  | "tree" => some (.switch .tree)
  | "no-execute" => some (.switch .noExecute)
  | "config" => some (.setting .config)
  | "json" => some (.switch .json)
  | "help" => some (.switch .help)
  | "version" => some (.switch .version)
  | _ => none

/-- A flag that is off so far is switched on; one that is on came twice. -/
def once (on : Bool) (a : Arguments) : Except Request Arguments :=
  if on then .error .misuse else .ok a

/-- Applies an option without a value. -/
def applySwitch (a : Arguments) : Switch → Except Request Arguments
  | .tokens => once a.tokens { a with tokens := true }
  | .tree => once a.tree { a with tree := true }
  | .noExecute => once a.noExecute { a with noExecute := true }
  | .json => once a.json { a with json := true }
  | .help => .error .help
  | .version => .error .version

/-- Applies an option with its value. A file has a name that is not empty. -/
def applySetting (a : Arguments) (value : String) : Setting → Except Request Arguments
  | .eval => once a.eval.isSome { a with eval := some value }
  | .config =>
    if value = "" then .error .misuse else once a.config.isSome { a with config := some value }

/-- Words that stand for themselves and begin no option. -/
def isValue (word : String) : Bool :=
  word == "-" || word.toList.head? != some '-'

/-- What a word asks for: nothing more, or the value of an option in the next word. -/
inductive Step where
  | done (a : Arguments)
  | wantsValue (s : Setting) (a : Arguments)

/-- Reads letters behind one dash. -/
def readLetters (a : Arguments) : List Char → Except Request Step
  | [] => .ok (.done a)
  | c :: rest =>
    match ofLetter? c with
    | none => .error .misuse
    | some (.switch s) =>
      match applySwitch a s with
      | .ok a => readLetters a rest
      | .error r => .error r
    | some (.setting s) =>
      match rest with
      | [] => .ok (.wantsValue s a)
      | '=' :: value => (applySetting a (String.ofList value) s).map .done
      | value => (applySetting a (String.ofList value) s).map .done

/-- Reads a name behind two dashes, with a value behind an equals sign where there is one. -/
def readName (a : Arguments) (cs : List Char) : Except Request Step :=
  let name := String.ofList (cs.takeWhile (· != '='))
  let value? : Option String :=
    match cs.dropWhile (· != '=') with
    | _ :: value => some (String.ofList value)
    | [] => none
  match ofName? name, value? with
  | none, _ => .error .misuse
  | some (.switch _), some _ => .error .misuse
  | some (.switch s), none => (applySwitch a s).map .done
  | some (.setting s), some value => (applySetting a value s).map .done
  | some (.setting s), none => .ok (.wantsValue s a)

/-- Reads one word. -/
def readWord (a : Arguments) (word : String) : Except Request Step :=
  match word.toList with
  | '-' :: '-' :: cs => readName a cs
  | '-' :: c :: cs => readLetters a (c :: cs)
  | _ => .error .misuse

/-- Reads words after one another; `wanted` is an option that waits for its value. Nothing may
follow a word of two dashes. -/
def readWords : Option Setting → Arguments → List String → Except Request Arguments
  | none, a, [] => .ok a
  | some _, _, [] => .error .misuse
  | some s, a, word :: rest =>
    if isValue word then
      match applySetting a word s with
      | .ok a => readWords none a rest
      | .error r => .error r
    else .error .misuse
  | none, a, word :: rest =>
    if word = "--" then (if rest.isEmpty then .ok a else .error .misuse)
    else
      match readWord a word with
      | .error r => .error r
      | .ok (.done a) => readWords none a rest
      | .ok (.wantsValue s a) => readWords (some s) a rest

/-- The request that arguments stand for. -/
def Request.ofArgs (args : List String) : Request :=
  match readWords none {} args with
  | .ok a => .run a
  | .error r => r

/-- The text of the version. -/
def versionText : String := "lumi 0.1.0\n"

/-- The text of the help. -/
def helpText : String :=
  "An interactive command shell\n\nUsage: lumi [OPTIONS]\n\nOptions:\n" ++
  "  -e, --eval <EVAL>      Run one line and exit with its exit code\n" ++
  "  -t, --tokens           Print the tokens of every line\n" ++
  "  -T, --tree             Print the parsed tree of every line\n" ++
  "  -E, --no-execute       Parse lines without running them\n" ++
  "      --config <CONFIG>  Configuration file " ++
  "(defaults to lumi.toml in the user config directory)\n" ++
  "      --json             Output results as JSON (value, exitCode)\n" ++
  "  -h, --help             Print help\n" ++
  "  -V, --version          Print version\n"

end CommandShell.CommandLine
