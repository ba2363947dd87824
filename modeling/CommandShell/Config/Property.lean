import CommandShell.Config.Settings
import CommandShell.Text.Split
import CommandShell.Variable.Scope

/-!
# Settings by name

The scope `config` reads and writes settings by their path.

* `Property`        : the settings that have a path;
* `Property.find?`  : the setting of a path, in any case;
* `Property.read`   : a setting as a text;
* `Property.write`  : the settings after a text is written, or a refusal.
-/

namespace CommandShell

/-- The colours of a scheme. -/
inductive ColorSlot where
  | foreground
  | background
  | error
  | warning
  | notice
  | promptUserName
  | promptDirectory
  deriving DecidableEq, Repr

namespace ColorSlot

/-- All colours, in order. -/
def all : List ColorSlot :=
  [foreground, background, error, warning, notice, promptUserName, promptDirectory]

/-- The colour of a scheme. -/
def read : ColorSlot → ColorScheme → String
  | foreground, c => c.foreground
  | background, c => c.background
  | error, c => c.error
  | warning, c => c.warning
  | notice, c => c.notice
  | promptUserName, c => c.promptUserName
  | promptDirectory, c => c.promptDirectory

/-- The scheme with another colour. -/
def write (value : String) : ColorSlot → ColorScheme → ColorScheme
  | foreground, c => { c with foreground := value }
  | background, c => { c with background := value }
  | error, c => { c with error := value }
  | warning, c => { c with warning := value }
  | notice, c => { c with notice := value }
  | promptUserName, c => { c with promptUserName := value }
  | promptDirectory, c => { c with promptDirectory := value }

/-- The last part of a colour's path. -/
def name : ColorSlot → String
  | foreground => "Foreground"
  | background => "Background"
  | error => "Error"
  | warning => "Warning"
  | notice => "Notice"
  | promptUserName => "PromptUserName"
  | promptDirectory => "PromptDirectory"

end ColorSlot

/-- The settings that have a path. -/
inductive Property where
  | useTilde
  | defaultScope
  | disableAll
  | disabledCommands
  | color (slot : ColorSlot)
  deriving DecidableEq, Repr

namespace Property

/-- All settings, in the order of their table. -/
def all : List Property :=
  [useTilde, defaultScope, disableAll, disabledCommands] ++ ColorSlot.all.map color

/-- The path of a setting. -/
def path : Property → String
  | useTilde => "UseTilde"
  | defaultScope => "DefaultVariableScope"
  | disableAll => "DisableAllCommands"
  | disabledCommands => "DisabledCommands"
  | color slot => "ColorScheme." ++ slot.name

/-- The setting of a path, in any case. -/
def find? (p : String) : Option Property :=
  all.find? fun property => Text.sameFold property.path p

/-- What a setting takes, where it does not take every text. -/
def expected : Property → String
  | defaultScope => "a variable scope name"
  | _ => "true or false"

/-- A text that a setting does not take. -/
structure Refusal where
  /-- The setting. -/
  property : Property
  /-- The text. -/
  value : String
  deriving DecidableEq, Repr

/-- A truth value as a text. -/
def showFlag (b : Bool) : String := if b then "true" else "false"

/-- The truth value that a text stands for. -/
def readFlag? (s : String) : Option Bool :=
  let word := Text.fold (Text.trim s)
  if ["true", "yes", "on", "1"].contains word then some true
  else if ["false", "no", "off", "0"].contains word then some false
  else none

/-- The entries of a list between commas, without blanks around them and without empty ones. -/
def readNames (s : String) : List String :=
  ((Text.split "," s).map Text.trim).filter (· != "")

/-- A setting as a text. -/
def read (p : Property) (s : Settings) : String :=
  match p with
  | useTilde => showFlag s.useTilde
  | defaultScope => s.defaultScope.getD ""
  | disableAll => showFlag s.disableAll
  | disabledCommands => Text.join "," s.disabledCommands
  | color slot => slot.read s.colors

/-- The settings after a text is written to one of them. -/
def write (p : Property) (value : String) (s : Settings) : Except Refusal Settings :=
  match p with
  | useTilde =>
    match readFlag? value with
    | some b => .ok { s with useTilde := b }
    | none => .error ⟨p, value⟩
  | defaultScope =>
    let name := Text.trim value
    if name = "" then .ok { s with defaultScope := none }
    else if (Scope.ofName? name).isSome then .ok { s with defaultScope := some name }
    else .error ⟨p, name⟩
  | disableAll =>
    match readFlag? value with
    | some b => .ok { s with disableAll := b }
    | none => .error ⟨p, value⟩
  | disabledCommands => .ok { s with disabledCommands := readNames value }
  | color slot => .ok { s with colors := slot.write value s.colors }

end Property

end CommandShell
