import CommandShell.Config.Property
import CommandShell.Toml.Document
import CommandShell.Toml.Writer

/-!
# Configurations as documents

Settings and persistent variables are kept in a TOML document.  Missing keys take their defaults,
unknown ones are skipped, and a known key of another type spoils the document.

* `Config.toDocument`  : the document of a configuration;
* `Config.ofDocument?` : the configuration that a document holds.
-/

namespace CommandShell

/-- The key of a colour. -/
def ColorSlot.key : ColorSlot → String
  | foreground => "foreground"
  | background => "background"
  | error => "error"
  | warning => "warning"
  | notice => "notice"
  | promptUserName => "prompt_user_name"
  | promptDirectory => "prompt_directory"

namespace Config

/-! ## Writing -/

/-- The lines of the settings. -/
def writeSettings (s : Settings) : String :=
  Toml.writeEntry "use_tilde" (Toml.writeBool s.useTilde) ++
    (match s.defaultScope with
      | some scope => Toml.writeEntry "default_variable_scope" (Toml.writeString scope)
      | none => "") ++
    Toml.writeEntry "disabled_commands" (Toml.writeStrings s.disabledCommands) ++
    Toml.writeEntry "disable_all_commands" (Toml.writeBool s.disableAll)

/-- The lines of the colours. -/
def writeColors (c : ColorScheme) : String :=
  String.join (ColorSlot.all.map fun slot =>
    Toml.writeEntry slot.key (Toml.writeString (slot.read c)))

/-- The lines of the variables. -/
def writeVariables (s : Store) : String :=
  String.join (s.entries.map fun (name, value) => Toml.writeEntry name (Toml.writeString value))

/-- The document of a configuration. -/
def toDocument (c : Config) : String :=
  writeSettings c.settings ++ "\n[color_scheme]\n" ++ writeColors c.settings.colors ++
    "\n[persistent]\n" ++ writeVariables c.persistent

/-! ## Reading -/

/-- A string. -/
def string? : Toml.Value → Option String
  | .string s => some s
  | _ => none

/-- A truth value. -/
def boolean? : Toml.Value → Option Bool
  | .boolean b => some b
  | _ => none

/-- The strings of a list. -/
def stringsOf? : List Toml.Value → Option (List String)
  | [] => some []
  | v :: vs =>
    match string? v, stringsOf? vs with
    | some s, some ss => some (s :: ss)
    | _, _ => none

/-- An array of strings. -/
def strings? : Toml.Value → Option (List String)
  | .array items => stringsOf? items
  | _ => none

/-- The entries of a table. A date counts as a table with one entry. -/
def entries? : Toml.Value → Option (List (String × Toml.Value))
  | .table entries => some entries
  | .datetime text => some [("$__toml_private_datetime", .string text)]
  | _ => none

/-- What a key holds, or a default where the key is missing. -/
def field? {α : Type} (entries : List (String × Toml.Value)) (key : String)
    (read : Toml.Value → Option α) (default : α) : Option α :=
  match Toml.lookup entries key with
  | some v => read v
  | none => some default

/-- The colours of a table over other ones. -/
def colorsOfEntries? (entries : List (String × Toml.Value)) :
    List ColorSlot → ColorScheme → Option ColorScheme
  | [], c => some c
  | slot :: slots, c =>
    match field? entries slot.key string? (slot.read c) with
    | some s => colorsOfEntries? entries slots (slot.write s c)
    | none => none

/-- A colour scheme: a table, or an array that lists the first colours in order. -/
def colors? : Toml.Value → Option ColorScheme
  | .array items =>
    (stringsOf? (items.take ColorSlot.all.length)).map fun ss =>
      (ColorSlot.all.zip ss).foldl (fun c (slot, s) => slot.write s c) {}
  | v =>
    match entries? v with
    | some entries => colorsOfEntries? entries ColorSlot.all {}
    | none => none

/-- Names with strings. -/
def pairsOf? : List (String × Toml.Value) → Option (List (String × String))
  | [] => some []
  | (name, v) :: rest =>
    match string? v, pairsOf? rest with
    | some s, some pairs => some ((name, s) :: pairs)
    | _, _ => none

/-- A table of variables. -/
def store? (v : Toml.Value) : Option Store :=
  match entries? v with
  | some entries => (pairsOf? entries).map Store.ofList
  | none => none

/-- The configuration that the entries of a document hold. -/
def ofEntries? (entries : List (String × Toml.Value)) : Option Config := do
  let useTilde ← field? entries "use_tilde" boolean? true
  let defaultScope ← field? entries "default_variable_scope" (fun v => (string? v).map some) none
  let disabledCommands ← field? entries "disabled_commands" strings? []
  let disableAll ← field? entries "disable_all_commands" boolean? false
  let colors ← field? entries "color_scheme" colors? {}
  let persistent ← field? entries "persistent" store? .empty
  return {
    settings := ⟨useTilde, defaultScope, disabledCommands, disableAll, colors⟩
    persistent := persistent }

/-- The configuration that a document holds. -/
def ofDocument? (text : String) : Option Config :=
  match Toml.read? text with
  | some entries => ofEntries? entries
  | none => none

end Config

end CommandShell
