import CommandShell.State
import CommandShell.Text.Json
import CommandShell.Text.Lines

/-!
# The console

What a session shows, on standard output and standard error.

* `Console.ofValue`  : a value, line by line;
* `Console.ofEvents` : what is shown while a line runs;
* `Outcome.toJson`   : an outcome as JSON.
-/

namespace CommandShell

/-- Text for standard output and standard error. -/
structure Console where
  output : Bytes := []
  errors : Bytes := []
  deriving DecidableEq, Repr

namespace Console

/-- One text after the other, on each of the two. -/
def append (a b : Console) : Console := ⟨a.output ++ b.output, a.errors ++ b.errors⟩

instance : Append Console := ⟨append⟩

/-- Lines on standard output. -/
def out (ls : List String) : Console := { output := Utf8.encode (Text.unlines ls) }

/-- Lines on standard error. -/
def err (ls : List String) : Console := { errors := Utf8.encode (Text.unlines ls) }

/-- The text as it is written. -/
def writes (c : Console) : List Write := [.out c.output, .err c.errors]

/-- A value, line by line. -/
def ofValue : Value → Console
  | .streams o e => out o ++ err e
  | v => out v.lineList

/-- What is shown of an event. -/
def ofEvent : Event → Console
  | .emitted v => ofValue v
  | .printed o e => ⟨o, e⟩
  | _ => {}

/-- What is shown of events. -/
def ofEvents (es : List Event) : Console :=
  ⟨(es.map fun e => (ofEvent e).output).flatten, (es.map fun e => (ofEvent e).errors).flatten⟩

end Console

/-- A value as JSON. -/
def Value.toJson : Value → String
  | absent => "null"
  | scalar s => Json.quote s
  | lines ls => Json.array (ls.map Json.quote)
  | streams out err =>
    Json.object [("stdout", Json.array (out.map Json.quote)),
      ("stderr", Json.array (err.map Json.quote))]

/-- An outcome as JSON. -/
def Outcome.toJson (o : Outcome) : String :=
  Json.object [("exitCode", toString o.exitCode), ("value", o.value.toJson)]

end CommandShell
