import CommandShell.Segment.Basic
import CommandShell.Text.Split

/-!
# Values and outcomes

A segment yields an exit code and a value: nothing, one text, a list of lines, or output and error
output apart.

* `Value.lines`        : the lines that go on to the next command;
* `Value.joined`       : the value as one text, with line feeds between the lines;
* `Value.contribution` : the value inside an interpolated string, without anything between;
* `Value.arguments`    : the arguments that the value stands for;
* `Value.select`       : the lines that a redirection takes.
-/

namespace CommandShell

/-- What a segment yields. -/
inductive Value where
  /-- Nothing. -/
  | absent
  /-- One text. -/
  | scalar (text : String)
  /-- Lines. -/
  | lines (ls : List String)
  /-- Output and error output. -/
  | streams (out err : List String)
  deriving DecidableEq, Repr

namespace Value

/-- No value. -/
def isAbsent : Value → Bool
  | absent => true
  | _ => false

/-- The lines of a value; of two streams the output counts. -/
def lineList : Value → List String
  | absent => []
  | scalar s => [s]
  | lines ls => ls
  | streams out _ => out

/-- The lines with line feeds between them. -/
def joined (v : Value) : String :=
  Text.join "\n" v.lineList

/-- The lines without anything between them. -/
def contribution (v : Value) : String :=
  String.join v.lineList

/-- The arguments of a command that a value stands for; no value is an empty argument. -/
def arguments : Value → List String
  | absent => [""]
  | v => v.lineList

/-- The lines that a redirection of a mode takes from a value. -/
def select : RedirectMode → Value → List String
  | .stdErr, streams _ err => err
  | .stdErr, _ => []
  | .stdOutAndErr, streams out err => out ++ err
  | _, v => v.lineList

/-- How messages name the shape of a value. -/
def shape : Value → String
  | absent => "no value"
  | scalar _ => "a string"
  | lines _ => "a list of lines"
  | streams _ _ => "separate output streams"

end Value

/-- How a segment ended, and what it yields. -/
structure Outcome where
  /-- Zero stands for success. -/
  exitCode : Int
  /-- What it yields. -/
  value : Value
  deriving DecidableEq, Repr

namespace Outcome

/-- Success without a value. -/
def absent : Outcome := ⟨0, .absent⟩

/-- Success with one text. -/
def scalar (s : String) : Outcome := ⟨0, .scalar s⟩

/-- Failure with a message in the error output. -/
def failure (code : Int) (message : String) : Outcome := ⟨code, .streams [] [message]⟩

/-- The exit code is zero. -/
def isSuccess (o : Outcome) : Bool := o.exitCode == 0

end Outcome

end CommandShell
