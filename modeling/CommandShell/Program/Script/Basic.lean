/-!
# Scripts

The commands of the scripts that the program `sh` runs.

* `Script.Part`    : a part of a word, with what is replaced when the word is used;
* `Script.Command` : simple commands and their combinations;
* `Script.isName`  : names of variables.

All texts are narrow.
-/

namespace CommandShell.Script

/-- What is done with the value of a parameter. `orEmpty` tells that an empty value counts as
none. -/
inductive Use where
  /-- `$x` -/
  | value
  /-- The number of characters. -/
  | length
  /-- Another text where there is no value. -/
  | otherwise (orEmpty : Bool)
  /-- The same, and the parameter is given that value. -/
  | assign (orEmpty : Bool)
  /-- Without a value the script ends. -/
  | demand (orEmpty : Bool)
  /-- Another text where there is a value. -/
  | instead (orEmpty : Bool)
  /-- Without what matches a pattern at the end. -/
  | dropEnd (longest : Bool)
  /-- Without what matches a pattern at the front. -/
  | dropFront (longest : Bool)
  /-- Nothing that makes sense. -/
  | invalid
  deriving DecidableEq, Repr

/-- How a file is opened. -/
inductive Mode where
  | read
  /-- For writing; the file is made empty first. Where files are to be kept, `force` empties one
  nevertheless. -/
  | write (force : Bool)
  | append
  | readWrite
  deriving DecidableEq, Repr

mutual

/-- A part of a word. -/
inductive Part where
  | char (c : Char) (quoted : Bool)
  /-- A quote begins or ends. -/
  | mark
  /-- `$name` or `$\x7bname...\x7d` -/
  | parameter (name : String) (use : Use) (operand : List Part)
  /-- `$((...))` -/
  | arithmetic (expression : List Part)
  /-- `$(...)` -/
  | output (script : Command)

/-- Where a stream of a command comes from or goes to. -/
inductive Redirect where
  | file (stream : Nat) (mode : Mode) (name : List Part)
  /-- The stream is the same as another one, or is closed. -/
  | copy (stream : Nat) (source : Option Nat)
  /-- The same, where a word tells the other one. -/
  | copyWord (stream : Nat) (source : List Part)
  /-- The stream reads a text that stands in the script, which `index` finds. -/
  | document (stream : Nat) (index : Nat)

/-- A command of a script; `line` is the line it stands on. -/
inductive Command where
  | nothing
  | simple (line : Nat) (assignments words : List (List Part)) (redirects : List Redirect)
  | pipe (commands : List Command) (background : Bool)
  | both (left right : Command)
  | either (left right : Command)
  | sequence (left right : Command)
  | negate (c : Command)
  | redirected (line : Nat) (c : Command) (redirects : List Redirect)
  | subshell (line : Nat) (c : Command) (redirects : List Redirect)
  | background (line : Nat) (c : Command) (redirects : List Redirect)
  | choice (test yes no : Command)
  /-- Runs `body` as long as `test` succeeds, or fails if `inverted` is set. -/
  | loop (inverted : Bool) (test body : Command)
  | each (line : Nat) (name : String) (words : List (List Part)) (body : Command)
  | select (line : Nat) (subject : List Part) (branches : List Branch)
  | define (name : String) (body : Command)

/-- Patterns, and the command that runs for a text which matches one of them. -/
inductive Branch where
  | mk (patterns : List (List Part)) (body : Command)

end

/-- A word of a script. -/
abbrev Word := List Part

/-- The text of a word without quotes and without anything to replace. -/
def plain? : Word → Option (List Char)
  | [] => some []
  | .char c false :: rest => (plain? rest).map (c :: ·)
  | _ => none

/-- Characters that names begin with. -/
def isNameStart (c : Char) : Bool := c.isAlpha || c == '_'

/-- Characters of names. -/
def isNameChar (c : Char) : Bool := c.isAlphanum || c == '_'

/-- Names of variables. -/
def isName (s : String) : Bool :=
  match s.toList with
  | c :: cs => isNameStart c && cs.all isNameChar
  | [] => false

/-- Parameters of one character that is no letter. -/
def isSpecial (c : Char) : Bool := c.isDigit || "#?$!-*@".toList.contains c

/-- What stands before an equals sign at the front of a word, if it is a name. -/
def assignedName : Word → List Char → Option (List Char)
  | .char '=' false :: _, held => if held.isEmpty then none else some held.reverse
  | .char c false :: rest, held =>
    if isNameChar c && !(held.isEmpty && c.isDigit) then assignedName rest (c :: held) else none
  | _, _ => none

/-- A word that gives a variable a value. -/
def isAssignment (w : Word) : Bool := (assignedName w []).isSome

/-- A bound for loops that end long before. -/
def stepLimit : Nat := 1000000000

end CommandShell.Script
