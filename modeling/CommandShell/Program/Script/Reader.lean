import CommandShell.Action
import CommandShell.Program.Script.Basic

/-!
# Scripts: reading

* `Script.Token`  : what a script is made of;
* `Script.Reader` : a script that is read from its front on;
* `Script.Parse`  : steps of reading.
-/

namespace CommandShell.Script

/-- Where a stream of a command comes from or goes to, as far as the arrow tells. -/
inductive Arrow where
  | file (mode : Mode)
  | copy
  /-- A text that stands in the script; `stripped` tells that tabs before its lines do not count. -/
  | document (stripped : Bool)
  deriving DecidableEq, Repr

/-- A word or an operator of a script. -/
inductive Token where
  | endOfFile
  | newline
  | semicolon
  | ampersand
  | and
  | or
  | pipe
  | openParen
  | closeParen
  | endCase
  | redirect (stream : Nat) (arrow : Arrow)
  /-- A word; `quoted` tells that there are quotes in it. -/
  | word (w : Word) (quoted : Bool)
  | keyword (name : String)

/-- The words with a meaning of their own. -/
def keywords : List String :=
  ["!", "case", "do", "done", "elif", "else", "esac", "fi", "for", "if", "in", "then", "until",
    "while", "\x7b", "\x7d"]

/-- How messages name a token. -/
def Token.describe : Token → String
  | endOfFile => "end of file"
  | newline => "newline"
  | semicolon => "\";\""
  | ampersand => "\"&\""
  | and => "\"&&\""
  | or => "\"||\""
  | pipe => "\"|\""
  | openParen => "\"(\""
  | closeParen => "\")\""
  | endCase => "\";;\""
  | redirect _ _ => "redirection"
  | word _ _ => "word"
  | keyword name => "\"" ++ name ++ "\""

/-- Tokens that end a list of commands. -/
def Token.endsList : Token → Bool
  | endOfFile | closeParen | endCase => true
  | keyword name =>
    ["do", "done", "elif", "else", "esac", "fi", "then", "\x7d"].contains name
  | _ => false

/-- A text of the script that a redirection waits for. -/
structure Pending where
  index : Nat
  /-- The line that ends it. -/
  mark : List Char
  stripped : Bool
  /-- Nothing is replaced in it. -/
  quoted : Bool

/-- A script that is read from its front on. -/
structure Reader where
  /-- What is not read yet. -/
  rest : List Char
  /-- What follows the texts of aliases under way, with their names, and whether the texts end in a
  blank. -/
  outer : List (String × Bool × List Char) := []
  /-- The number of the line. -/
  line : Nat := 1
  /-- The last token. -/
  last : Token := .newline
  /-- The last token is to be read again. -/
  pushed : Bool := false
  /-- Texts that redirections wait for. -/
  pending : List Pending := []
  /-- The texts read so far, by their index. -/
  documents : List (Nat × Word) := []
  /-- The index of the next text. -/
  nextIndex : Nat := 0
  aliases : List (String × String) := []
  /-- The text of an alias ended in a blank since the last token. -/
  blankEnd : Bool := false

/-- Why a script cannot be read. -/
structure Fault where
  message : String
  deriving DecidableEq, Repr

/-- Steps of reading. -/
abbrev Parse (α : Type) := Action Reader Fault α

/-- Fails with a message. -/
def Parse.fail {α : Type} (message : String) : Parse α := Action.fail ⟨message⟩

/-- The next character, which stays. The text of an alias ends like a script. -/
def peek : Parse (Option Char) := Action.gets fun r => r.rest.head?

/-- Takes the next character off. -/
def advance : Parse Unit := Action.modify fun r => { r with rest := r.rest.tail }

/-- Goes on behind the text of an alias that has ended; tells whether there was one. -/
def leaveAlias : Parse Bool := do
  let r ← Action.get
  match r.rest, r.outer with
  | [], (_, blank, rest) :: outer =>
    Action.modify fun r =>
      { r with rest := rest, outer := outer, blankEnd := r.blankEnd || blank }
    return true
  | _, _ => return false

/-- Puts the text of an alias before what is not read yet. -/
def enterAlias (name text : String) : Parse Unit := Action.modify fun r =>
  let blank := text.toList.getLast?.any fun c => c == ' ' || c == '\t'
  { r with rest := text.toList, outer := (name, blank, r.rest) :: r.outer }

/-- Counts a line. -/
def countLine : Parse Unit := Action.modify fun r => { r with line := r.line + 1 }

/-- Drops a backslash and a line end where they stand together; `fuel` bounds how often. -/
def skipJoined : Nat → Parse Unit
  | 0 => pure ()
  | fuel + 1 => do
    let r ← Action.get
    match r.rest with
    | '\\' :: '\n' :: rest => do
      Action.modify fun r => { r with rest := rest, line := r.line + 1 }
      skipJoined fuel
    | _ => pure ()

/-- The next character of joined lines, which stays. -/
def peekJoined : Parse (Option Char) := do
  skipJoined stepLimit
  peek

/-- Takes a character off if it is the next one of joined lines. -/
def accept (c : Char) : Parse Bool := do
  let d ← peekJoined
  if d = some c then
    advance
    return true
  else return false

/-- Makes the last token the next one. -/
def pushBack : Parse Unit := Action.modify fun r => { r with pushed := true }

/-- Keeps a token as the last one. -/
def keep (t : Token) : Parse Token := do
  Action.modify fun r => { r with last := t, pushed := false }
  return t

/-- Fails at the last token. -/
def unexpected {α : Type} (wanted : Option Token) : Parse α := do
  let r ← Action.get
  Parse.fail (r.last.describe ++ " unexpected" ++
    match wanted with
    | some t => " (expecting " ++ t.describe ++ ")"
    | none => "")

end CommandShell.Script
