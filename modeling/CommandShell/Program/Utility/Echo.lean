import CommandShell.Program.Format.Escape
import CommandShell.Program.Utility.Basic

/-!
# The program that prints its arguments

* `Utility.echo` : prints its arguments with blanks between them.
-/

namespace CommandShell.Utility

/-- Escapes in arguments. -/
def echoEscapes : Format.Escapes where
  letters := ('e', '\x1b') :: Format.commonLetters
  leadingZero := true
  hex := true
  stops := true

/-- What the options ask for. -/
structure EchoOptions where
  /-- A line end follows. -/
  newline : Bool := true
  /-- Escapes are replaced. -/
  escapes : Bool := false

/-- The option letters of a word, if it is made of them. -/
def echoLetters? (word : String) : Option (List Char) :=
  match word.toList with
  | '-' :: c :: cs =>
    if (c :: cs).all fun c => "neE".toList.contains c then some (c :: cs) else none
  | _ => none

/-- Sets one option. -/
def echoOption (o : EchoOptions) (c : Char) : EchoOptions :=
  if c = 'n' then { o with newline := false }
  else if c = 'e' then { o with escapes := true }
  else { o with escapes := false }

/-- Reads the options at the front. -/
def echoOptions : EchoOptions → List String → EchoOptions × List String
  | o, [] => (o, [])
  | o, word :: rest =>
    match echoLetters? word with
    | some cs => echoOptions (cs.foldl echoOption o) rest
    | none => (o, word :: rest)

/-- Prints its arguments with blanks between them. -/
def echo : Program := fun i =>
  let (o, words) := echoOptions {} (arguments i)
  let text := Text.join " " words
  let (shown, ending) := if o.escapes then Format.unescape echoEscapes text else (text, .open)
  i.print (Narrow.toBytes (if o.newline && ending == .open then shown ++ "\n" else shown)) 0

end CommandShell.Utility
