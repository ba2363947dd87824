import CommandShell.Program.Format.Directive
import CommandShell.Program.Format.Escape
import CommandShell.Program.Format.Floating
import CommandShell.Program.Script.Builtin.Basic

/-!
# Scripts: printing

The built-in commands that print their arguments.

* `Script.echo`        : prints its arguments with blanks between them;
* `Script.printFormat` : prints its arguments in a format.
-/

namespace CommandShell.Script

open Format

/-- Escapes in a format. -/
def formatEscapes : Escapes where
  letters := ('e', '\x1b') :: commonLetters
  takesNext := false

/-- Escapes in arguments. -/
def argumentEscapes : Escapes :=
  { formatEscapes with leadingZero := true, stops := true }

/-- Prints arguments with blanks between them. -/
def echoFrom (newline : Bool) : List String → Run Unit
  | [] => if newline then say "\n" else pure ()
  | arg :: rest => do
    let (text, ending) := unescape argumentEscapes arg
    say text
    if ending ≠ .open then pure ()
    else
      if !rest.isEmpty then say " "
      echoFrom newline rest

/-- Prints its arguments with blanks between them. -/
def echo : Builtin
  | "-n" :: args => do
    echoFrom false args
    return 0
  | args => do
    echoFrom true args
    return 0

/-- Reports an argument that is no number, or not all of it; gives whether it is fine. -/
def verifyNumber {α : Type} (arg : String) (r : Reading α) : Run Bool := do
  if !r.rest.isEmpty then
    if r.rest.length = arg.length then warn (arg ++ ": expected numeric value")
    else warn (arg ++ ": not completely converted")
    return false
  else if r.outOfRange then
    warn (arg ++ ": Numerical result out of range")
    return false
  else return true

/-- The number of an argument, and whether it is fine. -/
def numberOf {α : Type} (zero : α) (code : Nat → α) (read : List Char → Reading α) :
    Option String → Run (α × Bool)
  | none => return (zero, true)
  | some arg =>
    match arg.toList with
    | q :: rest =>
      if q = '"' ∨ q = '\'' then return (code (rest.headD '\x00').toNat, true)
      else do
        let r := read arg.toList
        let fine ← verifyNumber arg r
        return (r.value, fine)
    | [] => return (zero, true)

/-- Printing under way: what follows in the format, the arguments that are left, and whether all of
them were fine. -/
structure Printing where
  format : List Char
  args : List String
  fine : Bool
  stopped : Bool := false

/-- The number of the next argument. -/
def Printing.integer (p : Printing) : Run (Int × Printing) := do
  let (n, fine) ← numberOf 0 (fun n => (n : Int)) (readSigned true) p.args.head?
  return (n, { p with args := p.args.tail, fine := p.fine && fine })

/-- Settles a width or a precision. -/
def Printing.settle (p : Printing) : Size → Run (Option Int × Printing)
  | .absent => return (none, p)
  | .given n => return (some n, p)
  | .argument => do
    let (n, p) ← p.integer
    return (some (Int.bmod n 4294967296), p)

/-- Prints an argument by its letter; nothing where there is no such letter. -/
def Printing.argument? (p : Printing) (l : Layout) (letter : Char) : Option (Run Printing) :=
  let arg := p.args.head?.getD ""
  let later := { p with args := p.args.tail }
  if letter = 'b' then some do
    let (text, ending) := unescape argumentEscapes arg
    say (l.text text)
    return { later with stopped := ending != .open }
  else if letter = 'c' then some do
    say (l.char (arg.toList.headD '\x00'))
    return later
  else if letter = 's' then some do
    say (l.text arg)
    return later
  else if letter = 'd' ∨ letter = 'i' then some do
    let (n, p) ← p.integer
    say (l.signed n)
    return p
  else if "ouxX".toList.contains letter then some do
    let (n, fine) ← numberOf 0 id readUnsigned p.args.head?
    say (l.unsigned letter n)
    return { later with fine := p.fine && fine }
  else if "aAeEfFgG".toList.contains letter then some do
    let zero := (nearest .double false 0 1).1
    let (x, fine) ← numberOf zero (fun n => (nearest .double false n 1).1) (readFloating .double)
      p.args.head?
    say (l.floating .double letter x)
    return { later with fine := p.fine && fine }
  else none

/-- Prints a directive. -/
def Printing.directive (p : Printing) (cs : List Char) : Run Printing := do
  let (d, rest) := readDirective "#-+ 0".toList cs
  let (width, p) ← p.settle d.width
  let (precision, p) ← p.settle d.precision
  match rest with
  | [] => raise "missing format character"
  | letter :: after =>
    match { p with format := after }.argument? (d.layout (width.getD 0) precision) letter with
    | some step => step
    | none =>
      raise ("%" ++ String.ofList (cs.take (cs.length - after.length)) ++ ": invalid directive")

/-- Prints a format once; `fuel` bounds its characters. -/
def Printing.once : Nat → Printing → Run Printing
  | 0, p => return p
  | fuel + 1, p =>
    match p.format, p.stopped with
    | _, true => return p
    | [], _ => return p
    | '%' :: '%' :: rest, _ => do
      say "%"
      once fuel { p with format := rest }
    | '%' :: rest, _ => do
      let p ← p.directive rest
      once fuel p
    | '\\' :: rest, _ =>
      match readEscape formatEscapes rest with
      | (.chars text, after) => do
        say (String.ofList text)
        once fuel { p with format := after }
      | (_, after) => once fuel { p with format := after }
    | c :: rest, _ => do
      say c.toString
      once fuel { p with format := rest }

/-- Prints a format until no argument is left; `fuel` bounds the number of rounds. -/
def printRounds (format : List Char) : Nat → Printing → Run Printing
  | 0, p => return p
  | fuel + 1, p => do
    let p' ← Printing.once (format.length + 1) { p with format := format }
    if p'.stopped || p'.args.isEmpty || p'.args.length == p.args.length then return p'
    else printRounds format fuel p'

/-- Prints its arguments in a format. -/
def printFormat : Builtin := fun args => do
  let (_, args) ← readFlags "" args
  match args with
  | [] => raise "usage: printf format [arg ...]"
  | format :: rest => do
    let p ← printRounds format.toList (rest.length + 1) ⟨[], rest, true, false⟩
    return if p.fine then 0 else 1

end CommandShell.Script
