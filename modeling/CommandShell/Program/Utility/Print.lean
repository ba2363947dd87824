import CommandShell.Program.Format.Directive
import CommandShell.Program.Format.Escape
import CommandShell.Program.Format.Floating
import CommandShell.Program.Utility.Basic

/-!
# The program that prints in a format

A format is plain text, escapes and directives.  It is used again for as long as arguments are left
and it takes some.

* `Utility.printFormat` : prints its arguments in a format.
-/

namespace CommandShell.Utility

open Format

/-- Escapes in a format. -/
def formatEscapes : Escapes where
  letters := ('"', '"') :: ('e', '\x1b') :: commonLetters
  hex := true
  strict := true
  stops := true

/-- Escapes in an argument. -/
def argumentEscapes : Escapes := { formatEscapes with leadingZero := true }

/-- Printing under way. -/
structure Job where
  /-- Arguments that are not used yet. -/
  args : List String
  /-- What is written, last part first. -/
  writes : List Write := []
  /-- Some argument was not what it had to be. -/
  failed : Bool := false
  /-- The exit code of a job that has ended. -/
  ended : Option Nat := none

namespace Job

/-- Writes a text. -/
def print (j : Job) (s : String) : Job :=
  { j with writes := .out (Narrow.toBytes s) :: j.writes }

/-- Writes a message. -/
def complain (i : Invocation) (message : String) (j : Job) : Job :=
  { j with writes := Message.line i message :: j.writes }

/-- Ends with a message. -/
def abort (i : Invocation) (message : String) (j : Job) : Job :=
  { j.complain i message with ended := some 1 }

/-- Takes the next argument. -/
def next (j : Job) : Option String × Job := (j.args.head?, { j with args := j.args.tail })

end Job

/-- Reports an argument that is no number, or not all of it. -/
def verify {α : Type} (i : Invocation) (arg : String) (r : Reading α) (j : Job) : Job :=
  if r.outOfRange then
    { j.complain i (Message.literal arg ++ ": Numerical result out of range") with failed := true }
  else if r.rest.isEmpty then j
  else if r.rest.length = arg.length then
    { j.complain i (Message.literal arg ++ ": expected a numeric value") with failed := true }
  else
    { j.complain i (Message.literal arg ++ ": value not completely converted") with
      failed := true }

/-- The number of an argument: the code of the character behind a quote, or what `read` gives. -/
def numberOf {α : Type} (i : Invocation) (code : Nat → α) (read : List Char → Reading α)
    (arg : String) (j : Job) : α × Job :=
  match arg.toList with
  | q :: c :: rest =>
    if q = '"' ∨ q = '\'' then
      (code c.toNat,
        if rest.isEmpty then j
        else j.complain i ("warning: " ++ String.ofList rest ++
          ": character(s) following character constant have been ignored"))
    else
      let r := read arg.toList
      (r.value, verify i arg r j)
  | cs =>
    let r := read cs
    (r.value, verify i arg r j)

/-- The largest width and precision. -/
def maxSize : Int := 2147483647

/-- Settles a width or a precision. -/
def settle (i : Invocation) (what : String) (least : Option Int) (size : Size) (j : Job) :
    Option Int × Job :=
  match size with
  | .absent => (none, j)
  | .given n => (some n, j)
  | .argument =>
    match j.next with
    | (none, j) => (some 0, j)
    | (some arg, j) =>
      let (n, j) := numberOf i (fun n => (n : Int)) (readSigned true) arg j
      if n > maxSize ∨ least.any (n < ·) then
        (none, j.abort i ("invalid " ++ what ++ ": " ++ Message.literal arg))
      else (some n, j)

/-- The letters that a directive may have, by its flags and precision. -/
def allowed (d : Directive) (letter : Char) : Bool :=
  let has := fun (c : Char) => d.flags.contains c
  "aAcdeEfFgGiosuxX".toList.contains letter &&
    !((has 'I' || has '\'') && "aAceEosxX".toList.contains letter) &&
    !(has '#' && "cdisu".toList.contains letter) &&
    !(has '0' && "cs".toList.contains letter) &&
    !(d.precision != .absent && letter == 'c')

/-- Prints an argument by its letter. -/
def printArgument (i : Invocation) (l : Layout) (letter : Char) (arg : String) (j : Job) : Job :=
  if letter = 's' then j.print (l.text arg)
  else if letter = 'c' then j.print (l.char (arg.toList.headD '\x00'))
  else if letter = 'd' ∨ letter = 'i' then
    let (n, j) := numberOf i (fun n => (n : Int)) (readSigned true) arg j
    j.print (l.signed n)
  else if "ouxX".toList.contains letter then
    let (n, j) := numberOf i id readUnsigned arg j
    j.print (l.unsigned letter n)
  else
    let (x, j) := numberOf i (fun n => (nearest .extended false n 1).1)
      (readFloating .extended) arg j
    j.print (l.floating .extended letter x)

/-- Prints a directive; gives what follows it. -/
def printDirective (i : Invocation) (cs : List Char) (j : Job) : Job × List Char :=
  match cs with
  | '%' :: rest => (j.print "%", rest)
  | 'b' :: rest =>
    match j.next with
    | (none, j) => (j, rest)
    | (some arg, j) =>
      let (text, ending) := unescape argumentEscapes arg
      let j := j.print text
      match ending with
      | .open => (j, rest)
      | .stopped => ({ j with ended := some 0 }, rest)
      | .faulty message => (j.abort i message, rest)
  | 'q' :: rest =>
    match j.next with
    | (none, j) => (j, rest)
    | (some arg, j) => (j.print (Message.shellWord arg), rest)
  | _ =>
    let (d, rest) := readDirective "I'-+ #0".toList cs
    let (width, j) := settle i "field width" (some (-maxSize - 1)) d.width j
    if j.ended.isSome then (j, [])
    else
      let (precision, j) := settle i "precision" none d.precision j
      if j.ended.isSome then (j, [])
      else
        let rest := rest.dropWhile fun c => "lLhjtz".toList.contains c
        match rest with
        | letter :: after =>
          if allowed d letter then
            let (arg, j) := j.next
            (printArgument i (d.layout (width.getD 0) precision) letter (arg.getD "") j, after)
          else
            (j.abort i ("%" ++ String.ofList (cs.take (cs.length - after.length)) ++
              ": invalid conversion specification"), [])
        | [] =>
          (j.abort i ("%" ++ String.ofList cs ++ ": invalid conversion specification"), [])

/-- Prints a format once; `fuel` bounds its characters. -/
def printOnce (i : Invocation) : Nat → List Char → Job → Job
  | 0, _, j => j
  | _, [], j => j
  | fuel + 1, c :: cs, j =>
    if j.ended.isSome then j
    else if c = '%' then
      let (j, rest) := printDirective i cs j
      printOnce i fuel rest j
    else if c = '\\' then
      match readEscape formatEscapes cs with
      | (.chars text, rest) => printOnce i fuel rest (j.print (String.ofList text))
      | (.stop, _) => { j with ended := some 0 }
      | (.fault message, _) => j.abort i message
    else printOnce i fuel cs (j.print c.toString)

/-- Prints a format until no argument is left; `fuel` bounds the number of rounds. -/
def printAll (i : Invocation) (format : List Char) : Nat → Job → Job
  | 0, j => j
  | fuel + 1, j =>
    let j' := printOnce i (format.length + 1) format j
    if j'.ended.isSome || j'.args.isEmpty || j'.args.length == j.args.length then j'
    else printAll i format fuel j'

/-- Prints its arguments in a format. -/
def printFormat : Program := fun i =>
  let args := arguments i
  match if args.head? = some "--" then args.tail else args with
  | [] => i.finish [Message.line i "missing operand", Message.hint i] 1
  | format :: rest =>
    let j := printAll i format.toList (rest.length + 1) { args := rest }
    match j.ended, j.args with
    | some code, _ => i.finish j.writes.reverse code
    | none, [] => i.finish j.writes.reverse (if j.failed then 1 else 0)
    | none, arg :: _ =>
      i.finish (j.complain i ("warning: ignoring excess arguments, starting with " ++
        Message.literal arg)).writes.reverse (if j.failed then 1 else 0)

end CommandShell.Utility
