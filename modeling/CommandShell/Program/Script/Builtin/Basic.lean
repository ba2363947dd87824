import CommandShell.Program.Script.Arithmetic

/-!
# Scripts: built-in commands

* `Script.Builtin`   : built-in commands;
* `Script.readFlags` : the options of a built-in command;
* `Script.count`     : a number among its arguments;
* `Script.inQuotes`  : a text as a script has to quote it.
-/

namespace CommandShell.Script

/-- A built-in command gets its arguments and gives its exit code. -/
abbrev Builtin := List String → Run Nat

/-- An option that is given, with its argument. -/
structure Flag where
  letter : Char
  value : Option String := none
  deriving DecidableEq, Repr

/-- Whether an option has an argument; nothing where there is no such option. A colon behind a
letter tells that it has one. -/
def hasValue? (letter : Char) : List Char → Option Bool
  | [] => none
  | c :: ':' :: rest => if c = letter then some true else hasValue? letter rest
  | c :: rest => if c = letter then some false else hasValue? letter rest

/-- Reads the letters of one argument; gives whether the next argument belongs to the last one. -/
def readLetters (letters : List Char) (next : Option String) :
    List Char → Run (List Flag × Bool)
  | [] => return ([], false)
  | c :: rest =>
    match hasValue? c letters with
    | none => raise ("Illegal option -" ++ c.toString)
    | some false => do
      let (flags, took) ← readLetters letters next rest
      return (⟨c, none⟩ :: flags, took)
    | some true =>
      if rest ≠ [] then return ([⟨c, some (String.ofList rest)⟩], false)
      else
        match next with
        | some value => return ([⟨c, some value⟩], true)
        | none => raise ("No arg for -" ++ c.toString ++ " option")

/-- Reads the options at the front of arguments; `skip` tells that the first of them belongs to an
option that was read. -/
def readFlagsFrom (letters : List Char) : (skip : Bool) → List String →
    Run (List Flag × List String)
  | _, [] => return ([], [])
  | true, _ :: rest => readFlagsFrom letters false rest
  | false, arg :: rest =>
    match arg.toList with
    | ['-', '-'] => return ([], rest)
    | '-' :: c :: cs => do
      let (flags, took) ← readLetters letters rest.head? (c :: cs)
      let (more, args) ← readFlagsFrom letters took rest
      return (flags ++ more, args)
    | _ => return ([], arg :: rest)

/-- The options at the front of arguments, and the arguments behind them. -/
def readFlags (letters : String) (args : List String) : Run (List Flag × List String) :=
  readFlagsFrom letters.toList false args

/-- Whether an option is given. -/
def given (flags : List Flag) (letter : Char) : Bool := flags.any (·.letter = letter)

/-- A number among arguments. -/
def count (s : String) : Run Nat :=
  let n := numeral s
  if s ≠ "" ∧ s.toList.all Char.isDigit ∧ n ≤ 2147483647 then return n
  else raise ("Illegal number: " ++ s)

/-- The parts of a text between single quotes, quoted: single quotes stand in double quotes. -/
def quoteParts : Nat → List Char → List Char
  | 0, _ => []
  | fuel + 1, cs =>
    let plain := cs.takeWhile (· != '\'')
    let rest := cs.dropWhile (· != '\'')
    let quotes := rest.takeWhile (· == '\'')
    let after := rest.dropWhile (· == '\'')
    '\'' :: plain ++ ['\''] ++
      (if quotes.isEmpty then [] else '"' :: quotes ++ ['"']) ++
      (if after.isEmpty then [] else quoteParts fuel after)

/-- A text as a script has to quote it. -/
def inQuotes (s : String) : String :=
  String.ofList (quoteParts (s.length + 1) s.toList)

/-- Names in the order of a table of a given size that they are found in by their characters; of
those with the same place the first one comes first. -/
def tableOrder {α : Type} (size : Nat) (entries : List (String × α)) : List (String × α) :=
  let place := fun (name : String) =>
    ((name.toList.head?.map Char.toNat).getD 0 * 16 +
      (name.toList.map Char.toNat).foldl (· + ·) 0) % size
  entries.mergeSort fun a b => place a.1 ≤ place b.1

end CommandShell.Script
