import CommandShell.Text.Split

/-!
# Options of programs

An option is a letter behind one dash or a word behind two.  Letters can be bundled, words can be
shortened as long as they stay clear, and what is neither an option nor the argument of one is an
operand, wherever it stands.  Behind `--` there are only operands.

* `Options.Choice` : an option that has a word;
* `Options.read`   : the options and operands of a program.
-/

namespace CommandShell.Options

/-- Whether an option has an argument. -/
inductive Need where
  | none
  | required
  | optional
  deriving DecidableEq, Repr

/-- An option that has a word, and the letter that the word stands for. One that is no letter of the
alphabet can only be given by its word. -/
structure Choice where
  word : String
  letter : Char
  need : Need := .none
  deriving DecidableEq, Repr

/-- An option that is given, by its letter, with its argument. -/
structure Given where
  letter : Char
  value : Option String
  deriving DecidableEq, Repr

/-- What is wrong with the options of a program. -/
inductive Fault where
  | unknownWord (text : String)
  | unknownLetter (letter : Char)
  | ambiguous (text : String) (words : List String)
  /-- An argument is given to an option that has none. -/
  | unwanted (word : String)
  | missing (word : String)
  | missingLetter (letter : Char)
  deriving DecidableEq, Repr

/-- The text of a fault. -/
def Fault.message : Fault → String
  | unknownWord text => "unrecognized option '--" ++ text ++ "'"
  | unknownLetter letter => "invalid option -- '" ++ letter.toString ++ "'"
  | ambiguous text words =>
    "option '--" ++ text ++ "' is ambiguous; possibilities:" ++
      String.join (words.map fun w => " '--" ++ w ++ "'")
  | unwanted word => "option '--" ++ word ++ "' doesn't allow an argument"
  | missing word => "option '--" ++ word ++ "' requires an argument"
  | missingLetter letter => "option requires an argument -- '" ++ letter.toString ++ "'"

/-- The option that a word or the front of a word stands for. -/
def find (choices : List Choice) (text name : String) : Except Fault Choice :=
  match choices.find? (·.word = name) with
  | some c => .ok c
  | none =>
    match choices.filter fun c => (Text.after? name c.word).isSome with
    | [] => .error (.unknownWord text)
    | [c] => .ok c
    | c :: cs =>
      if cs.all (·.letter = c.letter) then .ok c
      else .error (.ambiguous text ((c :: cs).map (·.word)))

/-- Reads an option that is a word. Gives the option and whether it took the next argument. -/
def readWord (choices : List Choice) (text : String) (next : Option String) :
    Except Fault (Given × Bool) :=
  let parts := Text.splitAt? '=' text
  match find choices text ((parts.map (·.1)).getD text) with
  | .error e => .error e
  | .ok c =>
    match c.need, parts with
    | .none, none => .ok (⟨c.letter, none⟩, false)
    | .none, some _ => .error (.unwanted c.word)
    | _, some (_, value) => .ok (⟨c.letter, some value⟩, false)
    | .optional, none => .ok (⟨c.letter, none⟩, false)
    | .required, none =>
      match next with
      | some value => .ok (⟨c.letter, some value⟩, true)
      | none => .error (.missing c.word)

/-- Whether the option of a letter has an argument, if there is such an option. -/
def need? (letters : List Char) (choices : List Choice) (letter : Char) : Option Need :=
  if letters.contains letter then some .none
  else (choices.find? fun c => c.letter = letter ∧ letter.isAlpha).map (·.need)

/-- Reads bundled letters. Gives the options and whether they took the next argument. -/
def readLetters (letters : List Char) (choices : List Choice) (next : Option String) :
    List Char → Except Fault (List Given × Bool)
  | [] => .ok ([], false)
  | letter :: rest =>
    match need? letters choices letter with
    | none => .error (.unknownLetter letter)
    | some .none =>
      match readLetters letters choices next rest with
      | .ok (gs, took) => .ok (⟨letter, none⟩ :: gs, took)
      | .error e => .error e
    | some need =>
      if rest ≠ [] then .ok ([⟨letter, some (String.ofList rest)⟩], false)
      else
        match need, next with
        | .required, some value => .ok ([⟨letter, some value⟩], true)
        | .required, none => .error (.missingLetter letter)
        | _, _ => .ok ([⟨letter, none⟩], false)

/-- Reads the options and operands of a program; `skip` tells that the next argument belongs to an
option that was read. -/
def readFrom (letters : List Char) (choices : List Choice) :
    (skip : Bool) → List String → Except Fault (List Given × List String)
  | _, [] => .ok ([], [])
  | true, _ :: rest => readFrom letters choices false rest
  | false, arg :: rest =>
    match arg.toList with
    | ['-', '-'] => .ok ([], rest)
    | '-' :: '-' :: text =>
      match readWord choices (String.ofList text) rest.head? with
      | .error e => .error e
      | .ok (g, took) =>
        (readFrom letters choices took rest).map fun (gs, ops) => (g :: gs, ops)
    | '-' :: c :: cs =>
      match readLetters letters choices rest.head? (c :: cs) with
      | .error e => .error e
      | .ok (gs, took) =>
        (readFrom letters choices took rest).map fun (more, ops) => (gs ++ more, ops)
    | _ => (readFrom letters choices false rest).map fun (gs, ops) => (gs, arg :: ops)

/-- The options and operands of a program that has some letters without words besides. -/
def read (letters : List Char) (choices : List Choice) (args : List String) :
    Except Fault (List Given × List String) :=
  readFrom letters choices false args

end CommandShell.Options
