import CommandShell.Program.Script.Builtin.Basic
import CommandShell.Program.Script.Expand

/-!
# Scripts: built-in commands for variables and arguments

* `Script.mark`       : `export` and `readonly`;
* `Script.makeLocal`, `Script.unset`, `Script.shift`, `Script.getOptions`, `Script.readLine`;
* `Script.setOptions` : `set`.
-/

namespace CommandShell.Script

/-- Splits a text at its first equals sign. -/
def splitAssignment (arg : String) : String × Option String :=
  let name := arg.toList.takeWhile (· != '=')
  match arg.toList.drop name.length with
  | _ :: value => (String.ofList name, some (String.ofList value))
  | [] => (arg, none)

/-- A line for each variable that a test admits. -/
def showVariables (before : String) (test : Variable → Bool) : Run Unit := do
  let s ← Action.get
  let shown := (s.vars.filter fun (_, v) => test v).mergeSort fun a b => !decide (b.1 < a.1)
  for (name, v) in shown do
    let lead := if before = "" then "" else before ++ " "
    let value := match v.value with
      | some value => "=" ++ inQuotes value
      | none => ""
    say (lead ++ name ++ value ++ "\n")

/-- Marks variables, with new values where they are given. -/
def markAll (change : Variable → Variable) : List String → Run Unit
  | [] => pure ()
  | arg :: rest => do
    let (name, value) := splitAssignment arg
    if !isName name then raise (name ++ ": bad variable name")
    else
      match value with
      | some value => assignWith change name value
      | none => markVariable change name
      markAll change rest

/-- Marks variables, or shows those that are marked. -/
def mark (name : String) (change : Variable → Variable) (test : Variable → Bool) : Builtin :=
  fun args => do
    let (flags, args) ← readFlags "p" args
    if flags.isEmpty && !args.isEmpty then markAll change args
    else showVariables name test
    return 0

/-- Shows variables to programs. -/
def exportNames : Builtin := mark "export" (fun v => { v with exported := true }) (·.exported)

/-- Keeps variables from being changed. -/
def fixNames : Builtin := mark "readonly" (fun v => { v with fixed := true }) (·.fixed)

/-- Remembers a variable, so that it is put back when the function ends. -/
def hide (name : String) : Run Unit := Action.modify fun s =>
  match s.hidden with
  | [] => s
  | frame :: frames => { s with hidden := ((name, s.vars.lookup name) :: frame) :: frames }

/-- A variable of its own for the function that runs. -/
def makeLocalOne (change : Variable → Variable) (arg : String) : Run Unit := do
  let (name, value) := splitAssignment arg
  if !isName name then raise (name ++ ": bad variable name")
  else
    let s ← Action.get
    if value.isSome && (s.vars.lookup name).any (·.fixed) then raise (name ++ ": is read only")
    else
      hide name
      match value with
      | some value => assignWith change name value
      | none => markVariable change name

/-- Remembers the options, so that they are put back when the function ends. -/
def hideOptions : Run Unit := Action.modify fun s =>
  match s.hidden with
  | [] => s
  | frame :: frames =>
    let options : Variable := ⟨some (String.ofList s.options), false, false⟩
    { s with hidden := (("-", some options) :: frame) :: frames }

/-- Variables of their own for the function that runs. -/
def makeLocal : Builtin := fun args => do
  let s ← Action.get
  if s.hidden.isEmpty then raise "not in a function"
  else
    let (_, args) ← readFlags "" args
    for arg in args do
      if arg = "-" then hideOptions else makeLocalOne id arg
    return 0

/-- Puts back the variables that were hidden last. -/
def unhide : Run Unit := Action.modify fun s =>
  match s.hidden with
  | [] => s
  | frame :: frames =>
    frame.foldl
      (fun s (name, v) =>
        match name, v with
        | "-", some v => { s with options := (v.value.getD "").toList }
        | _, some v => { s with vars := putVariable name v s.vars }.follow name
        | _, none => { s with vars := s.vars.filter (·.1 != name) }.follow name)
      { s with hidden := frames }

/-- Takes variables or functions away. -/
def unset : Builtin := fun args => do
  let (flags, args) ← readFlags "vf" args
  for arg in args do
    if flags.getLast?.any (·.letter = 'f') then
      Action.modify fun s => { s with functions := s.functions.filter (·.1 != arg) }
    else if isName arg then unassign arg
    else raise (arg ++ ": bad variable name")
  return 0

/-- Drops arguments. -/
def shift : Builtin := fun args => do
  let n ← match args with
    | arg :: _ => count arg
    | [] => pure 1
  let s ← Action.get
  if n > s.args.length then raise "can't shift that many"
  else
    Action.modify fun s =>
      { s with args := s.args.drop n, optionIndex := 1, optionOffset := none }
    return 0

/-! ## Options of the script -/

/-- The options of a script by name; those without a letter do nothing. -/
def optionNames : List (String × Option Char) :=
  [("errexit", some 'e'), ("noglob", some 'f'), ("ignoreeof", some 'I'), ("interactive", some 'i'),
    ("monitor", some 'm'), ("noexec", some 'n'), ("stdin", some 's'), ("xtrace", some 'x'),
    ("verbose", some 'v'), ("vi", some 'V'), ("emacs", some 'E'), ("noclobber", some 'C'),
    ("allexport", some 'a'), ("notify", some 'b'), ("nounset", some 'u'),
    ("privileged", some 'p'), ("nolog", none), ("debug", none)]

/-- Turns an option on or off. -/
def switch (letter : Char) (on : Bool) : Run Unit := do
  if optionLetters.contains letter then
    Action.modify fun s =>
      let others := s.options.filter (· != letter)
      { s with options := if on then letter :: others else others }
  else raise ("Illegal option -" ++ letter.toString)

/-- Shows the options. -/
def showOptions (on : Bool) : Run Unit := do
  let s ← Action.get
  if on then say "Current option settings\n"
  for (name, letter) in optionNames do
    let isOn := letter.any s.has
    if on then
      say (name ++ String.ofList (List.replicate (16 - name.length) ' ') ++
        (if isOn then "on" else "off") ++ "\n")
    else say ("set " ++ (if isOn then "-o " else "+o ") ++ name ++ "\n")

/-- Turns an option on or off by its name. -/
def switchNamed (name : String) (on : Bool) : Run Unit :=
  match optionNames.lookup name with
  | some (some letter) => switch letter on
  | some none => pure ()
  | none => raise ("Illegal option -o " ++ name)

/-- Reads the letters of an argument with options; gives the arguments that are left. -/
def switchLetters (on : Bool) (args : List String) : List Char → Run (List String)
  | [] => return args
  | 'o' :: rest =>
    match args with
    | name :: args => do
      switchNamed name on
      switchLetters on args rest
    | [] => do
      showOptions on
      switchLetters on [] rest
  | c :: rest => do
    switch c on
    switchLetters on args rest

/-- Reads options, and gives the new arguments, if there are any. -/
def setFrom : Nat → List String → Run (Option (List String))
  | 0, _ => return none
  | _, [] => return none
  | fuel + 1, arg :: rest =>
    match arg.toList with
    | ['-'] => do
      switch 'x' false
      switch 'v' false
      return if rest.isEmpty then none else some rest
    | ['-', '-'] => return some rest
    | '-' :: cs => do
      let left ← switchLetters true rest cs
      setFrom fuel left
    | '+' :: cs => do
      let left ← switchLetters false rest cs
      setFrom fuel left
    | _ => return some (arg :: rest)

/-- Sets options and arguments, or shows the variables. -/
def setOptions : Builtin := fun args => do
  if args.isEmpty then showVariables "" (·.value.isSome)
  else
    match ← setFrom (args.length + 1) args with
    | some args =>
      Action.modify fun s => { s with args := args, optionIndex := 1, optionOffset := none }
    | none => pure ()
  return 0

/-! ## Options of arguments -/

/-- Where reading options is: the next argument, what is left of the one before it, what the
variable gets and whether all options are read. -/
structure OptionStep where
  index : Nat
  rest : Option String
  letter : Char
  done : Bool := false

/-- The letters that are left of the last argument, or those of the next one. -/
def nextLetters (index : Nat) (offset : Option Nat) (args : List String) :
    Nat × Option (List Char) :=
  let left := match offset, args[index - 2]? with
    | some n, some arg => if index ≤ 1 then [] else arg.toList.drop n
    | _, _ => []
  match left with
  | c :: cs => (index, some (c :: cs))
  | [] =>
    match (args[index - 1]?).map String.toList with
    | some ['-', '-'] => (index + 1, none)
    | some ('-' :: c :: cs) => (index + 1, some (c :: cs))
    | _ => (index, none)

/-- Reads one option. -/
def readOption (letters : List Char) (args : List String) (index : Nat) (offset : Option Nat) :
    Run OptionStep := do
  let quiet := letters.head? == some ':'
  match nextLetters index offset args with
  | (index, none) | (index, some []) => return ⟨index, none, '?', true⟩
  | (index, some (c :: cs)) =>
    let rest := String.ofList cs
    match hasValue? c letters with
    | none => do
      if quiet then assign "OPTARG" c.toString
      else
        let _ ← write 2 (Narrow.toBytes ("Illegal option -" ++ c.toString ++ "\n"))
        unassign "OPTARG"
      return ⟨index, some rest, '?', false⟩
    | some false => do
      assign "OPTARG" ""
      return ⟨index, some rest, c, false⟩
    | some true =>
      if rest ≠ "" then do
        assign "OPTARG" rest
        return ⟨index, none, c, false⟩
      else
        match args[index - 1]? with
        | some value => do
          assign "OPTARG" value
          return ⟨index + 1, none, c, false⟩
        | none => do
          if quiet then
            assign "OPTARG" c.toString
            return ⟨index, none, ':', false⟩
          else
            let _ ← write 2 (Narrow.toBytes ("No arg for -" ++ c.toString ++ " option\n"))
            unassign "OPTARG"
            return ⟨index, none, '?', false⟩

/-- Reads the next option of the arguments. -/
def getOptions : Builtin := fun args => do
  match args with
  | letters :: name :: given => do
    let s ← Action.get
    let words := if given.isEmpty then s.args else given
    let fresh := s.optionIndex > words.length + 1
    let index := if fresh then 1 else s.optionIndex
    let offset := if fresh then none else s.optionOffset
    let step ← readOption letters.toList words index offset
    Action.modify fun s => s.put "OPTIND" (some (toString step.index)) id
    assignNamed name step.letter.toString
    let offset := step.rest.map fun rest =>
      ((words[step.index - 2]?).map String.length).getD 0 - rest.length
    Action.modify fun s => { s with optionIndex := step.index, optionOffset := offset }
    return if step.done then 1 else 0
  | _ => raise "Usage: getopts optstring var [arg...]"

/-! ## Input -/

/-- A line under way: stretches in reverse, the characters of the last one in reverse. -/
structure LineDraft where
  done : List Stretch := []
  current : List Glyph := []

/-- Ends a stretch of characters that fields can be divided at. -/
def LineDraft.cut (d : LineDraft) : List Stretch :=
  ⟨d.current.reverse, .atSeparators⟩ :: d.done

/-- Reads a line: its stretches, whether its end was found, and what follows. A backslash takes the
meaning off the next character, unless `raw` is set. -/
def takeLine (raw : Bool) : Nat → Bytes → LineDraft → List Stretch × Bool × Bytes
  | 0, bs, d => (d.cut.reverse, false, bs)
  | _, [], d => (d.cut.reverse, false, [])
  | fuel + 1, b :: rest, d =>
    if b = 0 then takeLine raw fuel rest d
    else if b = 10 then (d.cut.reverse, true, rest)
    else if b = 92 ∧ !raw then
      match rest.dropWhile (· == 0) with
      | [] => (d.cut.reverse, false, [])
      | 10 :: after => takeLine raw fuel after ⟨d.cut, []⟩
      | c :: after =>
        takeLine raw fuel after
          ⟨⟨[.char (Char.ofNat c.toNat) true], .whole⟩ :: d.cut, []⟩
    else takeLine raw fuel rest { d with current := .char (Char.ofNat b.toNat) false :: d.current }

/-- Gives variables the fields of a line, and the empty text where there are none left. -/
def assignFields : List String → List String → Run Unit
  | [], _ => pure ()
  | name :: names, fields => do
    assignNamed name (fields.head?.getD "")
    assignFields names fields.tail

/-- Reads a line into variables. -/
def readLine : Builtin := fun args => do
  let (flags, names) ← readFlags "p:r" args
  if names.isEmpty then raise "arg count"
  else
    let s ← Action.get
    let input := ((s.handle? 0).map s.available).getD []
    let (ss, ended, rest) := takeLine (given flags 'r') (input.length + 1) input {}
    Action.modify fun s => s.leave 0 rest
    let s ← Action.get
    let fields := breakUp s.separators (some names.length) ss
    assignFields names (fields.map textOf)
    return if ended then 0 else 1

end CommandShell.Script
