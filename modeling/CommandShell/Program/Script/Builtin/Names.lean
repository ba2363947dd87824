import CommandShell.Program.Script.Lookup

/-!
# Scripts: built-in commands about command names

* `Script.makeAlias`, `Script.dropAlias`;
* `Script.describe`      : tells what command names stand for;
* `Script.showPrograms`  : `hash`.
-/

namespace CommandShell.Script

/-- An alias as it is shown. -/
def aliasLine (name text : String) : String := name ++ "=" ++ inQuotes text ++ "\n"

/-- Puts an alias. -/
def putAlias (name text : String) : List (String × String) → List (String × String)
  | [] => [(name, text)]
  | (n, t) :: rest =>
    if n = name then (name, text) :: rest else (n, t) :: putAlias name text rest

/-- A name and a value, if there is an equals sign behind the first character. -/
def splitAlias (arg : String) : Option (String × String) :=
  match arg.toList with
  | [] => none
  | c :: rest =>
    let name := rest.takeWhile (· != '=')
    match rest.drop name.length with
    | _ :: text => some (String.ofList (c :: name), String.ofList text)
    | [] => none

/-- Makes or shows aliases. -/
def makeAlias : Builtin := fun args => do
  let s ← Action.get
  if args.isEmpty then
    for (name, text) in tableOrder 39 s.aliases do say (aliasLine name text)
    return 0
  else
    let mut code := 0
    for arg in args do
      match splitAlias arg with
      | some (name, text) =>
        Action.modify fun s => { s with aliases := putAlias name text s.aliases }
      | none => do
        let s ← Action.get
        match s.aliases.lookup arg with
        | some text => say (aliasLine arg text)
        | none => do
          let _ ← write 2 (Narrow.toBytes ("alias: " ++ arg ++ " not found\n"))
          code := 1
    return code

/-- Drops aliases. -/
def dropAlias : Builtin := fun args => do
  let (flags, args) ← readFlags "a" args
  if !flags.isEmpty then
    Action.modify fun s => { s with aliases := [] }
    return 0
  else
    let mut code := 0
    for arg in args do
      let s ← Action.get
      if (s.aliases.lookup arg).isSome then
        Action.modify fun s => { s with aliases := s.aliases.filter (·.1 != arg) }
      else
        let _ ← write 2 (Narrow.toBytes ("unalias: " ++ arg ++ " not found\n"))
        code := 1
    return code

/-- Tells what a command name stands for: in a sentence, or as a command that means the same. -/
def describe (sentence : Bool) (path : Option String) (name : String) : Run Nat := do
  let s ← Action.get
  let tell := fun (text short : String) =>
    (do say ((if sentence then name ++ text else short) ++ "\n"); return 0 : Run Nat)
  let lost := (do
    if sentence then say (name ++ ": not found\n")
    return 127 : Run Nat)
  if keywords.contains name then tell " is a shell keyword" name
  else
    match s.aliases.lookup name with
    | some text =>
      tell (" is an alias for " ++ text) ("alias " ++ name ++ "=" ++ inQuotes text)
    | none => do
      let known := path.isNone && (s.found.lookup name).isSome
      match ← find true path name with
      | .builtin =>
        tell (" is a " ++ (if specialNames.contains name then "special " else "") ++
          "shell builtin") name
      | .function _ => tell " is a shell function" name
      | .program place =>
        if s.tree.hasPath s.cwd (Narrow.toBytes place) then
          tell (" is" ++ (if known then " a tracked alias for" else "") ++ " " ++ place) place
        else lost
      | .missing _ => lost

/-- Tells what command names stand for. -/
def describeAll : Builtin := fun args => do
  let mut code := 0
  for arg in args do
    let c ← describe true none arg
    code := code ||| c
  return code

/-- Tells what the name behind options stands for. -/
def describeOne : Builtin := fun args => do
  let (flags, args) ← readFlags "pvV" args
  match args with
  | name :: _ =>
    if given flags 'v' || given flags 'V' then
      describe (given flags 'V') (if given flags 'p' then some standardPath else none) name
    else return 0
  | [] => return 0

/-- Shows the programs that were found, or looks for some. -/
def showPrograms : Builtin := fun args => do
  let (flags, args) ← readFlags "r" args
  if !flags.isEmpty then
    Action.modify fun s => { s with found := [] }
    return 0
  else if args.isEmpty then
    let s ← Action.get
    for (_, place) in tableOrder 31 s.found do say (place ++ "\n")
    return 0
  else
    let mut code := 0
    for arg in args do
      match ← find true none arg with
      | .missing reason => do
        warn (arg ++ ": " ++ reason)
        code := 1
      | _ => pure ()
    return code

end CommandShell.Script
