import CommandShell.Program.Script.Builtin.Variables

/-!
# Scripts: built-in commands for the working directory

* `Script.changeDirectory`, `Script.showDirectory`;
* `Script.showMask` : the permissions that new files do not get.
-/

namespace CommandShell.Script

/-- The names of a path without empty ones. -/
def pathNames (path : String) : List String :=
  (Text.split "/" path).filter (· != "")

/-- Follows names from a directory on without looking at files; `..` goes up. -/
def followNames : List String → List String → List String
  | held, [] => held
  | held, name :: rest =>
    if name = "." then followNames held rest
    else if name = ".." then followNames held.dropLast rest
    else followNames (held ++ [name]) rest

/-- Whether a path begins with exactly two slashes, which are kept. -/
def hasTwoSlashes (path : String) : Bool :=
  match path.toList with
  | '/' :: '/' :: '/' :: _ => false
  | '/' :: '/' :: _ => true
  | _ => false

/-- The directory that a path names from a working directory on. -/
def directoryFrom (directory path : String) : String :=
  let start := if path.toList.head? = some '/' then path else directory
  let held := if path.toList.head? = some '/' then [] else pathNames directory
  (if hasTwoSlashes start then "//" else "/") ++
    Text.join "/" (followNames held (pathNames path))

/-- The name of a place. -/
def placeName (p : Place) : String := Narrow.ofBytes (Machine.pathOf p)

/-- Makes a directory the working directory; tells whether it could be. -/
def enterDirectory (physical : Bool) (path : String) : Run Bool := do
  let s ← Action.get
  let name := if physical then path else directoryFrom s.directory path
  match s.tree.chdir s.cwd (Narrow.toBytes name) with
  | .ok place => do
    let shown := if physical then placeName place else name
    let exported := fun (v : Variable) => { v with exported := true }
    assignWith exported "OLDPWD" s.directory
    Action.modify fun s => { s with cwd := place, directory := shown }
    assignWith exported "PWD" shown
    return true
  | .error _ => return false

/-- Whether a path is not looked for elsewhere. -/
def isAnchored (path : String) : Bool :=
  match Text.split "/" path with
  | first :: _ => path.toList.head? == some '/' || first == "." || first == ".."
  | [] => false

/-- The directory that a path leads to by way of other ones, and whether it is shown. -/
def searchDirectory (s : State) (path : String) : List String → Option (String × Bool)
  | [] => none
  | dir :: rest =>
    let full := if dir = "" then path else dir ++ "/" ++ path
    if s.tree.isDirectory s.cwd (Narrow.toBytes full) then some (full, dir != "")
    else searchDirectory s path rest

/-- Makes a directory the working directory. -/
def changeDirectory : Builtin := fun args => do
  let (flags, args) ← readFlags "LP" args
  let physical := flags.getLast?.any (·.letter = 'P')
  let s ← Action.get
  let (path, back) := match args with
    | [] => ((s.get? "HOME").getD "", false)
    | "-" :: _ => ((s.get? "OLDPWD").getD "", true)
    | arg :: _ => (arg, false)
  let (path, target, shown) :=
    if path = "" ∨ !isAnchored path then
      let path := if path = "" then "." else path
      match searchDirectory s path (Text.split ":" ((s.get? "CDPATH").getD "")) with
      | some (full, shown) => (path, full, shown)
      | none => (path, path, false)
    else (path, path, false)
  if ← enterDirectory physical target then
    let s ← Action.get
    if back || shown then say (s.directory ++ "\n")
    return 0
  else raise ("can't cd to " ++ path)

/-- Shows the working directory. -/
def showDirectory : Builtin := fun args => do
  let (flags, _) ← readFlags "LP" args
  let s ← Action.get
  let physical := flags.getLast?.any (·.letter = 'P')
  say ((if physical then placeName s.cwd else s.directory) ++ "\n")
  return 0

/-! ## Permissions of new files -/

/-- A number as four octal digits. -/
def octal (n : Nat) : String :=
  let ds := Nat.toDigits 8 n
  String.ofList (List.replicate (4 - ds.length) '0' ++ ds)

/-- The permissions of one class of users, as letters. -/
def permissionLetters (n : Nat) : String :=
  (if n &&& 4 ≠ 0 then "r" else "") ++ (if n &&& 2 ≠ 0 then "w" else "") ++
    (if n &&& 1 ≠ 0 then "x" else "")

/-- The permissions that new files get, as letters. -/
def maskLetters (mask : Nat) : String :=
  let kept := 511 - mask
  "u=" ++ permissionLetters (kept / 64) ++ ",g=" ++ permissionLetters (kept / 8 % 8) ++ ",o=" ++
    permissionLetters (kept % 8)

/-- The bits of letters for classes of users. -/
def classBits (cs : List Char) : Nat :=
  cs.foldl (fun n c => n ||| (if c = 'u' then 448 else if c = 'g' then 56
    else if c = 'o' then 7 else 511)) 0

/-- The bits of letters for permissions. -/
def permissionBits (cs : List Char) : Nat :=
  cs.foldl (fun n c => n ||| (if c = 'r' then 292 else if c = 'w' then 146
    else if c = 'x' then 73 else 0)) 0

/-- Changes permissions as one clause asks for. -/
def applyClause (kept : Nat) (cs : List Char) : Option Nat :=
  let who := cs.takeWhile "ugoa".toList.contains
  match cs.drop who.length with
  | op :: letters =>
    let classes := if who.isEmpty then 511 else classBits who
    let bits := permissionBits letters &&& classes
    if !letters.all "rwx".toList.contains then none
    else if op = '=' then some ((kept &&& (511 - classes)) ||| bits)
    else if op = '+' then some (kept ||| bits)
    else if op = '-' then some (kept &&& (511 - bits))
    else none
  | [] => if who.isEmpty then none else some kept

/-- Changes permissions as clauses ask for. -/
def applyClauses : Nat → List String → Option Nat
  | kept, [] => some kept
  | kept, clause :: rest => (applyClause kept clause.toList).bind (applyClauses · rest)

/-- Shows or sets the permissions that new files do not get. -/
def showMask : Builtin := fun args => do
  let (flags, args) ← readFlags "S" args
  let s ← Action.get
  match args with
  | [] =>
    say ((if given flags 'S' then maskLetters s.umask else octal s.umask) ++ "\n")
  | arg :: _ =>
    if arg.toList.head?.any Char.isDigit then
      if arg.toList.all fun c => '0' ≤ c && c ≤ '7' then
        let n := arg.toList.foldl (fun n c => n * 8 + (c.toNat - 48)) 0
        Action.modify fun s => { s with umask := n % 512 }
      else raise ("Illegal number: " ++ arg)
    else
      match applyClauses (511 - s.umask) (Text.split "," arg) with
      | some kept => Action.modify fun s => { s with umask := 511 - kept }
      | none => raise ("Illegal mode: " ++ arg)
  return 0

end CommandShell.Script
