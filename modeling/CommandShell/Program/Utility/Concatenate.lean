import CommandShell.Program.Utility.Basic

/-!
# The program that copies files

* `Utility.concatenate` : copies files, or standard input, to standard output.
-/

namespace CommandShell.Utility

/-- How lines are shown. -/
structure LineStyle where
  /-- Number the lines. -/
  number : Bool := false
  /-- Number only the lines that are not empty. -/
  numberFilled : Bool := false
  /-- Of several empty lines show one. -/
  squeeze : Bool := false
  /-- Show line ends. -/
  ends : Bool := false
  /-- Show tabs. -/
  tabs : Bool := false
  /-- Show characters that do not show otherwise. -/
  hidden : Bool := false
  deriving DecidableEq, Repr

/-- The options of the program. -/
def copyChoices : List Options.Choice :=
  [⟨"number-nonblank", 'b', .none⟩, ⟨"number", 'n', .none⟩, ⟨"squeeze-blank", 's', .none⟩,
    ⟨"show-nonprinting", 'v', .none⟩, ⟨"show-ends", 'E', .none⟩, ⟨"show-tabs", 'T', .none⟩,
    ⟨"show-all", 'A', .none⟩] ++ standardChoices

/-- Sets one option. -/
def LineStyle.set (s : LineStyle) (letter : Char) : LineStyle :=
  match letter with
  | 'b' => { s with numberFilled := true }
  | 'n' => { s with number := true }
  | 's' => { s with squeeze := true }
  | 'v' => { s with hidden := true }
  | 'E' => { s with ends := true }
  | 'T' => { s with tabs := true }
  | 'A' => { s with hidden := true, ends := true, tabs := true }
  | 'e' => { s with hidden := true, ends := true }
  | 't' => { s with hidden := true, tabs := true }
  | _ => s

/-- A byte that does not show, made visible. -/
def visible (n : Nat) : List Char :=
  if n < 32 then ['^', Char.ofNat (n + 64)]
  else if n = 127 then ['^', '?']
  else [Char.ofNat n]

/-- A character as a style shows it, if the next one is `next`. -/
def LineStyle.show (s : LineStyle) (c : Char) (next : Option Char) : List Char :=
  let n := c.toNat
  if c = '\t' then (if s.tabs then ['^', 'I'] else [c])
  else if s.hidden then (if n < 128 then visible n else 'M' :: '-' :: visible (n - 128))
  else if c = '\r' ∧ s.ends ∧ next = some '\n' then ['^', 'M']
  else [c]

/-- What is known of the text that was copied so far. -/
structure LineState where
  /-- The number of the last numbered line. -/
  line : Nat := 0
  /-- The line ends that stand at the end of it; at the front there is one. -/
  ends : Nat := 1
  deriving DecidableEq, Repr

/-- The number of a line. -/
def lineNumber (n : Nat) : List Char :=
  let ds := Nat.toDigits 10 n
  List.replicate (6 - ds.length) ' ' ++ ds ++ ['\t']

/-- Copies one character; gives what is shown. -/
def LineStyle.step (s : LineStyle) (t : LineState) (c : Char) (next : Option Char) :
    LineState × List Char :=
  let numbers := s.number || s.numberFilled
  if c = '\n' then
    if s.squeeze && t.ends ≥ 2 then ({ t with ends := t.ends + 1 }, [])
    else
      let numbered := t.ends ≥ 1 && numbers && !s.numberFilled
      let t' : LineState := ⟨if numbered then t.line + 1 else t.line, t.ends + 1⟩
      (t', (if numbered then lineNumber t'.line else []) ++
        (if s.ends then ['$', '\n'] else ['\n']))
  else
    let numbered := t.ends ≥ 1 && numbers
    let t' : LineState := ⟨if numbered then t.line + 1 else t.line, 0⟩
    (t', (if numbered then lineNumber t'.line else []) ++ s.show c next)

/-- Copies a text. -/
def LineStyle.copy (s : LineStyle) : LineState → List Char → List (List Char) →
    LineState × List Char
  | t, [], shown => (t, shown.reverse.flatten)
  | t, c :: cs, shown =>
    let (t', part) := s.step t c cs.head?
    LineStyle.copy s t' cs (part :: shown)

/-- Copying under way. -/
structure Copying where
  lines : LineState := {}
  /-- What is written, last part first. -/
  writes : List Write := []
  /-- What is left of standard input. -/
  input : Bytes
  /-- How far the file is written that the copy goes to. -/
  written : Nat
  failed : Bool := false

/-- Copies some bytes. -/
def Copying.add (style : LineStyle) (bs : Bytes) (c : Copying) : Copying :=
  if style = {} then
    { c with writes := .out bs :: c.writes, written := c.written + bs.length }
  else
    let (lines, shown) := style.copy c.lines (Narrow.ofBytes bs).toList []
    let bs := Narrow.toBytes (String.ofList shown)
    { c with lines := lines, writes := .out bs :: c.writes, written := c.written + bs.length }

/-- Reports a file that cannot be copied. -/
def Copying.complain (i : Invocation) (path reason : String) (c : Copying) : Copying :=
  { c with
    writes := Message.line i (Message.fileName path ++ ": " ++ reason) :: c.writes, failed := true }

/-- Whether a file that is read from `position` on is the one that is written. -/
def Copying.isOutput (i : Invocation) (place : Place) (position : Nat) (c : Copying) : Bool :=
  i.outputFile.any fun (out, _) => out == place && position < c.written

/-- Copies what is left of standard input. -/
def copyInput (i : Invocation) (style : LineStyle) (c : Copying) : Copying :=
  match i.inputKind with
  | .directory => c.complain i "-" "Is a directory"
  | .closed => c.complain i "-" "Bad file descriptor"
  | .stream => { c.add style c.input with input := [] }
  | .file place size =>
    if c.isOutput i place (size - c.input.length) then
      c.complain i "-" "input file is output file"
    else { c.add style c.input with input := [] }

/-- Copies a file. -/
def copyFile (i : Invocation) (style : LineStyle) (path : String) (c : Copying) : Copying :=
  if path = "-" then copyInput i style c
  else
    match i.tree.readBytes i.cwd (Narrow.toBytes path), i.tree.stat i.cwd (Narrow.toBytes path) with
    | .error e, _ => c.complain i path (Message.reason e)
    | .ok bs, .ok (place, _) =>
      if c.isOutput i place 0 then c.complain i path "input file is output file"
      else c.add style bs
    | .ok bs, _ => c.add style bs

/-- Copies files, or standard input, to standard output. -/
def concatenate : Program := fun i =>
  match Options.read ['e', 't', 'u'] copyChoices (arguments i) with
  | .error e => misused i e
  | .ok (given, files) =>
    if asksForHelp given then i.finish [] 0
    else
      let style := given.foldl (fun s g => s.set g.letter) ({} : LineStyle)
      let start : Copying := { input := i.input, written := (i.outputFile.map (·.2)).getD 0 }
      let files := if files.isEmpty then ["-"] else files
      let c := files.foldl (fun c path => copyFile i style path c) start
      let closing := if i.inputKind = .closed ∧ files.contains "-" then
        [Message.line i "closing standard input: Bad file descriptor"] else []
      ⟨c.writes.reverse ++ closing, .exited (if c.failed then 1 else 0), i.tree, c.input⟩

end CommandShell.Utility
