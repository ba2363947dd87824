import CommandShell.Program.Utility.Basic

/-!
# The program that counts

* `Utility.count`     : the counts of a text;
* `Utility.wordCount` : prints the counts of files, or of standard input.
-/

namespace CommandShell.Utility

/-- What is counted. -/
structure Counts where
  lines : Nat := 0
  words : Nat := 0
  bytes : Nat := 0
  /-- The longest line. -/
  longest : Nat := 0
  deriving DecidableEq, Repr

/-- The counts of two texts together. -/
def Counts.add (a b : Counts) : Counts :=
  ⟨a.lines + b.lines, a.words + b.words, a.bytes + b.bytes, max a.longest b.longest⟩

/-- Counting under way. -/
structure Counter where
  counts : Counts := {}
  /-- The length of the line under way. -/
  column : Nat := 0
  /-- A word is under way. -/
  inWord : Bool := false

namespace Counter

/-- Ends the word under way. -/
def endWord (c : Counter) : Counter :=
  { c with
    counts := { c.counts with words := c.counts.words + (if c.inWord then 1 else 0) }
    inWord := false }

/-- Ends the line under way, as far as its length counts. -/
def endLine (c : Counter) : Counter :=
  { c with counts := { c.counts with longest := max c.counts.longest c.column }, column := 0 }

/-- Counts one byte. A byte that does not show is part of no word and has no length. -/
def step (c : Counter) (b : UInt8) : Counter :=
  let c := { c with counts := { c.counts with bytes := c.counts.bytes + 1 } }
  if b = 10 then { c with counts := { c.counts with lines := c.counts.lines + 1 } }.endLine.endWord
  else if b = 13 ∨ b = 12 then c.endLine.endWord
  else if b = 9 then { c with column := c.column + (8 - c.column % 8) }.endWord
  else if b = 32 then { c with column := c.column + 1 }.endWord
  else if b = 11 then c.endWord
  else if 32 < b.toNat ∧ b.toNat < 127 then { c with column := c.column + 1, inWord := true }
  else c

end Counter

/-- The counts of a text. -/
def count (bs : Bytes) : Counts := (bs.foldl Counter.step {}).endLine.endWord.counts

/-- The options of the program. -/
def countChoices : List Options.Choice :=
  [⟨"bytes", 'c', .none⟩, ⟨"chars", 'm', .none⟩, ⟨"lines", 'l', .none⟩, ⟨"words", 'w', .none⟩,
    ⟨"files0-from", '0', .required⟩, ⟨"max-line-length", 'L', .none⟩, ⟨"total", '+', .required⟩] ++
    standardChoices

/-- The counts that the letters ask for, in fixed order. -/
def chosen (letters : List Char) (c : Counts) : List Nat :=
  (if letters.contains 'l' then [c.lines] else []) ++
    (if letters.contains 'w' then [c.words] else []) ++
    (if letters.contains 'm' then [c.bytes] else []) ++
    (if letters.contains 'c' then [c.bytes] else []) ++
    (if letters.contains 'L' then [c.longest] else [])

/-- A number that fills a column. -/
def countField (width n : Nat) : String :=
  let ds := Nat.toDigits 10 n
  String.ofList (List.replicate (width - ds.length) ' ' ++ ds)

/-- A row of counts, with a name where there is one. -/
def countRow (width : Nat) (ns : List Nat) (name : Option String) : Write :=
  let label := fun (n : String) => " " ++ (if n.toList.contains '\n' then Message.fileName n else n)
  .out (Narrow.toBytes
    (Text.join " " (ns.map (countField width)) ++ (name.map label).getD "" ++ "\n"))

/-- What is known of a file before it is read: its size if it is a plain file, nothing if it cannot
be looked at. -/
inductive FileSize where
  | plain (size : Nat)
  | other
  | unknown
  deriving DecidableEq, Repr

/-- The size of a file; without a name it is standard input. -/
def fileSize (i : Invocation) (name : Option String) : FileSize :=
  if name = none ∨ name = some "-" then
    match i.inputKind with
    | .file _ size => .plain size
    | .closed => .unknown
    | _ => .other
  else
    match i.tree.stat i.cwd (Narrow.toBytes (name.getD "")) with
    | .ok (_, .file content) | .ok (_, .writeOnly content) => .plain content.length
    | .ok (_, .processName _) => .plain 0
    | .ok _ => .other
    | .error _ => .unknown

/-- The width of the columns: wide enough for all plain files together, and at least seven where
there are other ones. A single number has no width to keep. -/
def columnWidth (sizes : List FileSize) (columns : Nat) : Nat :=
  if columns = 1 ∧ sizes.length = 1 then 1
  else
    let total := sizes.foldl (fun n s => match s with
      | .plain size => n + size
      | _ => n) 0
    let least := if sizes.contains .other then 7 else 1
    max (Nat.toDigits 10 total).length least

/-- What counting a file gives: its counts, and a reason why it could not be read, or not all. -/
def countFile (i : Invocation) (name : Option String) (input : Bytes) :
    Option Counts × Option String :=
  if name = none ∨ name = some "-" then
    match i.inputKind with
    | .directory => (some {}, some "Is a directory")
    | .closed => (some {}, some "Bad file descriptor")
    | _ => (some (count input), none)
  else
    match i.tree.readBytes i.cwd (Narrow.toBytes (name.getD "")) with
    | .ok bs => (some (count bs), none)
    | .error .isDirectory => (some {}, some "Is a directory")
    | .error e => (none, some (Message.reason e))

/-- Counting files under way. -/
structure Tally where
  total : Counts := {}
  writes : List Write := []
  failed : Bool := false
  input : Bytes

/-- How messages name a file. -/
def countedName (name : Option String) : String :=
  (name.map Message.fileName).getD "'standard input'"

/-- Counts one file and prints its row. -/
def Tally.add (i : Invocation) (letters : List Char) (width : Nat) (name : Option String)
    (t : Tally) : Tally :=
  if name = some "" then
    { t with
      writes := Message.line i "invalid zero-length file name" :: t.writes, failed := true }
  else
    let (counts, fault) := countFile i name t.input
    let complaint := (fault.map fun reason =>
      Message.line i (countedName name ++ ": " ++ reason)).toList
    let row := (counts.map fun c => countRow width (chosen letters c) name).toList
    { total := (counts.map t.total.add).getD t.total
      writes := row ++ complaint ++ t.writes
      failed := t.failed || fault.isSome
      input := if name = none ∨ name = some "-" then [] else t.input }

/-- When the last row with the total is shown. -/
def showsTotal (when? : Option String) (files : Nat) : Bool :=
  match when? with
  | some "always" => true
  | some "never" => false
  | some "only" => true
  | _ => files > 1

/-- Counts files, or standard input. -/
def wordCount : Program := fun i =>
  match Options.read [] countChoices (arguments i) with
  | .error e => misused i e
  | .ok (given, files) =>
    if asksForHelp given then i.finish [] 0
    else
      let letters := (given.map (·.letter)).filter fun c => "lwmcL".toList.contains c
      let letters := if letters.isEmpty then ['l', 'w', 'c'] else letters
      let names : List (Option String) := if files.isEmpty then [none] else files.map some
      let width := columnWidth (names.map (fileSize i)) (chosen letters {}).length
      let start : Tally := { input := i.input }
      let t := names.foldl (fun t name => t.add i letters width name) start
      let when? := ((given.filter (·.letter == '+')).getLast?).bind (·.value)
      let rows := if when? = some "only" then [] else t.writes.reverse
      let sum := if showsTotal when? names.length then
        [countRow (if when? = some "only" then 1 else width) (chosen letters t.total)
          (if when? = some "only" then none else some "total")] else []
      let closing := if i.inputKind = .closed ∧ (names.contains none ∨ names.contains (some "-"))
        then [Message.line i "-: Bad file descriptor"] else []
      ⟨rows ++ sum ++ closing, .exited (if t.failed then 1 else 0), i.tree, t.input⟩

end CommandShell.Utility
