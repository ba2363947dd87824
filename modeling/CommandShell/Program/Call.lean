import CommandShell.State
import CommandShell.Text.Lines

/-!
# Calling programs

* `Program.lines`    : the lines of what a program wrote;
* `Program.captured` : the value of captured output;
* `Program.call`     : runs a program of the machine.
-/

namespace CommandShell.Program

/-- Reads up to the next line feed and past it: what was read, and what is left. -/
def readUntilFeed : Bytes → Bytes × Bytes
  | [] => ([], [])
  | b :: bs =>
    if b = 10 then ([b], bs)
    else
      let (buffer, rest) := readUntilFeed bs
      (b :: buffer, rest)

theorem readUntilFeed_append (bs : Bytes) :
    (readUntilFeed bs).1 ++ (readUntilFeed bs).2 = bs := by
  induction bs with
  | nil => rfl
  | cons b bs ih =>
    rw [readUntilFeed]
    split
    · rfl
    · exact congrArg (b :: ·) ih

/-- Drops a line feed at the end, and then a carriage return. Without a line feed a carriage return
belongs to the line. -/
def dropLineEnd (buffer : Bytes) : Bytes :=
  if buffer.getLast? = some 10 then
    let line := buffer.dropLast
    if line.getLast? = some 13 then line.dropLast else line
  else buffer

/-- The lines of what a program wrote, read one after the other until nothing is left; bytes that
are not UTF-8 are replaced. -/
def lines (bs : Bytes) : List String :=
  let buffer := (readUntilFeed bs).1
  if buffer = [] then []
  else Utf8.decodeLossy (dropLineEnd buffer) :: lines (readUntilFeed bs).2
termination_by bs.length
decreasing_by
  have hlength := congrArg List.length (readUntilFeed_append bs)
  have hread : 0 < (readUntilFeed bs).1.length := List.length_pos_iff.mpr ‹_›
  simp only [List.length_append] at hlength
  omega

/-- The value of captured lines: a single line without error output is one text. -/
def valueOf (out err : List String) : Value :=
  match out, err with
  | [line], [] => .scalar line
  | _, _ => .streams out err

/-- The value of captured output. -/
def captured (c : Completion) : Value :=
  valueOf (lines c.output) (lines c.errors)

/-- Standard input from lines. -/
def feed (ls : List String) : Bytes :=
  Utf8.encode (Text.unlines ls)

/-- The program that a name leads to; an argument with a NUL can be given to none. -/
def find? (tools : Toolbox) (m : Machine) (name : String) (args : List String) : Option Program :=
  if args.any fun a => a.toList.contains '\x00' then none
  else (m.tree.findProgram? m.cwd m.env name).bind tools

/-- Runs a program. Without lines for its input it reads on in the input of the shell; without
capture its output goes to the console. -/
def call (tools : Toolbox) (name : String) (args : List String) (input : Option (List String))
    (capture : Bool) : Eval Outcome := do
  let s ← Action.get
  match find? tools s.machine name args with
  | none => Action.fail (.programNotFound name)
  | some program => do
    let m := s.machine
    let c := program
      { name := name, args := args, env := m.env, cwd := m.cwd, tree := m.tree
        input := (input.map feed).getD m.input }
    Action.modify fun s =>
      { s with machine :=
        { m with tree := c.tree, input := if input.isSome then m.input else c.unread } }
    let outcome : Outcome := ⟨c.status.code, if capture then captured c else .absent⟩
    if !capture then Eval.record (.printed c.output c.errors)
    Eval.record (.ran name outcome)
    return outcome

end CommandShell.Program
