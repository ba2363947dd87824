import CommandShell.Program.Script.Arithmetic

/-!
# Scripts: conditions

The conditions of the built-in commands `test` and `[`.

* `Script.Role`          : what a word of a condition can be;
* `Script.testCondition` : whether a condition holds.
-/

namespace CommandShell.Script

/-- What a word of a condition can be. -/
inductive Role where
  | unary
  | binary
  | negation
  | and
  | or
  | openParen
  | closeParen
  | operand
  /-- There is no word. -/
  | missing
  deriving DecidableEq, Repr

/-- Conditions on one operand. -/
def unaryWords : List String :=
  ["-r", "-w", "-x", "-e", "-f", "-d", "-c", "-b", "-p", "-u", "-g", "-k", "-s", "-t", "-z", "-n",
    "-h", "-O", "-G", "-L", "-S"]

/-- Conditions on two operands. -/
def binaryWords : List String :=
  ["=", "!=", "<", ">", "-eq", "-ne", "-ge", "-gt", "-le", "-lt", "-nt", "-ot", "-ef"]

/-- What a word is by itself. -/
def roleOf (word : String) : Role :=
  if unaryWords.contains word then .unary
  else if binaryWords.contains word then .binary
  else
    match word with
    | "!" => .negation
    | "-a" => .and
    | "-o" => .or
    | "(" => .openParen
    | ")" => .closeParen
    | _ => .operand

/-- What the first of some words is: a condition on one operand needs one, and it is an operand
itself before a condition on two. -/
def roleAt : List String → Role
  | [] => .missing
  | word :: rest =>
    match roleOf word, rest with
    | .unary, [] => .operand
    | .unary, [_] => .unary
    | .unary, next :: _ => if roleOf next = .binary then .operand else .unary
    | .openParen, [] => .operand
    | role, _ => role

/-- The number of an operand. -/
def operandInteger (s : String) : Run Int := integerOf false s

/-- What a path leads to. -/
def State.entryAt? (s : State) (path : String) : Option (Place × Entry) :=
  (s.tree.stat s.cwd (Narrow.toBytes path)).toOption

/-- A condition on one operand. -/
def unaryHolds (word arg : String) : Run Bool := do
  let s ← Action.get
  let entry : Option Entry := (s.entryAt? arg).map (·.2)
  match word with
  | "-z" => return arg = ""
  | "-n" => return arg ≠ ""
  | "-t" => do
    let _ ← operandInteger arg
    return false
  | "-e" | "-w" | "-O" | "-G" => return entry.isSome
  | "-r" => return entry.any fun e => e.isDirectory || e.read.isOk
  | "-x" =>
    return match entry with
      | some .directory | some (.program _) => true
      | _ => false
  | "-f" => return entry.any Entry.isFile
  | "-d" => return entry.any Entry.isDirectory
  | "-c" => return entry = some .null
  | "-s" =>
    return match entry with
      | some (.file content) | some (.writeOnly content) => !content.isEmpty
      | some (.program _) | some .directory | some .closed => true
      | _ => false
  | _ => return false

/-- A condition on two operands. -/
def binaryHolds (a word b : String) : Run Bool := do
  let numbers := fun (test : Int → Int → Bool) => (do
    let m ← operandInteger a
    let n ← operandInteger b
    return test m n : Run Bool)
  match word with
  | "=" => return a = b
  | "!=" => return a ≠ b
  | "<" => return a < b
  | ">" => return b < a
  | "-eq" => numbers (· == ·)
  | "-ne" => numbers (· != ·)
  | "-ge" => numbers fun m n => n ≤ m
  | "-gt" => numbers fun m n => n < m
  | "-le" => numbers fun m n => m ≤ n
  | "-lt" => numbers fun m n => m < n
  | "-ef" => do
    let s ← Action.get
    return match s.entryAt? a, s.entryAt? b with
      | some (p, _), some (q, _) => p = q
      | _, _ => false
  | _ => return false

/-- A fault of a condition. -/
def badCondition {α : Type} (word : Option String) (message : String) : Run α :=
  raise (match word with
    | none | some "" => message
    | some word => word ++ ": " ++ message)

mutual

/-- Conditions with `-o` between them. Each function takes the words and what the first of them is;
it gives whether the condition holds and the words from the last one it used on. -/
def anyOf : Nat → Role → List String → Run (Bool × List String)
  | 0, _, ws => return (false, ws)
  | fuel + 1, role, ws => do
    let (holds, ws) ← allOf fuel role ws
    if roleAt ws.tail = .or then
      let (more, ws) ← anyOf fuel (roleAt (ws.drop 2)) (ws.drop 2)
      return (holds || more, ws)
    else return (holds, ws)

/-- Conditions with `-a` between them. -/
def allOf : Nat → Role → List String → Run (Bool × List String)
  | 0, _, ws => return (false, ws)
  | fuel + 1, role, ws => do
    let (holds, ws) ← negated fuel role ws
    if roleAt ws.tail = .and then
      let (more, ws) ← allOf fuel (roleAt (ws.drop 2)) (ws.drop 2)
      return (holds && more, ws)
    else return (holds, ws)

/-- A condition that may be negated. -/
def negated : Nat → Role → List String → Run (Bool × List String)
  | 0, _, ws => return (false, ws)
  | fuel + 1, role, ws =>
    if role = .negation then do
      let next := roleAt ws.tail
      let (holds, ws) ← negated fuel next (if next = .missing then ws else ws.tail)
      return (!holds, ws)
    else single fuel role ws

/-- A condition without operators around it. -/
def single : Nat → Role → List String → Run (Bool × List String)
  | 0, _, ws => return (false, ws)
  | fuel + 1, role, ws =>
    match role with
    | .missing => return (false, ws)
    | .openParen => do
      let inner := ws.tail
      if roleAt inner = .closeParen then return (false, inner)
      else
        let (holds, ws) ← anyOf fuel (roleAt inner) inner
        if roleAt ws.tail = .closeParen then return (holds, ws.tail)
        else badCondition none "closing paren expected"
    | .unary =>
      match ws with
      | word :: arg :: _ => do
        let holds ← unaryHolds word arg
        return (holds, ws.tail)
      | _ => badCondition ws.head? "argument expected"
    | _ =>
      match ws with
      | a :: word :: rest =>
        if roleAt (word :: rest) = .binary then
          match rest with
          | b :: _ => do
            let holds ← binaryHolds a word b
            return (holds, rest)
          | [] => badCondition (some word) "argument expected"
        else return (a ≠ "", ws)
      | _ => return (ws.any (· ≠ ""), ws)

end

/-- Whether a condition holds, read from `role` on. -/
def conditionFrom (role : Role) (ws : List String) : Run Bool := do
  let (holds, rest) ← anyOf (8 * ws.length + 8) role ws
  match rest with
  | word :: _ :: _ => badCondition (some word) "unexpected operator"
  | _ => return holds

/-- Whether a condition of given words holds. Three and four words may be in parentheses or be
negated as a whole; of three words a condition on two operands comes first. -/
def testCondition : Nat → List String → Run Bool
  | 0, _ => return false
  | fuel + 1, ws =>
    match ws with
    | [] => return false
    | first :: rest =>
      if ws.length = 3 ∧ (rest.head?.map roleOf) = some .binary then conditionFrom .operand ws
      else if ws.length = 3 ∨ ws.length = 4 then
        if first = "(" ∧ rest.getLast? = some ")" then
          conditionFrom (roleAt rest.dropLast) rest.dropLast
        else if first = "!" then do
          let holds ← testCondition fuel rest
          return !holds
        else conditionFrom (roleAt ws) ws
      else conditionFrom (roleAt ws) ws

end CommandShell.Script
