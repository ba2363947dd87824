import CommandShell.Program.Format.Number
import CommandShell.Program.Script.State

/-!
# Scripts: arithmetic

Expressions over 64-bit integers, with the operators of `$((...))`.

* `Script.calculate` : the value of an expression.
-/

namespace CommandShell.Script

/-- A part of an expression. -/
inductive Term where
  | number (n : Int)
  | variable (name : String)
  | operator (s : String)
  | stray
  deriving DecidableEq, Repr

/-- An integer of 64 bits. -/
def wrap (n : Int) : Int := Int.bmod n 18446744073709551616

/-- The operators, longer ones first. -/
def operators : List String :=
  ["<<=", ">>=", "==", "!=", "<=", ">=", "&&", "||", "<<", ">>", "*=", "/=", "%=", "+=", "-=", "&=",
    "^=", "|=", "+", "-", "*", "/", "%", "(", ")", "<", ">", "!", "~", "&", "|", "^", "?", ":", "="]

/-- The operator at the front. -/
def readOperator? (cs : List Char) : Option (String × List Char) :=
  operators.findSome? fun op =>
    if cs.take op.length = op.toList then some (op, cs.drop op.length) else none

/-- The parts of an expression; `fuel` bounds their number. -/
def terms : Nat → List Char → List Term
  | 0, _ => []
  | _, [] => []
  | fuel + 1, c :: rest =>
    if c = ' ' ∨ c = '\t' ∨ c = '\n' then terms fuel rest
    else if c.isDigit then
      let r := Format.readSigned true (c :: rest)
      .number r.value :: terms fuel r.rest
    else if isNameStart c then
      let name := (c :: rest).takeWhile isNameChar
      .variable (String.ofList name) :: terms fuel ((c :: rest).drop name.length)
    else
      match readOperator? (c :: rest) with
      | some (op, after) => .operator op :: terms fuel after
      | none => .stray :: terms fuel rest

/-- How loosely an operator between two values binds. -/
def looseness : String → Option Nat
  | "*" | "/" | "%" => some 0
  | "+" | "-" => some 1
  | "<<" | ">>" => some 2
  | "<" | "<=" | ">" | ">=" => some 3
  | "==" | "!=" => some 4
  | "&" => some 5
  | "^" => some 6
  | "|" => some 7
  | _ => none

/-- Looser than every operator. -/
def loosest : Nat := 8

/-- A truth value as a number. -/
def truth (b : Bool) : Int := if b then 1 else 0

/-- An operation on the bits of two integers. -/
def bitwise (f : BitVec 64 → BitVec 64 → BitVec 64) (a b : Int) : Int :=
  (f (BitVec.ofInt 64 a) (BitVec.ofInt 64 b)).toInt

/-- What an operator gives; nothing where it divides by zero. -/
def combine? (s : String) (a b : Int) : Option Int :=
  match s with
  | "*" => some (wrap (a * b))
  | "/" => if b = 0 then none else some (wrap (a.tdiv b))
  | "%" => if b = 0 then none else some (a.tmod b)
  | "+" => some (wrap (a + b))
  | "-" => some (wrap (a - b))
  | "<<" => some (bitwise (fun x y => x <<< (y.toNat % 64)) a b)
  | ">>" => some (bitwise (fun x y => x.sshiftRight (y.toNat % 64)) a b)
  | "<" => some (truth (a < b))
  | "<=" => some (truth (a ≤ b))
  | ">" => some (truth (a > b))
  | ">=" => some (truth (a ≥ b))
  | "==" => some (truth (a == b))
  | "!=" => some (truth (a != b))
  | "&" => some (bitwise (· &&& ·) a b)
  | "^" => some (bitwise (· ^^^ ·) a b)
  | "|" => some (bitwise (· ||| ·) a b)
  | _ => none

/-- The integer that a text stands for, of 64 bits and in any base. -/
def integerOf (anyBase : Bool) (s : String) : Run Int := do
  let r := Format.readSigned anyBase s.toList
  let isBlank := r.rest.length = s.length
  if r.outOfRange ∨ (!anyBase ∧ isBlank) ∨ !(r.rest.dropWhile Format.isSpace).isEmpty then
    raise ("Illegal number: " ++ s)
  else return r.value

/-- The integer that a variable holds. -/
def variableInteger (name : String) : Run Int := do
  let s ← Action.get
  integerOf true ((s.get? name).getD "")

/-- A fault of an expression. -/
def badExpression {α : Type} (whole message : String) : Run α :=
  raise ("arithmetic expression: " ++ message ++ ": \"" ++ whole ++ "\"")

/-- What an operator gives. -/
def combine (whole s : String) (a b : Int) : Run Int :=
  match combine? s a b with
  | some n => return n
  | none => badExpression whole "division by zero"

/-- Operators that assign, and what they do before that. -/
def assigning? : String → Option String
  | "=" => some ""
  | "*=" => some "*"
  | "/=" => some "/"
  | "%=" => some "%"
  | "+=" => some "+"
  | "-=" => some "-"
  | "<<=" => some "<<"
  | ">>=" => some ">>"
  | "&=" => some "&"
  | "^=" => some "^"
  | "|=" => some "|"
  | _ => none

/-- The value of an operator with signs before it, for a value that is not used. -/
def unaryOf (op : String) (n : Int) : Int :=
  if op = "-" then wrap (-n)
  else if op = "!" then truth (n == 0)
  else if op = "~" then wrap (-n - 1)
  else n

mutual

/-- The value of an operand, and what follows it. `idle` tells that the value is not used. -/
def operand (whole : String) (idle : Bool) : Nat → List Term → Run (Int × List Term)
  | 0, _ => badExpression whole "expecting primary"
  | fuel + 1, ts =>
    match ts with
    | .number n :: rest => return (n, rest)
    | .variable name :: rest => do
      let n ← if idle then pure 0 else variableInteger name
      return (n, rest)
    | .operator "(" :: rest => do
      let (n, rest) ← assignment whole idle fuel rest
      match rest with
      | .operator ")" :: rest => return (n, rest)
      | _ => badExpression whole "expecting ')'"
    | .operator op :: rest =>
      if op = "+" ∨ op = "-" ∨ op = "!" ∨ op = "~" then do
        let (n, rest) ← operand whole idle fuel rest
        return (unaryOf op n, rest)
      else badExpression whole "expecting primary"
    | _ => badExpression whole "expecting primary"

/-- Goes on behind a value and an operator, with operators that bind more tightly than `bound`. -/
def binary (whole : String) (idle : Bool) :
    Nat → Int → String → Nat → List Term → Run (Int × List Term)
  | 0, a, _, _, ts => return (a, ts)
  | fuel + 1, a, op, bound, ts => do
    let (b, ts) ← operand whole idle fuel ts
    let level := (looseness op).getD loosest
    let (b, ts) ←
      match ts with
      | .operator op2 :: rest =>
        match looseness op2 with
        | some level2 =>
          if level2 < level then binary whole idle fuel b op2 level rest else pure (b, ts)
        | none => pure (b, ts)
      | _ => pure (b, ts)
    let n ← if idle then pure b else combine whole op a b
    match ts with
    | .operator op2 :: rest =>
      match looseness op2 with
      | some level2 =>
        if level2 < bound then binary whole idle fuel n op2 bound rest else return (n, ts)
      | none => return (n, ts)
    | _ => return (n, ts)

/-- Operators between operands. -/
def sum (whole : String) (idle : Bool) : Nat → List Term → Run (Int × List Term)
  | 0, _ => badExpression whole "expecting primary"
  | fuel + 1, ts => do
    let (a, ts) ← operand whole idle fuel ts
    match ts with
    | .operator op :: rest =>
      if (looseness op).isSome then binary whole idle fuel a op loosest rest else return (a, ts)
    | _ => return (a, ts)

/-- `&&` between values; the right one is used only if the left one is true. -/
def conjunction (whole : String) (idle : Bool) : Nat → List Term → Run (Int × List Term)
  | 0, _ => badExpression whole "expecting primary"
  | fuel + 1, ts => do
    let (a, ts) ← sum whole idle fuel ts
    match ts with
    | .operator "&&" :: rest => do
      let (b, ts) ← conjunction whole (idle || a == 0) fuel rest
      return (truth (a != 0 && b != 0), ts)
    | _ => return (a, ts)

/-- `||` between values; the right one is used only if the left one is false. -/
def disjunction (whole : String) (idle : Bool) : Nat → List Term → Run (Int × List Term)
  | 0, _ => badExpression whole "expecting primary"
  | fuel + 1, ts => do
    let (a, ts) ← conjunction whole idle fuel ts
    match ts with
    | .operator "||" :: rest => do
      let (b, ts) ← disjunction whole (idle || a != 0) fuel rest
      return (truth (a != 0 || b != 0), ts)
    | _ => return (a, ts)

/-- One of two values. -/
def conditional (whole : String) (idle : Bool) : Nat → List Term → Run (Int × List Term)
  | 0, _ => badExpression whole "expecting primary"
  | fuel + 1, ts => do
    let (a, ts) ← disjunction whole idle fuel ts
    match ts with
    | .operator "?" :: rest => do
      let (b, ts) ← assignment whole (idle || a == 0) fuel rest
      match ts with
      | .operator ":" :: rest => do
        let (c, ts) ← conditional whole (idle || a != 0) fuel rest
        return (if a != 0 then b else c, ts)
      | _ => badExpression whole "expecting ':'"
    | _ => return (a, ts)

/-- A value that may be assigned to a variable. -/
def assignment (whole : String) (idle : Bool) : Nat → List Term → Run (Int × List Term)
  | 0, _ => badExpression whole "expecting primary"
  | fuel + 1, ts => do
    match ts with
    | .variable name :: .operator op :: rest =>
      match assigning? op with
      | none => conditional whole idle fuel ts
      | some before => do
        let (n, ts) ← assignment whole idle fuel rest
        if idle then return (n, ts)
        else
          let n ← if before = "" then pure n
            else do
              let a ← variableInteger name
              combine whole before a n
          assign name (toString n)
          return (n, ts)
    | _ => conditional whole idle fuel ts

end

/-- The value of an expression. -/
def calculate (expression : String) : Run Int := do
  let ts := terms (expression.length + 1) expression.toList
  let (n, rest) ← assignment expression false (10 * ts.length + 10) ts
  match rest with
  | [] => return n
  | _ => badExpression expression "expecting EOF"

end CommandShell.Script
