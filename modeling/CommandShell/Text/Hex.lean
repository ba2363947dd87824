/-!
# Hexadecimal digits

* `Hex.digit`, `Hex.digits` : numbers in base sixteen, in lower case;
* `Hex.value?`, `Hex.number?` : the numbers that digits of either case stand for.
-/

namespace CommandShell.Hex

/-- A number below sixteen as a digit. -/
def digit (n : Nat) : Char :=
  if n < 10 then Char.ofNat (48 + n) else Char.ofNat (87 + n)

/-- The digits of a number. -/
def digits (n : Nat) : List Char :=
  Nat.toDigits 16 n

/-- The number that a digit stands for. -/
def value? (c : Char) : Option Nat :=
  if '0' ≤ c ∧ c ≤ '9' then some (c.toNat - 48)
  else if 'a' ≤ c ∧ c ≤ 'f' then some (c.toNat - 87)
  else if 'A' ≤ c ∧ c ≤ 'F' then some (c.toNat - 55)
  else none

/-- The number that digits stand for, with `n` the number of the digits before them. -/
def numberFrom? : Nat → List Char → Option Nat
  | n, [] => some n
  | n, c :: cs =>
    match value? c with
    | some d => numberFrom? (n * 16 + d) cs
    | none => none

/-- The number that digits stand for. -/
def number? (cs : List Char) : Option Nat := numberFrom? 0 cs

end CommandShell.Hex
