import CommandShell.Text.Hex

/-!
# Numbers at the front of a text

* `Format.readInteger` : an integer with its base;
* `Format.Reading`     : a value, what follows it, and whether it was out of range;
* `Format.readSigned`, `Format.readUnsigned` : integers of 64 bits.
-/

namespace CommandShell.Format

/-- Blanks before a number. -/
def isSpace (c : Char) : Bool := c == ' ' || (9 ≤ c.toNat && c.toNat ≤ 13)

/-- A sign at the front, and what follows it. -/
def readSign : List Char → Bool × List Char
  | '-' :: cs => (true, cs)
  | '+' :: cs => (false, cs)
  | cs => (false, cs)

/-- The digits at the front in a base up to sixteen. -/
def digitsOf (base : Nat) (cs : List Char) : List Char :=
  cs.takeWhile fun c => (Hex.value? c).any (· < base)

/-- The number of digits in a base. -/
def valueOf (base : Nat) (ds : List Char) : Nat :=
  ds.foldl (fun n c => n * base + (Hex.value? c).getD 0) 0

/-- Whether a letter stands for another one of either case. -/
def isLetter (c : Char) (lower : Char) : Bool := c.toLower == lower

/-- The base that is written before a number, and what follows it. Without a digit behind it, the
zero is the number. -/
def readBase : List Char → Nat × List Char
  | '0' :: x :: d :: cs =>
    if isLetter x 'x' && (Hex.value? d).isSome then (16, d :: cs)
    else if isLetter x 'b' && (d == '0' || d == '1') then (2, d :: cs)
    else (8, '0' :: x :: d :: cs)
  | '0' :: cs => (8, '0' :: cs)
  | cs => (10, cs)

/-- An integer at the front of a text: its sign, its magnitude and what follows it. -/
def readInteger? (anyBase : Bool) (cs : List Char) : Option (Bool × Nat × List Char) :=
  let (negative, rest) := readSign (cs.dropWhile isSpace)
  let (base, rest) := if anyBase then readBase rest else (10, rest)
  match digitsOf base rest with
  | [] => none
  | ds => some (negative, valueOf base ds, rest.drop ds.length)

/-- A value at the front of a text. -/
structure Reading (α : Type) where
  value : α
  /-- What follows. -/
  rest : List Char
  /-- The text stands for a value that is too large or too small. -/
  outOfRange : Bool := false

/-- The largest integer of 64 bits with a sign. -/
def maxSigned : Nat := 9223372036854775807

/-- The largest integer of 64 bits without a sign. -/
def maxUnsigned : Nat := 18446744073709551615

/-- An integer of 64 bits; one out of range is the nearest of them, and no integer at all is
zero. -/
def readSigned (anyBase : Bool) (cs : List Char) : Reading Int :=
  match readInteger? anyBase cs with
  | none => ⟨0, cs, false⟩
  | some (true, n, rest) =>
    if n ≤ maxSigned + 1 then ⟨-(n : Int), rest, false⟩ else ⟨-(maxSigned : Int) - 1, rest, true⟩
  | some (false, n, rest) =>
    if n ≤ maxSigned then ⟨n, rest, false⟩ else ⟨maxSigned, rest, true⟩

/-- An integer of 64 bits without a sign; a negative one counts from the end of the range. -/
def readUnsigned (cs : List Char) : Reading Nat :=
  match readInteger? true cs with
  | none => ⟨0, cs, false⟩
  | some (negative, n, rest) =>
    if n ≤ maxUnsigned then
      ⟨if negative then (maxUnsigned + 1 - n) % (maxUnsigned + 1) else n, rest, false⟩
    else ⟨maxUnsigned, rest, true⟩

end CommandShell.Format
