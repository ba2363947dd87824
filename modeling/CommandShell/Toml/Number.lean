import CommandShell.Text.Hex
import CommandShell.Toml.Value

/-!
# TOML: numbers, dates and times

* `Toml.readNumber?`   : an integer, or a number with a fraction or an exponent;
* `Toml.readDateTime?` : a date, a time or both.

Integers are those of 64 bits.  A positive number that is beyond the largest double is refused.
-/

namespace CommandShell.Toml

/-- Decimal digits. -/
def isDigit (c : Char) : Bool := '0' ≤ c && c ≤ '9'

/-- Digits with single underscores between them, the first of which is read already. -/
def moreDigits (p : Char → Bool) : List Char → List Char × List Char
  | [] => ([], [])
  | '_' :: c :: rest =>
    if p c then
      let (ds, rest') := moreDigits p rest
      (c :: ds, rest')
    else ([], '_' :: c :: rest)
  | c :: rest =>
    if p c then
      let (ds, rest') := moreDigits p rest
      (c :: ds, rest')
    else ([], c :: rest)

/-- At least one digit, with single underscores between digits. -/
def readDigits? (p : Char → Bool) : List Char → Option (List Char × List Char)
  | [] => none
  | c :: rest =>
    if p c then
      let (ds, rest') := moreDigits p rest
      some (c :: ds, rest')
    else none

/-- A sign, where one stands. -/
def readSign : List Char → Bool × List Char
  | '-' :: rest => (true, rest)
  | '+' :: rest => (false, rest)
  | cs => (false, cs)

/-- Decimal digits without a zero before other digits. -/
def readWhole? : List Char → Option (List Char × List Char)
  | '0' :: rest => some (['0'], rest)
  | cs => readDigits? isDigit cs

/-- The number that decimal digits stand for. -/
def decimal (ds : List Char) : Nat :=
  ds.foldl (fun n c => n * 10 + (c.toNat - 48)) 0

/-- The number that digits in a base stand for. -/
def inBase (base : Nat) (ds : List Char) : Nat :=
  ds.foldl (fun n c => n * base + (Hex.value? c).getD 0) 0

/-- Integers of 64 bits. -/
def int64? (n : Int) : Option Int :=
  if -9223372036854775808 ≤ n ∧ n < 9223372036854775808 then some n else none

/-- Reads digits in a base behind its mark. -/
def readBased? (base : Nat) (p : Char → Bool) (cs : List Char) : Option (Value × List Char) :=
  match readDigits? p cs with
  | none => none
  | some (ds, rest) => (int64? (inBase base ds)).map fun n => (.integer n, rest)

/-- Reads an integer. -/
def readInteger? : List Char → Option (Value × List Char)
  | '0' :: 'x' :: rest => readBased? 16 (fun c => (Hex.value? c).isSome) rest
  | '0' :: 'o' :: rest => readBased? 8 (fun c => '0' ≤ c && c ≤ '7') rest
  | '0' :: 'b' :: rest => readBased? 2 (fun c => c == '0' || c == '1') rest
  | cs =>
    let (negative, cs) := readSign cs
    match readWhole? cs with
    | none => none
    | some (ds, rest) =>
      let n : Int := decimal ds
      (int64? (if negative then -n else n)).map fun n => (.integer n, rest)

/-- Reads a dot and digits. -/
def readFraction? : List Char → Option (List Char × List Char)
  | '.' :: rest => readDigits? isDigit rest
  | _ => none

/-- Reads an exponent. -/
def readExponent? : List Char → Option (Int × List Char)
  | c :: rest =>
    if c = 'e' ∨ c = 'E' then
      let (negative, rest) := readSign rest
      (readDigits? isDigit rest).map fun (ds, rest) =>
        let n : Int := decimal ds
        (if negative then -n else n, rest)
    else none
  | [] => none

/-- Half a step above the largest double: numbers from here on have no double. -/
def doubleLimit : Nat := Nat.pow 2 1024 - Nat.pow 2 970

/-- Whether `digits`, as an integer times a power of ten, is beyond the doubles. -/
def isHuge (digits : List Char) (power : Int) : Bool :=
  let significant := digits.dropWhile (· == '0')
  let n := decimal significant
  let size : Int := significant.length + power
  if n = 0 then false
  else if size > 309 then true
  else if size < 309 then false
  else if 0 ≤ power then n * Nat.pow 10 power.toNat ≥ doubleLimit
  else n ≥ doubleLimit * Nat.pow 10 (-power).toNat

/-- The text that was taken off the front of `cs` where `rest` is left. -/
def taken (cs rest : List Char) : String :=
  String.ofList (cs.take (cs.length - rest.length))

/-- Reads a number with a fraction or an exponent. -/
def readFloat? (cs : List Char) : Option (Value × List Char) :=
  let (negative, unsigned) := readSign cs
  match unsigned with
  | 'i' :: 'n' :: 'f' :: rest => some (.float (taken cs rest), rest)
  | 'n' :: 'a' :: 'n' :: rest => some (.float (taken cs rest), rest)
  | _ =>
    match readWhole? unsigned with
    | none => none
    | some (whole, rest) =>
      let parts : Option (List Char × Int × List Char) :=
        match readExponent? rest, readFraction? rest with
        | some (e, rest), _ => some ([], e, rest)
        | none, some (fraction, rest) =>
          match readExponent? rest with
          | some (e, rest) => some (fraction, e, rest)
          | none => some (fraction, 0, rest)
        | none, none => none
      match parts with
      | none => none
      | some (fraction, e, rest) =>
        if !negative && isHuge (whole ++ fraction) (e - fraction.length) then none
        else some (.float (taken cs rest), rest)

/-- Reads a number. -/
def readNumber? (cs : List Char) : Option (Value × List Char) :=
  match readFloat? cs with
  | some r => some r
  | none => readInteger? cs

/-! ## Dates and times -/

/-- Reads exactly `n` digits. -/
def readFixed? (n : Nat) (cs : List Char) : Option (Nat × List Char) :=
  let ds := cs.take n
  if ds.length = n ∧ ds.all isDigit then some (decimal ds, cs.drop n) else none

/-- Reads one given character. -/
def readMark? (c : Char) : List Char → Option (List Char)
  | d :: rest => if c = d then some rest else none
  | [] => none

/-- A year with a 29th of February. -/
def isLeap (year : Nat) : Bool :=
  year % 4 == 0 && (year % 100 != 0 || year % 400 == 0)

/-- The number of days of a month. -/
def daysOf (year month : Nat) : Nat :=
  if month = 2 then (if isLeap year then 29 else 28)
  else if month = 4 ∨ month = 6 ∨ month = 9 ∨ month = 11 then 30
  else 31

/-- Reads a date. -/
def readDate? (cs : List Char) : Option (List Char × List Char) := do
  let (year, rest) ← readFixed? 4 cs
  let rest ← readMark? '-' rest
  let (month, rest) ← readFixed? 2 rest
  let rest ← readMark? '-' rest
  let (day, rest) ← readFixed? 2 rest
  if 1 ≤ month ∧ month ≤ 12 ∧ 1 ≤ day ∧ day ≤ daysOf year month then some (cs.take 10, rest)
  else none

/-- The part of a second: nine digits at most, and no zero at the end. -/
def secondPart (ds : List Char) : List Char :=
  match ((ds.take 9).reverse.dropWhile (· == '0')).reverse with
  | [] => []
  | ds => '.' :: ds

/-- Reads the part of a second, where one stands. -/
def readSecondPart : List Char → List Char × List Char
  | '.' :: c :: rest =>
    if isDigit c then (secondPart (c :: rest.takeWhile isDigit), rest.dropWhile isDigit)
    else ([], '.' :: c :: rest)
  | cs => ([], cs)

/-- Reads a time of day. -/
def readTime? (cs : List Char) : Option (List Char × List Char) := do
  let (hour, rest) ← readFixed? 2 cs
  let rest ← readMark? ':' rest
  let (minute, rest) ← readFixed? 2 rest
  let rest ← readMark? ':' rest
  let (second, rest) ← readFixed? 2 rest
  if hour ≤ 23 ∧ minute ≤ 59 ∧ second ≤ 60 then
    let (part, rest) := readSecondPart rest
    some (cs.take 8 ++ part, rest)
  else none

/-- Reads the distance from universal time. A distance of nothing is written with a plus sign. -/
def readOffset? : List Char → Option (List Char × List Char)
  | [] => none
  | c :: cs =>
    if c = 'Z' ∨ c = 'z' then some (['Z'], cs)
    else if c = '+' ∨ c = '-' then do
      let (hour, rest) ← readFixed? 2 cs
      let rest ← readMark? ':' rest
      let (minute, rest) ← readFixed? 2 rest
      if hour ≤ 23 ∧ minute ≤ 59 then
        some ((if hour = 0 ∧ minute = 0 then '+' else c) :: cs.take 5, rest)
      else none
    else none

/-- Reads the time that may follow a date. -/
def readTimePart (cs : List Char) : List Char × List Char :=
  match cs with
  | c :: rest =>
    if c = 'T' ∨ c = 't' ∨ c = ' ' then
      match readTime? rest with
      | some (time, rest) =>
        match readOffset? rest with
        | some (offset, rest) => ('T' :: time ++ offset, rest)
        | none => ('T' :: time, rest)
      | none => ([], cs)
    else ([], cs)
  | [] => ([], [])

/-- Reads a date, a time or both, into the form that has a `T` between them. -/
def readDateTime? (cs : List Char) : Option (Value × List Char) :=
  match readDate? cs with
  | some (date, rest) =>
    let (time, rest) := readTimePart rest
    some (.datetime (String.ofList (date ++ time)), rest)
  | none => (readTime? cs).map fun (time, rest) => (.datetime (String.ofList time), rest)

end CommandShell.Toml
