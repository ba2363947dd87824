import CommandShell.Program.Format.Field
import CommandShell.Program.Format.Number

/-!
# Floating point numbers

A finite number is `m * 2 ^ e` with a bounded `m` and `e`.  Decimal numbers are read as the nearest
such number, and such a number is written with as many correctly rounded digits as are asked for; a
tie goes to the even neighbour.

* `Format.Precision`    : the size of a number;
* `Format.readFloating` : the number at the front of a text;
* `Layout.floating`     : a number in its field.
-/

namespace CommandShell.Format

/-- The size of numbers: the bits of `m`, and the least and the greatest `e`. -/
structure Precision where
  bits : Nat
  least : Int
  greatest : Int
  deriving DecidableEq, Repr

/-- Numbers of 64 bits. -/
def Precision.double : Precision := ⟨53, -1074, 971⟩

/-- Numbers of 80 bits. -/
def Precision.extended : Precision := ⟨64, -16445, 16320⟩

/-- A floating point number. -/
inductive Floating where
  | notNumber (negative : Bool)
  | infinite (negative : Bool)
  | finite (negative : Bool) (m : Nat) (e : Int)
  deriving DecidableEq, Repr

/-- The quotient of two numbers, rounded; a tie goes to the even neighbour. -/
def roundDiv (num den : Nat) : Nat :=
  let q := num / den
  let twice := 2 * (num % den)
  if twice < den then q
  else if twice > den then q + 1
  else if q % 2 = 0 then q
  else q + 1

/-- A quotient scaled by a power of two, rounded. -/
def scaleDown (num den : Nat) (e : Int) : Nat :=
  if e < 0 then roundDiv (num * Nat.pow 2 e.natAbs) den
  else roundDiv num (den * Nat.pow 2 e.natAbs)

/-- Whether a quotient is below a power of two. -/
def isBelow (num den : Nat) (k : Int) : Bool :=
  if k < 0 then num * Nat.pow 2 k.natAbs < den else num < den * Nat.pow 2 k.natAbs

/-- The exponent of the first bit of a positive quotient. -/
def leadingBit (num den : Nat) : Int :=
  let k : Int := (Nat.log2 num : Int) - (Nat.log2 den : Int)
  if isBelow num den k then k - 1 else k

/-- The nearest number to a quotient, and whether the quotient is out of range. -/
def nearest (p : Precision) (negative : Bool) (num den : Nat) : Floating × Bool :=
  if num = 0 then (.finite negative 0 p.least, false)
  else
    let natural := leadingBit num den - (p.bits : Int) + 1
    let e := max natural p.least
    let m := scaleDown num den e
    let (m, e) := if m = Nat.pow 2 p.bits then (m / 2, e + 1) else (m, e)
    if e > p.greatest then (.infinite negative, true)
    else
      let exact := if e < 0 then m * den == num * Nat.pow 2 e.natAbs
        else m * Nat.pow 2 e.natAbs * den == num
      (.finite negative m e, natural < p.least && !exact)

/-! ## Reading -/

/-- Drops a word in letters of either case. -/
def dropWord (word : String) (cs : List Char) : Option (List Char) :=
  if (cs.take word.length).map Char.toLower = word.toList then some (cs.drop word.length) else none

/-- Digits with a point among them: the digits, how many stand behind the point, and what
follows. -/
def readPointed (base : Nat) (cs : List Char) : List Char × Nat × List Char :=
  let whole := digitsOf base cs
  match cs.drop whole.length with
  | '.' :: rest =>
    let part := digitsOf base rest
    if whole.isEmpty && part.isEmpty then ([], 0, cs)
    else (whole ++ part, part.length, rest.drop part.length)
  | rest => (whole, 0, rest)

/-- An exponent behind a letter, and what follows; without digits there is none. -/
def readExponent (letter : Char) (cs : List Char) : Int × List Char :=
  match cs with
  | c :: rest =>
    let (negative, rest) := readSign rest
    match isLetter c letter, digitsOf 10 rest with
    | true, d :: ds =>
      let n : Int := min (valueOf 10 (d :: ds)) 100000
      (if negative then -n else n, rest.drop (ds.length + 1))
    | _, _ => (0, cs)
  | [] => (0, [])

/-- The nearest number to `n * base ^ e`. Powers that are far out of range are cut. -/
def scaled (p : Precision) (negative : Bool) (n base : Nat) (e : Int) : Floating × Bool :=
  if n = 0 then nearest p negative 0 1
  else if e < 0 then nearest p negative n (Nat.pow base e.natAbs)
  else nearest p negative (n * Nat.pow base e.natAbs) 1

/-- The number behind a sign. -/
def readMagnitude (p : Precision) (negative : Bool) (cs : List Char) :
    Option (Reading Floating) :=
  match dropWord "infinity" cs, dropWord "inf" cs, dropWord "nan" cs, dropWord "0x" cs with
  | some rest, _, _, _ => some ⟨.infinite negative, rest, false⟩
  | none, some rest, _, _ => some ⟨.infinite negative, rest, false⟩
  | none, none, some rest, _ =>
    let rest :=
      match rest with
      | '(' :: more =>
        match more.dropWhile fun c => c.isAlphanum || c == '_' with
        | ')' :: after => after
        | _ => rest
      | _ => rest
    some ⟨.notNumber negative, rest, false⟩
  | none, none, none, some rest =>
    match readPointed 16 rest with
    | ([], _, _) => some ⟨.finite negative 0 p.least, cs.drop 1, false⟩
    | (ds, places, rest) =>
      let (e, rest) := readExponent 'p' rest
      let (value, out) := scaled p negative (valueOf 16 ds) 2 (e - 4 * (places : Int))
      some ⟨value, rest, out⟩
  | none, none, none, none =>
    match readPointed 10 cs with
    | ([], _, _) => none
    | (ds, places, rest) =>
      let (e, rest) := readExponent 'e' rest
      let (value, out) := scaled p negative (valueOf 10 ds) 10 (e - (places : Int))
      some ⟨value, rest, out⟩

/-- The number at the front of a text; without one it is zero. -/
def readFloating (p : Precision) (cs : List Char) : Reading Floating :=
  let (negative, rest) := readSign (cs.dropWhile isSpace)
  (readMagnitude p negative rest).getD ⟨.finite false 0 p.least, cs, false⟩

/-! ## Writing -/

/-- The nearest integer to `m * 2 ^ e * 10 ^ k`. -/
def scaledDecimal (m : Nat) (e k : Int) : Nat :=
  let up := fun (base : Nat) (x : Int) => if x < 0 then 1 else Nat.pow base x.natAbs
  let down := fun (base : Nat) (x : Int) => if x < 0 then Nat.pow base x.natAbs else 1
  roundDiv (m * up 2 e * up 10 k) (down 2 e * down 10 k)

/-- A point among digits, with `places` of them behind it; without any there is a point only where
it is `kept`. -/
def pointed (kept : Bool) (places : Nat) (ds : List Char) : List Char :=
  let ds := List.replicate (places + 1 - ds.length) '0' ++ ds
  let whole := ds.take (ds.length - places)
  let part := ds.drop (ds.length - places)
  if part.isEmpty then (if kept then whole ++ ['.'] else whole) else whole ++ '.' :: part

/-- A number with a fixed number of places. -/
def fixed (kept : Bool) (places m : Nat) (e : Int) : List Char :=
  pointed kept places (Nat.toDigits 10 (scaledDecimal m e places))

/-- Whether `m * 2 ^ e` is at least `10 ^ x`. -/
def reaches (m : Nat) (e x : Int) : Bool :=
  let up := fun (base : Nat) (y : Int) => if y < 0 then 1 else Nat.pow base y.natAbs
  let down := fun (base : Nat) (y : Int) => if y < 0 then Nat.pow base y.natAbs else 1
  m * up 2 e * down 10 x ≥ down 2 e * up 10 x

/-- The exponent of the first decimal digit of `m * 2 ^ e`, for a positive `m`, from a guess that
is at most one off. -/
def decimalExponent (m : Nat) (e : Int) : Int :=
  let bit : Int := (Nat.log2 m : Int) + e
  let guess := bit * 30103 / 100000
  if reaches m e (guess + 1) then guess + 1
  else if reaches m e guess then guess
  else guess - 1

/-- The digits of a number with `places` behind the first, and the exponent of the first. -/
def scientificDigits (places m : Nat) (e : Int) : List Char × Int :=
  if m = 0 then (List.replicate (places + 1) '0', 0)
  else
    let x := decimalExponent m e
    let ds := Nat.toDigits 10 (scaledDecimal m e ((places : Int) - x))
    if ds.length > places + 1 then (ds.take (places + 1), x + 1) else (ds, x)

/-- An exponent of at least two digits. -/
def exponentText (x : Int) : List Char :=
  let ds := Nat.toDigits 10 x.natAbs
  (if x < 0 then '-' else '+') :: (List.replicate (2 - ds.length) '0' ++ ds)

/-- A number with an exponent. -/
def scientific (kept : Bool) (places m : Nat) (e : Int) : List Char :=
  let (ds, x) := scientificDigits places m e
  pointed kept places ds ++ 'e' :: exponentText x

/-- Digits behind the point without the zeros at their end. -/
def dropZeros (cs : List Char) : List Char :=
  if cs.contains '.' then
    match cs.reverse.dropWhile (· == '0') with
    | '.' :: rest => rest.reverse
    | rest => rest.reverse
  else cs

/-- The shorter of the two forms, by the exponent. A number that only rounding takes beyond its
digits, as 999999.5 with six of them, has no places behind its one. -/
def general (kept : Bool) (precision m : Nat) (e : Int) : List Char :=
  let digits := max precision 1
  let (ds, x) := scientificDigits (digits - 1) m e
  if -4 ≤ x ∧ x < (digits : Int) then
    let cs := fixed kept ((digits : Int) - 1 - x).toNat m e
    if kept then cs else dropZeros cs
  else
    let places := if x = digits && !reaches m e digits then 0 else digits - 1
    let cs := pointed kept places (ds.take (places + 1))
    (if kept then cs else dropZeros cs) ++ 'e' :: exponentText x

/-- An exponent of two. -/
def binaryExponent (x : Int) : List Char :=
  'p' :: (if x < 0 then '-' else '+') :: Nat.toDigits 10 x.natAbs

/-- A number in base sixteen: the first digit has up to four bits, and the others fill up the rest.
With a precision they are rounded; a carry out of a full first digit makes the number shorter. -/
def hexadecimal (p : Precision) (kept : Bool) (precision : Option Nat) (m : Nat) (e : Int) :
    List Char :=
  let lead := (p.bits - 1) % 4 + 1
  let places := (p.bits - lead) / 4
  let x := e + (p.bits : Int) - (lead : Int)
  if m = 0 then pointed kept (precision.getD 0) ['0'] ++ ['p', '+', '0']
  else
    match precision with
    | none =>
      let cs := dropZeros (pointed false places (Nat.toDigits 16 m))
      (if kept && !cs.contains '.' then cs ++ ['.'] else cs) ++ binaryExponent x
    | some n =>
      if n ≥ places then
        pointed kept n (Nat.toDigits 16 m ++ List.replicate (n - places) '0') ++ binaryExponent x
      else
        let ds := Nat.toDigits 16 (roundDiv m (Nat.pow 16 (places - n)))
        if ds.length > n + 1 then
          pointed kept n (ds.take (n + 1)) ++ binaryExponent (x + 4)
        else pointed kept n ds ++ binaryExponent x

/-- The digits of a finite number in the form of a letter. -/
def finiteText (p : Precision) (l : Layout) (letter : Char) (m : Nat) (e : Int) : List Char :=
  let kept := l.alternate
  let precision := l.precision.getD 6
  if letter = 'f' then fixed kept precision m e
  else if letter = 'e' then scientific kept precision m e
  else if letter = 'g' then general kept precision m e
  else hexadecimal p kept l.precision m e

/-- A number in its field, in the form of a letter; capital letters give capitals. -/
def Layout.floating (l : Layout) (p : Precision) (letter : Char) (x : Floating) : String :=
  let form := letter.toLower
  let cased := fun (cs : List Char) => if letter.isUpper then cs.map Char.toUpper else cs
  match x with
  | .notNumber negative => String.ofList (l.pad (l.sign negative ++ cased "nan".toList))
  | .infinite negative => String.ofList (l.pad (l.sign negative ++ cased "inf".toList))
  | .finite negative m e =>
    let mark := if form = 'a' then cased ['0', 'x'] else []
    String.ofList
      (l.padNumber true (l.sign negative ++ mark) (cased (finiteText p l form m e)))

end CommandShell.Format
