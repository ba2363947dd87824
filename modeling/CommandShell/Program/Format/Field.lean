/-!
# Fields of formatted output

A field has a least width and is filled up on one of its sides.

* `Format.Layout`   : flags, width and precision of a field;
* `Layout.text`     : a text in its field;
* `Layout.signed`, `Layout.unsigned` : integers in their fields.

All texts are narrow.
-/

namespace CommandShell.Format

/-- Flags, width and precision of a field. -/
structure Layout where
  /-- The field is filled up on the right. -/
  left : Bool := false
  /-- Numbers are filled up with zeros. -/
  zero : Bool := false
  /-- Numbers that are not negative have a plus sign. -/
  plus : Bool := false
  /-- Numbers that are not negative have a blank. -/
  space : Bool := false
  /-- Numbers are written in their other form, which tells the base or keeps the point. -/
  alternate : Bool := false
  /-- The least number of characters. -/
  width : Nat := 0
  /-- The number of characters or digits. -/
  precision : Option Nat := none
  deriving DecidableEq, Repr

namespace Layout

/-- Fills a field up with blanks. -/
def pad (l : Layout) (cs : List Char) : List Char :=
  let fill := List.replicate (l.width - cs.length) ' '
  if l.left then cs ++ fill else fill ++ cs

/-- Fills a number up: blanks before its sign or behind it all, or zeros behind its sign. -/
def padNumber (l : Layout) (zeros : Bool) (sign digits : List Char) : List Char :=
  if zeros && l.zero && !l.left then
    sign ++ List.replicate (l.width - sign.length - digits.length) '0' ++ digits
  else l.pad (sign ++ digits)

/-- The sign of a number. -/
def sign (l : Layout) (negative : Bool) : List Char :=
  if negative then ['-'] else if l.plus then ['+'] else if l.space then [' '] else []

/-- A text in its field; the precision cuts it. -/
def text (l : Layout) (s : String) : String :=
  String.ofList (l.pad (match l.precision with
    | some n => s.toList.take n
    | none => s.toList))

/-- A character in its field. -/
def char (l : Layout) (c : Char) : String :=
  String.ofList (l.pad [c])

/-- Digits up to the precision; with a precision of zero, zero has none. -/
def digits (l : Layout) (base n : Nat) : List Char :=
  let ds := if n = 0 ∧ l.precision = some 0 then [] else Nat.toDigits base n
  List.replicate (l.precision.getD 0 - ds.length) '0' ++ ds

/-- A decimal integer in its field. -/
def signed (l : Layout) (n : Int) : String :=
  String.ofList
    (l.padNumber l.precision.isNone (l.sign (n < 0)) (l.digits 10 n.natAbs))

/-- An integer without a sign in its field, in the base of a letter. -/
def unsigned (l : Layout) (letter : Char) (n : Nat) : String :=
  if letter = 'o' then
    let ds := l.digits 8 n
    let ds := if l.alternate ∧ ds.head? ≠ some '0' then '0' :: ds else ds
    String.ofList (l.padNumber l.precision.isNone [] ds)
  else if letter = 'x' then
    let mark := if l.alternate ∧ n ≠ 0 then ['0', 'x'] else []
    String.ofList (l.padNumber l.precision.isNone mark (l.digits 16 n))
  else if letter = 'X' then
    let mark := if l.alternate ∧ n ≠ 0 then ['0', 'X'] else []
    String.ofList (l.padNumber l.precision.isNone mark ((l.digits 16 n).map Char.toUpper))
  else String.ofList (l.padNumber l.precision.isNone [] (l.digits 10 n))

end Layout

end CommandShell.Format
