import CommandShell.Text.Hex

/-!
# Escapes

What stands behind a backslash, in the ways of different programs.

* `Format.Escapes`    : which escapes there are;
* `Format.readEscape` : the escape behind a backslash;
* `Format.unescape`   : a text with its escapes replaced.

All texts are narrow.
-/

namespace CommandShell.Format

/-- Which escapes there are. -/
structure Escapes where
  /-- Letters that stand for a character. -/
  letters : List (Char × Char)
  /-- A zero before octal digits does not count as one of the three. -/
  leadingZero : Bool := false
  /-- `\x` and up to two digits stand for a byte. -/
  hex : Bool := false
  /-- `\u` and `\U` stand for characters by code; missing digits are a fault. -/
  strict : Bool := false
  /-- `\c` ends all printing. -/
  stops : Bool := false
  /-- Behind a backslash that begins no escape, the next character is taken along. -/
  takesNext : Bool := true

/-- What an escape stands for. -/
inductive Escape where
  | chars (cs : List Char)
  /-- All printing ends. -/
  | stop
  | fault (message : String)
  deriving DecidableEq, Repr

/-- The letters that every kind of escapes has. -/
def commonLetters : List (Char × Char) :=
  [('a', '\x07'), ('b', '\x08'), ('f', '\x0c'), ('n', '\n'), ('r', '\r'), ('t', '\t'),
    ('v', '\x0b'), ('\\', '\\')]

/-- Whether a character is an octal digit. -/
def isOctal (c : Char) : Bool := '0' ≤ c && c ≤ '7'

/-- Up to three octal digits as a byte, and what follows. -/
def readOctal (cs : List Char) : Char × List Char :=
  let ds := (cs.take 3).takeWhile isOctal
  (Char.ofNat (ds.foldl (fun n c => n * 8 + (c.toNat - 48)) 0 % 256), cs.drop ds.length)

/-- A code as digits, filled up with zeros. -/
def codeDigits (width n : Nat) : List Char :=
  let ds := Nat.toDigits 16 n
  List.replicate (width - ds.length) '0' ++ ds

/-- Codes that stand for no character. -/
def isRefused (n : Nat) : Bool := 0xD800 ≤ n && n ≤ 0xDFFF

/-- The character of a code behind `letter`: ASCII as it is, and any other as an escape. -/
def wideEscape (letter : Char) (width n : Nat) : Escape :=
  if isRefused n then
    .fault (String.ofList ("invalid universal character name \\".toList ++
      letter :: codeDigits width n))
  else if n < 0x80 then .chars [Char.ofNat n]
  else if n < 0x10000 then .chars ('\\' :: 'u' :: (codeDigits 4 n).map Char.toUpper)
  else .chars ('\\' :: 'U' :: (codeDigits 8 n).map Char.toUpper)

/-- The fault of an escape without digits. -/
def missingDigits : Escape := .fault "missing hexadecimal number in escape"

/-- Reads a code of a fixed number of digits. -/
def readWide (letter : Char) (width : Nat) (cs : List Char) : Escape × List Char :=
  let ds := (cs.take width).takeWhile fun c => (Hex.value? c).isSome
  if ds.length < width then (missingDigits, cs)
  else (wideEscape letter width ((Hex.number? ds).getD 0), cs.drop width)

/-- Reads up to two hexadecimal digits behind `\x`. -/
def readHex (style : Escapes) (cs : List Char) : Escape × List Char :=
  match (cs.take 2).takeWhile fun c => (Hex.value? c).isSome with
  | [] => (if style.strict then missingDigits else .chars ['\\', 'x'], cs)
  | ds => (.chars [Char.ofNat ((Hex.number? ds).getD 0)], cs.drop ds.length)

/-- Reads what stands behind a backslash. -/
def readEscape (style : Escapes) : List Char → Escape × List Char
  | [] => (.chars ['\\'], [])
  | c :: cs =>
    if isOctal c then
      let (b, rest) := readOctal (if style.leadingZero && c == '0' then cs else c :: cs)
      (.chars [b], rest)
    else
      match style.letters.lookup c with
      | some d => (.chars [d], cs)
      | none =>
        if c = 'c' ∧ style.stops then (.stop, cs)
        else if c = 'x' ∧ style.hex then readHex style cs
        else if c = 'u' ∧ style.strict then readWide 'u' 4 cs
        else if c = 'U' ∧ style.strict then readWide 'U' 8 cs
        else if style.takesNext then (.chars ['\\', c], cs)
        else (.chars ['\\'], c :: cs)

/-- How a text with escapes ends. -/
inductive Ending where
  | open
  | stopped
  | faulty (message : String)
  deriving DecidableEq, Repr

/-- A text with its escapes replaced; `fuel` bounds the number of characters. -/
def unescapeFrom (style : Escapes) : Nat → List Char → List Char × Ending
  | 0, _ => ([], .open)
  | _, [] => ([], .open)
  | fuel + 1, c :: cs =>
    if c = '\\' then
      match readEscape style cs with
      | (.stop, _) => ([], .stopped)
      | (.fault message, _) => ([], .faulty message)
      | (.chars text, rest) =>
        let (more, ending) := unescapeFrom style fuel rest
        (text ++ more, ending)
    else
      let (more, ending) := unescapeFrom style fuel cs
      (c :: more, ending)

/-- A text with its escapes replaced, and how it ends. -/
def unescape (style : Escapes) (s : String) : String × Ending :=
  let (cs, ending) := unescapeFrom style (s.toList.length + 1) s.toList
  (String.ofList cs, ending)

end CommandShell.Format
