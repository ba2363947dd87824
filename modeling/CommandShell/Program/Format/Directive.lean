import CommandShell.Program.Format.Field

/-!
# Directives of a format

A directive is a percent sign, flags, a width, a precision and a letter.  Width and precision may be
taken from the arguments.

* `Format.Directive`     : a directive;
* `Format.readDirective` : the directive behind a percent sign.
-/

namespace CommandShell.Format

/-- A width or a precision. -/
inductive Size where
  | absent
  | given (n : Nat)
  /-- It is the next argument. -/
  | argument
  deriving DecidableEq, Repr

/-- A directive, without its letter. -/
structure Directive where
  flags : List Char := []
  width : Size := .absent
  precision : Size := .absent
  deriving DecidableEq, Repr

/-- A number at the front, which may have no digits. -/
def readCount (cs : List Char) : Nat × List Char :=
  ((cs.takeWhile Char.isDigit).foldl (fun n c => n * 10 + (c.toNat - 48)) 0,
    cs.dropWhile Char.isDigit)

/-- A width at the front. -/
def readWidth : List Char → Size × List Char
  | '*' :: cs => (.argument, cs)
  | cs =>
    if (cs.head?.map Char.isDigit).getD false then
      let (n, rest) := readCount cs
      (.given n, rest)
    else (.absent, cs)

/-- A precision at the front. -/
def readPrecision : List Char → Size × List Char
  | '.' :: '*' :: cs => (.argument, cs)
  | '.' :: cs =>
    let (n, rest) := readCount cs
    (.given n, rest)
  | cs => (.absent, cs)

/-- The directive behind a percent sign, and what follows it: its letter, if there is one. -/
def readDirective (flags : List Char) (cs : List Char) : Directive × List Char :=
  let fs := cs.takeWhile flags.contains
  let (width, rest) := readWidth (cs.drop fs.length)
  let (precision, rest) := readPrecision rest
  (⟨fs, width, precision⟩, rest)

/-- The layout of a directive, with its width and precision settled; a negative width fills up on
the right, and a negative precision counts as none. -/
def Directive.layout (d : Directive) (width : Int) (precision : Option Int) : Layout where
  left := d.flags.contains '-' || width < 0
  zero := d.flags.contains '0'
  plus := d.flags.contains '+'
  space := d.flags.contains ' '
  alternate := d.flags.contains '#'
  width := width.natAbs
  precision := precision.bind fun n => if n < 0 then none else some n.toNat

end CommandShell.Format
