import CommandShell.Program.Script.Pattern

/-!
# Scripts: fields

A word stands for fields.  What is replaced in it outside of quotes is divided at separators: blanks
among them count as one, and other ones count each.

* `Script.Glyph`, `Script.Stretch` : the characters of a word after everything is replaced;
* `Script.breakUp` : the fields of a word.
-/

namespace CommandShell.Script

/-- A character of a word after everything is replaced. -/
inductive Glyph where
  | char (c : Char) (quoted : Bool)
  /-- A quote began or ended here. -/
  | mark
  /-- Fields are divided here. -/
  | gap
  deriving DecidableEq, Repr

/-- How a stretch of characters is divided. -/
inductive Division where
  | whole
  | atSeparators
  | atGaps
  deriving DecidableEq, Repr

/-- A stretch of characters that were put in together. -/
structure Stretch where
  glyphs : List Glyph
  division : Division
  deriving DecidableEq, Repr

/-- The text of characters, without quotes. -/
def textOf (gs : List Glyph) : String :=
  String.ofList (gs.filterMap fun g => match g with
    | .char c _ => some c
    | _ => none)

/-- The characters that a pattern is compared with; a gap is a character of its own. -/
def codesOf (gs : List Glyph) : List Char :=
  gs.filterMap fun g => match g with
    | .char c _ => some c
    | .gap => some '\x00'
    | .mark => none

/-- Characters again, with gaps among them. -/
def glyphsOfCodes (quoted : Bool) (cs : List Char) : List Glyph :=
  cs.map fun c => if c = '\x00' then .gap else .char c quoted

/-- The pattern of characters. -/
def patternOfGlyphs (gs : List Glyph) : Pattern :=
  gs.filterMap fun g => match g with
    | .char c quoted => some (c, quoted)
    | _ => none

/-- All characters of some stretches. -/
def allGlyphs (ss : List Stretch) : List Glyph := ss.flatMap (·.glyphs)

/-- A text as characters. -/
def glyphsOf (quoted : Bool) (s : String) : List Glyph := s.toList.map (.char · quoted)

/-- Division under way. -/
structure Splitting where
  /-- Fields that are done, last one first. -/
  done : List (List Glyph) := []
  /-- The field under way, in reverse. -/
  current : List Glyph := []
  /-- A blank separator stands right before. -/
  afterBlank : Bool := false
  /-- The stretch before was divided at gaps, and the one under way is. -/
  afterGaps : Bool := false
  atGaps : Bool := false
  /-- How many fields may still be begun, if their number is bounded. -/
  left : Option Nat := none
  /-- The length of the last field without the separators at its end. -/
  cut : Option Nat := none

namespace Splitting

/-- Blanks that separate without a rule. -/
def isBlank (c : Char) : Bool := c == ' ' || c == '\t' || c == '\n'

/-- Adds a character to the field under way. -/
def add (s : Splitting) (g : Glyph) : Splitting := { s with current := g :: s.current }

/-- The last of a bounded number of fields: only separators at its end count. -/
def addLast (s : Splitting) (g : Glyph) (separates blank : Bool) : Splitting :=
  if blank then { s.add g with cut := some (s.cut.getD s.current.length) }
  else
    { s.add g with
      cut := if separates && s.afterBlank then s.cut else none
      afterBlank := false }

/-- A character that separates. -/
def separate (s : Splitting) (g : Glyph) (blank : Bool) : Splitting :=
  let s := if s.afterGaps || s.atGaps then s else { s with afterBlank := blank }
  if s.current.isEmpty && s.afterBlank then { s with afterBlank := false }
  else if s.left = some 1 then
    { s.add g with left := some 0, cut := some s.current.length }
  else
    { s with
      done := s.current.reverse :: s.done, current := [], left := s.left.map (· - 1) }

/-- One character of a stretch that is divided. -/
def step (separators : List Char) (s : Splitting) (g : Glyph) : Splitting :=
  let (separates, blank) :=
    match g with
    | .char c _ =>
      let separates := !s.atGaps && separators.contains c
      (separates, separates && isBlank c)
    | .gap => (true, true)
    | .mark => (false, false)
  if s.left = some 0 then s.addLast g separates blank
  else if s.afterBlank then
    let s := { s with current := [] }
    if blank then s
    else if separates then { s with afterBlank := false }
    else { s.add g with afterBlank := false }
  else if separates then s.separate g blank
  else { s.add g with afterBlank := false }

/-- A stretch. -/
def stretch (separators : List Char) (s : Splitting) (t : Stretch) : Splitting :=
  match t.division with
  | .whole => { s with current := t.glyphs.reverse ++ s.current }
  | division =>
    let s :=
      { s with afterGaps := s.atGaps, atGaps := division == .atGaps, afterBlank := false }
    t.glyphs.foldl (step separators) s

/-- The fields, once nothing follows. -/
def finish (s : Splitting) : List (List Glyph) :=
  let last := s.current.reverse
  let last := match s.cut with
    | some n => if s.atGaps then last else last.take n
    | none => last
  (if s.atGaps || !last.isEmpty then last :: s.done else s.done).reverse

end Splitting

/-- The fields of a word. -/
def breakUp (separators : List Char) (limit : Option Nat) (ss : List Stretch) :
    List (List Glyph) :=
  (ss.foldl (Splitting.stretch separators) { left := limit }).finish

end CommandShell.Script
