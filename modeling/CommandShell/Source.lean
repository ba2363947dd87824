/-!
# Places in a source text

* `Location` : a point, by offset, line and column;
* `Span`     : a stretch between two points.

Offsets count characters from zero; lines and columns count from one.
-/

namespace CommandShell

/-- A point in a source text. -/
structure Location where
  /-- Characters before the point. -/
  offset : Nat
  /-- The line, from one. -/
  line : Nat
  /-- The column, from one. -/
  column : Nat
  deriving DecidableEq, Repr

namespace Location

/-- The point before the first character. -/
def start : Location := ⟨0, 1, 1⟩

/-- The point after the character `c`. -/
def advance (l : Location) (c : Char) : Location :=
  if c = '\n' then ⟨l.offset + 1, l.line + 1, 1⟩
  else ⟨l.offset + 1, l.line, l.column + 1⟩

/-- The point after several characters. -/
def advanceAll (l : Location) (cs : List Char) : Location :=
  cs.foldl advance l

end Location

/-- A stretch of a source text. -/
structure Span where
  /-- Where it begins. -/
  start : Location
  /-- The point after its last character. -/
  stop : Location
  deriving DecidableEq, Repr

namespace Span

/-- The empty stretch at a point. -/
def point (l : Location) : Span := ⟨l, l⟩

/-- The stretch of something that stands in no source. -/
def nowhere : Span := point ⟨0, 0, 0⟩

/-- The number of characters of a stretch. -/
def length (s : Span) : Nat := s.stop.offset - s.start.offset

/-- A stretch without characters. -/
def isEmpty (s : Span) : Bool := s.length == 0

end Span

end CommandShell
