/-!
# Lines

A line ends at a line feed; one carriage return right before the line feed belongs to the end of
the line, and a text that ends in a line feed has no further, empty line after it.  The rule is
the same for characters and for bytes, so `splitLines` is stated over any alphabet.

* `splitLines` : the lines of a list;
* `Text.lines` : the lines of a text;
* `Text.unlines` : every line followed by a line feed.
-/

namespace CommandShell

/-- Drops one carriage return from the end of a line that is held in reverse. -/
def chomp {α : Type} [DecidableEq α] (cr : α) : List α → List α
  | [] => []
  | a :: as => if a = cr then as else a :: as

/-- The lines of a list, with `held` the line read so far, in reverse. -/
def splitLinesFrom {α : Type} [DecidableEq α] (lf cr : α) : List α → List α → List (List α)
  | [], [] => []
  | held, [] => [held.reverse]
  | held, a :: as =>
    if a = lf then (chomp cr held).reverse :: splitLinesFrom lf cr [] as
    else splitLinesFrom lf cr (a :: held) as

/-- The lines of a list over an alphabet with a line feed and a carriage return. -/
def splitLines {α : Type} [DecidableEq α] (lf cr : α) (as : List α) : List (List α) :=
  splitLinesFrom lf cr [] as

namespace Text

/-- The lines of a text. -/
def lines (s : String) : List String :=
  (splitLines '\n' '\r' s.toList).map String.ofList

/-- Every line followed by a line feed. -/
def unlines (ls : List String) : String :=
  String.join (ls.map (· ++ "\n"))

end Text

end CommandShell
