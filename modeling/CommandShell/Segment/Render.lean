import CommandShell.Segment.Basic
import CommandShell.Word

/-!
# Segments as source text

`Segment.render` writes a tree as a line that reads as the tree again.  A child that would bind
otherwise than its place asks for is wrapped in `$( ... )`.
-/

namespace CommandShell.Segment

/-- The name of a variable with its scope before it. -/
def variableName : Option String → String → String
  | some scope, name => scope ++ ":" ++ name
  | none, name => name

/-- The operator between the sides of a sequence. -/
def joint : Bool → String
  | true => " & "
  | false => " ; "

/-- Source text between `$(` and `)`. -/
def wrap (source : String) : String := "$(" ++ source ++ ")"

/-- Source text that is wrapped where asked for. -/
def wrapIf (b : Bool) (source : String) : String := if b then wrap source else source

mutual

/-- A tree as source text, for a place that takes a whole line or, with `word`, for a place that
takes one word: the head of a command, an argument or a device. -/
def renderAs (word : Bool) : Segment → String
  | bare head => wrapIf word (renderAs true head)
  | command head args => wrapIf word (renderAs true head ++ renderArgs args)
  | pipe left right =>
    wrapIf word (wrapIf (left.precedence < 2) (renderAs false left) ++ " | " ++
      wrapIf (right.precedence ≤ 2) (renderAs false right))
  | redirect left device mode =>
    wrapIf word (wrapIf (left.precedence < 2) (renderAs false left) ++ " " ++ mode.operator ++
      " " ++ renderAs true device)
  | sequence left right stop =>
    wrapIf word (wrapIf (left.precedence < 1) (renderAs false left) ++ joint stop ++
      wrapIf (right.precedence ≤ 1) (renderAs false right))
  | text value => if word then Word.escape value else Word.quote value
  | reference scope name => "$" ++ Word.escape (variableName scope name)
  | interpolation parts => "\"" ++ renderParts true parts ++ "\""
  | substitution inner => wrap (renderAs false inner)

/-- Arguments, each after a space. -/
def renderArgs : List Segment → String
  | [] => ""
  | a :: as => " " ++ renderAs true a ++ renderArgs as

/-- The parts of an interpolated string between its quotes; on every other turn, the first
included, a text is literal. -/
def renderParts : Bool → List Segment → String
  | _, [] => ""
  | true, text value :: ps => Word.escapeQuoted value ++ renderParts false ps
  | literal, p :: ps => "\x7b" ++ renderAs false p ++ "\x7d" ++ renderParts (!literal) ps

end

/-- A tree as source text. -/
def render (s : Segment) : String := renderAs false s

end CommandShell.Segment
