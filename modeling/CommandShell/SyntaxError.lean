import CommandShell.Token.Basic
import CommandShell.Text.Lines

/-!
# Syntax errors

A line that cannot be read is refused as a whole.  The error says what went wrong and where.

* `SyntaxError.message` : the wording of each cause;
* `SyntaxError.describe` : the wording with its place;
* `Caret.render` : the source row with a mark under the place.
-/

namespace CommandShell

/-- Why a line cannot be read. -/
inductive SyntaxError.Cause where
  /-- A character that begins no token. -/
  | unexpectedCharacter (c : Char)
  /-- A quote that is never closed. -/
  | unterminatedString
  /-- A brace inside quotes that is never closed. -/
  | unterminatedInterpolation
  /-- There are no tokens at all, not even an end mark. -/
  | noTokens
  /-- A token of one kind where only another kind may stand. -/
  | unexpectedToken (found expected : Token.Kind)
  /-- A token that begins no statement where one has to begin. -/
  | expectedSegment (found : Token.Kind)
  /-- A string without a plain text in the place of a variable's name. -/
  | interpolatedName
  /-- A node of another kind in the place of a device. -/
  | unexpectedDevice (found : String)
  deriving DecidableEq, Repr

/-- A line that cannot be read: the cause and the place. -/
structure SyntaxError where
  /-- What went wrong. -/
  cause : SyntaxError.Cause
  /-- Where. -/
  span : Span
  deriving DecidableEq, Repr

namespace SyntaxError

/-- A number in base sixteen with at least four digits, in upper case. -/
def hexCode (n : Nat) : String :=
  let digits := Text.upper (String.ofList (Hex.digits n))
  String.ofList (List.replicate (4 - digits.length) '0') ++ digits

/-- The wording of a cause. -/
def Cause.message : Cause → String
  | unexpectedCharacter c =>
    "Unexpected character '" ++ Text.literalChar c ++ "' (0x" ++ hexCode c.toNat ++ ")"
  | unterminatedString => "Unexpected end of input when processing string"
  | unterminatedInterpolation => "Unexpected end of input when processing string interpolation"
  | noTokens => "Unexpected end of token stream"
  | unexpectedToken found expected =>
    "Unexpected token " ++ found.name ++ ", expecting " ++ expected.name
  | expectedSegment found => "Expecting shell segment, found " ++ found.name
  | interpolatedName => "Unexpected interpolated string, expecting a variable name"
  | unexpectedDevice found =>
    "Unexpected " ++ found ++
      ", expecting one of: CommandInterpolation, StringInterpolation, Text, Variable"

/-- The wording of an error. -/
def message (e : SyntaxError) : String := e.cause.message

/-- A message with the line and the column it is about. -/
def located (span : Span) (message : String) : String :=
  toString span.start.line ++ ":" ++ toString span.start.column ++ ": " ++ message

/-- The wording of an error with its line and column. -/
def describe (e : SyntaxError) : String := located e.span e.message

end SyntaxError

namespace Caret

/-- The row of a source that a location stands in. -/
def sourceRow (source : String) (l : Location) : String :=
  ((Text.lines source)[l.line - 1]?).getD ""

/-- The row under the source: a mark in the column of the span, a rule along its length and the
message. -/
def markRow (span : Span) (message : String) : String :=
  String.ofList (List.replicate (span.start.column - 1) ' ') ++ "^" ++
    String.ofList (List.replicate span.length '─') ++ "┘ " ++ message

/-- A source row with a mark under the place that a message is about. -/
def render (source : String) (span : Span) (message : String) : String :=
  sourceRow source span.start ++ "\n" ++ markRow span message

end Caret

/-- A source row with a mark under the place of an error. -/
def SyntaxError.render (source : String) (e : SyntaxError) : String :=
  Caret.render source e.span e.message

end CommandShell
