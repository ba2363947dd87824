import CommandShell.Source
import CommandShell.Text.Literal
import CommandShell.Word

/-!
# Tokens

A token is plain, or compound when it is made of further tokens: a quoted string with `{...}`
interpolations holds its literal pieces and its interpolations in order, and each interpolation
holds the tokens between its braces.

* `Token.describe` : the row that a token dump shows;
* `Token.toSource` : source text that reads as the same token.
-/

namespace CommandShell

/-- Kinds of tokens. -/
inductive Token.Kind where
  /-- A word, quoted or not. -/
  | string
  /-- One `{...}` inside a quoted string. -/
  | interpolation
  | dollar
  | semicolon
  | ampersand
  | pipe
  | leftAngle
  | rightAngle
  | doubleRightAngle
  | tripleRightAngle
  | leftParen
  | rightParen
  /-- The mark after the last token of a line. -/
  | endOfInput
  deriving DecidableEq, Repr

namespace Token.Kind

/-- The name of a kind in messages and dumps. -/
def name : Kind → String
  | string => "String"
  | interpolation => "StringInterpolation"
  | dollar => "Dollar"
  | semicolon => "Semicolon"
  | ampersand => "Ampersand"
  | pipe => "Pipe"
  | leftAngle => "LeftAngle"
  | rightAngle => "RightAngle"
  | doubleRightAngle => "DoubleRightAngle"
  | tripleRightAngle => "TripleRightAngle"
  | leftParen => "LeftParen"
  | rightParen => "RightParen"
  | endOfInput => "EndOfInput"

/-- The source text of punctuation; the other kinds have none. -/
def symbol : Kind → String
  | dollar => "$"
  | semicolon => ";"
  | ampersand => "&"
  | pipe => "|"
  | leftAngle => "<"
  | rightAngle => ">"
  | doubleRightAngle => ">>"
  | tripleRightAngle => ">>>"
  | leftParen => "("
  | rightParen => ")"
  | _ => ""

/-- A word or a `$`: what an argument begins with. -/
def startsValue : Kind → Bool
  | string | dollar => true
  | _ => false

end Token.Kind

/-- A token of the command language. -/
inductive Token where
  /-- A token without inner structure. -/
  | plain (kind : Token.Kind) (text : Option String) (quoted : Bool) (span : Span)
  /-- A token made of further tokens. -/
  | compound (kind : Token.Kind) (text : Option String) (quoted : Bool) (span : Span)
      (pieces : List Token)
  deriving Repr

instance : Inhabited Token := ⟨.plain .endOfInput none false .nowhere⟩

namespace Token

/-- The kind of a token. -/
def kind : Token → Kind
  | plain k _ _ _ => k
  | compound k _ _ _ _ => k

/-- The literal text of a token, if it has one. -/
def text : Token → Option String
  | plain _ t _ _ => t
  | compound _ t _ _ _ => t

/-- Whether a word was written in quotes. -/
def quoted : Token → Bool
  | plain _ _ q _ => q
  | compound _ _ q _ _ => q

/-- Where a token stands. -/
def span : Token → Span
  | plain _ _ _ s => s
  | compound _ _ _ s _ => s

/-- The tokens that a compound token is made of. -/
def pieces : Token → Option (List Token)
  | plain _ _ _ _ => none
  | compound _ _ _ _ ps => some ps

/-- The text of a token, where no text counts as the empty one. -/
def literal (t : Token) : String :=
  t.text.getD ""

/-- A string with interpolations. -/
def isInterpolated (t : Token) : Bool :=
  t.kind == .string && t.pieces.isSome

/-- A text filled up with spaces to a width of twenty. -/
def column (s : String) : String :=
  s ++ String.ofList (List.replicate (20 - s.length) ' ')

/-- The row of a token dump: kind, place, text and number of pieces. -/
def describe (t : Token) : String :=
  column t.kind.name ++ " " ++ toString t.span.start.line ++ ":" ++ toString t.span.start.column ++
    (match t.text with
      | some s => " " ++ Text.literal s
      | none => "") ++
    (match t.pieces with
      | some ps => " [" ++ toString ps.length ++ " pieces]"
      | none => "")

mutual

/-- Source text that reads as the token again. -/
def toSource : Token → String
  | plain .string text quoted _ =>
    if quoted then Word.quote (text.getD "") else text.getD ""
  | compound .string _ _ _ ps => "\"" ++ piecesSource ps ++ "\""
  | plain .interpolation _ _ _ => "\x7b\x7d"
  | compound .interpolation _ _ _ ps => "\x7b" ++ " ".intercalate (innerSources ps) ++ "\x7d"
  | plain k _ _ _ => k.symbol
  | compound k _ _ _ _ => k.symbol

/-- The pieces of a quoted string as they stand between its quotes. -/
def piecesSource : List Token → String
  | [] => ""
  | p :: ps =>
    (if p.kind = .string then Word.escapeQuoted p.literal else p.toSource) ++ piecesSource ps

/-- The sources of the tokens between two braces, without the end mark. -/
def innerSources : List Token → List String
  | [] => []
  | t :: ts => if t.kind = .endOfInput then innerSources ts else t.toSource :: innerSources ts

end

end Token

end CommandShell
