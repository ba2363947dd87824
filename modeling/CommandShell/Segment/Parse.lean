import CommandShell.Segment.Basic
import CommandShell.Text.Split
import CommandShell.Token.Scan

/-!
# Reading segments

Tokens are taken one at a time.  The state holds, for the line itself and for each `$(` that is
still open, what the tokens so far have built: the statements before a `;` or `&`, the left side of
a pipe or redirection, and the operand under way.  An operator ends the operand before it and
binds it to what stands to its left, so operators of one strength group to the left, and a pipe or
a redirection binds tighter than a sequence.

* `Parse.State.shift` : the state after one more token;
* `Parse.run`         : the tree of a list of tokens with an end mark;
* `Segment.ofTokens`, `Segment.ofLine` : the tree of tokens and of a line.

A token that fits no line after the tokens before it is refused at once, so an error stands at the
first token that cannot be right.
-/

namespace CommandShell

namespace Parse

/-- An operator that waits for its right operand. -/
inductive Link where
  | pipe
  | redirect (mode : RedirectMode)
  deriving DecidableEq, Repr

/-- Binds two operands with an operator. -/
def Link.bind (left : Segment) : Link → Segment → Segment
  | pipe, right => .pipe left right
  | redirect mode, device => .redirect left device mode

/-- The operand under way. -/
inductive Focus where
  /-- An operand has to begin. -/
  | vacant
  /-- A `$` was read where an operand begins, at this place. -/
  | sigil (start : Span)
  /-- The first word of a command, or a string with interpolations. -/
  | word (head : Segment) (interpolated : Bool)
  /-- A command with at least one argument. -/
  | command (head : Segment) (args : List Segment)
  /-- A command, and a `$` where its next argument begins. -/
  | argument (head : Segment) (args : List Segment)
  /-- An operand that takes no more words. -/
  | closed (operand : Segment)

/-- What is read of the line, or of the inside of one `$( ... )`. -/
structure Level where
  /-- The statements before the last `;` or `&`, and whether it was `&`. -/
  joined : Option (Segment × Bool)
  /-- The left side of the last `|` or redirection of the statement. -/
  linked : Option (Segment × Link)
  /-- The operand under way. -/
  focus : Focus

/-- What is read of a line: the innermost level, and the levels around it. -/
structure State where
  /-- The innermost level. -/
  level : Level
  /-- The levels around it, innermost first; each of them waits at a `$`. -/
  outer : List Level

/-- Nothing is read yet. -/
def Level.start : Level := ⟨none, none, .vacant⟩

/-- Nothing is read yet. -/
def State.start : State := ⟨.start, []⟩

/-- The operand under way as far as it is read, unless it cannot end here. A lone word is a
command, a lone string with interpolations is a value. -/
def Focus.operand? : Focus → Option Segment
  | vacant | sigil _ | argument _ _ => none
  | word head interpolated => some (if interpolated then head else .bare head)
  | command head args => some (.command head args)
  | closed operand => some operand

/-- Binds the left side of the last `|` or redirection. -/
def bindLinked : Option (Segment × Link) → Segment → Segment
  | none, s => s
  | some (left, link), s => link.bind left s

/-- Binds the statements before the last `;` or `&`. -/
def bindJoined : Option (Segment × Bool) → Segment → Segment
  | none, s => s
  | some (left, stop), s => .sequence left s stop

/-- The statement under way, unless it cannot end here. -/
def Level.statement? (l : Level) : Option Segment :=
  l.focus.operand?.map (bindLinked l.linked)

/-- All statements of a level, unless they cannot end here. -/
def Level.tree? (l : Level) : Option Segment :=
  l.statement?.map (bindJoined l.joined)

/-- The operand under way has to be a device. -/
def Level.wantsDevice (l : Level) : Bool :=
  match l.linked with
  | some (_, .redirect _) => true
  | _ => false

/-- Ends an operand that begins at `start` and takes no more words. A device has to be a value. -/
def Level.close (l : Level) (start : Span) (operand : Segment) : Except SyntaxError Level :=
  if l.wantsDevice && !operand.isValue then .error ⟨.unexpectedDevice operand.kindName, start⟩
  else .ok { l with focus := .closed operand }

/-- Puts a value where a `$` was read. -/
def Level.fill (l : Level) (value : Segment) : Except SyntaxError Level :=
  match l.focus with
  | .sigil start => l.close start value
  | .argument head args => .ok { l with focus := .command head (args ++ [value]) }
  | _ => .ok l

/-- The kind of token that would end the innermost level. -/
def State.closer (s : State) : Token.Kind :=
  if s.outer.isEmpty then .endOfInput else .rightParen

/-- The variable that a word after `$` names: what stands before the first colon is the scope. -/
def variableOf (word : String) : Segment :=
  match Text.splitAt? ':' word with
  | some (scope, name) => .reference (some scope) name
  | none => .reference none word

/-- The token `t` where an operand has to begin. -/
def State.begin (s : State) (t : Token) (value : Except SyntaxError Segment) :
    Except SyntaxError State :=
  match t.kind with
  | .string =>
    match value with
    | .error e => .error e
    | .ok v =>
      if s.level.wantsDevice then (s.level.close t.span v).map fun l => { s with level := l }
      else .ok { s with level := { s.level with focus := .word v t.isInterpolated } }
  | .dollar => .ok { s with level := { s.level with focus := .sigil t.span } }
  | found => .error ⟨.expectedSegment found, t.span⟩

/-- The token `t` right after a `$`. -/
def State.afterSigil (s : State) (t : Token) : Except SyntaxError State :=
  match t.kind with
  | .leftParen => .ok ⟨.start, s.level :: s.outer⟩
  | .string =>
    match t.text with
    | none => .error ⟨.interpolatedName, t.span⟩
    | some word => (s.level.fill (variableOf word)).map fun l => { s with level := l }
  | found => .error ⟨.unexpectedToken found .string, t.span⟩

/-- A pipe or a redirection after a statement. -/
def State.link (s : State) (statement : Segment) (link : Link) : State :=
  { s with level := { s.level with linked := some (statement, link), focus := .vacant } }

/-- A `;` or `&` after the statements of a level. -/
def State.join (s : State) (statement : Segment) (stop : Bool) : State :=
  { s with
    level := ⟨some (bindJoined s.level.joined statement, stop), none, .vacant⟩ }

/-- The token `t` where the operand under way could end, with `statement` the statement that would
end with it. -/
def State.goOn (s : State) (statement : Segment) (t : Token) : Except SyntaxError State :=
  match t.kind, s.outer with
  | .pipe, _ => .ok (s.link statement .pipe)
  | .leftAngle, _ => .ok (s.link statement (.redirect .stdIn))
  | .rightAngle, _ => .ok (s.link statement (.redirect .stdOut))
  | .doubleRightAngle, _ => .ok (s.link statement (.redirect .stdErr))
  | .tripleRightAngle, _ => .ok (s.link statement (.redirect .stdOutAndErr))
  | .semicolon, _ => .ok (s.join statement false)
  | .ampersand, _ => .ok (s.join statement true)
  | .rightParen, around :: outer =>
    (around.fill (.substitution (bindJoined s.level.joined statement))).map fun l => ⟨l, outer⟩
  | found, _ => .error ⟨.unexpectedToken found s.closer, t.span⟩

/-- The token `t` where it could be one more argument. -/
def State.argument (s : State) (head : Segment) (args : List Segment) (t : Token)
    (value : Except SyntaxError Segment) (statement : Segment) : Except SyntaxError State :=
  match t.kind with
  | .string =>
    match value with
    | .error e => .error e
    | .ok v => .ok { s with level := { s.level with focus := .command head (args ++ [v]) } }
  | .dollar => .ok { s with level := { s.level with focus := .argument head args } }
  | _ => s.goOn statement t

/-- The state after one more token, where `value` is what the token stands for as a word. -/
def State.shift (s : State) (t : Token) (value : Except SyntaxError Segment) :
    Except SyntaxError State :=
  match s.level.focus with
  | .vacant => s.begin t value
  | .sigil _ => s.afterSigil t
  | .argument _ _ => s.afterSigil t
  | .word head interpolated =>
    s.argument head [] t value
      (bindLinked s.level.linked (if interpolated then head else .bare head))
  | .command head args =>
    s.argument head args t value (bindLinked s.level.linked (.command head args))
  | .closed operand => s.goOn (bindLinked s.level.linked operand) t

/-- The tree of a line that ends here, if it can. -/
def State.finished? (s : State) : Option Segment :=
  if s.outer.isEmpty then s.level.tree? else none

/-- The error where the tokens end without an end mark, after the token `last`. -/
def State.stuck (s : State) : Option Token → SyntaxError
  | none => ⟨.noTokens, .nowhere⟩
  | some last =>
    match s.level.focus with
    | .vacant => ⟨.expectedSegment .endOfInput, last.span⟩
    | .sigil _ | .argument _ _ => ⟨.unexpectedToken last.kind .string, last.span⟩
    | _ =>
      if last.kind = .rightParen then ⟨.unexpectedToken last.kind .endOfInput, last.span⟩
      else ⟨.unexpectedToken last.kind s.closer, last.span⟩

mutual

/-- What a token stands for as a word: its text, or the parts of a string with interpolations. -/
def value : Token → Except SyntaxError Segment
  | .plain _ text _ _ => .ok (.text (text.getD ""))
  | .compound _ _ _ _ pieces =>
    match parts pieces with
    | .error e => .error e
    | .ok ps => .ok (.interpolation ps)

/-- One piece of a string: an interpolation holds a whole line, every other piece is a text. -/
def part : Token → Except SyntaxError Segment
  | .plain .interpolation _ _ _ => .error (State.start.stuck none)
  | .plain _ text _ _ => .ok (.text (text.getD ""))
  | .compound .interpolation _ _ _ pieces => run State.start none pieces
  | .compound _ text _ _ _ => .ok (.text (text.getD ""))

/-- The pieces of a string in order. -/
def parts : List Token → Except SyntaxError (List Segment)
  | [] => .ok []
  | p :: ps =>
    match part p with
    | .error e => .error e
    | .ok v =>
      match parts ps with
      | .error e => .error e
      | .ok vs => .ok (v :: vs)

/-- Takes the tokens of a line up to its end mark, from a state on whose last token is `last`. -/
def run (s : State) (last : Option Token) : List Token → Except SyntaxError Segment
  | [] => .error (s.stuck last)
  | t :: ts =>
    match t.kind, s.finished? with
    | .endOfInput, some tree => .ok tree
    | _, _ =>
      match s.shift t (value t) with
      | .error e => .error e
      | .ok s' => run s' (some t) ts

end

end Parse

namespace Segment

/-- The tree of a list of tokens up to its first end mark. -/
def ofTokens (ts : List Token) : Except SyntaxError Segment :=
  Parse.run .start none ts

/-- The tree of a line. -/
def ofLine (line : String) : Except SyntaxError Segment :=
  match Token.ofLine line with
  | .error e => .error e
  | .ok ts => ofTokens ts

end Segment

end CommandShell
