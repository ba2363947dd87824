import CommandShell.SyntaxError

/-!
# Reading tokens

`Token.scan` reads the tokens of a source from a cursor on.  It is used in two modes: a whole line
ends where the source ends, and the inside of a `{...}` ends also at the first closing brace that
stands outside quotes.  Between quotes an opening brace starts a scan of the second mode, whose
stop is where the quoted run goes on.

* `Token.scan`      : tokens of either mode, with the cursor where the scan stopped;
* `Token.scanQuoted`: the body of a quoted run;
* `Token.ofLine`    : the tokens of a line.

Both scans take characters off the front of the source only, so what is left never grows; this
bound is part of their result and ends their recursion.
-/

namespace CommandShell

/-- What is left of a source and the location of its first character. -/
structure Cursor where
  /-- The characters left. -/
  rest : List Char
  /-- Where they begin. -/
  loc : Location
  deriving DecidableEq, Repr

namespace Cursor

/-- A cursor before the first character of a line. -/
def ofLine (line : String) : Cursor := ⟨line.toList, .start⟩

/-- Takes characters off the front as long as they satisfy `p`. -/
def spanFrom (p : Char → Bool) : List Char → Location → List Char × Cursor
  | [], l => ([], ⟨[], l⟩)
  | c :: cs, l =>
    if p c then
      let (taken, cur) := spanFrom p cs (l.advance c)
      (c :: taken, cur)
    else ([], ⟨c :: cs, l⟩)

theorem spanFrom_rest_length (p : Char → Bool) (cs : List Char) (l : Location) :
    (spanFrom p cs l).2.rest.length ≤ cs.length := by
  induction cs generalizing l with
  | nil => simp [spanFrom]
  | cons c cs ih =>
    simp only [spanFrom]
    split
    · exact Nat.le_succ_of_le (ih _)
    · simp

end Cursor

namespace Token

/-- Where a scan stops. -/
inductive Mode where
  /-- At the end of the source. -/
  | line
  /-- At a closing brace, or at the end of the source. -/
  | braces
  deriving DecidableEq, Repr

/-- Characters at which a scan stops. -/
def Mode.stopsAt : Mode → Char → Bool
  | line, _ => false
  | braces, c => c == '\x7d'

/-- Characters that go on with an unquoted word. -/
def Mode.isWordChar (m : Mode) (c : Char) : Bool :=
  Word.isWordChar c && !m.stopsAt c

/-- The punctuation that a source begins with; of several the longest. -/
def punctuation? : List Char → Option (Kind × List Char)
  | '$' :: cs => some (.dollar, cs)
  | ';' :: cs => some (.semicolon, cs)
  | '&' :: cs => some (.ampersand, cs)
  | '|' :: cs => some (.pipe, cs)
  | '<' :: cs => some (.leftAngle, cs)
  | '(' :: cs => some (.leftParen, cs)
  | ')' :: cs => some (.rightParen, cs)
  | '>' :: '>' :: '>' :: cs => some (.tripleRightAngle, cs)
  | '>' :: '>' :: cs => some (.doubleRightAngle, cs)
  | '>' :: cs => some (.rightAngle, cs)
  | _ => none

theorem punctuation?_length {cs rest : List Char} {k : Kind}
    (h : punctuation? cs = some (k, rest)) : rest.length < cs.length := by
  unfold punctuation? at h
  split at h <;> simp_all
  all_goals omega

/-- The body of a quoted run: the literal text up to the first interpolation or to the closing
quote, and the further pieces. -/
structure QuotedBody where
  /-- The first literal text. -/
  first : List Char
  /-- The point after the first literal text. -/
  firstStop : Location
  /-- Interpolations and literal texts by turns. -/
  more : List Token

/-- The token of a quoted run that begins at `start`, has its body from `inside` on and ends at
`stop`. -/
def QuotedBody.token (b : QuotedBody) (start inside stop : Location) : Token :=
  if b.more.isEmpty then .plain .string (some (String.ofList b.first)) true ⟨start, stop⟩
  else
    .compound .string none true ⟨start, stop⟩
      (.plain .string (some (String.ofList b.first)) false ⟨inside, b.firstStop⟩ :: b.more)

mutual

/-- Reads tokens from a cursor on, the end mark included, and says where it stopped. -/
def scan (mode : Mode) (cs : List Char) (l : Location) :
    Except SyntaxError (List Token × { stop : Cursor // stop.rest.length ≤ cs.length }) :=
  match hb : (Cursor.spanFrom Text.isBlank cs l).2 with
  | ⟨[], l⟩ => .ok ([.plain .endOfInput none false (.point l)], ⟨⟨[], l⟩, Nat.zero_le _⟩)
  | ⟨c :: rest, l⟩ =>
    have hlen : (c :: rest).length ≤ cs.length := by
      have := Cursor.spanFrom_rest_length Text.isBlank cs l
      grind [Cursor.spanFrom_rest_length]
    if mode.stopsAt c then
      .ok ([.plain .endOfInput none false (.point l)], ⟨⟨c :: rest, l⟩, hlen⟩)
    else
      match hp : punctuation? (c :: rest) with
      | some (kind, after) =>
        have := punctuation?_length hp
        let stop := l.advanceAll kind.symbol.toList
        match scan mode after stop with
        | .error e => .error e
        | .ok (tokens, ⟨cur, h⟩) =>
          .ok (.plain kind (some kind.symbol) false ⟨l, stop⟩ :: tokens, ⟨cur, by omega⟩)
      | none =>
        if Word.quotes.contains c then
          match scanQuoted c l rest (l.advance c) with
          | .error e => .error e
          | .ok (body, ⟨after, h⟩) =>
            match scan mode after.rest after.loc with
            | .error e => .error e
            | .ok (tokens, ⟨cur, h'⟩) =>
              .ok (body.token l (l.advance c) after.loc :: tokens,
                ⟨cur, by simp only [List.length_cons] at hlen; omega⟩)
        else if mode.isWordChar c then
          match hw : Cursor.spanFrom mode.isWordChar rest (l.advance c) with
          | (word, after) =>
            have hword : after.rest.length ≤ rest.length := by
              have := Cursor.spanFrom_rest_length mode.isWordChar rest (l.advance c)
              rw [hw] at this
              exact this
            match scan mode after.rest after.loc with
            | .error e => .error e
            | .ok (tokens, ⟨cur, h⟩) =>
              .ok (.plain .string (some (String.ofList (c :: word))) false ⟨l, after.loc⟩ :: tokens,
                ⟨cur, by simp only [List.length_cons] at hlen; omega⟩)
        else .error ⟨.unexpectedCharacter c, .point l⟩
termination_by cs.length
decreasing_by
  all_goals simp only [List.length_cons] at *
  all_goals omega

/-- Reads the body of a run in quotes `quote` that were opened at `start`, and says where the
source goes on after the closing quote. -/
def scanQuoted (quote : Char) (start : Location) (cs : List Char) (l : Location) :
    Except SyntaxError (QuotedBody × { stop : Cursor // stop.rest.length ≤ cs.length }) :=
  match cs with
  | [] => .error ⟨.unterminatedString, .point start⟩
  | c :: rest =>
    if c = quote then .ok (⟨[], l, []⟩, ⟨⟨rest, l.advance c⟩, Nat.le_succ _⟩)
    else if c = '\\' then
      match rest with
      | [] => .error ⟨.unterminatedString, .point start⟩
      | d :: rest' =>
        match scanQuoted quote start rest' ((l.advance c).advance d) with
        | .error e => .error e
        | .ok (body, ⟨cur, h⟩) =>
          .ok (⟨d :: body.first, body.firstStop, body.more⟩,
            ⟨cur, Nat.le_succ_of_le (Nat.le_succ_of_le h)⟩)
    else if c = '\x7b' then
      match scan .braces rest (l.advance c) with
      | .error e => .error e
      | .ok (_, ⟨⟨[], _⟩, _⟩) => .error ⟨.unterminatedInterpolation, .point l⟩
      | .ok (inner, ⟨⟨d :: rest', l'⟩, h⟩) =>
        let stop := l'.advance d
        match scanQuoted quote start rest' stop with
        | .error e => .error e
        | .ok (body, ⟨cur, h'⟩) =>
          .ok (⟨[], l,
              .compound .interpolation none false ⟨l, stop⟩ inner ::
                .plain .string (some (String.ofList body.first)) false ⟨stop, body.firstStop⟩ ::
                  body.more⟩,
            ⟨cur, Nat.le_succ_of_le (Nat.le_trans h' (Nat.le_trans (Nat.le_succ _) h))⟩)
    else
      match scanQuoted quote start rest (l.advance c) with
      | .error e => .error e
      | .ok (body, ⟨cur, h⟩) =>
        .ok (⟨c :: body.first, body.firstStop, body.more⟩, ⟨cur, Nat.le_succ_of_le h⟩)
termination_by cs.length
decreasing_by
  all_goals simp only [List.length_cons] at *
  all_goals omega

end

/-- The tokens between braces, from a cursor on, and the cursor where they end. -/
def ofBraces (cur : Cursor) : Except SyntaxError (List Token × Cursor) :=
  match scan .braces cur.rest cur.loc with
  | .error e => .error e
  | .ok (tokens, stop) => .ok (tokens, stop.1)

/-- The tokens of a line, with the end mark last. -/
def ofLine (line : String) : Except SyntaxError (List Token) :=
  match scan .line line.toList .start with
  | .error e => .error e
  | .ok (tokens, _) => .ok tokens

end Token

end CommandShell
