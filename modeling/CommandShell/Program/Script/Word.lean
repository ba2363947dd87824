import CommandShell.Program.Script.Reader

/-!
# Scripts: words

A word ends at a blank, a line end or an operator outside of quotes.  In it, quotes, parameters,
calculations and the output of commands nest.

* `Script.Frame`    : the quotes and braces that a character stands in;
* `Script.readWord` : a word;
* `Script.readDocuments` : the texts that redirections wait for.
-/

namespace CommandShell.Script

/-- How characters are read. -/
inductive Quoting where
  | bare
  | single
  | double
  /-- Inside of `$((...))`. -/
  | arithmetic
  deriving DecidableEq, Repr

/-- The quotes and braces that a character stands in. -/
structure Frame where
  quoting : Quoting
  /-- Double quotes inside of braces are open. -/
  innerDouble : Bool := false
  /-- The frame was made for a pair of braces. -/
  ownBraces : Bool := false
  /-- The frame stands in double quotes. -/
  inDouble : Bool := false
  /-- Open braces. -/
  braces : Nat := 0
  /-- Open parentheses. -/
  parens : Nat := 0
  /-- Open braces in double quotes. -/
  doubleBraces : Nat := 0
  deriving DecidableEq, Repr

/-- Something in a word that is not closed yet, with the parts before it in reverse. -/
inductive Opened where
  | parameter (name : String) (use : Use) (before : List Part)
  | arithmetic (before : List Part)

/-- A word under construction. -/
structure Draft where
  frame : Frame
  frames : List Frame := []
  /-- The parts of what is innermost, in reverse. -/
  parts : List Part := []
  opened : List Opened := []
  /-- There are quotes. -/
  quoted : Bool := false

/-- What a word is read for. -/
structure Purpose where
  /-- The list of commands inside of it, up to a token that belongs to none of them. -/
  script : Parse Command
  /-- The word ends a text of the script: only quotes count. -/
  isMark : Bool := false
  /-- The text that is read up to this line. -/
  document : Option Pending := none

namespace Draft

/-- Adds a part. -/
def add (d : Draft) (p : Part) : Draft := { d with parts := p :: d.parts }

/-- Adds a quote, except in a text of the script. -/
def addMark (p : Purpose) (d : Draft) : Draft :=
  if p.document.isSome then d else d.add .mark

/-- Adds a character as it is. -/
def addChar (c : Char) (d : Draft) : Draft :=
  d.add (.char c (d.frame.quoting == .single || d.frame.inDouble))

/-- Closes what is innermost. -/
def close (d : Draft) : Draft :=
  match d.opened with
  | .parameter name use before :: opened =>
    { d with parts := .parameter name use d.parts.reverse :: before, opened := opened }
  | .arithmetic before :: opened =>
    { d with parts := .arithmetic d.parts.reverse :: before, opened := opened }
  | [] => d

/-- Opens a frame. -/
def push (f : Frame) (d : Draft) : Draft := { d with frame := f, frames := d.frame :: d.frames }

/-- Closes a frame. -/
def pop (d : Draft) : Draft :=
  match d.frames with
  | f :: fs => { d with frame := f, frames := fs }
  | [] => d

/-- Double quotes begin or end inside of braces. -/
def toggle (d : Draft) : Draft :=
  if d.frame.braces > 0 then
    { d with frame := { d.frame with innerDouble := !d.frame.innerDouble } }
  else d

end Draft

/-! ## Parameters -/

/-- The operator behind the name of a parameter, and whether the braces are closed with it. What is
no operator is taken off all the same. -/
def readUse (length : Bool) : Parse (Use × Bool) := do
  if length then
    let closed ← accept '\x7d'
    return (if closed then (.length, true) else (.invalid, false))
  else
    let orEmpty ← accept ':'
    let c ← peekJoined
    match c with
    | some '\x7d' => do
      advance
      return if orEmpty then (.invalid, false) else (.value, true)
    | some '-' => do advance; return (.otherwise orEmpty, false)
    | some '+' => do advance; return (.instead orEmpty, false)
    | some '?' => do advance; return (.demand orEmpty, false)
    | some '=' => do advance; return (.assign orEmpty, false)
    | some '%' => do
      advance
      if orEmpty then return (.invalid, false)
      else
        let longest ← accept '%'
        return (.dropEnd longest, false)
    | some '#' => do
      advance
      if orEmpty then return (.invalid, false)
      else
        let longest ← accept '#'
        return (.dropFront longest, false)
    | _ => do
      advance
      return (.invalid, false)

/-- The characters at the front that a test admits, with lines joined. -/
def takeJoined (test : Char → Bool) : Nat → List Char → Parse (List Char)
  | 0, held => return held.reverse
  | fuel + 1, held => do
    let c ← peekJoined
    match c with
    | some c =>
      if test c then
        advance
        takeJoined test fuel (c :: held)
      else return held.reverse
    | none => return held.reverse

/-- The name of a parameter in braces; `none` where there is none. -/
def readBracedName : Parse (Option String) := do
  let c ← peekJoined
  match c with
  | none => return none
  | some c =>
    if isNameStart c then return some (String.ofList (← takeJoined isNameChar stepLimit []))
    else if c.isDigit then return some (String.ofList (← takeJoined Char.isDigit stepLimit []))
    else if isSpecial c then
      advance
      return some c.toString
    else return none

/-- A parameter in braces that begins with a number sign: a length, or the number of arguments. -/
def readHash : Parse (Option String × Use × Bool) := do
  advance
  let c ← peekJoined
  match c with
  | none => return (some "#", .invalid, false)
  | some c =>
    if isNameChar c then
      let name ← readBracedName
      let (use, closed) ← readUse true
      return (name, use, closed)
    else if c = '\x7d' then
      advance
      return (some "#", .value, true)
    else do
      let before ← Action.get
      advance
      let closed ← accept '\x7d'
      if closed then
        if isSpecial c then return (some c.toString, .length, true)
        else return (none, .invalid, true)
      else
        Action.modify fun _ => before
        let (use, closed) ← readUse false
        return (some "#", use, closed)

/-- A parameter behind `$` and a brace: its name, what is done with it, and whether the braces are
closed already. -/
def readBraced : Parse (String × Use × Bool) := do
  let c ← peekJoined
  if c = some '#' then
    let (name, use, closed) ← readHash
    return (name.getD "", use, closed)
  else
    let name ← readBracedName
    match name with
    | none => do
      if c ≠ some '\x7d' then advance
      return ("", .invalid, false)
    | some name =>
      let (use, closed) ← readUse false
      return (name, use, closed)

/-- Opens the braces of a parameter. What is behind `%` and `#` is a pattern of its own; other
operands stand in the quotes that the braces stand in. -/
def openBraces (name : String) (use : Use) (d : Draft) : Draft :=
  let f := d.frame
  let quoting : Quoting :=
    match use with
    | .dropEnd _ | .dropFront _ => .bare
    | _ => if f.quoting = .arithmetic then .double else f.quoting
  let d := { d with opened := .parameter name use d.parts :: d.opened, parts := [] }
  let d := if quoting ≠ f.quoting ∨ f.innerDouble then
      d.push { quoting := quoting, ownBraces := true, inDouble := quoting != .bare }
    else d
  let f := d.frame
  { d with
    frame :=
      { f with
        braces := f.braces + 1
        doubleBraces := if f.inDouble then f.doubleBraces + 1 else f.doubleBraces } }

/-- Closes a brace. -/
def closeBrace (d : Draft) : Draft :=
  let f := { d.frame with braces := d.frame.braces - 1 }
  let d := d.close
  if f.braces = 0 ∧ f.ownBraces then { d with frame := f }.pop
  else
    { d with
      frame := { f with
        doubleBraces := if f.doubleBraces > 0 then f.doubleBraces - 1 else 0 } }

/-! ## Backquotes -/

/-- The text up to the closing backquote, with its backslashes. -/
def readBackquoted (inDouble : Bool) : Nat → List Char → Parse (List Char)
  | 0, _ => Parse.fail "EOF in backquote substitution"
  | fuel + 1, held => do
    let c ← peekJoined
    match c with
    | none => Parse.fail "EOF in backquote substitution"
    | some '\x60' => do
      advance
      return held.reverse
    | some '\\' => do
      advance
      let d ← peek
      match d with
      | none => Parse.fail "EOF in backquote substitution"
      | some d => do
        advance
        if d = '\\' ∨ d = '\x60' ∨ d = '$' ∨ (inDouble ∧ d = '"') then
          readBackquoted inDouble fuel (d :: held)
        else readBackquoted inDouble fuel (d :: '\\' :: held)
    | some '\n' => do
      advance
      countLine
      readBackquoted inDouble fuel ('\n' :: held)
    | some c => do
      advance
      readBackquoted inDouble fuel (c :: held)

/-- The command in a text of its own. -/
def readInner (p : Purpose) (text : List Char) : Parse Command := do
  let before ← Action.get
  Action.modify fun r => { r with rest := text, outer := [], line := 1, pending := [] }
  let c ← p.script
  Action.modify fun r =>
    { r with
      rest := before.rest, outer := before.outer, line := before.line, pushed := false
      pending := before.pending }
  return c

/-- The command behind `$(`, up to its closing parenthesis. -/
def readNested (p : Purpose) : Parse Command := do
  let before ← Action.get
  Action.modify fun r => { r with pending := [] }
  let c ← p.script
  let r ← Action.get
  match r.last with
  | .closeParen =>
    Action.modify fun r => { r with pushed := false, pending := before.pending ++ r.pending }
    return c
  | _ => unexpected (some .closeParen)

/-! ## Words -/

/-- What follows a dollar sign. -/
def readDollar (p : Purpose) (d : Draft) : Parse Draft := do
  let c ← peekJoined
  match c with
  | none => return d.addChar '$'
  | some c =>
    if p.isMark then return d.addChar '$'
    else if c = '(' then do
      advance
      let double ← accept '('
      if double then
        let d := { d with opened := .arithmetic d.parts :: d.opened, parts := [] }
        return d.push { quoting := .arithmetic, inDouble := true }
      else
        let script ← readNested p
        return d.add (.output script)
    else if c = '\x7b' then do
      advance
      let (name, use, closed) ← readBraced
      if closed then return d.add (.parameter name use [])
      else return openBraces name use d
    else if isNameStart c then
      let name ← takeJoined isNameChar stepLimit []
      return d.add (.parameter (String.ofList name) .value [])
    else if isSpecial c then do
      advance
      return d.add (.parameter c.toString .value [])
    else return d.addChar '$'

/-- What follows a backslash. -/
def readBackslash (p : Purpose) (d : Draft) : Parse Draft := do
  let c ← peek
  match c with
  | none => return d.add (.char '\\' true)
  | some c =>
    advance
    if c = '\n' then countLine
    let f := d.frame
    let kept := f.inDouble && c != '\\' && c != '\x60' && c != '$' &&
      (c != '"' || (p.document.isSome && f.braces == 0)) && (c != '\x7d' || f.braces == 0)
    let d := if kept then d.add (.char '\\' true) else d
    return { d.add (.char c true) with quoted := true }

/-- A quote that ends what it began. -/
def endQuote (p : Purpose) (c : Char) (d : Draft) : Draft :=
  if p.document.isSome ∧ d.frame.braces = 0 then d.addChar c
  else
    let d := if d.frame.doubleBraces = 0 then
        { d with frame := { d.frame with quoting := .bare, inDouble := false } }
      else d
    let d := { d with quoted := true }
    (if c = '"' then d.toggle else d).addMark p

/-- A parenthesis that closes in a calculation. -/
def closeParen (d : Draft) : Parse Draft := do
  if d.frame.parens > 0 then
    return { d.addChar ')' with frame := { d.frame with parens := d.frame.parens - 1 } }
  else
    let closed ← accept ')'
    if closed then return d.pop.close
    else return d.addChar ')'

/-- What a word does with its next character: it goes on, or it ends before the character. -/
def stepWord (p : Purpose) (d : Draft) (c : Char) : Parse (Draft × Bool) := do
  let f := d.frame
  if c = '\n' then
    if f.quoting = .bare ∧ f.braces = 0 then return (d, false)
    else
      advance
      countLine
      return (d.addChar c, true)
  else if f.quoting = .single then
    advance
    if c = '\'' then return (endQuote p c d, true) else return (d.addChar c, true)
  else if c = '\\' then do
    advance
    return (← readBackslash p d, true)
  else if c = '$' then do
    advance
    return (← readDollar p d, true)
  else if c = '\x60' then
    advance
    if p.isMark then return (d.addChar c, true)
    else
      let text ← readBackquoted f.inDouble stepLimit []
      let script ← readInner p text
      return (d.add (.output script), true)
  else if c = '\x7d' then
    advance
    if !f.innerDouble && f.braces > 0 then return (closeBrace d, true)
    else return (d.addChar c, true)
  else if f.quoting = .arithmetic then
    advance
    if c = '(' then
      return ({ d.addChar c with frame := { f with parens := f.parens + 1 } }, true)
    else if c = ')' then return (← closeParen d, true)
    else return (d.addChar c, true)
  else if f.quoting = .double then
    advance
    if c = '"' then return (endQuote p c d, true) else return (d.addChar c, true)
  else if c = '\'' then
    advance
    return (({ d with frame := { f with quoting := .single } }).addMark p, true)
  else if c = '"' then
    advance
    let d := { d with frame := { f with quoting := .double, inDouble := true } }
    return (d.toggle.addMark p, true)
  else if " \t;&|<>()".toList.contains c then
    if f.braces = 0 then return (d, false)
    else
      advance
      return (d.addChar c, true)
  else
    advance
    return (d.addChar c, true)

/-- Whether the line that ends a text of the script stands here; if so it is taken off. -/
def atMark (doc : Pending) : Parse Bool := do
  let r ← Action.get
  let line := if doc.stripped then r.rest.dropWhile (· == '\t') else r.rest
  match line.drop doc.mark.length with
  | [] =>
    if line.take doc.mark.length = doc.mark then
      Action.modify fun r => { r with rest := [], line := r.line + 1 }
      return true
    else return false
  | '\n' :: rest =>
    if line.take doc.mark.length = doc.mark then
      Action.modify fun r => { r with rest := rest, line := r.line + 1 }
      return true
    else return false
  | _ => return false

/-- Drops tabs before a line of a text of the script. -/
def dropTabs (doc : Pending) : Parse Unit :=
  Action.modify fun r =>
    if doc.stripped then { r with rest := r.rest.dropWhile (· == '\t') } else r

/-- Reads the rest of a word; `lineStart` tells that a line begins. -/
def readRest (p : Purpose) : Nat → Bool → Draft → Parse Draft
  | 0, _, d => return d
  | fuel + 1, lineStart, d => do
    let ended ← match p.document, lineStart with
      | some doc, true => do
        let ended ← atMark doc
        if !ended then dropTabs doc
        pure ended
      | _, _ => pure false
    if ended then return d
    else
      let c ← if d.frame.quoting = .single then peek else peekJoined
      match c with
      | none => return d
      | some c =>
        let (d, goesOn) ← stepWord p d c
        if goesOn then readRest p fuel (c == '\n') d else return d

/-- A word that nothing is open in any more. -/
def finish (p : Purpose) (d : Draft) : Parse Draft := do
  if d.frame.quoting = .arithmetic then Parse.fail "Missing '))'"
  else if d.frame.quoting ≠ .bare ∧ p.document.isNone then
    Parse.fail "Unterminated quoted string"
  else if d.frame.braces ≠ 0 then Parse.fail "Missing '\x7d'"
  else return d

/-- A word, and whether there are quotes in it. -/
def readWord (p : Purpose) : Parse (Word × Bool) := do
  let d ← readRest p stepLimit false { frame := { quoting := .bare } }
  let d ← finish p d
  return (d.parts.reverse, d.quoted)

/-- A text that a redirection waits for. -/
def readDocument (script : Parse Command) (doc : Pending) : Parse Unit := do
  let frame : Frame :=
    if doc.quoted then { quoting := .single } else { quoting := .double, inDouble := true }
  let p : Purpose := { script := script, document := some doc }
  let d ← readRest p stepLimit true { frame := frame }
  let d ← finish p d
  Action.modify fun r => { r with documents := (doc.index, d.parts.reverse) :: r.documents }

/-- The texts that redirections wait for. -/
def readDocuments (script : Parse Command) : Parse Unit := do
  let r ← Action.get
  Action.modify fun r => { r with pending := [] }
  for doc in r.pending do
    readDocument script doc

end CommandShell.Script
