import CommandShell.Program.Script.Word

/-!
# Scripts: commands

* `Script.token`    : the next token;
* `Script.parseLine` : the commands up to the end of a line.

The parts of the grammar take `list`, which reads the lists of commands inside of them.
-/

namespace CommandShell.Script

/-! ## Tokens -/

/-- What a token may be taken for. -/
structure Expecting where
  /-- Line ends before it do not count. -/
  skipsLines : Bool := false
  /-- Keywords have their meaning. -/
  keywords : Bool := false
  /-- Aliases are replaced. -/
  aliases : Bool := false

/-- A command is expected. -/
def Expecting.command : Expecting := { keywords := true, aliases := true }

/-- A command is expected, on this line or a later one. -/
def Expecting.laterCommand : Expecting := { skipsLines := true, keywords := true, aliases := true }

/-- Lists of commands: up to the end of a line, inside of a command, or possibly empty. -/
inductive ListKind where
  | line
  | inner
  | optional
  deriving DecidableEq, Repr

/-- A reader of lists of commands. -/
abbrev ListReader := ListKind → Parse Command

/-- The rest of an arrow. -/
def readArrow (c : Char) : Parse Arrow := do
  advance
  if c = '>' then
    let d ← peekJoined
    match d with
    | some '>' => do advance; return .file .append
    | some '|' => do advance; return .file (.write true)
    | some '&' => do advance; return .copy
    | _ => return .file (.write false)
  else
    let d ← peekJoined
    match d with
    | some '<' => do
      advance
      let stripped ← accept '-'
      return .document stripped
    | some '&' => do advance; return .copy
    | some '>' => do advance; return .file .readWrite
    | _ => return .file .read

/-- The stream that a digit before an arrow tells. -/
def streamOf : Word → Bool → Option (Option Nat)
  | [], false => some none
  | [.char c false], false => if c.isDigit then some (some (c.toNat - 48)) else none
  | _, _ => none

/-- A word, or a redirection if an arrow follows right behind a digit or nothing. -/
def readWordToken (p : Purpose) : Parse Token := do
  let (w, quoted) ← readWord p
  let c ← peek
  match c, streamOf w quoted with
  | some c, some stream =>
    if c = '<' ∨ c = '>' then
      let arrow ← readArrow c
      keep (.redirect (stream.getD (if c = '>' then 1 else 0)) arrow)
    else keep (.word w quoted)
  | _, _ => keep (.word w quoted)

/-- Drops a comment. -/
def skipComment : Parse Unit :=
  Action.modify fun r => { r with rest := r.rest.dropWhile (· != '\n') }

/-- The next token of the script. -/
def readToken (p : Purpose) : Nat → Parse Token
  | 0 => keep .endOfFile
  | fuel + 1 => do
    let c ← peekJoined
    match c with
    | none => do
      let left ← leaveAlias
      if left then readToken p fuel else keep .endOfFile
    | some c =>
      if c = ' ' ∨ c = '\t' then do advance; readToken p fuel
      else if c = '#' then do skipComment; readToken p fuel
      else if c = '\n' then do advance; countLine; keep .newline
      else if c = '&' then do
        advance
        keep (if ← accept '&' then .and else .ampersand)
      else if c = '|' then do
        advance
        keep (if ← accept '|' then .or else .pipe)
      else if c = ';' then do
        advance
        keep (if ← accept ';' then .endCase else .semicolon)
      else if c = '(' then do advance; keep .openParen
      else if c = ')' then do advance; keep .closeParen
      else readWordToken p

/-- The last token again, or the next one. -/
def lastOrNext (p : Purpose) : Parse Token := do
  let r ← Action.get
  if r.pushed then keep r.last else readToken p stepLimit

/-- Drops line ends before a token, with the texts that follow them. -/
def skipLines (p : Purpose) : Nat → Token → Parse Token
  | fuel + 1, .newline => do
    readDocuments p.script
    let t ← readToken p stepLimit
    skipLines p fuel t
  | _, t => return t

/-- The next token, as it is expected. -/
def tokenFrom (p : Purpose) (e : Expecting) : Nat → Parse Token
  | 0 => keep .endOfFile
  | fuel + 1 => do
    Action.modify fun r => { r with blankEnd := false }
    let t ← lastOrNext p
    let t ← if e.skipsLines then skipLines p stepLimit t else pure t
    match t with
    | .word w false =>
      match plain? w with
      | none => return t
      | some cs => do
        let name := String.ofList cs
        let r ← Action.get
        if e.keywords && keywords.contains name then keep (.keyword name)
        else if e.aliases || r.blankEnd then
          match r.aliases.lookup name with
          | none => return t
          | some text =>
            if r.outer.any (·.1 = name) then return t
            else do
              if text ≠ "" then enterAlias name text
              tokenFrom p e fuel
        else return t
    | _ => return t

/-- The next token, where `list` reads the commands in words. -/
def token (list : ListReader) (e : Expecting) : Parse Token :=
  tokenFrom { script := list .optional } e stepLimit

/-! ## Redirections -/

/-- A word that tells a stream to copy. -/
def copyOf (stream : Nat) (w : Word) : Redirect :=
  match plain? w with
  | some [c] =>
    if c.isDigit then .copy stream (some (c.toNat - 48))
    else if c = '-' then .copy stream none
    else .copyWord stream w
  | _ => .copyWord stream w

/-- A word without its quotes. -/
def unquoted (w : Word) : List Char :=
  w.filterMap fun p => match p with
    | .char c _ => some c
    | _ => none

/-- The word behind an arrow, as it belongs to a redirection. -/
def redirection (list : ListReader) (stream : Nat) (arrow : Arrow) : Parse Redirect := do
  let isMark := match arrow with
    | .document _ => true
    | _ => false
  let t ← tokenFrom { script := list .optional, isMark := isMark } {} stepLimit
  match t, arrow with
  | .word w _, .file mode => return .file stream mode w
  | .word w _, .copy => return copyOf stream w
  | .word w quoted, .document stripped => do
    let r ← Action.get
    Action.modify fun r =>
      { r with
        pending := r.pending ++ [⟨r.nextIndex, unquoted w, stripped, quoted⟩]
        nextIndex := r.nextIndex + 1 }
    return .document stream r.nextIndex
  | _, _ => unexpected none

/-- The redirections behind a command. -/
def redirections (list : ListReader) : Nat → Parse (List Redirect)
  | 0 => return []
  | fuel + 1 => do
    let t ← token list .command
    match t with
    | .redirect stream arrow => do
      let r ← redirection list stream arrow
      return r :: (← redirections list fuel)
    | _ => do
      pushBack
      return []

/-! ## Commands -/

/-- Built-in commands whose failure ends a script. -/
def specialNames : List String :=
  [".", ":", "break", "continue", "eval", "exec", "exit", "export", "local", "readonly", "return",
    "set", "shift", "times", "trap", "unset"]

/-- A simple command under construction. -/
structure SimpleDraft where
  assignments : List Word := []
  words : List Word := []
  redirects : List Redirect := []

/-- Reads the rest of a simple command, or a definition; `body` reads what is defined. -/
def simpleFrom (list : ListReader) (body : Parse Command) (line : Nat) :
    Nat → SimpleDraft → Parse Command
  | 0, _ => return .nothing
  | fuel + 1, d => do
    let t ← token list { aliases := d.words.isEmpty }
    match t with
    | .word w _ =>
      if d.words.isEmpty && isAssignment w then
        simpleFrom list body line fuel { d with assignments := d.assignments ++ [w] }
      else simpleFrom list body line fuel { d with words := d.words ++ [w] }
    | .redirect stream arrow => do
      let r ← redirection list stream arrow
      simpleFrom list body line fuel { d with redirects := d.redirects ++ [r] }
    | .openParen =>
      match d.words, d.assignments.isEmpty && d.redirects.isEmpty with
      | [w], true => do
        let t ← token list {}
        match t with
        | .closeParen => do
          let name := String.ofList ((plain? w).getD [])
          if isName name && !specialNames.contains name then
            return .define name (← body)
          else Parse.fail "Bad function name"
        | _ => unexpected (some .closeParen)
      | _, _ => do
        pushBack
        return .simple line d.assignments d.words d.redirects
    | _ => do
      pushBack
      return .simple line d.assignments d.words d.redirects

/-- Takes a keyword. -/
def expect (list : ListReader) (e : Expecting) (name : String) : Parse Unit := do
  let t ← token list e
  match t with
  | .keyword found =>
    if found = name then pure () else unexpected (some (.keyword name))
  | _ => unexpected (some (.keyword name))

/-- The branches behind `if` or `elif`; the last keyword is left. -/
def branches (list : ListReader) : Nat → Parse Command
  | 0 => return .nothing
  | fuel + 1 => do
    let test ← list .inner
    expect list {} "then"
    let yes ← list .inner
    let t ← token list {}
    match t with
    | .keyword "elif" => return .choice test yes (← branches list fuel)
    | .keyword "else" => return .choice test yes (← list .inner)
    | _ => do
      pushBack
      return .choice test yes .nothing

/-- The words of a loop. -/
def loopWords (list : ListReader) : Nat → Parse (List Word)
  | 0 => return []
  | fuel + 1 => do
    let t ← token list {}
    match t with
    | .word w _ => return w :: (← loopWords list fuel)
    | .newline | .semicolon => return []
    | _ => unexpected none

/-- A loop behind `for`, up to its last keyword. -/
def eachLoop (list : ListReader) (line : Nat) : Parse Command := do
  let t ← token list {}
  match t with
  | .word w false =>
    let name := String.ofList ((plain? w).getD [])
    if !isName name then Parse.fail "Bad for loop variable"
    else
      let t ← token list .laterCommand
      let words ← match t with
        | .keyword "in" => loopWords list stepLimit
        | .semicolon => pure [[.mark, .parameter "@" .value [], .mark]]
        | _ => do
          pushBack
          pure [[.mark, .parameter "@" .value [], .mark]]
      expect list .laterCommand "do"
      let body ← list .inner
      return .each line name words body
  | _ => Parse.fail "Bad for loop variable"

/-- The word that the last token is as a pattern. -/
def patternOf : Token → Word
  | .word w _ => w
  | .keyword name => name.toList.map fun c => .char c false
  | _ => []

/-- The patterns of a branch, up to the token behind them. -/
def patterns (list : ListReader) : Nat → Token → Parse (List Word × Token)
  | 0, t => return ([], t)
  | fuel + 1, t => do
    let next ← token list {}
    match next with
    | .pipe => do
      let t' ← token list {}
      let (more, last) ← patterns list fuel t'
      return (patternOf t :: more, last)
    | _ => return ([patternOf t], next)

/-- The branches behind `case`, up to the end of them. -/
def caseBranches (list : ListReader) : Nat → Token → Parse (List Branch)
  | 0, _ => return []
  | fuel + 1, t => do
    match t with
    | .keyword "esac" => return []
    | _ => do
      let t ← match t with
        | .openParen => token list {}
        | _ => pure t
      let (ps, last) ← patterns list stepLimit t
      match last with
      | .closeParen => pure ()
      | _ => unexpected (some .closeParen)
      let body ← list .optional
      let branch := Branch.mk ps body
      let t ← token list { skipsLines := true, keywords := true }
      match t with
      | .keyword "esac" => return [branch]
      | .endCase => do
        let t ← token list { skipsLines := true, keywords := true }
        return branch :: (← caseBranches list fuel t)
      | _ => unexpected (some .endCase)

/-- A choice behind `case`. -/
def selection (list : ListReader) (line : Nat) : Parse Command := do
  let t ← token list {}
  match t with
  | .word w _ => do
    expect list .laterCommand "in"
    let t ← token list { skipsLines := true, keywords := true }
    return .select line w (← caseBranches list stepLimit t)
  | _ => unexpected (some (.word [] false))

/-- A command with the redirections behind it. -/
def withRedirections (list : ListReader) (line : Nat) (c : Command) : Parse Command := do
  let rs ← redirections list stepLimit
  match c with
  | .subshell line inner _ => return .subshell line inner rs
  | _ => if rs.isEmpty then return c else return .redirected line c rs

/-- Reads one command; `depth` bounds definitions in definitions. -/
def command (list : ListReader) : Nat → Expecting → Parse Command
  | 0, _ => unexpected none
  | depth + 1, e => do
    let r ← Action.get
    let line := r.line
    let t ← token list e
    match t with
    | .keyword "if" => do
      let c ← branches list stepLimit
      expect list {} "fi"
      withRedirections list line c
    | .keyword "while" => do
      let test ← list .inner
      expect list {} "do"
      let body ← list .inner
      expect list {} "done"
      withRedirections list line (.loop false test body)
    | .keyword "until" => do
      let test ← list .inner
      expect list {} "do"
      let body ← list .inner
      expect list {} "done"
      withRedirections list line (.loop true test body)
    | .keyword "for" => do
      let c ← eachLoop list line
      expect list {} "done"
      withRedirections list line c
    | .keyword "case" => do
      let c ← selection list line
      withRedirections list line c
    | .openParen => do
      let c ← list .inner
      let t ← token list {}
      match t with
      | .closeParen => withRedirections list line (.subshell line c [])
      | _ => unexpected (some .closeParen)
    | .keyword "\x7b" => do
      let c ← list .inner
      expect list {} "\x7d"
      withRedirections list line c
    | .word _ _ | .redirect _ _ => do
      pushBack
      simpleFrom list (command list depth .laterCommand) line stepLimit {}
    | _ => unexpected none

/-- Further commands behind a pipe sign. -/
def pipeRest (list : ListReader) : Nat → Parse (List Command)
  | 0 => return []
  | fuel + 1 => do
    let t ← token list {}
    match t with
    | .pipe => do
      let c ← command list stepLimit .laterCommand
      return c :: (← pipeRest list fuel)
    | _ => do
      pushBack
      return []

/-- A command with those behind its pipe signs. -/
def piped (first : Command) : List Command → Command
  | [] => first
  | rest => .pipe (first :: rest) false

/-- Commands with pipe signs between them. -/
def pipeline (list : ListReader) (e : Expecting) : Parse Command := do
  let t ← token list e
  match t with
  | .keyword "!" => do
    let first ← command list stepLimit .command
    let rest ← pipeRest list stepLimit
    return .negate (piped first rest)
  | _ => do
    pushBack
    let first ← command list stepLimit {}
    let rest ← pipeRest list stepLimit
    return piped first rest

/-- Further pipelines behind one. -/
def andOrRest (list : ListReader) : Nat → Command → Parse Command
  | 0, c => return c
  | fuel + 1, c => do
    let t ← token list {}
    match t with
    | .and => do
      let d ← pipeline list .laterCommand
      andOrRest list fuel (.both c d)
    | .or => do
      let d ← pipeline list .laterCommand
      andOrRest list fuel (.either c d)
    | _ => do
      pushBack
      return c

/-- Pipelines with `&&` and `||` between them. -/
def andOr (list : ListReader) : Parse Command := do
  let c ← pipeline list {}
  andOrRest list stepLimit c

/-! ## Lists -/

/-- A command that the script does not wait for. -/
def inBackground : Command → Command
  | .pipe cs _ => .pipe cs true
  | .redirected line c rs => .background line c rs
  | c => .background 0 c []

/-- A command behind those before it. -/
def joined : Command → Command → Command
  | .nothing, c => c
  | acc, c => .sequence acc c

/-- Reads the rest of a list of commands; `started` tells that there is one already. -/
def listFrom (list : ListReader) (kind : ListKind) : Nat → Bool → Command → Parse Command
  | 0, _, acc => return acc
  | fuel + 1, started, acc => do
    let t ← token list (if kind = .line then .command else .laterCommand)
    match t with
    | .newline => do
      readDocuments (list .optional)
      return acc
    | .endOfFile => do
      readDocuments (list .optional)
      let _ ← keep .endOfFile
      pushBack
      return acc
    | t => do
      pushBack
      if ((started && kind != .line) || kind == .optional) && t.endsList then return acc
      else
        let c ← andOr list
        let t ← token list {}
        match t with
        | .newline | .endOfFile => do
          pushBack
          listFrom list kind fuel true (joined acc c)
        | .ampersand => listFrom list kind fuel true (joined acc (inBackground c))
        | .semicolon => listFrom list kind fuel true (joined acc c)
        | _ =>
          if kind = .line then unexpected none
          else
            pushBack
            return joined acc c

/-- Reads lists of commands, nested up to a depth. -/
def readList : Nat → ListReader
  | 0, _ => unexpected none
  | depth + 1, kind => listFrom (readList depth) kind stepLimit false .nothing

/-- The commands up to the end of a line; nothing at the end of a script. -/
def parseLine : Parse (Option Command) := do
  Action.modify fun r => { r with pushed := false, pending := [] }
  let c ← readList stepLimit .line
  let r ← Action.get
  match c, r.last with
  | .nothing, .endOfFile => return none
  | c, _ => return some c

end CommandShell.Script
