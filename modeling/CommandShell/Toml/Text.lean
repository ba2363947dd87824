import CommandShell.Text.Hex

/-!
# TOML: blanks, strings and keys

Each reader takes what it reads off the front of a text and gives the rest.

* `Toml.skipTrivia`  : blanks, line ends and comments;
* `Toml.lineEnd?`    : the end of a line, a comment before it included;
* `Toml.readString?` : a string in any of the four kinds of quotes;
* `Toml.readKeys?`   : a key, or several with dots between them.
-/

namespace CommandShell.Toml

/-- Blanks inside a line. -/
def isBlank (c : Char) : Bool := c == ' ' || c == '\t'

/-- Characters that may stand in comments and strings: all but the ASCII controls, and the tab. -/
def isPlain (c : Char) : Bool :=
  c == '\t' || (0x20 ≤ c.toNat && c.toNat != 0x7F)

/-- Drops the blanks at the front. -/
def skipBlanks (cs : List Char) : List Char := cs.dropWhile isBlank

/-- What follows a line end at the front. -/
def newline? : List Char → Option (List Char)
  | '\n' :: rest => some rest
  | '\r' :: '\n' :: rest => some rest
  | _ => none

/-- Drops blanks, line ends and comments at the front; `comment` tells that a comment is under way.
A character that a comment cannot hold stays, and nothing can be read from there. -/
def skipTrivia (comment : Bool) : List Char → List Char
  | [] => []
  | '\r' :: '\n' :: rest => skipTrivia false rest
  | c :: rest =>
    if c = '\n' then skipTrivia false rest
    else if comment then
      if isPlain c then skipTrivia true rest else c :: rest
    else if isBlank c then skipTrivia false rest
    else if c = '#' then skipTrivia true rest
    else c :: rest

/-- What follows the end of the line: blanks and a comment may stand before it. -/
def lineEnd? (cs : List Char) : Option (List Char) :=
  let rest :=
    match skipBlanks cs with
    | '#' :: comment => comment.dropWhile isPlain
    | rest => rest
  match rest with
  | [] => some []
  | rest => newline? rest

/-! ## Strings -/

/-- The character of a code point; surrogates and numbers beyond the last one have none. -/
def charOf? (n : Nat) : Option Char :=
  if h : n.isValidChar then some (Char.ofNatAux n h) else none

/-- The character that a backslash and a letter stand for. -/
def escaped? (c : Char) : Option Char :=
  if c = 'b' then some '\x08'
  else if c = 't' then some '\t'
  else if c = 'n' then some '\n'
  else if c = 'f' then some '\x0c'
  else if c = 'r' then some '\r'
  else if c = '"' ∨ c = '\\' then some c
  else none

/-- Puts a character before what is read, if there is one. -/
def consTo (c : Option Char) (read : Option (List Char × List Char)) :
    Option (List Char × List Char) :=
  match c, read with
  | some c, some (s, rest) => some (c :: s, rest)
  | _, _ => none

/-- The character of a code point in hexadecimal digits. -/
def codePoint? (digits : List Char) : Option Char :=
  (Hex.number? digits).bind charOf?

/-- Reads a string from behind its opening double quote. -/
def readBasic? : List Char → Option (List Char × List Char)
  | [] => none
  | '"' :: rest => some ([], rest)
  | '\\' :: 'u' :: a :: b :: c :: d :: rest =>
    consTo (codePoint? [a, b, c, d]) (readBasic? rest)
  | '\\' :: 'U' :: a :: b :: c :: d :: e :: f :: g :: h :: rest =>
    consTo (codePoint? [a, b, c, d, e, f, g, h]) (readBasic? rest)
  | '\\' :: c :: rest => consTo (escaped? c) (readBasic? rest)
  | c :: rest => if isPlain c ∧ c ≠ '\\' then consTo (some c) (readBasic? rest) else none

/-- A backslash at the end of a line, blanks apart, is followed by this. -/
def endsLine (cs : List Char) : Bool := (newline? (skipBlanks cs)).isSome

/-- Reads a string from behind three opening double quotes; `joining` drops blanks and line ends
after a backslash at the end of a line. Up to two quotes may stand right before the closing ones. -/
def readMultiBasic? (joining : Bool) : List Char → Option (List Char × List Char)
  | [] => none
  | '"' :: '"' :: '"' :: '"' :: '"' :: rest => some (['"', '"'], rest)
  | '"' :: '"' :: '"' :: '"' :: rest => some (['"'], rest)
  | '"' :: '"' :: '"' :: rest => some ([], rest)
  | '\\' :: 'u' :: a :: b :: c :: d :: rest =>
    consTo (codePoint? [a, b, c, d]) (readMultiBasic? false rest)
  | '\\' :: 'U' :: a :: b :: c :: d :: e :: f :: g :: h :: rest =>
    consTo (codePoint? [a, b, c, d, e, f, g, h]) (readMultiBasic? false rest)
  | '\\' :: c :: rest =>
    if endsLine (c :: rest) then readMultiBasic? true (c :: rest)
    else consTo (escaped? c) (readMultiBasic? false rest)
  | '\r' :: '\n' :: rest =>
    if joining then readMultiBasic? true rest
    else consTo (some '\n') (readMultiBasic? false rest)
  | c :: rest =>
    if c = '\n' then
      if joining then readMultiBasic? true rest
      else consTo (some '\n') (readMultiBasic? false rest)
    else if joining ∧ isBlank c then readMultiBasic? true rest
    else if isPlain c ∧ c ≠ '\\' then consTo (some c) (readMultiBasic? false rest)
    else none

/-- Reads a string from behind its opening single quote. -/
def readLiteral? : List Char → Option (List Char × List Char)
  | [] => none
  | '\'' :: rest => some ([], rest)
  | c :: rest => if isPlain c then consTo (some c) (readLiteral? rest) else none

/-- Reads a string from behind three opening single quotes. -/
def readMultiLiteral? : List Char → Option (List Char × List Char)
  | [] => none
  | '\'' :: '\'' :: '\'' :: '\'' :: '\'' :: rest => some (['\'', '\''], rest)
  | '\'' :: '\'' :: '\'' :: '\'' :: rest => some (['\''], rest)
  | '\'' :: '\'' :: '\'' :: rest => some ([], rest)
  | '\r' :: '\n' :: rest => consTo (some '\n') (readMultiLiteral? rest)
  | c :: rest =>
    if isPlain c ∨ c = '\n' then consTo (some c) (readMultiLiteral? rest) else none

/-- Drops one line end right behind three opening quotes. -/
def dropNewline (cs : List Char) : List Char := (newline? cs).getD cs

/-- Reads a string in any kind of quotes. -/
def readString? : List Char → Option (List Char × List Char)
  | '"' :: '"' :: '"' :: rest => readMultiBasic? false (dropNewline rest)
  | '"' :: rest => readBasic? rest
  | '\'' :: '\'' :: '\'' :: rest => readMultiLiteral? (dropNewline rest)
  | '\'' :: rest => readLiteral? rest
  | _ => none

/-! ## Keys -/

/-- Characters of a key without quotes. -/
def isBareKeyChar (c : Char) : Bool :=
  ('a' ≤ c && c ≤ 'z') || ('A' ≤ c && c ≤ 'Z') || ('0' ≤ c && c ≤ '9') || c == '_' || c == '-'

/-- Reads one key: bare, or in quotes of one line. -/
def readKey? : List Char → Option (List Char × List Char)
  | '"' :: rest => readBasic? rest
  | '\'' :: rest => readLiteral? rest
  | cs =>
    match cs.takeWhile isBareKeyChar with
    | [] => none
    | key => some (key, cs.dropWhile isBareKeyChar)

/-- Reads keys with dots between them; blanks may stand around each. -/
def readKeysFrom? : Nat → List Char → Option (List String × List Char)
  | 0, _ => none
  | fuel + 1, cs =>
    match readKey? (skipBlanks cs) with
    | none => none
    | some (key, rest) =>
      match skipBlanks rest with
      | '.' :: rest =>
        (readKeysFrom? fuel rest).map fun (keys, rest) => (String.ofList key :: keys, rest)
      | rest => some ([String.ofList key], rest)

/-- The number of levels that keys and values may have. -/
def levelLimit : Nat := 80

/-- Reads keys with dots between them, fewer than the limit of levels. -/
def readKeys? (cs : List Char) : Option (List String × List Char) :=
  match readKeysFrom? (cs.length + 1) cs with
  | some (keys, rest) => if keys.length < levelLimit then some (keys, rest) else none
  | none => none

end CommandShell.Toml
