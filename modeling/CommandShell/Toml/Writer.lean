import CommandShell.Text.Class
import CommandShell.Text.Hex
import CommandShell.Toml.Text

/-!
# TOML: writing

* `Toml.writeKey`     : a key, bare where it can be;
* `Toml.writeString`  : a string in the plainest quotes that take it;
* `Toml.writeStrings` : an array of strings, one to a line where there are several.
-/

namespace CommandShell.Toml

/-- ASCII controls, but for the tab and the line feed. -/
def isControl (c : Char) : Bool :=
  (c.toNat < 0x20 && c != '\t' && c != '\n') || c.toNat == 0x7F

/-- Whether a text has `n` of the character `c` in a row; `run` counts those just before. -/
def hasRun (c : Char) (n : Nat) : Nat → List Char → Bool
  | _, [] => false
  | run, d :: rest =>
    if d = c then (if run + 1 = n then true else hasRun c n (run + 1) rest)
    else hasRun c n 0 rest

/-- A character that is written with a backslash between double quotes. -/
def escapeChar (c : Char) : List Char :=
  if c = '\x08' then ['\\', 'b']
  else if c = '\t' then ['\\', 't']
  else if c = '\n' then ['\\', 'n']
  else if c = '\x0c' then ['\\', 'f']
  else if c = '\r' then ['\\', 'r']
  else if c = '"' then ['\\', '"']
  else if c = '\\' then ['\\', '\\']
  else if isControl c then
    ['\\', 'u', '0', '0', (Hex.digit (c.toNat / 16)).toUpper, (Hex.digit (c.toNat % 16)).toUpper]
  else [c]

/-- A text between double quotes on one line. -/
def escapeBasic (cs : List Char) : List Char := cs.flatMap escapeChar

/-- A text between three double quotes: line feeds stand as they are, and of quotes in a row every
third has a backslash; `run` counts the quotes just before. -/
def escapeMulti : Nat → List Char → List Char
  | _, [] => []
  | run, c :: rest =>
    if c = '"' then
      if run = 2 then '\\' :: '"' :: escapeMulti 0 rest else '"' :: escapeMulti (run + 1) rest
    else if c = '\n' then '\n' :: escapeMulti 0 rest
    else escapeChar c ++ escapeMulti 0 rest

/-- A text in double quotes. -/
def basic (cs : List Char) : List Char := '"' :: escapeBasic cs ++ ['"']

/-- A text in single quotes. -/
def literal (cs : List Char) : List Char := '\'' :: cs ++ ['\'']

/-- A line feed before a text of several lines, so that its first line begins one. -/
def leadIn (cs : List Char) : List Char := if cs.contains '\n' then ['\n'] else []

/-- A text in three double quotes. -/
def multiBasic (cs : List Char) : List Char :=
  ['"', '"', '"'] ++ leadIn cs ++ escapeMulti 0 cs ++ ['"', '"', '"']

/-- A text in three single quotes. -/
def multiLiteral (cs : List Char) : List Char :=
  ['\'', '\'', '\''] ++ leadIn cs ++ cs ++ ['\'', '\'', '\'']

/-- A string in the first kind of quotes that takes it. -/
def writeStringChars (cs : List Char) : List Char :=
  let control := cs.any isControl
  let newline := cs.contains '\n'
  let backslash := cs.contains '\\'
  if !control && !backslash && !cs.contains '"' && !newline then basic cs
  else if !control && !cs.contains '\'' && !newline then literal cs
  else if !control && !backslash && !hasRun '"' 3 0 cs then multiBasic cs
  else if !control && !hasRun '\'' 3 0 cs then multiLiteral cs
  else if newline then multiBasic cs
  else basic cs

/-- A string in the first kind of quotes that takes it. -/
def writeString (s : String) : String := String.ofList (writeStringChars s.toList)

/-- A key: bare, or in the first kind of quotes that takes it. -/
def writeKeyChars (cs : List Char) : List Char :=
  let control := cs.any fun c => isControl c || c == '\n'
  if !cs.isEmpty && cs.all isBareKeyChar then cs
  else if !control && !cs.contains '\\' && !cs.contains '"' then basic cs
  else if !control && !cs.contains '\'' then literal cs
  else basic cs

/-- A key: bare, or in the first kind of quotes that takes it. -/
def writeKey (s : String) : String := String.ofList (writeKeyChars s.toList)

/-- An array of strings; two or more stand on lines of their own. -/
def writeStrings : List String → String
  | [] => "[]"
  | [s] => "[" ++ writeString s ++ "]"
  | ss => "[\n" ++ String.join (ss.map fun s => "    " ++ writeString s ++ ",\n") ++ "]"

/-- A line with a key and a value. -/
def writeEntry (key value : String) : String := writeKey key ++ " = " ++ value ++ "\n"

/-- A truth value. -/
def writeBool (b : Bool) : String := if b then "true" else "false"

end CommandShell.Toml
