import CommandShell.Machine.Program
import CommandShell.Text.Narrow

/-!
# Messages of programs

* `Message.literal`   : a text in single quotes, with escapes;
* `Message.shellWord` : a text as a word that a shell reads back;
* `Message.fileName`  : the same, for names before a colon;
* `Message.reason`    : the text of an error of the machine.

All texts are narrow.
-/

namespace CommandShell.Message

/-- Characters that show. -/
def isPrintable (c : Char) : Bool := 32 ≤ c.toNat && c.toNat < 127

/-- The letters of escapes. -/
def escapeLetter? (c : Char) : Option Char :=
  [('\x07', 'a'), ('\x08', 'b'), ('\x0c', 'f'), ('\n', 'n'), ('\r', 'r'), ('\t', 't'),
    ('\x0b', 'v')].lookup c

/-- A byte as three octal digits. -/
def octalDigits (c : Char) : List Char :=
  let n := c.toNat
  [Char.ofNat (48 + n / 64), Char.ofNat (48 + n / 8 % 8), Char.ofNat (48 + n % 8)]

/-- What stands behind a backslash for a character that does not show. -/
def escaped (c : Char) : List Char :=
  match escapeLetter? c with
  | some letter => [letter]
  | none => octalDigits c

/-- One character of a literal. -/
def literalChar (c : Char) : List Char :=
  if c = '\'' ∨ c = '\\' then ['\\', c]
  else if isPrintable c then [c]
  else '\\' :: escaped c

/-- A text in single quotes, with escapes. -/
def literal (s : String) : String :=
  "'" ++ String.ofList (s.toList.flatMap literalChar) ++ "'"

/-! ## Words of a shell -/

/-- Characters that a shell does not take as they are. -/
def isSpecial (c : Char) : Bool :=
  " !\"$&()*;<=>[^\x60|?\\'".toList.contains c

/-- Whether a text has to be quoted. -/
def needsQuotes (s : String) : Bool :=
  match s.toList with
  | [] => true
  | first :: rest =>
    first == '#' || first == '~' || s == "\x7b" || s == "\x7d" ||
      (first :: rest).any fun c => isSpecial c || !isPrintable c

/-- Characters that mean the same in both kinds of quotes. -/
def isPlain (first : Bool) (c : Char) : Bool :=
  c.isAlphanum || " %+,-./:]_'@".toList.contains c || (first && (c == '#' || c == '~'))

/-- A text between single quotes; `pending` tells that escapes are under way. -/
def singleQuoted : Bool → List Char → List Char
  | _, [] => ['\'']
  | pending, c :: cs =>
    if c = '\'' then "'\\''".toList ++ singleQuoted false cs
    else if isPrintable c then (if pending then ['\'', '\''] else []) ++ c :: singleQuoted false cs
    else
      (if pending then [] else "'$'".toList) ++ '\\' :: escaped c ++ singleQuoted true cs

/-- Whether double quotes serve: there are single quotes, and nothing that is special otherwise. -/
def takesDoubleQuotes : List Char → Bool
  | [] => false
  | c :: cs => (c :: cs).contains '\'' && isPlain true c && cs.all (isPlain false)

/-- A text in quotes. A text with single quotes that ends in an escape begins as if escapes were
under way. -/
def quoted (s : String) : String :=
  if takesDoubleQuotes s.toList then "\"" ++ s ++ "\""
  else
    let pending := s.toList.contains '\'' && s.toList.getLast?.any (!isPrintable ·)
    String.ofList ('\'' :: singleQuoted pending s.toList)

/-- A text as a word that a shell reads back. -/
def shellWord (s : String) : String :=
  if needsQuotes s then quoted s else s

/-- A name as a word that a shell reads back; one with a colon is quoted too. -/
def fileName (s : String) : String :=
  if needsQuotes s || s.toList.contains ':' then quoted s else s

/-! ## Errors -/

/-- The text of an error, without its number. -/
def reason : OsError → String
  | .notFound => "No such file or directory"
  | .alreadyExists => "File exists"
  | .notDirectory => "Not a directory"
  | .isDirectory => "Is a directory"
  | .permissionDenied => "Permission denied"
  | .nameTooLong => "File name too long"
  | .invalidText | .nulInPath => "Invalid argument"

/-- A message of a program. -/
def line (i : Invocation) (text : String) : Write :=
  .err (Narrow.toBytes (Narrow.ofText i.name ++ ": " ++ text ++ "\n"))

/-- A message that points to the help of a program. -/
def hint (i : Invocation) : Write :=
  .err (Narrow.toBytes
    ("Try '" ++ Narrow.ofText i.name ++ " --help' for more information.\n"))

end CommandShell.Message
