import CommandShell.Text.Class

/-!
# Words

A word of the command language is written bare when nothing in it could be read otherwise, and in
double quotes when something could.

* `Word.isBare`   : the text reads as one word without quotes;
* `Word.escape`   : the text as one word, quoted only where it has to be;
* `Word.quote`    : the text in double quotes;
* `Word.escapeQuoted` : the text as it stands between double quotes.
-/

namespace CommandShell.Word

/-- Characters that are punctuation wherever they stand outside quotes. -/
def punctuation : List Char := ['$', ';', '&', '|', '<', '>', '(', ')']

/-- Characters that open a quoted run where a word could begin. -/
def quotes : List Char := ['"', '\'', '\x60']

/-- Characters that may stand in an unquoted word. -/
def isWordChar (c : Char) : Bool :=
  !Text.isBlank c && !Text.isControl c && !punctuation.contains c

/-- A text that reads as one unquoted word. -/
def isBareChars : List Char → Bool
  | [] => false
  | c :: cs => !quotes.contains c && (c :: cs).all isWordChar

/-- A text that reads as one unquoted word. -/
def isBare (s : String) : Bool :=
  isBareChars s.toList

/-- A backslash stands before each backslash, double quote and opening brace. -/
def escapeQuotedChars : List Char → List Char
  | [] => []
  | c :: cs =>
    if c = '\\' ∨ c = '"' ∨ c = '\x7b' then '\\' :: c :: escapeQuotedChars cs
    else c :: escapeQuotedChars cs

/-- The contents of a double-quoted run that reads as `s`. -/
def escapeQuoted (s : String) : String :=
  String.ofList (escapeQuotedChars s.toList)

/-- A text in double quotes. -/
def quote (s : String) : String :=
  "\"" ++ escapeQuoted s ++ "\""

/-- A text as one word. A closing brace asks for quotes, because between braces it would end the
word. -/
def escape (s : String) : String :=
  if isBare s && !s.toList.contains '\x7d' then s else quote s

end CommandShell.Word
