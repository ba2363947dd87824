import CommandShell.Text.Hex
import CommandShell.Text.Hidden

/-!
# Texts shown as literals

`Text.literal s` shows a text in double quotes for a dump: quotes, backslashes and the common
control characters are escaped with a backslash, and any other character that would not show on its
own is written as its code point in hexadecimal.
-/

namespace CommandShell.Text

/-- A character by its code point. -/
def codePoint (c : Char) : String :=
  "\\u\x7b" ++ String.ofList (Hex.digits c.toNat) ++ "\x7d"

/-- A character inside a literal. -/
def literalChar (c : Char) : String :=
  if c = '\x00' then "\\0"
  else if c = '\t' then "\\t"
  else if c = '\n' then "\\n"
  else if c = '\r' then "\\r"
  else if c = '\\' then "\\\\"
  else if c = '"' then "\\\""
  else if isHidden c then codePoint c
  else String.singleton c

/-- A text in double quotes, as dumps show it. -/
def literal (s : String) : String :=
  "\"" ++ String.join (s.toList.map literalChar) ++ "\""

end CommandShell.Text
