/-!
# Character classes and case folding

* `Text.isBlank`   : the Unicode property White_Space;
* `Text.isControl` : the general category Cc;
* `Text.trim`      : a text without the blanks at its two ends;
* `Text.fold`      : ASCII letters in lower case, every other character unchanged.

Names of settings, scopes and stored variables are compared through `Text.fold`.
-/

namespace CommandShell.Text

/-- Blank characters: the Unicode property White_Space. -/
def isBlank (c : Char) : Bool :=
  let n := c.toNat
  (9 ≤ n && n ≤ 13) || n == 0x20 || n == 0x85 || n == 0xA0 || n == 0x1680 ||
    (0x2000 ≤ n && n ≤ 0x200A) || n == 0x2028 || n == 0x2029 || n == 0x202F ||
    n == 0x205F || n == 0x3000

/-- Control characters: the general category Cc. -/
def isControl (c : Char) : Bool :=
  let n := c.toNat
  n < 0x20 || (0x7F ≤ n && n ≤ 0x9F)

/-- Drops the blanks at both ends of a list of characters. -/
def trimChars (cs : List Char) : List Char :=
  ((cs.dropWhile isBlank).reverse.dropWhile isBlank).reverse

/-- A text without the blanks at its two ends. -/
def trim (s : String) : String :=
  String.ofList (trimChars s.toList)

/-- ASCII letters in lower case; every other character stays as it is. -/
def fold (s : String) : String :=
  String.ofList (s.toList.map Char.toLower)

/-- ASCII letters in upper case; every other character stays as it is. -/
def upper (s : String) : String :=
  String.ofList (s.toList.map Char.toUpper)

/-- Equality up to the case of ASCII letters. -/
def sameFold (s t : String) : Bool :=
  fold s == fold t

theorem sameFold_iff {s t : String} : sameFold s t = true ↔ fold s = fold t := by
  simp [sameFold]

end CommandShell.Text
