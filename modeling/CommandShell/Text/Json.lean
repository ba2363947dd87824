import CommandShell.Text.Hex

/-!
# JSON texts

* `Json.quote`, `Json.array`, `Json.object` : compact JSON;
* `Json.readStrings?` : an object whose values are all strings, read with exact keys; a repeated
  key keeps its first place and its last value.
-/

namespace CommandShell.Json

/-- A character inside a JSON string. -/
def quoteChar (c : Char) : List Char :=
  if c = '"' then ['\\', '"']
  else if c = '\\' then ['\\', '\\']
  else if c = '\x08' then ['\\', 'b']
  else if c = '\x0c' then ['\\', 'f']
  else if c = '\n' then ['\\', 'n']
  else if c = '\r' then ['\\', 'r']
  else if c = '\t' then ['\\', 't']
  else if c.toNat < 0x20 then
    ['\\', 'u', '0', '0', Hex.digit (c.toNat / 16), Hex.digit (c.toNat % 16)]
  else [c]

/-- A text as a JSON string. -/
def quote (s : String) : String :=
  "\"" ++ String.ofList (s.toList.flatMap quoteChar) ++ "\""

/-- JSON values as an array. -/
def array (items : List String) : String :=
  "[" ++ ",".intercalate items ++ "]"

/-- Names and JSON values as an object. -/
def object (members : List (String × String)) : String :=
  "\x7b" ++ ",".intercalate (members.map fun (k, v) => quote k ++ ":" ++ v) ++ "\x7d"

/-! ## Reading -/

/-- Blanks between the tokens of a JSON text. -/
def isBlank (c : Char) : Bool :=
  c == ' ' || c == '\n' || c == '\t' || c == '\r'

/-- Drops the blanks at the front. -/
def skip (cs : List Char) : List Char := cs.dropWhile isBlank

/-- The character that a backslash and a letter stand for. -/
def escaped? (c : Char) : Option Char :=
  if c = '"' ∨ c = '\\' ∨ c = '/' then some c
  else if c = 'b' then some '\x08'
  else if c = 'f' then some '\x0c'
  else if c = 'n' then some '\n'
  else if c = 'r' then some '\r'
  else if c = 't' then some '\t'
  else none

/-- Reads a string from behind its opening quote. Code points beyond four digits come as two
surrogates, and a surrogate stands nowhere else. -/
def readString? : List Char → Option (List Char × List Char)
  | [] => none
  | '"' :: rest => some ([], rest)
  | '\\' :: 'u' :: a :: b :: c :: d :: '\\' :: 'u' :: e :: f :: g :: h :: rest =>
    match Hex.number? [a, b, c, d] with
    | none => none
    | some n =>
      if 0xD800 ≤ n ∧ n ≤ 0xDBFF then
        match Hex.number? [e, f, g, h] with
        | none => none
        | some m =>
          if 0xDC00 ≤ m ∧ m ≤ 0xDFFF then
            (readString? rest).map fun (s, r) =>
              (Char.ofNat (0x10000 + (n - 0xD800) * 0x400 + (m - 0xDC00)) :: s, r)
          else none
      else if 0xDC00 ≤ n ∧ n ≤ 0xDFFF then none
      else
        (readString? ('\\' :: 'u' :: e :: f :: g :: h :: rest)).map fun (s, r) =>
          (Char.ofNat n :: s, r)
  | '\\' :: 'u' :: a :: b :: c :: d :: rest =>
    match Hex.number? [a, b, c, d] with
    | none => none
    | some n =>
      if 0xD800 ≤ n ∧ n ≤ 0xDFFF then none
      else (readString? rest).map fun (s, r) => (Char.ofNat n :: s, r)
  | '\\' :: c :: rest =>
    match escaped? c with
    | none => none
    | some c => (readString? rest).map fun (s, r) => (c :: s, r)
  | c :: rest =>
    if c.toNat < 0x20 ∨ c = '\\' then none
    else (readString? rest).map fun (s, r) => (c :: s, r)

/-- Reads one member of an object: a string, a colon and a string. -/
def readMember? (cs : List Char) : Option ((String × String) × List Char) :=
  match skip cs with
  | '"' :: rest =>
    match readString? rest with
    | none => none
    | some (k, rest) =>
      match skip rest with
      | ':' :: rest =>
        match skip rest with
        | '"' :: rest =>
          (readString? rest).map fun (v, rest) => ((String.ofList k, String.ofList v), rest)
        | _ => none
      | _ => none
  | _ => none

/-- Reads members up to the closing brace and the end of the text; `fuel` bounds their number. -/
def readMembers? : Nat → List Char → Option (List (String × String))
  | 0, _ => none
  | fuel + 1, cs =>
    match readMember? cs with
    | none => none
    | some (m, rest) =>
      match skip rest with
      | ',' :: rest => (readMembers? fuel rest).map (m :: ·)
      | '\x7d' :: rest => if (skip rest).isEmpty then some [m] else none
      | _ => none

/-- Sets a key: a new key comes last, a known key keeps its place. -/
def put (k v : String) : List (String × String) → List (String × String)
  | [] => [(k, v)]
  | (k', v') :: rest => if k' = k then (k, v) :: rest else (k', v') :: put k v rest

/-- Reads a JSON text that is an object of strings. -/
def readStrings? (s : String) : Option (List (String × String)) :=
  match skip s.toList with
  | '\x7b' :: rest =>
    match skip rest with
    | '\x7d' :: rest' => if (skip rest').isEmpty then some [] else none
    | _ => (readMembers? (rest.length + 1) rest).map fun ms =>
        ms.foldl (fun acc (k, v) => put k v acc) []
  | _ => none

end CommandShell.Json
