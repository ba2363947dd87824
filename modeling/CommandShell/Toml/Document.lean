import CommandShell.Toml.Number
import CommandShell.Toml.Table
import CommandShell.Toml.Text

/-!
# TOML documents

A document is read into its lines, and the lines build its table.

* `Toml.readValue?`      : a value of any kind;
* `Toml.readStatements?` : the lines of a document;
* `Toml.read?`           : the keys and values of a document.
-/

namespace CommandShell.Toml

mutual

/-- Reads a value; `levels` is the number of arrays and inline tables that may still be opened. -/
def readValue? : Nat → Nat → List Char → Option (Value × List Char)
  | 0, _, _ => none
  | fuel + 1, levels, cs =>
    match cs with
    | '"' :: _ => (readString? cs).map fun (s, rest) => (.string (String.ofList s), rest)
    | '\'' :: _ => (readString? cs).map fun (s, rest) => (.string (String.ofList s), rest)
    | '[' :: rest =>
      if levels = 0 then none
      else (readItems? fuel (levels - 1) rest).map fun (items, rest) => (.array items, rest)
    | '\x7b' :: rest =>
      if levels = 0 then none
      else
        match skipBlanks rest with
        | '\x7d' :: rest => some (.table [], rest)
        | rest =>
          match readPairs? fuel (levels - 1) rest with
          | none => none
          | some (pairs, rest) =>
            (Table.addEntries pairs .document).map fun t => (t.toValue, rest)
    | 't' :: 'r' :: 'u' :: 'e' :: rest => some (.boolean true, rest)
    | 'f' :: 'a' :: 'l' :: 's' :: 'e' :: rest => some (.boolean false, rest)
    | _ =>
      match readDateTime? cs with
      | some r => some r
      | none => readNumber? cs

/-- Reads the values of an array up to its closing bracket. -/
def readItems? : Nat → Nat → List Char → Option (List Value × List Char)
  | 0, _, _ => none
  | fuel + 1, levels, cs =>
    match skipTrivia false cs with
    | ']' :: rest => some ([], rest)
    | cs =>
      match readValue? fuel levels cs with
      | none => none
      | some (v, rest) =>
        match skipTrivia false rest with
        | ',' :: rest => (readItems? fuel levels rest).map fun (vs, rest) => (v :: vs, rest)
        | ']' :: rest => some ([v], rest)
        | _ => none

/-- Reads the pairs of an inline table, at least one, up to its closing brace. -/
def readPairs? : Nat → Nat → List Char → Option (List (List String × Value) × List Char)
  | 0, _, _ => none
  | fuel + 1, levels, cs =>
    match readKeys? cs with
    | some (keys, '=' :: rest) =>
      match readValue? fuel levels (skipBlanks rest) with
      | none => none
      | some (v, rest) =>
        match skipBlanks rest with
        | ',' :: rest => (readPairs? fuel levels rest).map fun (ps, rest) => ((keys, v) :: ps, rest)
        | '\x7d' :: rest => some ([(keys, v)], rest)
        | _ => none
    | _ => none

end

/-- A line of a document. -/
inductive Statement where
  | entry (keys : List String) (v : Value)
  | table (keys : List String)
  | arrayTable (keys : List String)

/-- Reads a line that is not blank, and its end. -/
def readStatement? (cs : List Char) : Option (Statement × List Char) :=
  match cs with
  | '[' :: '[' :: rest =>
    match readKeys? rest with
    | some (keys, ']' :: ']' :: rest) => (lineEnd? rest).map fun rest => (.arrayTable keys, rest)
    | _ => none
  | '[' :: rest =>
    match readKeys? rest with
    | some (keys, ']' :: rest) => (lineEnd? rest).map fun rest => (.table keys, rest)
    | _ => none
  | _ =>
    match readKeys? cs with
    | some (keys, '=' :: rest) =>
      match readValue? (cs.length + 1) (levelLimit - 1) (skipBlanks rest) with
      | none => none
      | some (v, rest) => (lineEnd? rest).map fun rest => (.entry keys v, rest)
    | _ => none

/-- Reads lines up to the end; `fuel` bounds their number. -/
def readStatementsFrom? : Nat → List Char → Option (List Statement)
  | 0, _ => none
  | fuel + 1, cs =>
    match skipTrivia false cs with
    | [] => some []
    | cs =>
      match readStatement? cs with
      | none => none
      | some (s, rest) => (readStatementsFrom? fuel rest).map (s :: ·)

/-- Reads the lines of a document; a byte order mark before them is skipped. -/
def readStatements? (cs : List Char) : Option (List Statement) :=
  let cs := if cs.head? = some (Char.ofNat 0xFEFF) then cs.tail else cs
  readStatementsFrom? (cs.length + 1) cs

/-- Builds a table from lines, where `current` are the keys of the last header. -/
def build : List String → List Statement → Table → Option Table
  | _, [], t => some t
  | current, .entry keys v :: rest, t =>
    match Table.update false current (Table.addEntry keys v) t with
    | none => none
    | some t' => build current rest t'
  | _, .table keys :: rest, t =>
    match t.addTable keys with
    | none => none
    | some t' => build keys rest t'
  | _, .arrayTable keys :: rest, t =>
    match t.addArrayTable keys with
    | none => none
    | some t' => build keys rest t'

/-- The keys and values of a document. -/
def read? (text : String) : Option (List (String × Value)) :=
  match readStatements? text.toList with
  | none => none
  | some statements =>
    match build [] statements .document with
    | none => none
    | some t => some (toEntries t.entries)

end CommandShell.Toml
