import CommandShell.Program.Script.Basic

/-!
# Scripts: patterns

In a pattern, `*` stands for any text, `?` for any character and `[...]` for one of some characters.
A backslash takes the meaning off the next character.

* `Script.Pattern` : patterns;
* `Script.isMatch` : whether a pattern stands for a text;
* `Script.dropFront`, `Script.dropEnd` : a text without what a pattern stands for.
-/

namespace CommandShell.Script

/-- The characters of a pattern, and whether they are quoted. -/
abbrev Pattern := List (Char × Bool)

/-- A character with its meaning taken off, and what follows it. -/
def takeLiteral : Pattern → Option (Char × Pattern)
  | [] => none
  | [('\\', false)] => some ('\\', [])
  | ('\\', false) :: (c, _) :: rest => some (c, rest)
  | (c, _) :: rest => some (c, rest)

/-- The classes of characters that have names. -/
def namedClass? (name : String) : Option (Char → Bool) :=
  match name with
  | "alpha" => some Char.isAlpha
  | "digit" => some Char.isDigit
  | "alnum" => some Char.isAlphanum
  | "upper" => some Char.isUpper
  | "lower" => some Char.isLower
  | "space" => some fun c => c == ' ' || (9 ≤ c.toNat && c.toNat ≤ 13)
  | "blank" => some fun c => c == ' ' || c == '\t'
  | "punct" => some fun c => 33 ≤ c.toNat && c.toNat ≤ 126 && !c.isAlphanum
  | "print" => some fun c => 32 ≤ c.toNat && c.toNat ≤ 126
  | "graph" => some fun c => 33 ≤ c.toNat && c.toNat ≤ 126
  | "cntrl" => some fun c => c.toNat < 32 || c.toNat == 127
  | "xdigit" => some fun c => c.isDigit || ('a' ≤ c && c ≤ 'f') || ('A' ≤ c && c ≤ 'F')
  | _ => none

/-- A named class behind an opening bracket: `:name:]`. -/
def readClass : Pattern → Option ((Char → Bool) × Pattern)
  | (':', _) :: rest =>
    let name := (rest.takeWhile fun (c, _) => c.isAlpha).map (·.1)
    match rest.drop name.length, namedClass? (String.ofList name) with
    | (':', _) :: (']', _) :: after, some test => some (test, after)
    | _, _ => none
  | _ => none

/-- Whether a character is in a set, which goes on up to its closing bracket; `first` tells that a
closing bracket is a member. Without an end there is no set. -/
def readSet (c : Char) : Nat → Bool → Bool → Pattern → Option (Bool × Pattern)
  | 0, _, _, _ => none
  | _, _, _, [] => none
  | fuel + 1, first, found, (d, quoted) :: rest =>
    if d = ']' ∧ !quoted ∧ !first then some (found, rest)
    else
      let named := if d = '[' ∧ !quoted then readClass rest else none
      match named with
      | some (test, after) => readSet c fuel false (found || test c) after
      | none =>
        match takeLiteral ((d, quoted) :: rest) with
        | none => none
        | some (low, after) =>
          match after with
          | ('-', false) :: next :: more =>
            if next = (']', false) then readSet c fuel false (found || c == low) after
            else
              match takeLiteral (next :: more) with
              | some (high, behind) =>
                readSet c fuel false (found || (low ≤ c && c ≤ high)) behind
              | none => none
          | _ => readSet c fuel false (found || c == low) after

/-- Whether a character is in the set behind an opening bracket, and what follows the set. -/
def inSet (c : Char) (p : Pattern) : Option (Bool × Pattern) :=
  let (inverted, rest) :=
    match p with
    | ('!', false) :: rest => (true, rest)
    | _ => (false, p)
  (readSet c (p.length + 1) true false rest).map fun (found, after) => (found != inverted, after)

/-- Whether a pattern stands for a text; `fuel` bounds the steps. -/
def matchFrom : Nat → Pattern → List Char → Bool
  | 0, _, _ => false
  | _ + 1, [], cs => cs.isEmpty
  | fuel + 1, (p, quoted) :: rest, cs =>
    if p = '*' ∧ !quoted then
      match rest, cs with
      | ('*', false) :: _, _ => matchFrom fuel rest cs
      | _, [] => matchFrom fuel rest []
      | _, _ :: ds => matchFrom fuel rest cs || matchFrom fuel ((p, quoted) :: rest) ds
    else
      match cs with
      | [] => false
      | c :: ds =>
        if p = '?' ∧ !quoted then matchFrom fuel rest ds
        else
          let set := if p = '[' ∧ !quoted then inSet c rest else none
          match set with
          | some (found, after) => found && matchFrom fuel after ds
          | none =>
            match takeLiteral ((p, quoted) :: rest) with
            | some (d, after) => d == c && matchFrom fuel after ds
            | none => false

/-- Whether a pattern stands for a text. -/
def isMatch (p : Pattern) (cs : List Char) : Bool :=
  matchFrom (p.length + cs.length + 1) p cs

/-- A text without what a pattern stands for at its front. -/
def dropFront (longest : Bool) (p : Pattern) (cs : List Char) : List Char :=
  let sizes := List.range (cs.length + 1)
  let sizes := if longest then sizes.reverse else sizes
  match sizes.find? fun n => isMatch p (cs.take n) with
  | some n => cs.drop n
  | none => cs

/-- A text without what a pattern stands for at its end. -/
def dropEnd (longest : Bool) (p : Pattern) (cs : List Char) : List Char :=
  let sizes := List.range (cs.length + 1)
  let sizes := if longest then sizes else sizes.reverse
  match sizes.find? fun n => isMatch p (cs.drop n) with
  | some n => cs.take n
  | none => cs

end CommandShell.Script
