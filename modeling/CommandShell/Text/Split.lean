/-!
# Splitting and joining texts

* `splitOn sep cs` : the pieces of `cs` between the occurrences of a separator, found from the left
  and without overlap; an empty separator occurs nowhere;
* `Text.split`, `Text.splitAt?`, `Text.join` : the same for texts.
-/

namespace CommandShell

/-- What follows `pre` at the front of a list, if the list begins with it. -/
def after? {α : Type} [DecidableEq α] : (pre cs : List α) → Option (List α)
  | [], cs => some cs
  | _ :: _, [] => none
  | p :: ps, c :: cs => if p = c then after? ps cs else none

/-- Puts one element before the first piece. -/
def consFirst {α : Type} (c : α) : List (List α) → List (List α)
  | [] => [[c]]
  | piece :: rest => (c :: piece) :: rest

/-- The pieces between the occurrences of a separator; `skip` counts the elements at the front that
belong to an occurrence that was met already. -/
def splitFrom {α : Type} [DecidableEq α] (sep : List α) : Nat → List α → List (List α)
  | _, [] => [[]]
  | skip + 1, _ :: cs => splitFrom sep skip cs
  | 0, c :: cs =>
    if sep ≠ [] ∧ (after? sep (c :: cs)).isSome then [] :: splitFrom sep (sep.length - 1) cs
    else consFirst c (splitFrom sep 0 cs)

/-- The pieces of a list between the occurrences of a separator. -/
def splitOn {α : Type} [DecidableEq α] (sep cs : List α) : List (List α) :=
  splitFrom sep 0 cs

namespace Text

/-- The pieces of a text between the occurrences of a separator. -/
def split (sep s : String) : List String :=
  (splitOn sep.toList s.toList).map String.ofList

/-- The texts before and after the first occurrence of a character. -/
def splitAt? (mark : Char) (s : String) : Option (String × String) :=
  let cs := s.toList
  match cs.dropWhile (· != mark) with
  | [] => none
  | _ :: rest => some (String.ofList (cs.takeWhile (· != mark)), String.ofList rest)

/-- Texts with a separator between them. -/
def join (sep : String) (pieces : List String) : String :=
  sep.intercalate pieces

/-- The text that follows `pre`, if `s` begins with it. -/
def after? (pre s : String) : Option String :=
  (CommandShell.after? pre.toList s.toList).map String.ofList

end Text

end CommandShell
