import CommandShell.Machine.FileTree
import CommandShell.Program.Script.Pattern
import CommandShell.Text.Narrow

/-!
# Scripts: patterns of file names

* `Script.fileNames` : the paths that a pattern stands for.
-/

namespace CommandShell.Script

/-- Whether a bracket closes behind one that opens. -/
def closes : Pattern → Bool
  | [] => false
  | _ :: rest => rest.any (·.1 == ']')

/-- Whether something stands for several names. -/
def hasPattern : Pattern → Bool
  | [] => false
  | (c, quoted) :: rest =>
    (!quoted && (c == '*' || c == '?' || (c == '[' && closes rest))) || hasPattern rest

/-- The names between slashes. -/
def nameParts : Pattern → List Pattern
  | [] => [[]]
  | (c, quoted) :: rest =>
    if c = '/' then [] :: nameParts rest
    else
      match nameParts rest with
      | part :: parts => ((c, quoted) :: part) :: parts
      | [] => [[(c, quoted)]]

/-- A part of a pattern that stands for itself. -/
def literalPart : Nat → Pattern → List Char
  | 0, _ => []
  | fuel + 1, p =>
    match takeLiteral p with
    | some (c, rest) => c :: literalPart fuel rest
    | none => []

/-- The names in a directory, the two that every directory has included. -/
def namesIn (tree : FileTree) (cwd : Place) (path : String) : List String :=
  match tree.stat cwd (Narrow.toBytes path) with
  | .ok (p, .directory) =>
    "." :: ".." :: (tree.below p).filterMap fun (names, _) => match names with
      | [name] => some (Narrow.ofBytes name)
      | _ => none
  | _ => []

/-- Whether a pattern begins with a point. -/
def beginsWithPoint (p : Pattern) : Bool :=
  (takeLiteral p).any (·.1 == '.')

/-- The names in a directory that a pattern stands for; one with a point at its front has to be
asked for. -/
def namesMatching (tree : FileTree) (cwd : Place) (before : String) (p : Pattern) : List String :=
  (namesIn tree cwd (if before = "" then "." else before)).filter fun name =>
    (name.toList.head? != some '.' || beginsWithPoint p) && isMatch p name.toList

/-- The paths that the parts of a pattern stand for, behind a path. -/
def pathsFrom (tree : FileTree) (cwd : Place) : List Pattern → String → List String
  | [], before => [before]
  | [last], before =>
    if hasPattern last then (namesMatching tree cwd before last).map (before ++ ·)
    else
      let path := before ++ String.ofList (literalPart (last.length + 1) last)
      if tree.hasPath cwd (Narrow.toBytes path) then [path] else []
  | part :: parts, before =>
    if hasPattern part then
      (namesMatching tree cwd before part).flatMap fun name =>
        pathsFrom tree cwd parts (before ++ name ++ "/")
    else pathsFrom tree cwd parts
      (before ++ String.ofList (literalPart (part.length + 1) part) ++ "/")

/-- The paths that a pattern stands for, in order. -/
def fileNames (tree : FileTree) (cwd : Place) (p : Pattern) : List String :=
  if hasPattern p then
    (pathsFrom tree cwd (nameParts p) "").mergeSort fun a b => !decide (b < a)
  else []

end CommandShell.Script
