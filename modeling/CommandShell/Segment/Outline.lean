import CommandShell.Segment.Basic
import CommandShell.Segment.Render
import CommandShell.Text.Literal

/-!
# Tree dumps

`Segment.outline` shows a tree one node a row, each row indented below the row of its parent.
-/

namespace CommandShell.Segment

/-- What the row of a node shows. -/
def rowName : Segment → String
  | text value => "Text " ++ Text.literal value
  | reference scope name => "Variable " ++ variableName scope name
  | bare _ | command _ _ => "Command"
  | pipe _ _ => "Pipe"
  | redirect _ _ mode => "Redirection " ++ mode.name
  | sequence _ _ stop => "Sequence (" ++ (if stop then "stop on failure" else "continue") ++ ")"
  | interpolation _ => "StringInterpolation"
  | substitution _ => "CommandInterpolation"

/-- Two spaces for each level. -/
def indent (depth : Nat) : String :=
  String.ofList (List.replicate (2 * depth) ' ')

/-- The row of a node at a depth, with the label of its place before its name. -/
def row (depth : Nat) (label : String) (s : Segment) : String :=
  indent depth ++ label ++ s.rowName ++ "\n"

mutual

/-- The rows of a tree: the node itself, then its children. -/
def rows (depth : Nat) (label : String) : Segment → List String
  | text value => [row depth label (text value)]
  | reference scope name => [row depth label (reference scope name)]
  | bare head => row depth label (bare head) :: rows (depth + 1) "head: " head
  | command head args =>
    row depth label (command head args) ::
      (rows (depth + 1) "head: " head ++ rowsAll (depth + 1) "arg: " args)
  | pipe left right =>
    row depth label (pipe left right) ::
      (rows (depth + 1) "left: " left ++ rows (depth + 1) "right: " right)
  | redirect left device mode =>
    row depth label (redirect left device mode) ::
      (rows (depth + 1) "left: " left ++ rows (depth + 1) "device: " device)
  | sequence left right stop =>
    row depth label (sequence left right stop) ::
      (rows (depth + 1) "left: " left ++ rows (depth + 1) "right: " right)
  | interpolation parts =>
    row depth label (interpolation parts) :: rowsAll (depth + 1) "" parts
  | substitution inner =>
    row depth label (substitution inner) :: rows (depth + 1) "" inner

/-- The rows of several trees with one label. -/
def rowsAll (depth : Nat) (label : String) : List Segment → List String
  | [] => []
  | s :: ss => rows depth label s ++ rowsAll depth label ss

end

/-- A tree, one node a row. -/
def outline (s : Segment) : String :=
  String.join (rows 0 "" s)

end CommandShell.Segment
