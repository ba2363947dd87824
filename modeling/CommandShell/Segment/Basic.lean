/-!
# Segments

A line of the command language is one tree of segments.

* `Segment`            : the tree;
* `Segment.kindName`   : the name of a node's kind;
* `Segment.precedence` : how tightly a node binds as an operand;
* `Segment.isValue`    : the nodes that a redirection may have as its device;
* `Segment.beq_iff_eq` : the Boolean test decides equality of trees.
-/

namespace CommandShell

/-- Which streams a redirection moves. -/
inductive RedirectMode where
  /-- `<` : the device is the input. -/
  | stdIn
  /-- `>` : the device takes the output. -/
  | stdOut
  /-- `>>` : the device takes the error output. -/
  | stdErr
  /-- `>>>` : the device takes the output and then the error output. -/
  | stdOutAndErr
  deriving DecidableEq, Repr

namespace RedirectMode

/-- The operator of a redirection. -/
def operator : RedirectMode → String
  | stdIn => "<"
  | stdOut => ">"
  | stdErr => ">>"
  | stdOutAndErr => ">>>"

/-- The name of a redirection in a tree dump. -/
def name : RedirectMode → String
  | stdIn => "StdIn"
  | stdOut => "StdOut"
  | stdErr => "StdErr"
  | stdOutAndErr => "StdOutAndErr"

end RedirectMode

/-- One node of a line. -/
inductive Segment where
  /-- A command that stands alone, without a list of arguments. -/
  | bare (head : Segment)
  /-- A command with its arguments. -/
  | command (head : Segment) (args : List Segment)
  /-- The output of the left side is the input of the right side. -/
  | pipe (left right : Segment)
  /-- A stream of the left side goes to or comes from a device. -/
  | redirect (left device : Segment) (mode : RedirectMode)
  /-- One after the other; `stop` leaves the right side out when the left side fails. -/
  | sequence (left right : Segment) (stop : Bool)
  /-- A literal text. -/
  | text (value : String)
  /-- A variable, in a scope or in the default one. -/
  | reference (scope : Option String) (name : String)
  /-- Parts whose texts are put together. -/
  | interpolation (parts : List Segment)
  /-- `$( ... )` : the value of a line in the place of a word. -/
  | substitution (inner : Segment)
  deriving Repr

instance : Inhabited Segment := ⟨.text ""⟩

namespace Segment

/-- The name of a node's kind. -/
def kindName : Segment → String
  | bare _ | command _ _ => "Command"
  | pipe _ _ => "Pipe"
  | redirect _ _ _ => "Redirection"
  | sequence _ _ _ => "Sequence"
  | text _ => "Text"
  | reference _ _ => "Variable"
  | interpolation _ => "StringInterpolation"
  | substitution _ => "CommandInterpolation"

/-- How tightly a node binds as an operand: sequences least, pipes and redirections more, all else
most. -/
def precedence : Segment → Nat
  | sequence _ _ _ => 1
  | pipe _ _ | redirect _ _ _ => 2
  | _ => 3

/-- A node that stands for one value, as a device has to. -/
def isValue : Segment → Bool
  | text _ | reference _ _ | interpolation _ | substitution _ => true
  | _ => false

mutual

/-- Equality of trees as a Boolean. -/
def beq : Segment → Segment → Bool
  | bare h, bare h' => beq h h'
  | command h as, command h' as' => beq h h' && beqList as as'
  | pipe l r, pipe l' r' => beq l l' && beq r r'
  | redirect l d m, redirect l' d' m' => beq l l' && beq d d' && decide (m = m')
  | sequence l r s, sequence l' r' s' => beq l l' && beq r r' && s == s'
  | text v, text v' => v == v'
  | reference s n, reference s' n' => s == s' && n == n'
  | interpolation ps, interpolation ps' => beqList ps ps'
  | substitution i, substitution i' => beq i i'
  | _, _ => false

/-- Equality of lists of trees as a Boolean. -/
def beqList : List Segment → List Segment → Bool
  | [], [] => true
  | s :: ss, t :: ts => beq s t && beqList ss ts
  | _, _ => false

end

mutual

theorem beq_iff_eq : ∀ s t : Segment, beq s t = true ↔ s = t
  | bare h, t => by cases t <;> simp [beq, beq_iff_eq h]
  | command h as, t => by cases t <;> simp [beq, beq_iff_eq h, beqList_iff_eq as]
  | pipe l r, t => by cases t <;> simp [beq, beq_iff_eq l, beq_iff_eq r]
  | redirect l d m, t => by cases t <;> simp [beq, beq_iff_eq l, beq_iff_eq d, and_assoc]
  | sequence l r s, t => by cases t <;> simp [beq, beq_iff_eq l, beq_iff_eq r, and_assoc]
  | text v, t => by cases t <;> simp [beq]
  | reference s n, t => by cases t <;> simp [beq]
  | interpolation ps, t => by cases t <;> simp [beq, beqList_iff_eq ps]
  | substitution i, t => by cases t <;> simp [beq, beq_iff_eq i]

theorem beqList_iff_eq : ∀ ss ts : List Segment, beqList ss ts = true ↔ ss = ts
  | [], ts => by cases ts <;> simp [beqList]
  | s :: ss, ts => by cases ts <;> simp [beqList, beq_iff_eq s, beqList_iff_eq ss]

end

instance : DecidableEq Segment := fun s t =>
  decidable_of_iff (beq s t = true) (beq_iff_eq s t)

end Segment

end CommandShell
