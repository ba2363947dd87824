import CommandShell.Proofs.Segment.RoundTrip
import CommandShell.Proofs.Text.Unlines
import CommandShell.Segment.Outline
import Mathlib.Data.List.Forall2

/-!
# The rows of a tree dump

A dump shows the nodes of a tree in order, each before those below it.  Texts are shown with their line
feeds escaped, but scopes and names of variables are shown as they are.  So every node has one row of its
own exactly if no variable of the tree has a line feed in its scope or name.

* `Segment.children`, `Segment.nodes` : the nodes of a tree, in order, with their depths and places;
* `Segment.outline_eq`        : a dump is a line for every node;
* `Segment.OneRowPerNode`     : every node has one row of its own;
* `Segment.outline_shows`     : which trees are dumped so.
-/

namespace CommandShell

/-! ## Characters of literals -/

namespace Text

theorem feed_not_mem_digits (n : Nat) : '\n' ∉ Hex.digits n := by
  unfold Hex.digits
  have hdigit : ∀ d < 16, '\n' ≠ Nat.digitChar d := by decide
  induction n using Nat.strongRecOn with
  | ind n ih =>
    by_cases hn : n < 16
    · rw [Nat.toDigits_of_lt_base hn, List.mem_singleton]
      exact hdigit n hn
    · rw [Nat.toDigits_of_base_le (by decide) (by omega), List.mem_append, not_or, List.mem_singleton]
      exact ⟨ih (n / 16) (by omega), hdigit (n % 16) (by omega)⟩

theorem feed_not_mem_literalChar (c : Char) : '\n' ∉ (literalChar c).toList := by
  unfold literalChar
  split
  · decide
  split
  · decide
  split
  · decide
  split
  · decide
  split
  · decide
  split
  · decide
  split
  · have hdigits := feed_not_mem_digits c.toNat
    simp [codePoint, hdigits]
  · rename_i hfeed _ _ _ _
    simpa [eq_comm] using hfeed

/-- **A literal has no line feed.** -/
theorem feed_not_mem_literal (s : String) : '\n' ∉ (literal s).toList := by
  simp [literal, String.toList_join, feed_not_mem_literalChar]

theorem count_unlines_cons (l : String) (ls : List String) :
    (unlines (l :: ls)).toList.count '\n' =
      l.toList.count '\n' + 1 + (unlines ls).toList.count '\n' := by
  simp only [toList_unlines, List.map_cons, List.flatMap_cons, List.count_append,
    List.count_singleton_self]

theorem length_le_count_unlines (ls : List String) : ls.length ≤ (unlines ls).toList.count '\n' := by
  induction ls with
  | nil => exact Nat.zero_le _
  | cons l ls ih =>
    rw [count_unlines_cons, List.length_cons]
    omega

/-- **Lines that are written out have as many line feeds as there are lines** exactly if none of them has
one itself. -/
theorem count_unlines_iff (ls : List String) :
    (unlines ls).toList.count '\n' = ls.length ↔ ∀ l ∈ ls, '\n' ∉ l.toList := by
  induction ls with
  | nil => simp [toList_unlines]
  | cons l ls ih =>
    have hrest := length_le_count_unlines ls
    have hboth : l.toList.count '\n' + 1 + (unlines ls).toList.count '\n' = ls.length + 1 ↔
        l.toList.count '\n' = 0 ∧ (unlines ls).toList.count '\n' = ls.length := by
      omega
    rw [count_unlines_cons, List.length_cons, hboth, ih, List.forall_mem_cons, List.count_eq_zero]

end Text

/-! ## Nodes -/

namespace Segment

/-- What stands right below a node, front to back, each with the label of its place. -/
def children : Segment → List (String × Segment)
  | bare head => [("head: ", head)]
  | command head args => ("head: ", head) :: args.map fun arg => ("arg: ", arg)
  | pipe left right => [("left: ", left), ("right: ", right)]
  | redirect left device _ => [("left: ", left), ("device: ", device)]
  | sequence left right _ => [("left: ", left), ("right: ", right)]
  | text _ | reference _ _ => []
  | interpolation parts => parts.map fun part => ("", part)
  | substitution inner => [("", inner)]

/-- A node of a tree, with its depth and the label of its place. -/
structure Node where
  depth : Nat
  label : String
  segment : Segment

theorem sizeOf_child {s : Segment} {child : String × Segment} (h : child ∈ s.children) :
    sizeOf child.2 < sizeOf s := by
  cases s <;> simp only [children, List.mem_cons, List.mem_map, List.not_mem_nil, or_false] at h
  case bare head =>
    subst h
    simp only [bare.sizeOf_spec]
    omega
  case command head args =>
    rcases h with rfl | ⟨arg, harg, rfl⟩
    · simp only [command.sizeOf_spec]
      omega
    · have hless := List.sizeOf_lt_of_mem harg
      simp only [command.sizeOf_spec]
      omega
  case pipe left right =>
    rcases h with rfl | rfl <;> (simp only [pipe.sizeOf_spec]; omega)
  case redirect left device mode =>
    rcases h with rfl | rfl <;> (simp only [redirect.sizeOf_spec]; omega)
  case sequence left right stop =>
    rcases h with rfl | rfl <;> (simp only [sequence.sizeOf_spec]; omega)
  case interpolation parts =>
    obtain ⟨part, hpart, rfl⟩ := h
    have hless := List.sizeOf_lt_of_mem hpart
    simp only [interpolation.sizeOf_spec]
    omega
  case substitution inner =>
    subst h
    simp only [substitution.sizeOf_spec]
    omega

/-- The nodes of a tree, each before those below it. -/
def nodes (depth : Nat) (label : String) (s : Segment) : List Node :=
  ⟨depth, label, s⟩ :: s.children.attach.flatMap fun child => nodes (depth + 1) child.1.1 child.1.2
termination_by sizeOf s
decreasing_by exact sizeOf_child child.2

theorem nodes_eq (depth : Nat) (label : String) (s : Segment) :
    nodes depth label s =
      ⟨depth, label, s⟩ :: s.children.flatMap fun child => nodes (depth + 1) child.1 child.2 := by
  have hattach : s.children.attach.flatMap (fun child => nodes (depth + 1) child.1.1 child.1.2) =
      (s.children.attach.map Subtype.val).flatMap fun child => nodes (depth + 1) child.1 child.2 :=
    (List.flatMap_map Subtype.val (fun child : String × Segment => nodes (depth + 1) child.1 child.2)
      s.children.attach).symm
  rw [nodes, hattach, List.attach_map_subtype_val]

/-! ## Rows -/

theorem rowsAll_eq (depth : Nat) (label : String) (ss : List Segment) :
    rowsAll depth label ss = ss.flatMap (rows depth label) := by
  induction ss with
  | nil => rfl
  | cons s ss ih => rw [rowsAll, ih, List.flatMap_cons]

theorem rows_eq (depth : Nat) (label : String) (s : Segment) :
    rows depth label s =
      row depth label s :: s.children.flatMap fun child => rows (depth + 1) child.1 child.2 := by
  cases s <;> simp [rows, children, rowsAll_eq, List.flatMap_map]

/-- What the dump shows of a node, without the line feed. -/
def Node.line (node : Node) : String := indent node.depth ++ node.label ++ node.segment.rowName

theorem rows_eq_lines (depth : Nat) (label : String) (s : Segment) :
    rows depth label s = (nodes depth label s).map (·.line ++ "\n") := by
  induction depth, label, s using nodes.induct with
  | case1 depth label s ih =>
    have hbelow : s.children.flatMap (fun child => rows (depth + 1) child.1 child.2) =
        s.children.flatMap fun child => (nodes (depth + 1) child.1 child.2).map (·.line ++ "\n") := by
      apply List.flatMap_congr
      intro child hchild
      exact ih ⟨child, hchild⟩
    rw [rows_eq, nodes_eq, hbelow, List.map_cons, List.map_flatMap]
    rfl

/-- **A dump is a line for every node**, in order. -/
theorem outline_eq (t : Segment) : outline t = Text.unlines ((nodes 0 "" t).map Node.line) := by
  rw [outline, rows_eq_lines, Text.unlines, List.map_map]
  rfl

/-! ## What a row shows -/

/-- A row shows a node: two spaces for each level, the label of its place, and the name of its kind, alone
or with a space behind it. -/
def Node.ShownBy (node : Node) (row : String) : Prop :=
  ∃ detail, (detail = "" ∨ ∃ more, detail = " " ++ more) ∧
    row = String.ofList (List.replicate (2 * node.depth) ' ') ++ node.label ++
      node.segment.kindName ++ detail

theorem rowName_eq (s : Segment) :
    ∃ detail, (detail = "" ∨ ∃ more, detail = " " ++ more) ∧ s.rowName = s.kindName ++ detail := by
  have hspaced : ∀ kind more : String, kind ++ " " ++ more = kind ++ (" " ++ more) :=
    fun _ _ => String.append_assoc
  cases s with
  | text value => exact ⟨_, .inr ⟨Text.literal value, rfl⟩, hspaced "Text" _⟩
  | reference scope name => exact ⟨_, .inr ⟨variableName scope name, rfl⟩, hspaced "Variable" _⟩
  | redirect left device mode => exact ⟨_, .inr ⟨mode.name, rfl⟩, hspaced "Redirection" _⟩
  | sequence left right stop =>
    cases stop with
    | true => exact ⟨_, .inr ⟨"(stop on failure)", rfl⟩, rfl⟩
    | false => exact ⟨_, .inr ⟨"(continue)", rfl⟩, rfl⟩
  | _ => exact ⟨"", .inl rfl, rfl⟩

theorem Node.shownBy_line (node : Node) : node.ShownBy node.line := by
  obtain ⟨detail, hdetail, hname⟩ := rowName_eq node.segment
  refine ⟨detail, hdetail, ?_⟩
  rw [line, hname, ← String.append_assoc]
  rfl

/-! ## Line feeds -/

/-- A variable with a line feed in its scope or name. -/
def isBroken : Segment → Bool
  | reference scope name => (scope.getD "").toList.contains '\n' || name.toList.contains '\n'
  | _ => false

theorem feed_mem_rowName_iff (s : Segment) : '\n' ∈ s.rowName.toList ↔ s.isBroken = true := by
  cases s with
  | text value =>
    have hliteral := Text.feed_not_mem_literal value
    simp [rowName, isBroken, hliteral]
  | reference scope name => cases scope <;> simp [rowName, variableName, isBroken]
  | redirect left device mode => cases mode <;> simp [rowName, RedirectMode.name, isBroken]
  | sequence left right stop => cases stop <;> simp [rowName, isBroken]
  | _ => simp [rowName, isBroken]

theorem feed_not_mem_label {s : Segment} : ∀ child ∈ s.children, '\n' ∉ child.1.toList := by
  cases s <;> simp [children]

theorem feed_not_mem_labels {depth : Nat} {label : String} {s : Segment} (hlabel : '\n' ∉ label.toList) :
    ∀ node ∈ nodes depth label s, '\n' ∉ node.label.toList := by
  induction depth, label, s using nodes.induct with
  | case1 depth label s ih =>
    intro node hnode
    rw [nodes_eq] at hnode
    rcases List.mem_cons.mp hnode with rfl | hbelow
    · exact hlabel
    · obtain ⟨child, hchild, hnode⟩ := List.mem_flatMap.mp hbelow
      exact ih ⟨child, hchild⟩ (feed_not_mem_label child hchild) node hnode

/-- The line of a node breaks exactly if the node is a variable with a line feed. -/
theorem feed_mem_line_iff {t : Segment} {node : Node} (h : node ∈ nodes 0 "" t) :
    '\n' ∈ node.line.toList ↔ node.segment.isBroken = true := by
  have hlabel : '\n' ∉ node.label.toList := feed_not_mem_labels (by simp) node h
  simp [Node.line, indent, hlabel, feed_mem_rowName_iff]

/-- Every node of a tree has one row of its own in the dump, in order. -/
def OneRowPerNode (t : Segment) : Prop :=
  ∃ rows, outline t = Text.unlines rows ∧ (∀ row ∈ rows, '\n' ∉ row.toList) ∧
    List.Forall₂ Node.ShownBy (nodes 0 "" t) rows

theorem shownBy_lines (ns : List Node) : List.Forall₂ Node.ShownBy ns (ns.map Node.line) := by
  rw [List.forall₂_map_right_iff, List.forall₂_same]
  exact fun node _ => node.shownBy_line

theorem oneRowPerNode_of_unbroken {t : Segment}
    (h : ∀ node ∈ nodes 0 "" t, node.segment.isBroken = false) : OneRowPerNode t := by
  refine ⟨_, outline_eq t, ?_, shownBy_lines _⟩
  intro row hrow
  obtain ⟨node, hnode, rfl⟩ := List.mem_map.mp hrow
  rw [feed_mem_line_iff hnode, h node hnode]
  simp

/-- A dump with one row for each node has a line feed for each node and none besides, so no name has one. -/
theorem unbroken_of_oneRowPerNode {t : Segment} (h : OneRowPerNode t) :
    ∀ node ∈ nodes 0 "" t, node.segment.isBroken = false := by
  obtain ⟨rows, houtline, hrows, hshown⟩ := h
  -- Counted by the rows, there are as many line feeds as nodes, so the lines of the nodes have none.
  have hcount : (outline t).toList.count '\n' = ((nodes 0 "" t).map Node.line).length := by
    rw [houtline, (Text.count_unlines_iff rows).mpr hrows, List.length_map, hshown.length_eq]
  rw [outline_eq, Text.count_unlines_iff] at hcount
  intro node hnode
  rw [Bool.eq_false_iff, ne_eq, ← feed_mem_line_iff hnode]
  exact hcount node.line (List.mem_map_of_mem hnode)

/-- **A dump shows every node of a tree**, in order, each with its place and its kind, indented by its
depth. **Every node has one row of its own exactly if no variable has a line feed** in its scope or
name. This holds for every tree, and so for that of every line. -/
theorem outline_shows (t : Segment) :
    (∃ lines, outline t = Text.unlines lines ∧ List.Forall₂ Node.ShownBy (nodes 0 "" t) lines) ∧
      (OneRowPerNode t ↔ ∀ node ∈ nodes 0 "" t, node.segment.isBroken = false) :=
  ⟨⟨_, outline_eq t, shownBy_lines _⟩, unbroken_of_oneRowPerNode, oneRowPerNode_of_unbroken⟩

/-- A text may have a line feed. -/
theorem outline_shows_pipe :
    let t : Segment := .pipe (.command (.text "echo") [.text "a\nb"]) (.reference (some "tmp") "x y")
    Segment.ofLine "echo \"a\nb\" | $\"tmp:x y\"" = .ok t ∧
      outline t = "Pipe\n  left: Command\n    head: Text \"echo\"\n    arg: Text \"a\\nb\"\n" ++
        "  right: Variable tmp:x y\n" ∧
      OneRowPerNode t := by
  intro t
  have hline : Segment.ofLine "echo \"a\nb\" | $\"tmp:x y\"" = .ok t :=
    ofLine_render (t := t) (by decide)
  have hnodes : ∀ node ∈ nodes 0 "" t, node.segment.isBroken = false := by
    rw [nodes_eq]
    simp only [t, children, List.flatMap_cons, List.flatMap_nil]
    rw [nodes_eq _ "left: ", nodes_eq _ "right: "]
    simp only [children, List.flatMap_cons, List.flatMap_nil, List.map_cons, List.map_nil]
    rw [nodes_eq _ "head: ", nodes_eq _ "arg: "]
    simp [children, isBroken]
  exact ⟨hline, by decide +kernel, (outline_shows t).2.mpr hnodes⟩

/-- **A variable with a line feed in its name has two rows.** -/
theorem outline_breaks :
    Segment.ofLine "$\"a\nb\"" = .ok (.reference none "a\nb") ∧
      outline (.reference none "a\nb") = "Variable a\nb\n" ∧
      ¬ OneRowPerNode (.reference none "a\nb") := by
  have hline : Segment.ofLine "$\"a\nb\"" = .ok (.reference none "a\nb") :=
    ofLine_render (t := .reference none "a\nb") (by decide)
  have hroot : ⟨0, "", .reference none "a\nb"⟩ ∈ nodes 0 "" (.reference none "a\nb") := by
    rw [nodes_eq]
    exact List.mem_cons_self
  refine ⟨hline, by decide +kernel, fun h => ?_⟩
  have hunbroken := unbroken_of_oneRowPerNode h _ hroot
  simp [isBroken] at hunbroken

end Segment

end CommandShell
