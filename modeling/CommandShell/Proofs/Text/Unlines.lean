import CommandShell.Text.Lines
import Mathlib.Data.List.Basic

/-!
# Lines that are written out

The lines of a list can be told from its line feeds alone: each line feed ends a line, with a carriage
return before it if there is one, and what stands behind the last line feed is a line unless it is
empty.  `LinesOf` says so without a reader, and `splitLines` finds exactly these lines.

* `LinesOf`                  : the lines of a list;
* `splitLines_eq_iff`        : the lines that are found are the lines;
* `splitLines_written_iff`   : which lines come back when each was written with a line feed;
* `Text.lines_unlines_iff`   : the same for texts.
-/

namespace CommandShell

section LinesOf

variable {α : Type}

/-- The lines of a list, front to back. -/
inductive LinesOf (lf cr : α) : List α → List (List α) → Prop
  | nil : LinesOf lf cr [] []
  /-- A last line without a line feed. -/
  | last {row : List α} (filled : row ≠ []) (noFeed : lf ∉ row) : LinesOf lf cr row [row]
  /-- A line that a line feed ends. -/
  | atFeed {row rest : List α} {rows : List (List α)} (noFeed : lf ∉ row)
    (noReturn : row.getLast? ≠ some cr) (more : LinesOf lf cr rest rows) :
    LinesOf lf cr (row ++ lf :: rest) (row :: rows)
  /-- A line that a carriage return and a line feed end. -/
  | atReturn {row rest : List α} {rows : List (List α)} (noFeed : lf ∉ row)
    (more : LinesOf lf cr rest rows) : LinesOf lf cr (row ++ cr :: lf :: rest) (row :: rows)

variable {lf cr : α} {as : List α} {rows : List (List α)}

/-- A line feed behind the first line ends it, and the rest has the other lines. -/
theorem LinesOf.uncons {row rest : List α} (hmarks : lf ≠ cr)
    (h : LinesOf lf cr (row ++ lf :: rest) (row :: rows)) :
    lf ∉ row ∧ row.getLast? ≠ some cr ∧ LinesOf lf cr rest rows := by
  generalize hlist : row ++ lf :: rest = list at h
  cases h with
  | last filled noFeed =>
    have hlength := congrArg List.length hlist
    simp at hlength
  | atFeed noFeed noReturn more =>
    have hrest := List.append_cancel_left hlist
    obtain ⟨-, rfl⟩ := List.cons.inj hrest
    exact ⟨noFeed, noReturn, more⟩
  | atReturn noFeed more =>
    have hrest := List.append_cancel_left hlist
    obtain ⟨hmark, -⟩ := List.cons.inj hrest
    exact absurd hmark hmarks

variable [DecidableEq α]

/-! ## The lines that are found -/

/-- What is no line feed is held. -/
theorem splitLinesFrom_hold {row : List α} (h : lf ∉ row) (held as : List α) :
    splitLinesFrom lf cr held (row ++ as) = splitLinesFrom lf cr (row.reverse ++ held) as := by
  induction row generalizing held with
  | nil => rfl
  | cons a row ih =>
    have ha : a ≠ lf := by
      intro heq
      subst heq
      exact h List.mem_cons_self
    have hrow : lf ∉ row := fun hmem => h (List.mem_cons_of_mem _ hmem)
    rw [List.cons_append, splitLinesFrom, if_neg ha, ih hrow]
    simp

/-- A line feed ends what is held, up to a carriage return. -/
theorem linesOf_chomp {held : List α} (hheld : lf ∉ held) (h : LinesOf lf cr as rows) :
    LinesOf lf cr (held.reverse ++ lf :: as) ((chomp cr held).reverse :: rows) := by
  cases held with
  | nil =>
    have hfeed : LinesOf lf cr ([] ++ lf :: as) ([] :: rows) := .atFeed (by simp) (by simp) h
    exact hfeed
  | cons a held =>
    have hrest : lf ∉ held.reverse := by
      intro hmem
      exact hheld (List.mem_cons_of_mem _ (List.mem_reverse.mp hmem))
    by_cases ha : a = cr
    · subst ha
      have hreturn : LinesOf lf a (held.reverse ++ a :: lf :: as) (held.reverse :: rows) :=
        .atReturn hrest h
      simpa [chomp] using hreturn
    · have hrow : lf ∉ (a :: held).reverse := by
        rwa [List.mem_reverse]
      have hfeed : LinesOf lf cr ((a :: held).reverse ++ lf :: as) ((a :: held).reverse :: rows) :=
        .atFeed hrow (by simp [ha]) h
      simpa [chomp, ha] using hfeed

/-- The lines that are found with some of the first one held. -/
theorem linesOf_splitLinesFrom (lf cr : α) {held : List α} (hheld : lf ∉ held) (as : List α) :
    LinesOf lf cr (held.reverse ++ as) (splitLinesFrom lf cr held as) := by
  induction as generalizing held with
  | nil =>
    cases held with
    | nil => exact .nil
    | cons a held =>
      have hrow : lf ∉ (a :: held).reverse := by
        rwa [List.mem_reverse]
      rw [List.append_nil]
      exact .last (by simp) hrow
  | cons a as ih =>
    rw [splitLinesFrom]
    · split
      · rename_i ha
        subst ha
        exact linesOf_chomp hheld (ih List.not_mem_nil)
      · rename_i ha
        have hmore : lf ∉ a :: held := by
          rw [List.mem_cons, not_or]
          exact ⟨Ne.symm ha, hheld⟩
        have hlines := ih hmore
        simpa using hlines

/-- The lines of a list are found. -/
theorem LinesOf.splitLines (hmarks : lf ≠ cr) (h : LinesOf lf cr as rows) :
    splitLines lf cr as = rows := by
  unfold CommandShell.splitLines
  induction h with
  | nil => rfl
  | @last row filled noFeed =>
    have hhold : splitLinesFrom lf cr [] (row ++ []) = splitLinesFrom lf cr (row.reverse ++ []) [] :=
      splitLinesFrom_hold noFeed [] []
    rw [List.append_nil, List.append_nil] at hhold
    rw [hhold]
    obtain ⟨a, held, hheld⟩ := List.exists_cons_of_ne_nil (List.reverse_ne_nil_iff.mpr filled)
    rw [hheld, splitLinesFrom, ← hheld, List.reverse_reverse]
    simp
  | @atFeed row rest rows noFeed noReturn more ih =>
    rw [splitLinesFrom_hold noFeed, splitLinesFrom, if_pos rfl, ih, List.append_nil]
    have hchomp : chomp cr row.reverse = row.reverse := by
      cases hrow : row.reverse with
      | nil => rfl
      | cons a held =>
        have ha : a ≠ cr := by
          rintro rfl
          rw [← List.head?_reverse, hrow] at noReturn
          exact noReturn rfl
        simp [chomp, ha]
    rw [hchomp, List.reverse_reverse]
  | @atReturn row rest rows noFeed more ih =>
    rw [splitLinesFrom_hold noFeed, splitLinesFrom, if_neg (Ne.symm hmarks), splitLinesFrom,
      if_pos rfl, ih]
    simp [chomp]

/-- **The lines that are found are the lines.** -/
theorem splitLines_eq_iff (hmarks : lf ≠ cr) : splitLines lf cr as = rows ↔ LinesOf lf cr as rows := by
  constructor
  · intro h
    have hlines : LinesOf lf cr as (splitLines lf cr as) :=
      linesOf_splitLinesFrom lf cr List.not_mem_nil as
    rw [← h]
    exact hlines
  · exact LinesOf.splitLines hmarks

/-- **Lines come back when each was written with a line feed**, if none of them has a line feed and
none ends in a carriage return, and only then. -/
theorem splitLines_written_iff (hmarks : lf ≠ cr) (rows : List (List α)) :
    splitLines lf cr (rows.flatMap (· ++ [lf])) = rows ↔
      ∀ row ∈ rows, lf ∉ row ∧ row.getLast? ≠ some cr := by
  rw [splitLines_eq_iff hmarks]
  induction rows with
  | nil => simp [LinesOf.nil]
  | cons row rows ih =>
    have hwritten : (row :: rows).flatMap (· ++ [lf]) = row ++ lf :: rows.flatMap (· ++ [lf]) := by
      simp
    rw [hwritten, List.forall_mem_cons, ← ih]
    constructor
    · intro h
      obtain ⟨noFeed, noReturn, more⟩ := h.uncons hmarks
      exact ⟨⟨noFeed, noReturn⟩, more⟩
    · rintro ⟨⟨noFeed, noReturn⟩, more⟩
      exact .atFeed noFeed noReturn more

end LinesOf

/-! ## Texts -/

namespace Text

/-- A text that is one line of its own: no line feed is in it, and no carriage return at its end. -/
def IsLine (line : String) : Prop :=
  '\n' ∉ line.toList ∧ line.toList.getLast? ≠ some '\r'

instance (line : String) : Decidable (IsLine line) :=
  inferInstanceAs (Decidable (_ ∧ _))

theorem toList_unlines (ls : List String) :
    (unlines ls).toList = (ls.map String.toList).flatMap (· ++ ['\n']) := by
  simp [unlines, String.toList_join, List.flatMap_map]

/-- **Texts come back from their lines** exactly if each of them is a line. -/
theorem lines_unlines_iff (ls : List String) :
    lines (unlines ls) = ls ↔ ∀ line ∈ ls, IsLine line := by
  have hlists : (splitLines '\n' '\r' (unlines ls).toList).map String.ofList = ls ↔
      splitLines '\n' '\r' (unlines ls).toList = ls.map String.toList := by
    constructor
    · intro h
      conv_rhs => rw [← h]
      simp [Function.comp_def]
    · intro h
      rw [h]
      simp [Function.comp_def]
  rw [lines, hlists, toList_unlines, splitLines_written_iff (by decide), List.forall_mem_map]
  rfl

end Text

end CommandShell
