import CommandShell.Text.Lines
import Mathlib.Data.List.Basic

/-!
# Rows of a text

A row stands between two line feeds, or at an end of the text; a carriage return right before the line
feed is no part of it.  The lines of a text are its rows in order, but for an empty row at its end.

* `EndsRow`, `IsRow`         : what ends a row, and where a row stands;
* `EndsRow.reaches`          : a row goes on up to a place where it is not ended;
* `splitLines_append`        : the lines of a text behind whole rows;
* `splitLines_eq_cons`       : the first line is the first row.
-/

namespace CommandShell

variable {α : Type} {lf cr : α}

/-- What stands behind a row ends it: nothing, a line feed with a carriage return before it, or a line
feed alone. -/
inductive EndsRow (lf cr : α) (row : List α) : List α → Prop
  | atEnd : EndsRow lf cr row []
  | atReturn (after : List α) : EndsRow lf cr row (cr :: lf :: after)
  | atFeed (after : List α) (noReturn : row.getLast? ≠ some cr) : EndsRow lf cr row (lf :: after)

/-- Whole rows: a list that is empty or ends with a line feed. -/
def WholeRows (lf : α) (before : List α) : Prop := before = [] ∨ ∃ init, before = init ++ [lf]

/-- A row that stands behind `before` and has `rest` behind it. -/
structure IsRow (lf cr : α) (before row rest : List α) : Prop where
  begins : WholeRows lf before
  noFeed : lf ∉ row
  ends : EndsRow lf cr row rest

/-- **A row goes on up to a place behind its beginning** where it is neither ended nor about to be, and
has what stands there. -/
theorem EndsRow.reaches {tail as row rest : List α} (h : EndsRow lf cr row rest) (htail : lf ∉ tail)
    (has : ∀ a as', as = a :: as' → a ≠ lf ∧ a ≠ cr) (heq : tail ++ as = row ++ rest) :
    ∃ more, row = tail ++ more ∧ as = more ++ rest ∧ (more = [] → rest = []) := by
  rcases List.append_eq_append_iff.mp heq with ⟨more, rfl, hrest⟩ | ⟨extra, rfl, hrest⟩
  · refine ⟨more, rfl, hrest, ?_⟩
    rintro rfl
    cases h with
    | atEnd => rfl
    | atReturn after => exact absurd rfl (has _ _ hrest).2
    | atFeed after _ => exact absurd rfl (has _ _ hrest).1
  · -- What ends the row would have to begin before the place, unless the list ends there.
    have hextra : lf ∉ extra := fun hmem => htail (List.mem_append_right _ hmem)
    cases h with
    | atEnd =>
      obtain ⟨rfl, rfl⟩ := List.append_eq_nil_iff.mp hrest.symm
      exact ⟨[], by simp, rfl, fun _ => rfl⟩
    | atFeed after _ =>
      cases extra with
      | nil => exact absurd rfl (has _ _ hrest.symm).1
      | cons a extra =>
        obtain ⟨rfl, -⟩ := List.cons.inj hrest
        exact absurd List.mem_cons_self hextra
    | atReturn after =>
      cases extra with
      | nil => exact absurd rfl (has _ _ hrest.symm).2
      | cons a extra =>
        obtain ⟨rfl, hafter⟩ := List.cons.inj hrest
        cases extra with
        | nil => exact absurd rfl (has _ _ hafter.symm).1
        | cons b extra =>
          obtain ⟨rfl, -⟩ := List.cons.inj hafter
          exact absurd (by simp) hextra

variable [DecidableEq α]

/-- A line feed ends what is held, up to a carriage return. -/
theorem endsRow_chomp (lf cr : α) (held after : List α) :
    ∃ rest, held.reverse ++ lf :: after = (chomp cr held).reverse ++ rest ∧
      EndsRow lf cr (chomp cr held).reverse rest := by
  cases held with
  | nil => exact ⟨lf :: after, rfl, .atFeed after (by simp [chomp])⟩
  | cons a held =>
    by_cases ha : a = cr
    · subst ha
      refine ⟨a :: lf :: after, ?_, .atReturn after⟩
      simp [chomp]
    · refine ⟨lf :: after, by simp [chomp, ha], .atFeed after ?_⟩
      simp [chomp, ha]

theorem subset_chomp (held : List α) : chomp cr held ⊆ held := by
  cases held with
  | nil => exact List.Subset.refl _
  | cons a held =>
    rw [chomp]
    split
    · exact List.subset_cons_self a held
    · exact List.Subset.refl _

/-- The first line is the row that what is held begins. -/
theorem splitLinesFrom_eq_cons (cr : α) {held as : List α} (hheld : lf ∉ held) (h : held ≠ [] ∨ as ≠ []) :
    ∃ row rest more, splitLinesFrom lf cr held as = row :: more ∧
      held.reverse ++ as = row ++ rest ∧ lf ∉ row ∧ EndsRow lf cr row rest := by
  induction as generalizing held with
  | nil =>
    cases held with
    | nil => simp at h
    | cons a held =>
      refine ⟨(a :: held).reverse, [], [], rfl, rfl, ?_, .atEnd⟩
      rwa [List.mem_reverse]
  | cons a as ih =>
    by_cases ha : a = lf
    · subst ha
      obtain ⟨rest, hrest, hends⟩ := endsRow_chomp a cr held as
      refine ⟨(chomp cr held).reverse, rest, splitLines a cr as, ?_, hrest, ?_, hends⟩
      · simp [splitLinesFrom, splitLines]
      · rw [List.mem_reverse]
        exact fun hmem => hheld (subset_chomp held hmem)
    · have hmore : lf ∉ a :: held := by
        rw [List.mem_cons, not_or]
        exact ⟨Ne.symm ha, hheld⟩
      obtain ⟨row, rest, more, hsplit, hrow, hfeed, hends⟩ := ih hmore (.inl (by simp))
      refine ⟨row, rest, more, ?_, ?_, hfeed, hends⟩
      · rw [splitLinesFrom, if_neg ha, hsplit]
      · rw [← hrow]; simp

/-- **The first line is the first row.** -/
theorem splitLines_eq_cons (lf cr : α) {as : List α} (h : as ≠ []) :
    ∃ row rest more, splitLines lf cr as = row :: more ∧ as = row ++ rest ∧
      IsRow lf cr [] row rest := by
  obtain ⟨row, rest, more, hsplit, hrow, hfeed, hends⟩ :=
    splitLinesFrom_eq_cons cr (List.not_mem_nil : lf ∉ []) (.inr h)
  exact ⟨row, rest, more, hsplit, hrow, .inl rfl, hfeed, hends⟩

/-- A line feed ends the line before it, and the lines behind it are on their own. -/
theorem splitLinesFrom_append (lf cr : α) (held init as : List α) :
    ∃ rows, rows.length = init.count lf + 1 ∧
      splitLinesFrom lf cr held (init ++ lf :: as) = rows ++ splitLines lf cr as := by
  induction init generalizing held with
  | nil => exact ⟨[(chomp cr held).reverse], by simp, by simp [splitLinesFrom, splitLines]⟩
  | cons a init ih =>
    by_cases ha : a = lf
    · subst ha
      obtain ⟨rows, hlength, hrows⟩ := ih []
      refine ⟨(chomp cr held).reverse :: rows, by simp [hlength], ?_⟩
      rw [List.cons_append, splitLinesFrom, if_pos rfl, hrows, List.cons_append]
    · obtain ⟨rows, hlength, hrows⟩ := ih (a :: held)
      refine ⟨rows, by simp [hlength, ha], ?_⟩
      rw [List.cons_append, splitLinesFrom, if_neg ha, hrows]

/-- **Whole rows are as many lines as they have line feeds**, and the lines behind them are on their
own. -/
theorem splitLines_append (cr : α) {before : List α} (h : WholeRows lf before) (as : List α) :
    ∃ rows, rows.length = before.count lf ∧
      splitLines lf cr (before ++ as) = rows ++ splitLines lf cr as := by
  obtain rfl | ⟨init, rfl⟩ := h
  · exact ⟨[], by simp, rfl⟩
  · obtain ⟨rows, hlength, hrows⟩ := splitLinesFrom_append lf cr [] init as
    refine ⟨rows, by simp [hlength], ?_⟩
    rw [List.append_assoc]
    exact hrows

end CommandShell
