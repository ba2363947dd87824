import CommandShell.Text.Split
import Mathlib.Data.List.Infix

/-!
# Pieces between separators

A separator of several elements can overlap itself, so that it matters which of its occurrences count.
They are taken from the left: the first one ends the first piece, and the search goes on behind it.
`Cut` says so without a search, and `splitOn` finds exactly such pieces.

* `Cut`                : the pieces of a list between separators;
* `cut_splitOn`        : the pieces that are found are the pieces;
* `Cut.join`, `Cut.no_separator` : what the pieces are joined to, and what they do not hold;
* `Text.join_split`, `Text.split_ne_nil`, `Text.no_separator_of_mem_split` : the same for texts.
-/

namespace CommandShell

section Cut

variable {α : Type}

/-- The pieces of a list between separators, front to back. -/
inductive Cut (sep : List α) : List α → List (List α) → Prop
  /-- A list without a separator is one piece. -/
  | last {cs : List α} (absent : ¬ sep <:+: cs) : Cut sep cs [cs]
  /-- A piece goes up to the first separator: none ends before that one does. -/
  | next {piece rest : List α} {pieces : List (List α)} (first : ¬ sep <:+: (piece ++ sep).dropLast)
    (more : Cut sep rest pieces) : Cut sep (piece ++ (sep ++ rest)) (piece :: pieces)

variable {sep cs : List α} {pieces : List (List α)}

/-! ## What the pieces are like -/

theorem Cut.ne_nil (h : Cut sep cs pieces) : pieces ≠ [] := by
  cases h <;> simp

/-- **Joined with the separator, the pieces are the list.** -/
theorem Cut.join (h : Cut sep cs pieces) : sep.intercalate pieces = cs := by
  induction h with
  | last _ => exact List.intercalate_singleton
  | next _ more ih => rw [List.intercalate_cons_of_ne_nil more.ne_nil, ih, List.append_assoc]

/-- **No piece holds the separator.** -/
theorem Cut.no_separator (hsep : sep ≠ []) (h : Cut sep cs pieces) : ∀ piece ∈ pieces, ¬ sep <:+: piece := by
  induction h with
  | last absent =>
    intro piece hpiece
    rwa [List.mem_singleton.mp hpiece]
  | @next front _ _ first _ ih =>
    intro piece hpiece
    rcases List.mem_cons.mp hpiece with rfl | hmem
    · intro hinfix
      apply first
      rw [List.dropLast_append_of_ne_nil hsep]
      exact hinfix.trans (List.prefix_append piece sep.dropLast).isInfix
    · exact ih piece hmem

/-! ## The pieces that are found -/

/-- An element where no separator begins goes to the first piece. -/
theorem Cut.cons {c : α} (hc : ¬ sep <+: c :: cs) (hsep : sep ≠ []) (h : Cut sep cs pieces) :
    Cut sep (c :: cs) (consFirst c pieces) := by
  cases h with
  | last absent =>
    refine .last ?_
    rw [List.infix_cons_iff, not_or]
    exact ⟨hc, absent⟩
  | @next piece rest pieces first more =>
    have hfirst : ¬ sep <:+: (c :: piece ++ sep).dropLast := by
      have hne : piece ++ sep ≠ [] := by simp [hsep]
      rw [List.cons_append, List.dropLast_cons_of_ne_nil hne, List.infix_cons_iff, not_or]
      refine ⟨fun hprefix => hc ?_, first⟩
      have hfront : (piece ++ sep).dropLast <+: piece ++ (sep ++ rest) := by
        rw [← List.append_assoc]
        exact (List.dropLast_prefix _).trans (List.prefix_append _ _)
      exact hprefix.trans ((List.prefix_cons_inj c).mpr hfront)
    exact .next hfirst more

/-- A separator at the front ends an empty piece. -/
theorem Cut.separator (hsep : sep ≠ []) (h : Cut sep cs pieces) : Cut sep (sep ++ cs) ([] :: pieces) := by
  have hfirst : ¬ sep <:+: ([] ++ sep).dropLast := by
    intro hinfix
    have hlength := hinfix.length_le
    have hpos := List.length_pos_iff.mpr hsep
    rw [List.nil_append, List.length_dropLast] at hlength
    omega
  exact .next hfirst h

variable [DecidableEq α]

theorem after?_eq_some_iff {pre rest : List α} : after? pre cs = some rest ↔ cs = pre ++ rest := by
  induction pre generalizing cs with
  | nil => simp [after?, eq_comm]
  | cons p pre ih =>
    cases cs with
    | nil => simp [after?]
    | cons c cs =>
      by_cases hc : p = c
      · simp [after?, hc, ih]
      · simp [after?, hc, Ne.symm hc]

theorem isSome_after?_iff {pre : List α} : (after? pre cs).isSome = true ↔ pre <+: cs := by
  rw [Option.isSome_iff_exists]
  constructor
  · rintro ⟨rest, h⟩
    exact ⟨rest, (after?_eq_some_iff.mp h).symm⟩
  · rintro ⟨rest, rfl⟩
    exact ⟨rest, after?_eq_some_iff.mpr rfl⟩

/-- What is left of an occurrence is passed by. -/
theorem splitFrom_skip (sep : List α) (skip : Nat) (cs : List α) :
    splitFrom sep skip cs = splitOn sep (cs.drop skip) := by
  induction cs generalizing skip with
  | nil => simp [splitFrom, splitOn]
  | cons c cs ih =>
    cases skip with
    | zero => rfl
    | succ skip => rw [splitFrom, ih, List.drop_succ_cons]

theorem splitOn_separator (hsep : sep ≠ []) (cs : List α) :
    splitOn sep (sep ++ cs) = [] :: splitOn sep cs := by
  obtain ⟨s, sep', rfl⟩ := List.exists_cons_of_ne_nil hsep
  have hbegins : (after? (s :: sep') (s :: (sep' ++ cs))).isSome = true :=
    isSome_after?_iff.mpr (List.prefix_append (s :: sep') cs)
  rw [List.cons_append, splitOn, splitFrom, if_pos ⟨hsep, hbegins⟩, splitFrom_skip]
  simp

theorem splitOn_cons {c : α} (hc : ¬ sep <+: c :: cs) :
    splitOn sep (c :: cs) = consFirst c (splitOn sep cs) := by
  have hother : ¬ (sep ≠ [] ∧ (after? sep (c :: cs)).isSome = true) := by
    rw [isSome_after?_iff]
    exact fun h => hc h.2
  rw [splitOn, splitFrom, if_neg hother]
  rfl

/-- **The pieces that are found are the pieces.** -/
theorem cut_splitOn (hsep : sep ≠ []) (cs : List α) : Cut sep cs (splitOn sep cs) := by
  -- The search goes on behind a whole separator, so the induction is on what is left.
  induction hlength : cs.length using Nat.strong_induction_on generalizing cs with
  | _ n ih =>
    by_cases hbegins : sep <+: cs
    · obtain ⟨rest, rfl⟩ := hbegins
      have hpos := List.length_pos_iff.mpr hsep
      have hshorter : rest.length < n := by
        rw [← hlength, List.length_append]
        omega
      rw [splitOn_separator hsep]
      exact (ih rest.length hshorter rest rfl).separator hsep
    · cases cs with
      | nil => exact .last (by simpa using hsep)
      | cons c cs =>
        have hshorter : cs.length < n := by
          rw [← hlength, List.length_cons]
          omega
        rw [splitOn_cons hbegins]
        exact (ih cs.length hshorter cs rfl).cons hbegins hsep

end Cut

/-! ## Texts -/

namespace Text

variable {sep : String}

theorem cut_split (hsep : sep ≠ "") (s : String) :
    Cut sep.toList s.toList ((split sep s).map String.toList) := by
  have hlist : sep.toList ≠ [] := by simpa using hsep
  have hpieces : (split sep s).map String.toList = splitOn sep.toList s.toList := by
    simp [split, Function.comp_def]
  rw [hpieces]
  exact cut_splitOn hlist s.toList

theorem split_ne_nil (hsep : sep ≠ "") (s : String) : split sep s ≠ [] := by
  have hne := (cut_split hsep s).ne_nil
  simpa using hne

/-- **Joined with the separator, the pieces of a text are the text.** -/
theorem join_split (hsep : sep ≠ "") (s : String) : join sep (split sep s) = s := by
  apply String.toList_inj.mp
  rw [join, String.toList_intercalate]
  exact (cut_split hsep s).join

/-- **No piece of a text holds the separator.** -/
theorem no_separator_of_mem_split {s piece : String} (hsep : sep ≠ "") (h : piece ∈ split sep s) :
    ¬ sep.toList <:+: piece.toList := by
  have hlist : sep.toList ≠ [] := by simpa using hsep
  exact (cut_split hsep s).no_separator hlist piece.toList (List.mem_map_of_mem h)

end Text

end CommandShell
