import CommandShell.Builtin.Run
import CommandShell.Proofs.Text.Separator

/-!
# Splitting texts and lines

`split` divides a text that is given as an argument, or else every line of its input.  Both forms find
the same pieces, and a flag that leaves the empty ones out counts wherever it stands.

* `Builtin.positional`, `Builtin.kept` : the arguments that are no flags, and what a flag leaves of pieces;
* `Builtin.splitOutcome_text`, `Builtin.splitOutcome_lines` : what the two forms yield;
* `Builtin.split_decomposes`           : the pieces are faithful, and the forms agree.
-/

namespace CommandShell.Builtin

/-! ## Arguments -/

/-- The flag that leaves empty pieces out, in its two spellings. -/
def IsFlag (arg : String) : Prop := arg = "-n" ∨ arg = "--no-empty"

instance : DecidablePred IsFlag := fun arg => inferInstanceAs (Decidable (arg = "-n" ∨ arg = "--no-empty"))

/-- The arguments that are no flags, in order. -/
def positional (args : List String) : List String := args.filter fun arg => ¬ IsFlag arg

/-- The pieces that arguments ask for: with a flag among them, those that are not empty. -/
def kept (args pieces : List String) : List String :=
  if ∃ arg ∈ args, IsFlag arg then pieces.filter (· ≠ "") else pieces

theorem isNoEmpty_eq (arg : String) : isNoEmpty arg = decide (IsFlag arg) := by
  rw [Bool.eq_iff_iff]
  simp [isNoEmpty, IsFlag, or_comm]

theorem filter_isNoEmpty (args : List String) : args.filter (!isNoEmpty ·) = positional args := by
  simp [positional, isNoEmpty_eq]

theorem positional_cons {arg : String} (h : ¬ IsFlag arg) (args : List String) :
    positional (arg :: args) = arg :: positional args := by
  simp [positional, h]

theorem kept_cons {arg : String} (h : ¬ IsFlag arg) (args pieces : List String) :
    kept (arg :: args) pieces = kept args pieces := by
  simp [kept, h]

/-! ## The two forms -/

variable {args rest : List String} {separator text : String}

theorem splitText_any (hne : separator ≠ "") (args : List String) (text : String) :
    splitText (args.any isNoEmpty) separator text = kept args (Text.split separator text) := by
  have hany : args.any isNoEmpty = decide (∃ arg ∈ args, IsFlag arg) := by
    rw [Bool.eq_iff_iff]
    simp [isNoEmpty_eq]
  have hfilter : (Text.split separator text).filter (· != "") =
      (Text.split separator text).filter (· ≠ "") := by
    congr 1
    funext piece
    rw [Bool.eq_iff_iff]
    simp
  simp only [splitText, hany, if_neg hne, hfilter, decide_eq_true_eq, kept]

/-- A text and a separator among the arguments. -/
theorem splitOutcome_text (hne : separator ≠ "") (h : positional args = text :: separator :: rest)
    (input : Value) :
    splitOutcome args input = ⟨0, .lines (kept args (Text.split separator text))⟩ := by
  unfold splitOutcome
  rw [filter_isNoEmpty, h]
  simp only [splitText_any hne]

/-- A separator alone among the arguments. -/
theorem splitOutcome_lines (hne : separator ≠ "") (h : positional args = [separator]) (input : Value) :
    splitOutcome args input =
      ⟨0, .lines (input.lineList.flatMap fun line => kept args (Text.split separator line))⟩ := by
  have hpieces : splitText (args.any isNoEmpty) separator =
      fun line => kept args (Text.split separator line) := funext (splitText_any hne args)
  unfold splitOutcome
  rw [filter_isNoEmpty, h]
  simp only [hpieces]

/-- **`split` decomposes texts faithfully, in both of its forms.** Take a separator that is not empty.
* The pieces of a text, joined with the separator, are the text; there is at least one; and none of them
  holds the separator.
* With a text and the separator as its first arguments that are no flags, `split` yields the pieces of
  the text, or with a flag those that are not empty; where the flags stand, how many there are, further
  arguments and the input do not matter.
* With the separator as its only argument that is no flag, `split` yields in the same way the pieces of
  the lines of any input, one line after the other.
* So a line that is no flag contributes what `split` yields with the line put before the arguments, and
  a text that is the input can as well be put there. -/
theorem split_decomposes (hne : separator ≠ "") :
    (∀ text, Text.join separator (Text.split separator text) = text ∧
      Text.split separator text ≠ [] ∧
      ∀ piece ∈ Text.split separator text, ¬ separator.toList <:+: piece.toList) ∧
    (∀ args text rest input, positional args = text :: separator :: rest →
      run .split args input = pure ⟨0, .lines (kept args (Text.split separator text))⟩) ∧
    (∀ args input, positional args = [separator] →
      run .split args input =
        pure ⟨0, .lines (input.lineList.flatMap fun line => kept args (Text.split separator line))⟩) ∧
    (∀ args line input, positional args = [separator] → ¬ IsFlag line →
      run .split (line :: args) input = pure ⟨0, .lines (kept args (Text.split separator line))⟩ ∧
      run .split args (.scalar line) = run .split (line :: args) input) := by
  refine ⟨fun text => ?_, fun args text rest input h => ?_, fun args input h => ?_,
    fun args line input h hline => ?_⟩
  · exact ⟨Text.join_split hne text, Text.split_ne_nil hne text,
      fun piece => Text.no_separator_of_mem_split hne⟩
  · exact congrArg pure (splitOutcome_text hne h input)
  · exact congrArg pure (splitOutcome_lines hne h input)
  · have hpositional : positional (line :: args) = line :: separator :: [] := by
      rw [positional_cons hline, h]
    have hargument : splitOutcome (line :: args) input =
        ⟨0, .lines (kept args (Text.split separator line))⟩ := by
      rw [splitOutcome_text hne hpositional, kept_cons hline]
    have hinput : splitOutcome args (.scalar line) =
        ⟨0, .lines (kept args (Text.split separator line))⟩ := by
      rw [splitOutcome_lines hne h]
      simp [Value.lineList]
    exact ⟨congrArg pure hargument, congrArg pure (hinput.trans hargument.symm)⟩

theorem split_decomposes_overlap :
    positional ["-n", "aaaé", "aa", "-n", "x"] = ["aaaé", "aa", "x"] ∧
      Text.join "aa" (Text.split "aa" "aaaé") = "aaaé" ∧
      run .split ["-n", "aaaé", "aa", "-n", "x"] .absent = pure ⟨0, .lines ["aé"]⟩ ∧
      run .split ["aa"] (.lines ["baab", "-n"]) = pure ⟨0, .lines ["b", "b", "-n"]⟩ ∧
      run .split ["aa"] (.scalar "aaaé") = run .split ["aaaé", "aa"] .absent := by
  obtain ⟨hpieces, htext, hlines, hforms⟩ := @split_decomposes "aa" (by decide)
  refine ⟨by decide, (hpieces "aaaé").1, ?_, ?_,
    (hforms ["aa"] "aaaé" .absent (by decide) (by decide)).2⟩
  · rw [htext ["-n", "aaaé", "aa", "-n", "x"] "aaaé" ["x"] .absent (by decide)]
    exact congrArg pure (by decide)
  · rw [hlines ["aa"] (.lines ["baab", "-n"]) (by decide)]
    exact congrArg pure (by decide)

end CommandShell.Builtin
