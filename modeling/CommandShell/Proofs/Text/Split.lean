import CommandShell.Text.Class
import CommandShell.Text.Split
import Mathlib.Data.List.DropRight

/-!
# Trimming, splitting and joining texts

* `Text.trim_trim`     : a text that was trimmed has no blanks to trim;
* `splitOn_singleton`  : splitting at one element is the library's `List.splitOn`;
* `Text.not_mem_of_mem_split` : no piece of a text holds the character that it was split at;
* `Text.split_join`    : pieces that were joined come back when the text is split.
-/

namespace CommandShell

namespace Text

/-! ## Trimming -/

theorem dropWhile_of_not_blank {cs : List Char} (h : ∀ c ∈ cs, isBlank c = false) :
    cs.dropWhile isBlank = cs := by
  cases cs with
  | nil => rfl
  | cons c cs => simp [h c (by simp)]

theorem trim_of_not_blank {s : String} (h : ∀ c ∈ s.toList, isBlank c = false) : trim s = s := by
  have hreverse : ∀ c ∈ s.toList.reverse, isBlank c = false := by simpa using h
  rw [trim, trimChars, dropWhile_of_not_blank h, dropWhile_of_not_blank hreverse,
    List.reverse_reverse, String.ofList_toList]

/-- Folding leaves blanks alone. -/
theorem toLower_of_blank {c : Char} (h : isBlank c = true) : c.toLower = c := by
  unfold Char.toLower
  split
  · rename_i hupper
    have hlow : 65 ≤ c.toNat := hupper.1
    have hhigh : c.toNat ≤ 90 := hupper.2
    simp only [isBlank, Bool.or_eq_true, Bool.and_eq_true, decide_eq_true_eq, beq_iff_eq] at h
    omega
  · rfl

theorem trimChars_eq (cs : List Char) :
    trimChars cs = (cs.dropWhile isBlank).rdropWhile isBlank := rfl

/-- What is left after trimming begins with what was left at the front. -/
theorem dropWhile_trimChars (cs : List Char) :
    (trimChars cs).dropWhile isBlank = trimChars cs := by
  rw [List.dropWhile_eq_self_iff]
  intro hlength
  have hpart : trimChars cs <+: cs.dropWhile isBlank := List.rdropWhile_prefix isBlank _
  have hfront := List.dropWhile_eq_self_iff.mp (List.dropWhile_idempotent (p := isBlank) (l := cs))
  have hlength' : 0 < (cs.dropWhile isBlank).length := lt_of_lt_of_le hlength hpart.length_le
  rw [hpart.getElem hlength]
  exact hfront hlength'

theorem trimChars_trimChars (cs : List Char) : trimChars (trimChars cs) = trimChars cs := by
  rw [trimChars_eq (trimChars cs), dropWhile_trimChars, trimChars_eq, List.rdropWhile_idempotent]

/-- **A text that was trimmed has no blanks to trim.** -/
theorem trim_trim (s : String) : trim (trim s) = trim s := by
  rw [trim, trim, String.toList_ofList, trimChars_trimChars]

theorem mem_of_mem_trim {c : Char} {s : String} (h : c ∈ (trim s).toList) : c ∈ s.toList := by
  rw [trim, String.toList_ofList, trimChars_eq] at h
  exact (List.dropWhile_suffix isBlank).mem ((List.rdropWhile_prefix isBlank _).mem h)

end Text

/-! ## Splitting -/

section Split

variable {α : Type}

theorem consFirst_eq_modifyHead {pieces : List (List α)} (h : pieces ≠ []) (c : α) :
    consFirst c pieces = pieces.modifyHead (c :: ·) := by
  cases pieces with
  | nil => exact absurd rfl h
  | cons piece pieces => rfl

variable [DecidableEq α]

/-- **Splitting at one element** is what the library does. -/
theorem splitOn_singleton (x : α) (cs : List α) : splitOn [x] cs = cs.splitOn x := by
  induction cs with
  | nil => rfl
  | cons c cs ih =>
    have hsplit : splitFrom [x] 0 cs = cs.splitOn x := ih
    rw [splitOn, splitFrom, List.splitOn_cons_eq_if_modifyHead]
    by_cases hc : c = x
    · subst hc
      simp [after?, hsplit]
    · simp [after?, hc, Ne.symm hc, hsplit, consFirst_eq_modifyHead (List.splitOn_ne_nil x cs)]

theorem not_mem_of_mem_splitOn {x : α} {cs piece : List α} (h : piece ∈ splitOn [x] cs) :
    x ∉ piece := by
  rw [splitOn_singleton] at h
  induction cs generalizing piece with
  | nil =>
    rw [List.splitOn_nil, List.mem_singleton] at h
    simp [h]
  | cons c cs ih =>
    rw [List.splitOn_cons_eq_if_modifyHead] at h
    obtain ⟨first, rest, hpieces⟩ := List.exists_cons_of_ne_nil (List.splitOn_ne_nil x cs)
    rw [hpieces] at h ih
    split at h
    · rcases List.mem_cons.mp h with rfl | hmem
      · simp
      · exact ih hmem
    · rename_i hc
      rcases List.mem_cons.mp h with rfl | hmem
      · rw [List.mem_cons, not_or]
        exact ⟨fun heq => hc (by simp [heq]), ih (by simp)⟩
      · exact ih (List.mem_cons_of_mem _ hmem)

end Split

namespace Text

theorem split_eq (mark : Char) (s : String) :
    split (String.ofList [mark]) s = (s.toList.splitOn mark).map String.ofList := by
  rw [split, String.toList_ofList, splitOn_singleton]

/-- **No piece of a text holds the character that it was split at.** -/
theorem not_mem_of_mem_split (mark : Char) {s piece : String}
    (h : piece ∈ split (String.ofList [mark]) s) : mark ∉ piece.toList := by
  obtain ⟨cs, hcs, rfl⟩ := List.mem_map.mp h
  rw [String.toList_ofList] at hcs ⊢
  exact not_mem_of_mem_splitOn hcs

/-- **Pieces that were joined come back when the text is split**, if none of them holds the
character between them. -/
theorem split_join (mark : Char) {pieces : List String} (hpieces : ∀ p ∈ pieces, mark ∉ p.toList)
    (hne : pieces ≠ []) :
    split (String.ofList [mark]) (join (String.ofList [mark]) pieces) = pieces := by
  have hlists : ∀ cs ∈ pieces.map String.toList, mark ∉ cs := by simpa using hpieces
  rw [split_eq, join, String.toList_intercalate, String.toList_ofList,
    List.splitOn_intercalate mark hlists (by simpa using hne), List.map_map]
  simp [Function.comp_def]

end Text

end CommandShell
