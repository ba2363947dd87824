import CommandShell.Text.Class
import Mathlib.Data.List.Basic

/-!
# Upper and lower case

Only the letters of ASCII have two cases here.  Characters that agree in lower case agree in upper case,
and a character below the letters is the lower case of itself alone.

* `Text.toLower_eq_iff`     : agreement in lower case is agreement in upper case;
* `Text.sameFold_iff_upper` : the same for texts;
* `Text.toLower_eq_below`   : a character below the letters is the lower case of itself alone;
* `Text.eq_of_sameFold_below` : the same for texts.
-/

namespace CommandShell.Text

variable {c d : Char} {s t : String}

/-! ## Characters -/

theorem toNat_toLower (c : Char) :
    c.toLower.toNat = if 65 ≤ c.toNat ∧ c.toNat ≤ 90 then c.toNat + 32 else c.toNat := by
  unfold Char.toLower
  split
  · rename_i h
    have hletter : 65 ≤ c.toNat ∧ c.toNat ≤ 90 := h
    have hsum : (c.val + 32).toNat = (c.toNat + 32) % 4294967296 := UInt32.toNat_add c.val 32
    rw [if_pos hletter]
    show (c.val + 32).toNat = c.toNat + 32
    omega
  · rename_i h
    have hother : ¬ (65 ≤ c.toNat ∧ c.toNat ≤ 90) := h
    rw [if_neg hother]

theorem toNat_toUpper (c : Char) :
    c.toUpper.toNat = if 97 ≤ c.toNat ∧ c.toNat ≤ 122 then c.toNat - 32 else c.toNat := by
  unfold Char.toUpper
  split
  · rename_i h
    have hletter : 97 ≤ c.toNat ∧ c.toNat ≤ 122 := h
    -- The distance from the small letters to the capital ones is taken modulo the word size.
    have hsum : (c.val + 4294967264).toNat = (c.toNat + 4294967264) % 4294967296 :=
      UInt32.toNat_add c.val 4294967264
    rw [if_pos hletter]
    show (c.val + 4294967264).toNat = c.toNat - 32
    omega
  · rename_i h
    have hother : ¬ (97 ≤ c.toNat ∧ c.toNat ≤ 122) := h
    rw [if_neg hother]

/-- **Characters agree in lower case exactly if they agree in upper case.** -/
theorem toLower_eq_iff : c.toLower = d.toLower ↔ c.toUpper = d.toUpper := by
  rw [← Char.toNat_inj, ← Char.toNat_inj, toNat_toLower, toNat_toLower, toNat_toUpper, toNat_toUpper]
  split <;> split <;> split <;> split <;> omega

/-- A character below the letters is the lower case of itself alone. -/
theorem toLower_eq_below (hd : d.toNat < 65) : c.toLower = d ↔ c = d := by
  rw [← Char.toNat_inj, ← Char.toNat_inj, toNat_toLower]
  split <;> omega

theorem mem_map_toLower {cs : List Char} (hd : d.toNat < 65) : d ∈ cs.map Char.toLower ↔ d ∈ cs := by
  simp [toLower_eq_below hd]

/-! ## Texts -/

theorem map_toLower_eq_iff (cs ds : List Char) :
    cs.map Char.toLower = ds.map Char.toLower ↔ cs.map Char.toUpper = ds.map Char.toUpper := by
  induction cs generalizing ds with
  | nil => simp
  | cons c cs ih =>
    cases ds with
    | nil => simp
    | cons d ds => simp only [List.map_cons, List.cons.injEq, toLower_eq_iff, ih]

/-- **Texts agree up to case exactly if they agree in upper case.** -/
theorem sameFold_iff_upper : sameFold s t = true ↔ upper s = upper t := by
  rw [sameFold_iff, fold, fold, upper, upper, String.ofList_inj, String.ofList_inj, map_toLower_eq_iff]

/-- A text without letters agrees with itself alone. -/
theorem eq_of_sameFold_below (ht : ∀ c ∈ t.toList, c.toNat < 65) (h : sameFold s t = true) : s = t := by
  have hlists : s.toList.map Char.toLower = t.toList.map Char.toLower :=
    String.ofList_inj.mp (sameFold_iff.mp h)
  apply String.toList_inj.mp
  generalize s.toList = cs, t.toList = ds at ht hlists
  induction cs generalizing ds with
  | nil =>
    rw [List.map_nil, eq_comm, List.map_eq_nil_iff] at hlists
    exact hlists.symm
  | cons c cs ih =>
    cases ds with
    | nil => simp at hlists
    | cons d ds =>
      obtain ⟨hfirst, hrest⟩ := List.cons.inj hlists
      have hd : d.toNat < 65 := ht d List.mem_cons_self
      rw [(toLower_eq_below hd).mpr rfl, toLower_eq_below hd] at hfirst
      rw [hfirst, ih ds (fun c hc => ht c (List.mem_cons_of_mem d hc)) hrest]

end CommandShell.Text
