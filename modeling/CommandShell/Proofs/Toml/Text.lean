import CommandShell.Toml.Writer

/-!
# TOML: strings and keys that are written are read

A string is written in one of five forms.  In each of them it is read again, and the reader stops
where the writer did.

* `Toml.Escapes`              : the ways to write one character between double quotes;
* `Toml.readBasic?_escape`, `Toml.readMultiBasic?_escape` : between one and three double quotes;
* `Toml.readLiteral?_chars`, `Toml.readMultiLiteral?_chars` : between one and three single quotes;
* `Toml.readString?_write`    : a written string is read;
* `Toml.readKeys?_write`      : a written key is read.
-/

namespace CommandShell.Toml

/-! ## Characters -/

theorem isPlain_of_not_control {c : Char} (hcontrol : isControl c = false) (hline : c ≠ '\n') :
    isPlain c = true := by
  by_cases htab : c = '\t'
  · simp [isPlain, htab]
  · simp only [isControl, bne, beq_false_of_ne htab, beq_false_of_ne hline, Bool.not_false,
      Bool.and_true, Bool.or_eq_false_iff, decide_eq_false_iff_not, beq_eq_false_iff_ne] at hcontrol
    have hlow : 32 ≤ c.toNat := by omega
    simp [isPlain, hlow, hcontrol.2]

theorem not_control_return {c : Char} (hcontrol : isControl c = false) : c ≠ '\r' := by
  rintro rfl
  exact absurd hcontrol (by decide)

theorem codePoint?_digits : ∀ n, n < 128 →
    codePoint? ['0', '0', (Hex.digit (n / 16)).toUpper, (Hex.digit (n % 16)).toUpper] =
      some (Char.ofNat n) := by
  decide

/-- How one character can be written between double quotes. -/
inductive Escapes (c : Char) : List Char → Prop
  | letter {e : Char} (h : escaped? e = some c) : Escapes c ['\\', e]
  | code {a b : Char} (h : codePoint? ['0', '0', a, b] = some c) :
    Escapes c ['\\', 'u', '0', '0', a, b]
  | plain (hplain : isPlain c = true) (hquote : c ≠ '"') (hback : c ≠ '\\') : Escapes c [c]

theorem escapes_escapeChar (c : Char) : Escapes c (escapeChar c) := by
  unfold escapeChar
  iterate 7
    split
    · subst_vars; exact .letter (by decide)
  split
  · rename_i hcontrol
    have hlt : c.toNat < 128 := by
      simp only [isControl, Bool.or_eq_true, Bool.and_eq_true, decide_eq_true_eq, beq_iff_eq]
        at hcontrol
      omega
    exact .code (by rw [codePoint?_digits c.toNat hlt, Char.ofNat_toNat])
  · rename_i hline _ _ hquote hback hcontrol
    exact .plain (isPlain_of_not_control (by simpa using hcontrol) hline) hquote hback

/-- The letters behind a backslash. -/
theorem escaped?_cases {e c : Char} (h : escaped? e = some c) :
    e = 'b' ∨ e = 't' ∨ e = 'n' ∨ e = 'f' ∨ e = 'r' ∨ e = '"' ∨ e = '\\' := by
  unfold escaped? at h
  grind

/-- None of them ends a line. -/
theorem endsLine_of_escaped {e c : Char} (h : escaped? e = some c) (rest : List Char) :
    endsLine (e :: rest) = false := by
  rcases escaped?_cases h with rfl | rfl | rfl | rfl | rfl | rfl | rfl <;> rfl

/-- No way to write a character begins with a quote or a line end. -/
theorem Escapes.head {c : Char} {cs : List Char} (h : Escapes c cs) :
    ∃ x r, cs = x :: r ∧ isPlain x = true ∧ x ≠ '"' := by
  cases h with
  | letter _ => exact ⟨_, _, rfl, by decide, by decide⟩
  | code _ => exact ⟨_, _, rfl, by decide, by decide⟩
  | plain hplain hquote _ => exact ⟨_, _, rfl, hplain, hquote⟩

/-! ## One double quote -/

theorem readBasic?_escape {c : Char} {cs : List Char} (h : Escapes c cs) (rest : List Char) :
    readBasic? (cs ++ rest) = consTo (some c) (readBasic? rest) := by
  cases h with
  | @letter e he =>
    rcases escaped?_cases he with rfl | rfl | rfl | rfl | rfl | rfl | rfl <;>
      simp [readBasic?, ← he]
  | code hcode => simp [readBasic?, hcode]
  | plain hplain hquote hback => simp [readBasic?, hback, hplain]

theorem readBasic?_escapeBasic (cs rest : List Char) :
    readBasic? (escapeBasic cs ++ '"' :: rest) = some (cs, rest) := by
  induction cs with
  | nil => simp [escapeBasic, readBasic?]
  | cons c cs ih =>
    rw [escapeBasic, List.flatMap_cons, List.append_assoc,
      readBasic?_escape (escapes_escapeChar c), ← escapeBasic, ih, consTo]

/-! ## Three double quotes -/

theorem isPlain_ne_newline {c : Char} (h : isPlain c = true) : c ≠ '\n' ∧ c ≠ '\r' := by
  constructor <;> rintro rfl <;> exact absurd h (by decide)

theorem readMultiBasic?_escape {c : Char} {cs : List Char} (h : Escapes c cs) (rest : List Char) :
    readMultiBasic? false (cs ++ rest) = consTo (some c) (readMultiBasic? false rest) := by
  cases h with
  | @letter e he =>
    have hends := endsLine_of_escaped he rest
    rcases escaped?_cases he with rfl | rfl | rfl | rfl | rfl | rfl | rfl <;>
      simp [readMultiBasic?, ← he, hends]
  | code hcode => simp [readMultiBasic?, hcode]
  | plain hplain hquote hback =>
    obtain ⟨hline, hreturn⟩ := isPlain_ne_newline hplain
    simp [readMultiBasic?, hquote, hback, hplain, hline, hreturn]

/-- A quote that is not followed by two more is a character of the string. -/
theorem readMultiBasic?_quote {rest : List Char} (h : ∀ r, rest ≠ '"' :: '"' :: r) :
    readMultiBasic? false ('"' :: rest) = consTo (some '"') (readMultiBasic? false rest) := by
  simp [readMultiBasic?, h, show isPlain '"' = true from rfl]

theorem escapeMulti_quote {run : Nat} (h : run ≠ 2) (cs : List Char) :
    escapeMulti run ('"' :: cs) = '"' :: escapeMulti (run + 1) cs := by
  simp [escapeMulti, h]

/-- Only a quote with fewer than two before it is written as a quote. -/
theorem escapeMulti_head {run : Nat} {c : Char} (h : run = 2 ∨ c ≠ '"') (cs rest : List Char) :
    (escapeMulti run (c :: cs) ++ rest).head? ≠ some '"' := by
  rw [escapeMulti]
  split
  · rename_i hc
    simp [h.resolve_right (not_not_intro hc)]
  split
  · simp
  · obtain ⟨x, r, hx, -, hquote⟩ := (escapes_escapeChar c).head
    simpa [hx] using hquote

/-- **A text between three double quotes is read**: of quotes in a row, `run` of which stand just
before, at most two are written as they are, so the first three that meet are the closing ones. -/
theorem readMultiBasic?_escapeMulti {run : Nat} (hrun : run ≤ 2) (cs : List Char) {d : Char}
    (hd : d ≠ '"') (rest : List Char) :
    readMultiBasic? false (escapeMulti run cs ++ '"' :: '"' :: '"' :: d :: rest) =
      some (cs, d :: rest) := by
  induction cs generalizing run with
  | nil => simp [escapeMulti, readMultiBasic?, hd]
  | cons c cs ih =>
    by_cases hquote : c = '"'
    · subst hquote
      by_cases htwo : run = 2
      · have hescape := readMultiBasic?_escape (.letter (show escaped? '"' = some '"' from rfl))
          (escapeMulti 0 cs ++ '"' :: '"' :: '"' :: d :: rest)
        rw [ih (by omega)] at hescape
        simpa [escapeMulti, htwo, consTo] using hescape
      · have hnext := ih (show run + 1 ≤ 2 by omega)
        rw [escapeMulti_quote htwo, List.cons_append]
        -- What stands behind this quote: the closing ones, a second quote, or something else.
        cases cs with
        | nil => simp [escapeMulti, readMultiBasic?, hd]
        | cons c' cs' =>
          by_cases hsecond : run + 1 = 2 ∨ c' ≠ '"'
          · have hhead := escapeMulti_head hsecond cs' ('"' :: '"' :: '"' :: d :: rest)
            rw [readMultiBasic?_quote (fun r hr => hhead (by rw [hr]; rfl)), hnext, consTo]
          · simp only [not_or, ne_eq, Decidable.not_not] at hsecond
            obtain ⟨hone, rfl⟩ := hsecond
            obtain rfl : run = 0 := by omega
            cases cs' with
            | nil => simp [escapeMulti, readMultiBasic?]
            | cons c'' cs'' =>
              have hhead := escapeMulti_head (c := c'') (.inl rfl) cs'' ('"' :: '"' :: '"' :: d :: rest)
              rw [readMultiBasic?_quote, hnext, consTo]
              intro r hr
              rw [escapeMulti_quote (by omega), List.cons_append, List.cons.injEq] at hr
              exact hhead (by rw [hr.2]; rfl)
    · by_cases hline : c = '\n'
      · subst hline
        simp [escapeMulti, readMultiBasic?, ih (show 0 ≤ 2 by omega), consTo]
      · rw [escapeMulti, if_neg hquote, if_neg hline, List.append_assoc,
          readMultiBasic?_escape (escapes_escapeChar c), ih (by omega), consTo]

/-! ## Single quotes -/

theorem readLiteral?_chars {cs : List Char} (hplain : ∀ c ∈ cs, isPlain c = true)
    (hquote : '\'' ∉ cs) (rest : List Char) :
    readLiteral? (cs ++ '\'' :: rest) = some (cs, rest) := by
  induction cs with
  | nil => simp [readLiteral?]
  | cons c cs ih =>
    simp only [List.mem_cons, not_or, forall_eq_or_imp] at hplain hquote
    simp [readLiteral?, Ne.symm hquote.1, hplain.1, ih hplain.2 hquote.2, consTo]

/-- A quote that is not followed by two more is a character of the string. -/
theorem readMultiLiteral?_quote {rest : List Char} (h : ∀ r, rest ≠ '\'' :: '\'' :: r) :
    readMultiLiteral? ('\'' :: rest) = consTo (some '\'') (readMultiLiteral? rest) := by
  simp [readMultiLiteral?, h, show isPlain '\'' = true from rfl]

theorem hasRun_same {c : Char} {n run : Nat} {cs : List Char}
    (h : hasRun c n run (c :: cs) = false) : run + 1 ≠ n ∧ hasRun c n (run + 1) cs = false := by
  simpa [hasRun] using h

/-- **A text between three single quotes is read** if it has no three of them in a row. -/
theorem readMultiLiteral?_chars {run : Nat} (hrun : run ≤ 2) {cs : List Char}
    (hcontrol : ∀ c ∈ cs, isControl c = false) (hquotes : hasRun '\'' 3 run cs = false) {d : Char}
    (hd : d ≠ '\'') (rest : List Char) :
    readMultiLiteral? (cs ++ '\'' :: '\'' :: '\'' :: d :: rest) = some (cs, d :: rest) := by
  induction cs generalizing run with
  | nil => simp [readMultiLiteral?, hd]
  | cons c cs ih =>
    simp only [List.mem_cons, forall_eq_or_imp] at hcontrol
    by_cases hquote : c = '\''
    · subst hquote
      obtain ⟨hthree, hmore⟩ := hasRun_same hquotes
      have hnext := ih (by omega) hcontrol.2 hmore
      -- As above: the closing quotes, a second quote, or something else.
      cases cs with
      | nil => simp [readMultiLiteral?, hd]
      | cons c' cs' =>
        by_cases hsecond : c' = '\''
        · subst hsecond
          obtain ⟨hthree', hmore'⟩ := hasRun_same hmore
          cases cs' with
          | nil => simp [readMultiLiteral?]
          | cons c'' cs'' =>
            have hthird : c'' ≠ '\'' := by
              rintro rfl
              exact (hasRun_same hmore').1 (by omega)
            rw [List.cons_append, readMultiLiteral?_quote (by simp [hthird]), hnext, consTo]
        · rw [List.cons_append, readMultiLiteral?_quote (by simp [hsecond]), hnext, consTo]
    · simp only [hasRun, hquote, ↓reduceIte] at hquotes
      have hnext := ih (by omega) hcontrol.2 hquotes
      have hreturn := not_control_return hcontrol.1
      have hkept : isPlain c = true ∨ c = '\n' := by
        by_cases hline : c = '\n'
        · exact .inr hline
        · exact .inl (isPlain_of_not_control hcontrol.1 hline)
      simp [readMultiLiteral?, hquote, hreturn, hkept, hnext, consTo]

/-! ## Strings -/

theorem dropNewline_of_head {cs : List Char} (hline : cs.head? ≠ some '\n')
    (hreturn : cs.head? ≠ some '\r') : dropNewline cs = cs := by
  cases cs with
  | nil => rfl
  | cons c cs =>
    simp only [List.head?_cons, ne_eq, Option.some.injEq] at hline hreturn
    simp [dropNewline, newline?, hline, hreturn]

/-- The line end behind opening quotes is dropped, and it is written where the text has one. -/
theorem dropNewline_leadIn {cs body : List Char}
    (h : '\n' ∉ cs → body.head? ≠ some '\n' ∧ body.head? ≠ some '\r') :
    dropNewline (leadIn cs ++ body) = body := by
  by_cases hline : '\n' ∈ cs
  · simp [leadIn, hline, dropNewline, newline?]
  · simpa [leadIn, hline] using dropNewline_of_head (h hline).1 (h hline).2

/-- A string in double quotes, which is not taken for one in three of them. -/
theorem readString?_basic (cs : List Char) {d : Char} (hd : d ≠ '"') (rest : List Char) :
    readString? (basic cs ++ d :: rest) = some (cs, d :: rest) := by
  -- The reader looks for three quotes first.
  have hone : ∀ r, escapeBasic cs ++ '"' :: d :: rest ≠ '"' :: '"' :: r := by
    cases cs with
    | nil => simp [escapeBasic, hd]
    | cons c cs =>
      obtain ⟨x, r, hx, -, hquote⟩ := (escapes_escapeChar c).head
      simp [escapeBasic, hx, hquote]
  simp [basic, readString?, readBasic?_escapeBasic]

theorem readString?_literal {cs : List Char} (hplain : ∀ c ∈ cs, isPlain c = true)
    (hquote : '\'' ∉ cs) {d : Char} (hd : d ≠ '\'') (rest : List Char) :
    readString? (literal cs ++ d :: rest) = some (cs, d :: rest) := by
  have hone : ∀ r, cs ++ '\'' :: d :: rest ≠ '\'' :: '\'' :: r := by
    cases cs with
    | nil => simp [hd]
    | cons c cs => simp [Ne.symm (List.ne_of_not_mem_cons hquote)]
  simp [literal, readString?, readLiteral?_chars hplain hquote]

theorem readString?_multiBasic (cs : List Char) {d : Char} (hd : d ≠ '"') (rest : List Char) :
    readString? (multiBasic cs ++ d :: rest) = some (cs, d :: rest) := by
  have hhead : '\n' ∉ cs → (escapeMulti 0 cs ++ '"' :: '"' :: '"' :: d :: rest).head? ≠ some '\n' ∧
      (escapeMulti 0 cs ++ '"' :: '"' :: '"' :: d :: rest).head? ≠ some '\r' := by
    intro hline
    cases cs with
    | nil => simp [escapeMulti]
    | cons c cs =>
      by_cases hquote : c = '"'
      · simp [escapeMulti, hquote]
      · obtain ⟨x, r, hx, hplain, -⟩ := (escapes_escapeChar c).head
        have hc : c ≠ '\n' := Ne.symm (List.ne_of_not_mem_cons hline)
        simpa [escapeMulti, hquote, hc, hx] using isPlain_ne_newline hplain
  have hread := readMultiBasic?_escapeMulti (show 0 ≤ 2 by omega) cs hd rest
  simpa [multiBasic, readString?, dropNewline_leadIn hhead] using hread

theorem readString?_multiLiteral {cs : List Char} (hcontrol : ∀ c ∈ cs, isControl c = false)
    (hquotes : hasRun '\'' 3 0 cs = false) {d : Char} (hd : d ≠ '\'') (rest : List Char) :
    readString? (multiLiteral cs ++ d :: rest) = some (cs, d :: rest) := by
  have hhead : '\n' ∉ cs → (cs ++ '\'' :: '\'' :: '\'' :: d :: rest).head? ≠ some '\n' ∧
      (cs ++ '\'' :: '\'' :: '\'' :: d :: rest).head? ≠ some '\r' := by
    intro hline
    cases cs with
    | nil => simp
    | cons c cs =>
      have hreturn := not_control_return (hcontrol c (by simp))
      simpa using ⟨Ne.symm (List.ne_of_not_mem_cons hline), hreturn⟩
  have hread := readMultiLiteral?_chars (show 0 ≤ 2 by omega) hcontrol hquotes hd rest
  simpa [multiLiteral, readString?, dropNewline_leadIn hhead] using hread

/-- **A string that is written is read**, up to where the writer stopped. -/
theorem readString?_write (cs : List Char) {d : Char} (hd : d ≠ '"') (hd' : d ≠ '\'')
    (rest : List Char) : readString? (writeStringChars cs ++ d :: rest) = some (cs, d :: rest) := by
  unfold writeStringChars
  dsimp only
  split
  · exact readString?_basic cs hd rest
  split
  · rename_i h
    simp only [Bool.and_eq_true, Bool.not_eq_true', List.any_eq_false, Bool.not_eq_true,
      List.contains_eq_mem, decide_eq_false_iff_not] at h
    obtain ⟨⟨hcontrol, hquote⟩, hline⟩ := h
    refine readString?_literal (fun c hc => ?_) hquote hd' rest
    exact isPlain_of_not_control (hcontrol c hc) (fun h => hline (h ▸ hc))
  split
  · exact readString?_multiBasic cs hd rest
  split
  · rename_i h
    simp only [Bool.and_eq_true, Bool.not_eq_true', List.any_eq_false, Bool.not_eq_true] at h
    exact readString?_multiLiteral h.1 h.2 hd' rest
  split
  · exact readString?_multiBasic cs hd rest
  · exact readString?_basic cs hd rest

/-- A string begins with a quote. -/
theorem writeStringChars_head (cs : List Char) :
    ∃ x r, writeStringChars cs = x :: r ∧ (x = '"' ∨ x = '\'') := by
  unfold writeStringChars
  dsimp only
  iterate 5
    split
    · exact ⟨_, _, rfl, by decide⟩
  · exact ⟨_, _, rfl, by decide⟩

/-! ## Keys -/

theorem readKey?_basic (cs rest : List Char) :
    readKey? (basic cs ++ rest) = some (cs, rest) := by
  simp [basic, readKey?, readBasic?_escapeBasic]

theorem readKey?_bare {c : Char} {cs : List Char} (hquote : c ≠ '"') (hquote' : c ≠ '\'')
    (hbare : ∀ x ∈ c :: cs, isBareKeyChar x = true) {d : Char} (hd : isBareKeyChar d = false)
    (rest : List Char) : readKey? (c :: cs ++ d :: rest) = some (c :: cs, d :: rest) := by
  have htake : (c :: cs ++ d :: rest).takeWhile isBareKeyChar = c :: cs := by
    rw [List.takeWhile_append_of_pos hbare]
    simp [hd]
  have hdrop : (c :: cs ++ d :: rest).dropWhile isBareKeyChar = d :: rest := by
    rw [List.dropWhile_append_of_pos hbare]
    simp [hd]
  rw [List.cons_append] at htake hdrop ⊢
  rw [readKey?, htake, hdrop]
  · simp [hquote]
  · simp [hquote']

/-- What a key begins with. -/
def StartsKey (c : Char) : Prop := c = '"' ∨ c = '\'' ∨ isBareKeyChar c = true

instance (c : Char) : Decidable (StartsKey c) :=
  inferInstanceAs (Decidable (c = '"' ∨ c = '\'' ∨ isBareKeyChar c = true))

/-- A key begins with nothing that could be taken for something else. -/
theorem StartsKey.ne {c : Char} (h : StartsKey c) {d : Char} (hd : ¬StartsKey d) : c ≠ d := by
  rintro rfl
  exact hd h

theorem StartsKey.not_blank {c : Char} (h : StartsKey c) : isBlank c = false := by
  have hspace : c ≠ ' ' := h.ne (by decide)
  have htab : c ≠ '\t' := h.ne (by decide)
  simp [isBlank, hspace, htab]

theorem writeKeyChars_head (cs : List Char) : ∃ x r, writeKeyChars cs = x :: r ∧ StartsKey x := by
  unfold writeKeyChars
  dsimp only
  split
  · rename_i h
    simp only [Bool.and_eq_true, Bool.not_eq_true', List.all_eq_true] at h
    cases cs with
    | nil => simp at h
    | cons c cs => exact ⟨c, cs, rfl, .inr (.inr (h.2 c (by simp)))⟩
  split
  · exact ⟨_, _, rfl, .inl rfl⟩
  split
  · exact ⟨_, _, rfl, .inr (.inl rfl)⟩
  · exact ⟨_, _, rfl, .inl rfl⟩

/-- **A key that is written is read**, up to a character that no bare key has. -/
theorem readKey?_write (cs : List Char) {d : Char} (hd : isBareKeyChar d = false)
    (rest : List Char) : readKey? (writeKeyChars cs ++ d :: rest) = some (cs, d :: rest) := by
  unfold writeKeyChars
  dsimp only
  split
  · rename_i h
    simp only [Bool.and_eq_true, Bool.not_eq_true', List.all_eq_true] at h
    obtain ⟨hsome, hbare⟩ := h
    cases cs with
    | nil => simp at hsome
    | cons c cs =>
      have hc := hbare c (by simp)
      refine readKey?_bare ?_ ?_ hbare hd rest <;> rintro rfl <;> exact absurd hc (by decide)
  split
  · exact readKey?_basic cs _
  split
  · rename_i h
    simp only [Bool.and_eq_true, Bool.not_eq_true', List.any_eq_false, Bool.not_eq_true,
      Bool.or_eq_false_iff, List.contains_eq_mem, decide_eq_false_iff_not] at h
    obtain ⟨hcontrol, hquote⟩ := h
    have hplain : ∀ c ∈ cs, isPlain c = true := fun c hc =>
      isPlain_of_not_control (hcontrol c hc).1 (by simpa using (hcontrol c hc).2)
    simp [literal, readKey?, readLiteral?_chars hplain hquote]
  · exact readKey?_basic cs _

/-- **A single key is read**, with the blanks behind it. -/
theorem readKeys?_write (key : String) {d : Char} (hd : isBareKeyChar d = false)
    {rest after : List Char} (hafter : skipBlanks (d :: rest) = after)
    (hdot : ∀ r, after ≠ '.' :: r) :
    readKeys? (writeKeyChars key.toList ++ d :: rest) = some ([key], after) := by
  obtain ⟨x, r, hx, hstart⟩ := writeKeyChars_head key.toList
  have hskip : skipBlanks (writeKeyChars key.toList ++ d :: rest) =
      writeKeyChars key.toList ++ d :: rest := by
    simp [hx, skipBlanks, hstart.not_blank]
  rw [readKeys?, readKeysFrom?, hskip, readKey?_write key.toList hd]
  simp [hafter, levelLimit]

end CommandShell.Toml
