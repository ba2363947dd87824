import CommandShell.Proofs.Token.Location

/-!
# Where a scan fails

A scan that fails names a place where something is to be read: a character that begins no token, the
quote that opens a run, or the brace that opens an interpolation.  None of them is a blank.

* `Location.IsMark`        : a location with no blank behind it;
* `Scans.remains`, `ScansQuoted.remains` : what a scan leaves is what the source has there;
* `Token.ofLine_error_isMark` : the error of a scan stands at a mark.
-/

namespace CommandShell

/-- A location of a source with no blank right behind it: something stands there that can be read, or the
source ends. -/
def Location.IsMark (l : Location) (src : List Char) : Prop :=
  ∃ cs, Remains src l cs ∧ ∀ c rest, cs = c :: rest → Text.isBlank c = false

theorem Remains.isMark {src cs : List Char} {l : Location} {c : Char} (h : Remains src l (c :: cs))
    (hc : Text.isBlank c = false) : l.IsMark src := by
  refine ⟨c :: cs, h, ?_⟩
  rintro _ _ ⟨⟩
  exact hc

namespace Token

variable {src : List Char}

theorem isWordChar_not_blank {m : Mode} {c : Char} (h : m.isWordChar c = true) :
    Text.isBlank c = false := by
  simp only [Mode.isWordChar, Word.isWordChar, Bool.and_eq_true, Bool.not_eq_true'] at h
  exact h.1.1.1

/-- What a scan leaves is what the source has where it stops. -/
theorem Scans.remains {m : Mode} {cs : List Char} {l : Location} {ts : List Token} {cur : Cursor}
    (h : Scans m cs l ts cur) (hr : Remains src l cs) : Remains src cur.loc cur.rest := by
  obtain ⟨used, rfl, hloc⟩ := h.consumes
  rw [hloc]
  exact hr.append

theorem ScansQuoted.remains {q : Char} {cs : List Char} {l : Location} {body : QuotedBody}
    {cur : Cursor} (h : ScansQuoted q cs l body cur) (hr : Remains src l cs) :
    Remains src cur.loc cur.rest := by
  obtain ⟨mid, rfl, hloc⟩ := h.consumes
  rw [hloc]
  exact hr.append.cons

theorem map_eq_error {ε α β : Type} {f : α → β} {r : Except ε α} {e : ε}
    (h : r.map f = .error e) : r = .error e := by
  cases r with
  | error e' => cases h; rfl
  | ok a => cases h

/-- On what is shorter than a bound, the errors of both scans stand at marks. -/
structure MarksBelow (src : List Char) (n : Nat) : Prop where
  tokens : ∀ (m : Mode) (cs : List Char) (l : Location) (e : SyntaxError), cs.length < n →
    Remains src l cs → scanned m cs l = .error e → e.span.start.IsMark src
  quoted : ∀ (q : Char) (start : Location) (cs : List Char) (l : Location) (e : SyntaxError),
    cs.length < n → start.IsMark src → Remains src l cs → scannedQuoted q start cs l = .error e →
    e.span.start.IsMark src

theorem MarksBelow.scanned {n : Nat} (ih : MarksBelow src n) {m : Mode} {cs : List Char}
    {l : Location} {e : SyntaxError} (hn : cs.length ≤ n) (hr : Remains src l cs)
    (h : scanned m cs l = .error e) : e.span.start.IsMark src := by
  obtain ⟨bs, rest, rfl, -, hblank, hspan⟩ := spanFrom_spec Text.isBlank cs l
  rw [scanned_eq, hspan] at h
  simp only [List.length_append] at hn
  replace hr := hr.append
  generalize l.advanceAll bs = l' at h hr
  cases rest with
  | nil => cases h
  | cons c rest =>
    have hmark : l'.IsMark src := hr.isMark (hblank c rest rfl)
    simp only [List.length_cons] at hn
    simp only [scannedAt] at h
    split at h
    · cases h
    split at h
    · rename_i k after hp
      have hlt := punctuation?_length hp
      simp only [List.length_cons] at hlt
      rw [punctuation?_eq_append hp] at hr
      exact ih.tokens m after _ e (by omega) hr.append (map_eq_error h)
    split at h
    · split at h
      · rename_i hrun
        cases h
        exact ih.quoted c l' rest _ e (by omega) hmark hr.cons hrun
      · rename_i body after hrun
        have hle := scannedQuoted_length hrun
        have hquoted := (followsBelow (rest.length + 1)).quoted c l' rest _ _ _ (by omega) hrun
        exact ih.tokens m after.rest _ e (by omega) (hquoted.remains hr.cons) (map_eq_error h)
    split at h
    · obtain ⟨w, rest', rfl, -, -, hspan'⟩ := spanFrom_spec m.isWordChar rest (l'.advance c)
      rw [hspan'] at h
      simp only [List.length_append] at hn
      exact ih.tokens m rest' _ e (by omega) hr.cons.append (map_eq_error h)
    · cases h
      exact hmark

theorem MarksBelow.scannedQuoted {n : Nat} (ih : MarksBelow src n) {q : Char} {start : Location}
    {cs : List Char} {l : Location} {e : SyntaxError} (hn : cs.length ≤ n)
    (hstart : start.IsMark src) (hr : Remains src l cs)
    (h : scannedQuoted q start cs l = .error e) : e.span.start.IsMark src := by
  cases cs with
  | nil =>
    -- A run that is never closed is reported where it was opened.
    rw [scannedQuoted_nil] at h
    cases h
    exact hstart
  | cons c rest =>
    rw [scannedQuoted_cons] at h
    simp only [List.length_cons] at hn
    split at h
    · cases h
    split at h
    · cases rest with
      | nil => cases h; exact hstart
      | cons d rest' =>
        simp only [List.length_cons] at hn
        exact ih.quoted q start rest' _ e (by omega) hstart hr.cons.cons (map_eq_error h)
    split at h
    · rename_i hbrace
      subst hbrace
      split at h
      · rename_i hline
        cases h
        exact ih.tokens .braces rest _ e (by omega) hr.cons hline
      · cases h
        exact hr.isMark (by decide)
      · rename_i inner d rest' l' hline
        have hle := scanned_length hline
        simp only [List.length_cons] at hle
        have hafter := (scanned_eq_ok_iff.mp hline).remains hr.cons
        exact ih.quoted q start rest' _ e (by omega) hstart hafter.cons (map_eq_error h)
    · exact ih.quoted q start rest _ e (by omega) hstart hr.cons (map_eq_error h)

theorem marksBelow (src : List Char) (n : Nat) : MarksBelow src n := by
  induction n with
  | zero => exact ⟨fun _ _ _ _ h => by omega, fun _ _ _ _ _ h => by omega⟩
  | succ n ih =>
    exact ⟨fun _ _ _ _ hn => ih.scanned (by omega), fun _ _ _ _ _ hn => ih.scannedQuoted (by omega)⟩

/-- **The error of a scan stands at a mark.** -/
theorem ofLine_error_isMark {line : String} {e : SyntaxError} (h : ofLine line = .error e) :
    e.span.start.IsMark line.toList := by
  have herror : scanned .line line.toList .start = .error e := by
    rw [ofLine] at h
    rw [scanned]
    cases hscan : scan .line line.toList .start with
    | error e' => rw [hscan] at h; cases h; rfl
    | ok r => rw [hscan] at h; cases h
  exact (marksBelow line.toList (line.toList.length + 1)).tokens .line _ .start e (by omega)
    (.start _) herror

end Token

end CommandShell
