import CommandShell.Proofs.Token.Scans
import CommandShell.Segment.Render

/-!
# What source text yields

The tokens of a piece of source text in both modes of a scan, wherever it stands and whatever stands
behind it, as long as that does not go on with a word.  The lemmas follow the ways in which source text
is put together: words, operators, `$( ... )` and strings with lines between braces.

* `Yields`                     : characters yield tokens that have a property;
* `YieldsRun`                  : characters between double quotes yield a body that has a property;
* `scans_escape`, `scans_quote` : a text that is written as a word or in quotes is one token.
-/

namespace CommandShell

open Segment Token

/-- The characters yield tokens that have the property, wherever they stand. -/
def Yields (P : List Token → Prop) (cs : List Char) : Prop :=
  ∀ (m : Mode) (l : Location) (rest : List Char) (us : List Token) (cur : Cursor),
    Separated m rest → Scans m rest (l.advanceAll cs) us cur →
    ∃ ts, Scans m (cs ++ rest) l (ts ++ us) cur ∧ P ts

variable {P Q R : List Token → Prop}

theorem Yields.imp {cs : List Char} (h : Yields P cs) (hPQ : ∀ ts, P ts → Q ts) : Yields Q cs := by
  intro m l rest us cur hsep hrest
  obtain ⟨ts, hs, hP⟩ := h m l rest us cur hsep hrest
  exact ⟨ts, hs, hPQ ts hP⟩

/-- The tokens of a whole line. -/
theorem Yields.ofLine {s : String} (h : Yields P s.toList) :
    ∃ ts l, Token.ofLine s = .ok (ts ++ [endMark l]) ∧ P ts := by
  obtain ⟨ts, hs, hP⟩ := h .line .start [] _ _ (separated_nil _) .finish
  rw [List.append_nil] at hs
  exact ⟨ts, _, ofLine_eq_ok_iff.mpr ⟨_, hs⟩, hP⟩

/-! ## Blanks and operators -/

theorem separated_of_mark {m : Mode} {c : Char} {cs : List Char} (h : Word.isWordChar c = false) :
    Separated m (c :: cs) := by
  refine separated_cons ?_
  simp [Mode.isWordChar, h]

/-- Two pieces of source text with an operator between them. -/
theorem Yields.operator {cs ds : List Char} {op : String} {k : Kind} (hop : k.symbol = op)
    (hp : ∀ rest, punctuation? (op.toList ++ ' ' :: rest) = some (k, ' ' :: rest))
    (hl : Yields P cs) (hr : Yields Q ds)
    (hR : ∀ ts us sp, P ts → Q us → R (ts ++ .plain k (some k.symbol) false sp :: us)) :
    Yields R (cs ++ (' ' :: op.toList ++ ' ' :: ds)) := by
  intro m l rest us cur hsep hrest
  obtain ⟨rs, hrs, hQ⟩ := hr m ((l.advanceAll cs).advanceAll (' ' :: op.toList ++ [' '])) rest us cur
    hsep (by simpa using hrest)
  obtain ⟨sp, hos⟩ := scans_operator hop hp hrs
  obtain ⟨ts, hts, hP⟩ := hl m l _ _ cur (separated_of_mark (by decide)) hos
  exact ⟨ts ++ _ :: rs, by simpa using hts, hR ts rs sp hP hQ⟩

/-- Two pieces of source text with a blank between them. -/
theorem Yields.spaced {cs ds : List Char} (hl : Yields P cs) (hr : Yields Q ds)
    (hR : ∀ ts us, P ts → Q us → R (ts ++ us)) : Yields R (cs ++ ' ' :: ds) := by
  intro m l rest us cur hsep hrest
  obtain ⟨rs, hrs, hQ⟩ := hr m ((l.advanceAll cs).advance ' ') rest us cur hsep (by simpa using hrest)
  obtain ⟨ts, hts, hP⟩ := hl m l _ _ cur (separated_of_mark (by decide)) (.blank blank_space hrs)
  exact ⟨ts ++ rs, by simpa using hts, hR ts rs hP hQ⟩

/-! ## Words -/

/-- A quoted run: what is escaped in it is read as its literal text. -/
theorem scansQuoted_escape {body : QuotedBody} {cs : List Char} {cur : Cursor} :
    ∀ (w : List Char) (l : Location),
      ScansQuoted '"' cs (l.advanceAll (Word.escapeQuotedChars w)) body cur →
      ScansQuoted '"' (Word.escapeQuotedChars w ++ cs) l
        ⟨w ++ body.first, body.firstStop, body.more⟩ cur
  | [], _, h => h
  | c :: w, l, h => by
    simp only [Word.escapeQuotedChars] at h ⊢
    split at h
    · rename_i hc
      rw [if_pos hc]
      exact .escape (by decide) (scansQuoted_escape w _ h)
    · rename_i hc
      rw [if_neg hc]
      simp only [not_or] at hc
      exact .plain hc.2.1 hc.1 hc.2.2 (scansQuoted_escape w _ h)

/-- A text between double quotes, up to the closing one. -/
theorem scansQuoted_text (w rest : List Char) (l : Location) :
    ScansQuoted '"' (Word.escapeQuotedChars w ++ '"' :: rest) l
      ⟨w, l.advanceAll (Word.escapeQuotedChars w), []⟩
      ⟨rest, (l.advanceAll (Word.escapeQuotedChars w)).advance '"'⟩ := by
  have hclose : ScansQuoted '"' ('"' :: rest) (l.advanceAll (Word.escapeQuotedChars w))
      ⟨[], l.advanceAll (Word.escapeQuotedChars w), []⟩ ⟨rest, _⟩ := .close
  have hrun := scansQuoted_escape w l hclose
  simpa using hrun

theorem toList_quote (s : String) :
    (Word.quote s).toList = '"' :: Word.escapeQuotedChars s.toList ++ ['"'] := by
  simp [Word.quote, Word.escapeQuoted]

/-- The token of a text in double quotes. -/
theorem scans_quote {m : Mode} {l : Location} {rest : List Char} {us : List Token} {cur : Cursor}
    (s : String) (hrest : Scans m rest (l.advanceAll (Word.quote s).toList) us cur) :
    Scans m ((Word.quote s).toList ++ rest) l
      (.plain .string (some s) true ⟨l, l.advanceAll (Word.quote s).toList⟩ :: us) cur := by
  rw [toList_quote] at hrest ⊢
  have hrun := scansQuoted_text s.toList rest (l.advance '"')
  have hs := Scans.quoted (m := m) (by decide) hrun (by simpa using hrest)
  simpa [QuotedBody.token] using hs

/-- The token of a text that needs no quotes, where no character of it ends the scan. -/
theorem scans_bare {m : Mode} {l : Location} {rest : List Char} {us : List Token} {cur : Cursor}
    {s : String} (hb : Word.isBare s = true) (hstop : ∀ c ∈ s.toList, m.stopsAt c = false)
    (hsep : Separated m rest) (hrest : Scans m rest (l.advanceAll s.toList) us cur) :
    Scans m (s.toList ++ rest) l
      (.plain .string (some s) false ⟨l, l.advanceAll s.toList⟩ :: us) cur := by
  obtain ⟨cs, rfl⟩ : ∃ cs, s = String.ofList cs := ⟨s.toList, by simp⟩
  simp only [Word.isBare, String.toList_ofList] at hb hstop hrest ⊢
  cases cs with
  | nil => simp [Word.isBareChars] at hb
  | cons c w =>
    simp only [Word.isBareChars, Bool.and_eq_true, Bool.not_eq_true', List.all_eq_true] at hb
    have hall : ∀ d ∈ c :: w, m.isWordChar d = true := by
      intro d hd
      simp [Mode.isWordChar, hb.2 d hd, hstop d hd]
    exact .word hb.1 hall hsep hrest

theorem length_le_escapeQuotedChars (cs : List Char) :
    cs.length ≤ (Word.escapeQuotedChars cs).length := by
  induction cs with
  | nil => exact Nat.zero_le _
  | cons c cs ih =>
    simp only [Word.escapeQuotedChars]
    split <;> simp only [List.length_cons] <;> omega

theorem quote_ne (s : String) : Word.quote s ≠ s := by
  intro h
  have hlength := congrArg (fun t => t.toList.length) h
  have hle := length_le_escapeQuotedChars s.toList
  simp only [toList_quote, List.length_append, List.length_cons, List.length_nil] at hlength
  omega

/-- A word is written bare, or else in quotes and so not as it is. -/
theorem escape_cases (s : String) :
    (Word.escape s = s ∧ Word.isBare s = true ∧ '\x7d' ∉ s.toList) ∨
      (Word.escape s = Word.quote s ∧ Word.escape s ≠ s) := by
  unfold Word.escape
  split
  · rename_i h
    simp only [Bool.and_eq_true, Bool.not_eq_true', List.contains_eq_mem,
      decide_eq_false_iff_not] at h
    exact .inl ⟨rfl, h⟩
  · exact .inr ⟨rfl, quote_ne s⟩

/-- The token of a word is a string without pieces that has the text of the word.  It counts as quoted
where the word is not written as it is. -/
theorem scans_escape {m : Mode} {l : Location} {rest : List Char} {us : List Token} {cur : Cursor}
    (s : String) (hsep : Separated m rest)
    (hrest : Scans m rest (l.advanceAll (Word.escape s).toList) us cur) :
    Scans m ((Word.escape s).toList ++ rest) l
      (.plain .string (some s) (decide (Word.escape s ≠ s))
        ⟨l, l.advanceAll (Word.escape s).toList⟩ :: us) cur := by
  obtain ⟨heq, hb, hbrace⟩ | ⟨heq, hne⟩ := escape_cases s
  · rw [heq] at hrest ⊢
    have hstop : ∀ c ∈ s.toList, m.stopsAt c = false := by
      intro c hc
      refine stopsAt_eq_false ?_ m
      rintro rfl
      exact hbrace hc
    simpa using scans_bare hb hstop hsep hrest
  · rw [decide_eq_true hne]
    rw [heq] at hrest ⊢
    exact scans_quote s hrest

/-- A word yields one string token. -/
theorem yields_escape (s : String) :
    Yields (fun ts => ∃ quoted span, ts = [.plain .string (some s) quoted span])
      (Word.escape s).toList :=
  fun _ _ _ _ _ hsep hrest => ⟨[_], scans_escape s hsep hrest, _, _, rfl⟩

/-! ## After a `$` -/

theorem punctuation?_dollar (cs : List Char) : punctuation? ('$' :: cs) = some (.dollar, cs) := rfl

theorem punctuation?_paren (cs : List Char) :
    punctuation? ('(' :: cs) = some (.leftParen, cs) ∧
      punctuation? (')' :: cs) = some (.rightParen, cs) := ⟨rfl, rfl⟩

/-- The `$` of a variable and its name yield two tokens. -/
theorem yields_reference (name : String) :
    Yields (fun ts => ∃ span quoted span', ts = [.plain .dollar (some "$") false span,
        .plain .string (some name) quoted span'])
      ("$" ++ Word.escape name).toList := by
  intro m l rest us cur hsep hrest
  have hs := scans_escape (l := l.advance '$') name hsep (by simpa using hrest)
  have hs' := Scans.punctuation (l := l) (punctuation?_dollar _) (by simpa [Kind.symbol] using hs)
  exact ⟨[_, _], by simpa [Kind.symbol] using hs', _, _, _, rfl⟩

/-- Source text between `$(` and `)`. -/
theorem Yields.wrap {s : String} (h : Yields P s.toList)
    (hQ : ∀ ts sp sp' sp'', P ts → Q (.plain .dollar (some "$") false sp ::
      .plain .leftParen (some "(") false sp' :: (ts ++ [.plain .rightParen (some ")") false sp'']))) :
    Yields Q (Segment.wrap s).toList := by
  intro m l rest us cur _ hrest
  have hclose := Scans.punctuation (l := ((l.advance '$').advance '(').advanceAll s.toList)
    (punctuation?_paren rest).2 (by simpa [Segment.wrap, Kind.symbol] using hrest)
  obtain ⟨ts, hs, hP⟩ := h m ((l.advance '$').advance '(') _ _ cur
    (separated_of_mark (by decide)) hclose
  have hopen := Scans.punctuation (l := l.advance '$') (punctuation?_paren _).1
    (by simpa [Kind.symbol] using hs)
  have hdollar := Scans.punctuation (l := l) (punctuation?_dollar _)
    (by simpa [Kind.symbol] using hopen)
  exact ⟨_ :: _ :: (ts ++ [_]), by simpa [Segment.wrap, Kind.symbol] using hdollar, hQ ts _ _ _ hP⟩

/-! ## Strings with interpolations -/

/-- The source text between braces ends where they close. -/
theorem Yields.braces {cs : List Char} (h : Yields P cs) (l : Location) (rest : List Char) :
    ∃ ts, Scans .braces (cs ++ '\x7d' :: rest) l (ts ++ [endMark (l.advanceAll cs)])
      ⟨'\x7d' :: rest, l.advanceAll cs⟩ ∧ P ts :=
  h .braces l _ _ _ (separated_cons (by decide)) (.stop (by decide))

/-- The characters, up to a closing double quote behind them, yield a body that has the property. -/
def YieldsRun (B : QuotedBody → Prop) (cs : List Char) : Prop :=
  ∀ (l : Location) (rest : List Char), ∃ body,
    ScansQuoted '"' (cs ++ '"' :: rest) l body ⟨rest, (l.advanceAll cs).advance '"'⟩ ∧ B body

variable {B C : QuotedBody → Prop}

theorem yieldsRun_nil : YieldsRun (fun b => b.first = [] ∧ b.more = []) [] :=
  fun _ _ => ⟨_, .close, rfl, rfl⟩

/-- A text before the rest of a run. -/
theorem YieldsRun.text {cs : List Char} (h : YieldsRun B cs) (w : List Char)
    (hC : ∀ b, B b → C ⟨w ++ b.first, b.firstStop, b.more⟩) :
    YieldsRun C (Word.escapeQuotedChars w ++ cs) := by
  intro l rest
  obtain ⟨b, hrun, hB⟩ := h (l.advanceAll (Word.escapeQuotedChars w)) rest
  exact ⟨_, by simpa using scansQuoted_escape w l hrun, hC b hB⟩

/-- A line between braces before the rest of a run. -/
theorem YieldsRun.line {cs ds : List Char} (h : YieldsRun B ds) (hline : Yields P cs)
    (hC : ∀ ts b l l' sp sp', P ts → B b → C ⟨[], l,
      .compound .interpolation none false sp (ts ++ [endMark l']) ::
        .plain .string (some (String.ofList b.first)) false sp' :: b.more⟩) :
    YieldsRun C ('\x7b' :: cs ++ '\x7d' :: ds) := by
  intro l rest
  obtain ⟨b, hrun, hB⟩ := h (((l.advance '\x7b').advanceAll cs).advance '\x7d') rest
  obtain ⟨ts, hts, hP⟩ := hline.braces (l.advance '\x7b') (ds ++ '"' :: rest)
  have hs := ScansQuoted.interpolation (q := '"') (by decide) hts hrun
  exact ⟨_, by simpa using hs, hC ts b _ _ _ _ hP hB⟩

/-- A run between double quotes yields one string token. -/
theorem YieldsRun.token {cs : List Char} (h : YieldsRun B cs) :
    Yields (fun ts => ∃ b start inside stop, ts = [b.token start inside stop] ∧ B b)
      ('"' :: cs ++ ['"']) := by
  intro m l rest us cur _ hrest
  obtain ⟨b, hrun, hB⟩ := h (l.advance '"') rest
  have hs := Scans.quoted (m := m) (by decide) hrun (by simpa using hrest)
  exact ⟨[_], by simpa using hs, b, _, _, _, rfl, hB⟩

end CommandShell
