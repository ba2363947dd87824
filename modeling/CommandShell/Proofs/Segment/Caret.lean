import CommandShell.Proofs.Grammar.Viable
import CommandShell.Proofs.Text.Lines
import CommandShell.Proofs.Token.Mark
import CommandShell.Proofs.Token.Tiling

/-!
# The caret points at the error

An error of a line stands at a mark of it, whether a token cannot be read, a token is refused, or one
between the braces of a string is.  A mark is no blank, so it is in the row that is shown, and the caret
is right below it.

* `Parse.run_cons_error`       : where a run fails that goes on with a token;
* `Scans.run_error_isMark`     : tokens of a scan are refused at a mark;
* `Segment.ofLine_error_isMark` : so is a line;
* `Location.IsMark.exists_row` : the row of a mark, and its place in that row;
* `Segment.ofLine_error_caret` : the caret points at the error.
-/

namespace CommandShell

/-! ## Where tokens are refused -/

namespace Parse

variable {s : State} {last : Option Token} {t : Token} {ts : List Token} {e : SyntaxError}

/-- A run that goes on with a token fails at the token, further inside of it, or behind it. -/
theorem run_cons_error (h : run s last (t :: ts) = .error e) :
    e.span = t.span ∨ t.kind = .string ∧ value t = .error e ∨
      ∃ s', run s' (some t) ts = .error e := by
  rw [run] at h
  split at h
  · cases h
  cases hshift : s.shift t (value t) with
  | error e' =>
    rw [hshift] at h
    cases h
    exact (Grammar.shift_error hshift).imp Grammar.RefusesOther.place .inl
  | ok s' =>
    rw [hshift] at h
    exact .inr (.inr ⟨s', h⟩)

/-- A run without further tokens fails at the last one. -/
theorem run_nil_error (h : run s (some t) [] = .error e) : e.span = t.span := by
  rw [run] at h
  cases h
  simp only [State.stuck]
  split
  · rfl
  · rfl
  · rfl
  · split
    · rfl
    · rfl

theorem parts_cons_error {p : Token} {ps : List Token} (h : parts (p :: ps) = .error e) :
    part p = .error e ∨ parts ps = .error e := by
  rw [parts] at h
  cases hpart : part p with
  | error e' => rw [hpart] at h; cases h; exact .inl rfl
  | ok v =>
    cases hparts : parts ps with
    | error e' => rw [hpart, hparts] at h; cases h; exact .inr rfl
    | ok vs => rw [hpart, hparts] at h; cases h

/-- A quoted run is refused at one of its interpolations. -/
theorem value_token_error {body : Token.QuotedBody} {start inside stop : Location}
    (h : value (body.token start inside stop) = .error e) : parts body.more = .error e := by
  unfold Token.QuotedBody.token at h
  split at h
  · rw [value] at h
    cases h
  · rw [value] at h
    cases hparts : parts (.plain .string (some (String.ofList body.first)) false
        ⟨inside, body.firstStop⟩ :: body.more) with
    | ok ps => rw [hparts] at h; cases h
    | error e' =>
      rw [hparts] at h
      cases h
      obtain hpart | hmore := parts_cons_error hparts
      · rw [part] at hpart
        · cases hpart
        · simp
      · exact hmore

end Parse

namespace Token

open Parse

variable {src : List Char}

/-- A token that begins at a mark is refused at one, if this is so inside of it and behind it. -/
theorem cons_error_isMark {t : Token} {ts : List Token} (ht : t.span.start.IsMark src)
    (hvalue : ∀ e, value t = .error e → e.span.start.IsMark src)
    (hrest : ∀ s e, run s (some t) ts = .error e → e.span.start.IsMark src) {s : Parse.State}
    {last : Option Token} {e : SyntaxError} (h : run s last (t :: ts) = .error e) :
    e.span.start.IsMark src := by
  obtain hspan | ⟨-, hinside⟩ | ⟨s', hrun⟩ := run_cons_error h
  · rw [hspan]
    exact ht
  · exact hvalue e hinside
  · exact hrest s' e hrun

theorem value_plain_ne_error {k : Kind} {text : Option String} {q : Bool} {sp : Span}
    {e : SyntaxError} : value (.plain k text q sp) ≠ .error e := by
  rw [value]
  simp

theorem endMark_error_isMark {l : Location} (hl : l.IsMark src) {s : Parse.State}
    {last : Option Token} {e : SyntaxError} (h : run s last [endMark l] = .error e) :
    e.span.start.IsMark src := by
  refine cons_error_isMark ?_ ?_ ?_ h
  · exact hl
  · exact fun e he => absurd he value_plain_ne_error
  · intro s e he
    rw [run_nil_error he]
    exact hl

mutual

/-- **Tokens of a scan are refused at a mark.** -/
theorem Scans.run_error_isMark : ∀ {m : Mode} {cs : List Char} {l : Location} {ts : List Token}
    {cur : Cursor}, Scans m cs l ts cur → Remains src l cs → ∀ {s : Parse.State}
    {last : Option Token} {e : SyntaxError}, run s last ts = .error e → e.span.start.IsMark src
  | _, _, _, _, _, .blank _ hr, hrem, _, _, _, h => hr.run_error_isMark hrem.cons h
  | _, _, _, _, _, .finish, hrem, _, _, _, h => endMark_error_isMark ⟨[], hrem, by simp⟩ h
  | _, _, _, _, _, .stop hs, hrem, _, _, _, h =>
    endMark_error_isMark (hrem.isMark (stopsAt_not_blank hs)) h
  | _, _, _, _, _, .punctuation hp hr, hrem, _, _, _, h => by
    obtain ⟨c, rest, rfl, hc⟩ := punctuation?_eq_some hp
    have hmark := hrem.isMark (mark_not_blank c (by simp [hc])).1
    rw [punctuation?_eq_append hp] at hrem
    refine cons_error_isMark ?_ ?_ ?_ h
    · exact hmark
    · exact fun _ he => absurd he value_plain_ne_error
    · exact fun _ _ he => hr.run_error_isMark hrem.append he
  | _, _, _, _, _, .quoted (q := q) hq hrun hr, hrem, _, _, _, h => by
    have hmem : q ∈ Word.quotes := by simpa using hq
    have hmark := hrem.isMark (mark_not_blank q (List.mem_append_left _ hmem)).1
    refine cons_error_isMark ?_ ?_ ?_ h
    · rw [QuotedBody.token_span]
      exact hmark
    · exact fun _ he => hrun.parts_error_isMark hrem.cons (value_token_error he)
    · exact fun _ _ he => hr.run_error_isMark (hrun.remains hrem.cons) he
  | _, _, _, _, _, .word (c := c) hq hall hsep hr, hrem, _, _, _, h => by
    have hmark := hrem.isMark (isWordChar_not_blank (hall c (by simp)))
    refine cons_error_isMark ?_ ?_ ?_ h
    · exact hmark
    · exact fun _ he => absurd he value_plain_ne_error
    · exact fun _ _ he => hr.run_error_isMark hrem.append he

/-- A quoted run is refused at a mark. -/
theorem ScansQuoted.parts_error_isMark : ∀ {q : Char} {cs : List Char} {l : Location}
    {body : QuotedBody} {cur : Cursor}, ScansQuoted q cs l body cur → Remains src l cs →
    ∀ {e : SyntaxError}, parts body.more = .error e → e.span.start.IsMark src
  | _, _, _, _, _, .close, _, _, h => by
    rw [parts] at h
    cases h
  | _, _, _, _, _, .escape _ hr, hrem, _, h => hr.parts_error_isMark hrem.cons.cons h
  | _, _, _, _, _, .plain _ _ _ hr, hrem, _, h => hr.parts_error_isMark hrem.cons h
  | _, _, _, _, _, .interpolation _ hline hr, hrem, _, h => by
    obtain hinner | h := parts_cons_error h
    · rw [part] at hinner
      exact hline.run_error_isMark hrem.cons hinner
    obtain htext | h := parts_cons_error h
    · rw [part] at htext
      · cases htext
      · simp
    · exact hr.parts_error_isMark (hline.remains hrem.cons).cons h

end

end Token

/-- **An error of a line stands at a mark of it.** -/
theorem Segment.ofLine_error_isMark {line : String} {e : SyntaxError}
    (h : Segment.ofLine line = .error e) : e.span.start.IsMark line.toList := by
  unfold Segment.ofLine at h
  cases htokens : Token.ofLine line with
  | error e' =>
    rw [htokens] at h
    cases h
    exact Token.ofLine_error_isMark htokens
  | ok ts =>
    rw [htokens] at h
    obtain ⟨cur, hscan⟩ := Token.ofLine_eq_ok_iff.mp htokens
    exact hscan.run_error_isMark (.start _) h

/-! ## Rows -/

theorem ne_of_not_blank {c : Char} (h : Text.isBlank c = false) : c ≠ '\n' ∧ c ≠ '\r' := by
  have hfeed : Text.isBlank '\n' = true := by decide
  have hreturn : Text.isBlank '\r' = true := by decide
  constructor
  · rintro rfl
    rw [hfeed] at h
    cases h
  · rintro rfl
    rw [hreturn] at h
    cases h

/-- The column of a location counts from the last whole row before it, and its line counts the whole
rows. -/
theorem advanceAll_rows (before : List Char) :
    ∃ rows tail, before = rows ++ tail ∧ WholeRows '\n' rows ∧ '\n' ∉ tail ∧
      Location.start.advanceAll before =
        ⟨before.length, rows.count '\n' + 1, tail.length + 1⟩ := by
  -- The last character goes on with the row, or it ends it.
  induction before using List.reverseRecOn with
  | nil => exact ⟨[], [], rfl, .inl rfl, by simp, rfl⟩
  | append_singleton before c ih =>
    obtain ⟨rows, tail, rfl, hrows, htail, hloc⟩ := ih
    rw [Token.advanceAll_append, hloc]
    by_cases hc : c = '\n'
    · subst hc
      have hcount : (rows ++ tail ++ ['\n']).count '\n' = rows.count '\n' + 1 := by
        simp [List.count_append, List.count_eq_zero_of_not_mem htail]
      refine ⟨rows ++ tail ++ ['\n'], [], by simp, .inr ⟨_, rfl⟩, by simp, ?_⟩
      rw [hcount]
      simp [Location.advance, Nat.add_assoc]
    · refine ⟨rows, tail ++ [c], by simp, hrows, ?_, ?_⟩
      · simp [htail, Ne.symm hc]
      · simp [Location.advance, hc, Nat.add_assoc]

/-- The row that a location stands in, by what the source has before the row and behind it. -/
structure Location.InRow (l : Location) (before row rest : List Char) : Prop where
  isRow : IsRow '\n' '\r' before row rest
  offset_eq : l.offset + 1 = before.length + l.column
  column_pos : 0 < l.column
  column_le : l.column ≤ row.length + 1

/-- **The row of a mark** is the line with its number, or an empty row behind the last line; and the
character at the mark is in its column of the row. -/
theorem Location.IsMark.exists_row {src : List Char} {l : Location} (h : l.IsMark src) :
    ∃ before row rest, src = before ++ row ++ rest ∧ l.InRow before row rest ∧
      row[l.column - 1]? = src[l.offset]? ∧
      ((splitLines '\n' '\r' src)[l.line - 1]? = some row ∨
        row = [] ∧ rest = [] ∧ (splitLines '\n' '\r' src).length = l.line - 1) := by
  obtain ⟨cs, ⟨before, rfl, rfl⟩, hmark⟩ := h
  obtain ⟨rows, tail, rfl, hrows, htail, hloc⟩ := advanceAll_rows before
  obtain ⟨lines, hlength, hlines⟩ := splitLines_append '\r' hrows (tail ++ cs)
  rw [hloc, List.append_assoc, hlines]
  dsimp only
  by_cases hempty : tail ++ cs = []
  · obtain ⟨rfl, rfl⟩ := List.append_eq_nil_iff.mp hempty
    refine ⟨rows, [], [], by simp, ⟨⟨hrows, by simp, .atEnd⟩, by simp, by simp, by simp⟩, by simp, ?_⟩
    exact .inr ⟨rfl, rfl, by simp [splitLines, splitLinesFrom, hlength]⟩
  · obtain ⟨row, rest, more, hsplit, heq, hrow⟩ := splitLines_eq_cons '\n' '\r' hempty
    obtain ⟨extra, rfl, rfl, hend⟩ := hrow.ends.reaches htail (fun c cs' hc => ne_of_not_blank (hmark c cs' hc)) heq
    refine ⟨rows, tail ++ extra, rest, by simp, ⟨⟨hrows, hrow.noFeed, hrow.ends⟩, ?_, ?_, ?_⟩, ?_, ?_⟩
    · simp [Nat.add_assoc]
    · simp
    · simp
    · cases extra with
      | nil =>
        obtain rfl := hend rfl
        simp
      | cons c extra => simp
    · left
      simp [hsplit, hlength]

/-! ## The rows that are shown -/

theorem Caret.toList_render (source : String) (span : Span) (message : String) :
    (render source span message).toList =
      (sourceRow source span.start).toList ++ '\n' ::
        (List.replicate (span.start.column - 1) ' ' ++ '^' ::
          (List.replicate span.length '─' ++ "┘ ".toList ++ message.toList)) := by
  simp [render, markRow]

/-- The row that is shown is the line with that number, or empty behind the last line. -/
theorem Caret.sourceRow_eq {source : String} {l : Location} {row : List Char}
    (h : (Text.lines source)[l.line - 1]? = some (String.ofList row) ∨
      row = [] ∧ (Text.lines source).length = l.line - 1) :
    (sourceRow source l).toList = row := by
  obtain hline | ⟨rfl, hlength⟩ := h
  · rw [sourceRow, hline]
    simp
  · rw [sourceRow, List.getElem?_eq_none (by omega)]
    rfl

/-- **The caret points at the error.** Take a line that cannot be read, be it for a token that cannot be
read or for one that is refused, in the line itself or between braces.
* The place of the error is a location of the line, with its line and column counted exactly.
* What is shown begins with the row of that place, which is empty if it stands behind the last line; then
  come as many blanks as there are columns before the place, and the caret.
* The character above the caret is the one at that place, if there is one. -/
theorem Segment.ofLine_error_caret {line : String} {e : SyntaxError}
    (h : Segment.ofLine line = .error e) :
    e.span.start.IsIn line.toList ∧
    ∃ before row rest, line.toList = before ++ row ++ rest ∧ e.span.start.InRow before row rest ∧
      ((Text.lines line)[e.span.start.line - 1]? = some (String.ofList row) ∨
        row = [] ∧ rest = [] ∧ (Text.lines line).length = e.span.start.line - 1) ∧
      (e.render line).toList = row ++ '\n' ::
        (List.replicate (e.span.start.column - 1) ' ' ++ '^' ::
          (List.replicate e.span.length '─' ++ "┘ ".toList ++ e.message.toList)) ∧
      row[e.span.start.column - 1]? = line.toList[e.span.start.offset]? := by
  have hmark := Segment.ofLine_error_isMark h
  obtain ⟨before, row, rest, heq, hrow, habove, hlines⟩ := hmark.exists_row
  have hshown : (Text.lines line)[e.span.start.line - 1]? = some (String.ofList row) ∨
      row = [] ∧ rest = [] ∧ (Text.lines line).length = e.span.start.line - 1 := by
    rw [Text.lines, List.getElem?_map, List.length_map]
    exact hlines.imp_left fun hline => by rw [hline]; rfl
  refine ⟨?_, before, row, rest, heq, hrow, hshown, ?_, habove⟩
  · obtain ⟨cs, hremains, -⟩ := hmark
    exact hremains.isIn
  · have hfirst := Caret.sourceRow_eq (hshown.imp_right fun hend => ⟨hend.1, hend.2.2⟩)
    rw [SyntaxError.render, Caret.toList_render, hfirst]

/-- Two rows, the second one with a string whose interpolation ends behind a pipe. -/
def brokenRows : String := "echo 1;\r\n  echo \"\x7ba |\x7d\""

/-- The error of these rows, at the closing brace. -/
def brokenRowsError : SyntaxError := ⟨.expectedSegment .endOfInput, .point ⟨21, 2, 13⟩⟩

theorem ofLine_error_caret_rows :
    Segment.ofLine brokenRows = .error brokenRowsError ∧
      ∃ row note, (brokenRowsError.render brokenRows).toList =
          row ++ '\n' :: (List.replicate 12 ' ' ++ '^' :: note) ∧
        '\n' ∉ row ∧ row[12]? = some '\x7d' := by
  have herror : Segment.ofLine brokenRows = .error brokenRowsError := by decide +kernel
  obtain ⟨-, before, row, rest, -, hrow, -, hshown, habove⟩ := Segment.ofLine_error_caret herror
  exact ⟨herror, row, _, hshown, hrow.isRow.noFeed, habove⟩

end CommandShell
