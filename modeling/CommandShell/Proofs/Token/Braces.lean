import CommandShell.Proofs.Segment.Shape
import CommandShell.Proofs.Token.Translation

/-!
# Lines between braces

What stands between the braces of a string is read as a line of its own: the scan that stops at the
closing brace and a scan of nothing but the text before it read the same tokens.  The two differ only
in a word that holds a closing brace, which ends the first scan.

* `BraceFree`         : no word without quotes holds a closing brace;
* `Scans.inLine`      : a scan between braces that takes a whole source is a scan of a line;
* `Scans.inBraces`    : a scan of a line is one between braces if its words are free of them;
* `ofLine_braced_iff` : the tree of a string with nothing but a line between braces;
* `ofBraces_ofLine`   : the two modes agree.
-/

namespace CommandShell

namespace Token

/-- No word without quotes among the tokens holds a closing brace. -/
def BraceFree (ts : List Token) : Prop :=
  ∀ t ∈ ts, t.kind = .string → t.quoted = false → '\x7d' ∉ t.literal.toList

theorem BraceFree.tail {t : Token} {ts : List Token} (h : BraceFree (t :: ts)) : BraceFree ts :=
  fun u hu => h u (List.mem_cons_of_mem t hu)

theorem isWordChar_line (c : Char) : Mode.line.isWordChar c = Word.isWordChar c := by
  simp [Mode.isWordChar, Mode.stopsAt]

theorem isWordChar_line_of {m : Mode} {c : Char} (h : m.isWordChar c = true) :
    Mode.line.isWordChar c = true := by
  rw [isWordChar_line]
  simp only [Mode.isWordChar, Bool.and_eq_true] at h
  exact h.1

/-! ## Changing the mode -/

/-- What goes on with a word in a line but not in another mode stops the scan. -/
theorem separated_line {m : Mode} {cs : List Char} {l : Location} {ts : List Token} {cur : Cursor}
    (hsep : Separated m cs) (h : Scans m cs l ts cur) (hcur : cur.rest = []) :
    Separated .line cs := by
  intro c rest heq
  subst heq
  cases hword : Mode.line.isWordChar c with
  | false => rfl
  | true =>
    have hno := hsep c rest rfl
    rw [isWordChar_line] at hword
    have hstop : m.stopsAt c = true := by simpa [Mode.isWordChar, hword] using hno
    rw [(h.unique (.stop hstop)).2] at hcur
    cases hcur

/-- A scan that takes a whole source is a scan of a line. -/
theorem Scans.inLine : ∀ {m : Mode} {cs : List Char} {l : Location} {ts : List Token}
    {cur : Cursor}, Scans m cs l ts cur → cur.rest = [] → Scans .line cs l ts cur
  | _, _, _, _, _, .blank hb hr, h => .blank hb (hr.inLine h)
  | _, _, _, _, _, .finish, _ => .finish
  | _, _, _, _, _, .punctuation hp hr, h => .punctuation hp (hr.inLine h)
  | _, _, _, _, _, .quoted hq hrun hr, h => .quoted hq hrun (hr.inLine h)
  | _, _, _, _, _, .word hq hall hsep hr, h =>
    .word hq (fun d hd => isWordChar_line_of (hall d hd)) (separated_line hsep hr h) (hr.inLine h)

/-- A scan of a line is one between braces if no word holds a closing brace. -/
theorem Scans.inBraces {cs : List Char} {l : Location} {ts : List Token} {cur : Cursor}
    (h : Scans .line cs l ts cur) (hfree : BraceFree ts) : Scans .braces cs l ts cur := by
  match h with
  | .blank hb hr => exact .blank hb (hr.inBraces hfree)
  | .finish => exact .finish
  | .punctuation hp hr => exact .punctuation hp (hr.inBraces hfree.tail)
  | .quoted hq hrun hr => exact .quoted hq hrun (hr.inBraces hfree.tail)
  | .word (c := c) (w := w) hq hall hsep hr =>
    have hno : '\x7d' ∉ c :: w := by
      have := hfree _ List.mem_cons_self rfl rfl
      simpa [literal, text] using this
    refine .word hq (fun d hd => ?_) (fun d rest heq => ?_) (hr.inBraces hfree.tail)
    · have hd' := hall d hd
      rw [isWordChar_line] at hd'
      have hne : d ≠ '\x7d' := by rintro rfl; exact hno hd
      simp [Mode.isWordChar, hd', stopsAt_eq_false hne]
    · have hd' := hsep d rest heq
      rw [isWordChar_line] at hd'
      simp [Mode.isWordChar, hd']

theorem ofBraces_eq_ok_iff {cur stop : Cursor} {ts : List Token} :
    ofBraces cur = .ok (ts, stop) ↔ Scans .braces cur.rest cur.loc ts stop := by
  simp only [← scanned_eq_ok_iff, ofBraces, scanned]
  cases scan .braces cur.rest cur.loc with
  | error e => simp [Except.map]
  | ok r => simp [Except.map]

/-- A scan of a whole line goes to its end. -/
theorem Scans.atEnd {line : List Char} {l : Location} {ts : List Token} {cur : Cursor}
    (h : Scans .line line l ts cur) : cur = ⟨[], l.advanceAll line⟩ := by
  obtain ⟨used, rfl, hloc⟩ := h.consumes
  obtain ⟨rest, loc⟩ := cur
  cases rest with
  | nil => simpa using hloc
  | cons d after => cases h.stopsAt rfl

/-! ## The two directions -/

/-- What is read between braces is read from nothing but the text there. -/
theorem Scans.ofBraces {src : List Char} {start : Location} {ts : List Token} {stop : Cursor}
    (h : Scans .braces (src.drop start.offset) start ts stop) :
    ∃ us, Scans .line (Span.chars ⟨start, stop.loc⟩ src) .start us
        ⟨[], Location.start.advanceAll (Span.chars ⟨start, stop.loc⟩ src)⟩ ∧
      ts = us.map (Token.shift start) := by
  obtain ⟨used, hused, hbefore⟩ := h.before
  have hchars : Span.chars ⟨start, stop.loc⟩ src = used := by
    obtain ⟨used', hused', hloc⟩ := h.consumes
    obtain rfl : used' = used := List.append_cancel_right (hused'.symm.trans hused)
    rw [Span.chars, hloc, offset_advanceAll, List.drop_take, Nat.add_sub_cancel_left, hused,
      List.take_left]
  have hscan := hbefore [] (endsScan_nil _)
  rw [List.append_nil] at hscan
  rw [hchars]
  exact (hscan.inLine rfl).unshift

/-- A line is read between braces, wherever they stand. -/
theorem Scans.toBraces {line : List Char} {ts : List Token} {cur : Cursor}
    (h : Scans .line line .start ts cur) (hfree : BraceFree ts) (start : Location)
    (rest : List Char) :
    Scans .braces (line ++ '\x7d' :: rest) start (ts.map (Token.shift start))
      ⟨'\x7d' :: rest, start.advanceAll line⟩ := by
  obtain rfl := h.atEnd
  obtain ⟨used, hused, hbefore⟩ := (h.inBraces hfree).before
  obtain rfl : used = line := by simpa using hused.symm
  have hends : EndsScan .braces ('\x7d' :: rest) := endsScan_cons (by decide) rest
  have hscan := (hbefore _ hends).shift start Location.counted_start
  rwa [Location.shift_start, Location.shift_advanceAll start Location.counted_start,
    Location.shift_start] at hscan

end Token

namespace Grammar

open Token

/-- What a list of tokens is accepted as does not hang on their places. -/
theorem Accepts.of_unplaced {ts us : List Token} {t : Segment} (h : Accepts us t)
    (heq : ts.map unplaced = us.map unplaced) : Accepts ts t := by
  obtain ⟨before, mark, after, rfl, hmark, hno, hd⟩ := h
  obtain ⟨before', ms, rfl, hbefore, hms⟩ := append_of_unplaced heq
  obtain ⟨mark', after', rfl, hmark', -⟩ := cons_of_unplaced hms
  exact ⟨before', mark', after', rfl, (kind_of_unplaced hmark').trans hmark,
    noEndMark_of_unplaced hbefore hno, hd.of_unplaced before' hbefore⟩

/-- Only a string with pieces is a line that has the tree of a string. -/
theorem Derives.word_of_line {tok : Token} {ss : List Segment}
    (h : Derives .line [tok] (.interpolation ss)) : Derives .word [tok] (.interpolation ss) := by
  generalize hts : [tok] = ts at h
  cases h with
  | single h =>
    cases h with
    | operand h =>
      cases h with
      | string _ hword => exact hword
      | command h => cases h
      | reference h => cases h

/-- A string with an interpolation between two texts is a line exactly if its interpolation holds
one. -/
theorem accepts_string_iff {first last : String} {q q' q'' q₃ : Bool} {sp sp' sp'' sp₃ : Span}
    {text text' : Option String} {inner : List Token} {l : Location} {t : Segment} :
    Accepts [.compound .string text q sp
        [.plain .string (some first) q' sp', .compound .interpolation text' q'' sp'' inner,
          .plain .string (some last) q₃ sp₃], endMark l]
      (.interpolation [.text first, t, .text last]) ↔ Accepts inner t := by
  constructor
  · rintro ⟨before, mark, after, hsplit, hmark, hno, hd⟩
    have hbefore := before_endMark_unique (m := endMark l) (show [_] ++ _ = _ from hsplit) rfl hmark
      (by simp [kind]) hno
    rw [← hbefore] at hd
    obtain ⟨tok, htok, -, ⟨hnone, -⟩ | ⟨ps, ss, hps, hss, hpieces⟩⟩ := hd.word_of_line.word_cases
    · cases htok; cases hnone
    · cases htok
      cases hps
      cases hss
      cases hpieces with
      | linePiece hk => cases hk
      | textPiece _ hrest =>
        cases hrest with
        | textPiece hk => exact absurd rfl hk
        | linePiece _ hinner hmark' hno' hline _ =>
          cases hinner
          exact ⟨_, _, _, rfl, hmark', hno', hline⟩
  · rintro ⟨before, mark, after, rfl, hmark, hno, hd⟩
    have hlast : Derives .pieces [.plain .string (some last) q₃ sp₃]
        (.interpolation [.text last]) := .textPiece (by simp [kind]) .noPieces
    have hline : Derives .pieces [.compound .interpolation text' q'' sp''
          (before ++ mark :: after), .plain .string (some last) q₃ sp₃]
        (.interpolation [t, .text last]) := .linePiece rfl rfl hmark hno hd hlast
    have hword : Derives .word [_] _ :=
      .interpolation (t := .compound .string text q sp _) rfl rfl
        (.textPiece (p := .plain .string (some first) q' sp') (by simp [kind]) hline)
    exact ⟨[_], endMark l, [], rfl, rfl, by simp [kind],
      .single (.operand (.string rfl hword))⟩

end Grammar

open Grammar Token

/-- **A string with nothing but a line between braces is a line that has the tree of the line as its
only part**, apart from the empty texts around it. -/
theorem ofLine_braced_iff {line : String} {ts : List Token} (h : Token.ofLine line = .ok ts)
    (hfree : BraceFree ts) (t : Segment) :
    Segment.ofLine ("\"\x7b" ++ line ++ "\x7d\"") = .ok (.interpolation [.text "", t, .text ""]) ↔
      Segment.ofLine line = .ok t := by
  obtain ⟨cur, hscan⟩ := ofLine_eq_ok_iff.mp h
  have hbraces := hscan.toBraces hfree ((Location.start.advance '"').advance '\x7b') ['"']
  have hrun := ScansQuoted.interpolation (q := '"') (by decide) hbraces .close
  have hstring := Scans.quoted (m := .line) (by decide) hrun .finish
  have hline : ("\"\x7b" ++ line ++ "\x7d\"").toList =
      '"' :: '\x7b' :: (line.toList ++ ['\x7d', '"']) := by simp
  rw [← hline] at hstring
  rw [ofLine_accepts_iff, ofLine_accepts_iff]
  constructor
  · rintro ⟨us, cur', hscan', haccepts⟩
    obtain ⟨rfl, -⟩ := hstring.unique hscan'
    have hinner := accepts_string_iff.mp haccepts
    exact ⟨ts, cur, hscan, hinner.of_unplaced (unplaced_shiftAll _ ts).symm⟩
  · rintro ⟨us, cur', hscan', haccepts⟩
    obtain ⟨rfl, -⟩ := hscan.unique hscan'
    exact ⟨_, _, hstring, accepts_string_iff.mpr (haccepts.of_unplaced (unplaced_shiftAll _ ts))⟩

/-- **The two modes of a scan agree.**  What is read between braces is read from nothing but the text
there, with every location moved by the place where that begins.  A line that has no closing brace in
a word without quotes is read between braces, wherever they stand and whatever follows, up to the
closing one; so it is the only part of a string exactly if it is a line. -/
theorem ofBraces_ofLine :
    (∀ (src : List Char) (start : Location) (tokens : List Token) (stop : Cursor),
      ofBraces ⟨src.drop start.offset, start⟩ = .ok (tokens, stop) →
      ∃ ts, Token.ofLine (String.ofList (Span.chars ⟨start, stop.loc⟩ src)) = .ok ts ∧
        tokens = ts.map (Token.shift start)) ∧
    ∀ (line : String) (ts : List Token), Token.ofLine line = .ok ts → BraceFree ts →
      (∀ (src rest : List Char) (start : Location),
        src.drop start.offset = line.toList ++ '\x7d' :: rest →
        ofBraces ⟨src.drop start.offset, start⟩ =
          .ok (ts.map (Token.shift start), ⟨'\x7d' :: rest, start.advanceAll line.toList⟩)) ∧
      ∀ t, Segment.ofLine ("\"\x7b" ++ line ++ "\x7d\"") =
          .ok (.interpolation [.text "", t, .text ""]) ↔ Segment.ofLine line = .ok t := by
  refine ⟨fun src start tokens stop h => ?_, fun line ts h hfree => ⟨?_, ofLine_braced_iff h hfree⟩⟩
  · obtain ⟨us, hscan, heq⟩ := Scans.ofBraces (ofBraces_eq_ok_iff.mp h)
    exact ⟨us, ofLine_eq_ok_iff.mpr ⟨_, by simpa using hscan⟩, heq⟩
  · intro src rest start hsrc
    obtain ⟨cur, hscan⟩ := ofLine_eq_ok_iff.mp h
    rw [ofBraces_eq_ok_iff, hsrc]
    exact hscan.toBraces hfree start rest

/-- A line over two rows, with a quoted brace in it, behind the opening of a string. -/
theorem ofBraces_ofLine_rows :
    let line := "a\n'\x7d'>b"
    let a : Token := .plain .string (some "a") false ⟨⟨0, 1, 1⟩, ⟨1, 1, 2⟩⟩
    let brace : Token := .plain .string (some "\x7d") true ⟨⟨2, 2, 1⟩, ⟨5, 2, 4⟩⟩
    let angle : Token := .plain .rightAngle (some ">") false ⟨⟨5, 2, 4⟩, ⟨6, 2, 5⟩⟩
    let b : Token := .plain .string (some "b") false ⟨⟨6, 2, 5⟩, ⟨7, 2, 6⟩⟩
    let ts := [a, brace, angle, b, endMark ⟨7, 2, 6⟩]
    let src := ("\"\x7b" ++ line ++ "\x7d>\"").toList
    let start : Location := ⟨2, 1, 3⟩
    let stop : Cursor := ⟨['\x7d', '>', '"'], ⟨9, 2, 6⟩⟩
    let t : Segment := .redirect (.command (.text "a") [.text "\x7d"]) (.text "b") .stdOut
    (Token.ofLine line = .ok ts ∧ BraceFree ts) ∧
      ofBraces ⟨src.drop start.offset, start⟩ = .ok (ts.map (Token.shift start), stop) ∧
      (∃ us, Token.ofLine (String.ofList (Span.chars ⟨start, stop.loc⟩ src)) = .ok us ∧
        ts.map (Token.shift start) = us.map (Token.shift start)) ∧
      Segment.ofLine ("\"\x7b" ++ line ++ "\x7d\"") =
        .ok (.interpolation [.text "", t, .text ""]) := by
  intro line a brace angle b ts src start stop t
  have hredirect : Scans .line ['>', 'b'] ⟨5, 2, 4⟩ _ ⟨[], ⟨7, 2, 6⟩⟩ :=
    .punctuation (k := .rightAngle) rfl (.word (w := []) (by decide)
      (List.forall_mem_singleton.mpr (by decide)) (separated_nil _) .finish)
  have hquoted := Scans.quoted (m := .line) (q := '\'') (l := ⟨2, 2, 1⟩) (by decide)
    (.plain (c := '\x7d') (by decide) (by decide) (by decide) .close) hredirect
  have hscan : Scans .line ['a', '\n', '\'', '\x7d', '\'', '>', 'b'] .start ts ⟨[], ⟨7, 2, 6⟩⟩ :=
    .word (w := []) (by decide) (List.forall_mem_singleton.mpr (by decide))
      (separated_cons (by decide)) (.blank (by decide) hquoted)
  have hline : Token.ofLine line = .ok ts := ofLine_eq_ok_iff.mpr ⟨_, by simpa [line] using hscan⟩
  have hfree : BraceFree ts := by
    simp [ts, a, brace, angle, b, BraceFree, kind, quoted, literal, text, endMark]
  have hcall : Derives .call ([a] ++ [brace]) (.command (.text "a") [.text "\x7d"]) :=
    .firstArgument (.text rfl rfl) (.valueWord (.text rfl rfl))
  have hderives : Derives .line ([a, brace] ++ angle :: [b]) t :=
    .single (.redirect .stdOut (.operand (.command hcall)) rfl (.valueWord (.text rfl rfl)))
  have htree : Segment.ofLine line = .ok t :=
    ofLine_of_scans (l := ⟨7, 2, 6⟩) (by simpa [line, ts] using hscan) hderives
  obtain ⟨hmoved, hstring⟩ := ofBraces_ofLine.2 line ts hline hfree
  have hbraces := hmoved src ['>', '"'] start (by simp [src, line, start])
  have hstop : start.advanceAll line.toList = ⟨9, 2, 6⟩ := by decide
  rw [hstop] at hbraces
  exact ⟨⟨hline, hfree⟩, hbraces, ofBraces_ofLine.1 _ _ _ _ hbraces, (hstring t).mpr htree⟩

end CommandShell
