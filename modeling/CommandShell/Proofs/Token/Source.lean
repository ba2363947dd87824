import CommandShell.Proofs.Segment.RoundTrip
import CommandShell.Proofs.Token.Tiling

/-!
# Source text of tokens

The source text of a token is read as the token again, in the mode that it was read in, and so is the
source text of a list of tokens with blanks between them.  The quotes of a string become double ones,
and what stands between its braces is written with single blanks; neither changes a token.

* `Rereads`         : the source text of a token is read as the token;
* `QuotedBody.Rereads` : the same for the body of a quoted run, between double quotes;
* `Scans.rereads`   : every token of a source has this property;
* `ofLine_toSource` : the tokens of a line are read from their source texts.
-/

namespace CommandShell.Token

/-- The source text of the token is read as the token in a mode, wherever it stands and whatever
detached source follows. -/
def Rereads (m : Mode) (t : Token) : Prop :=
  ∀ (l : Location) (rest : List Char) (us : List Token) (cur : Cursor), Detached m rest →
    Scans m rest (l.advanceAll t.toSource.toList) us cur →
    ∃ t', Scans m (t.toSource.toList ++ rest) l (t' :: us) cur ∧ t'.unplaced = t.unplaced

/-- The tokens end with their only end mark, and the source texts of the others are read as these. -/
def RereadsAll (m : Mode) (ts : List Token) : Prop :=
  ∃ inner l, ts = inner ++ [endMark l] ∧ Grammar.NoEndMark inner ∧ ∀ t ∈ inner, Rereads m t

/-- The source texts of tokens with blanks between them. -/
def joinedSource (ts : List Token) : List Char := (" ".intercalate (ts.map toSource)).toList

@[simp] theorem joinedSource_nil : joinedSource [] = [] := rfl

@[simp] theorem joinedSource_singleton (t : Token) : joinedSource [t] = t.toSource.toList := rfl

@[simp] theorem joinedSource_cons_cons (t u : Token) (ts : List Token) :
    joinedSource (t :: u :: ts) = t.toSource.toList ++ ' ' :: joinedSource (u :: ts) := by
  simp [joinedSource, String.intercalate_cons_cons]

/-! ## Lists of tokens -/

/-- The source texts of tokens are read as the tokens, with blanks between them. -/
theorem scans_joinedSource {m : Mode} {rest : List Char} {us : List Token} {cur : Cursor}
    (hrest : Detached m rest) :
    ∀ (ts : List Token) (l : Location), (∀ t ∈ ts, Rereads m t) →
      Scans m rest (l.advanceAll (joinedSource ts)) us cur →
      ∃ ts', Scans m (joinedSource ts ++ rest) l (ts' ++ us) cur ∧
        ts'.map unplaced = ts.map unplaced
  | [], _, _, hs => ⟨[], hs, rfl⟩
  | [t], l, hts, hs => by
    obtain ⟨t', hs', heq⟩ := hts t (by simp) l rest us cur hrest hs
    exact ⟨[t'], hs', by simp [heq]⟩
  | t :: u :: ts, l, hts, hs => by
    rw [joinedSource_cons_cons] at hs ⊢
    obtain ⟨ts', hs', heq⟩ := scans_joinedSource hrest (u :: ts)
      ((l.advanceAll t.toSource.toList).advance ' ') (fun v hv => hts v (by simp [hv]))
      (by simpa using hs)
    obtain ⟨t', hs'', heq'⟩ := hts t (by simp) l _ _ cur (detached_blank m _)
      (.blank blank_space hs')
    exact ⟨t' :: ts', by simpa using hs'', by simp [heq, heq']⟩

theorem innerSources_append_endMark {inner : List Token} (h : Grammar.NoEndMark inner)
    (l : Location) : innerSources (inner ++ [endMark l]) = inner.map toSource := by
  induction inner with
  | nil => simp [innerSources, endMark, kind]
  | cons t ts ih =>
    obtain ⟨ht, hts⟩ := Grammar.noEndMark_cons.mp h
    simp [innerSources, ht, ih hts]

/-! ## Quoted runs -/

/-- The characters of a body between double quotes. -/
def QuotedBody.source (b : QuotedBody) : List Char :=
  Word.escapeQuotedChars b.first ++ (piecesSource b.more).toList

/-- The characters of a body are read as the body, up to a closing double quote behind them. -/
def QuotedBody.Rereads (b : QuotedBody) : Prop :=
  ∀ (l : Location) (rest : List Char), ∃ b',
    ScansQuoted '"' (b.source ++ '"' :: rest) l b' ⟨rest, (l.advanceAll b.source).advance '"'⟩ ∧
      b'.first = b.first ∧ b'.more.map unplaced = b.more.map unplaced

theorem QuotedBody.toSource_token (b : QuotedBody) (start inside stop : Location) :
    (b.token start inside stop).toSource.toList = '"' :: b.source ++ ['"'] := by
  unfold QuotedBody.token QuotedBody.source
  split
  · rename_i hmore
    rw [List.isEmpty_iff.mp hmore]
    simp [toSource, piecesSource, Word.quote, Word.escapeQuoted]
  · simp [toSource, piecesSource, kind, literal, text, Word.escapeQuoted]

/-- The token of a body that is read again. -/
theorem QuotedBody.Rereads.token {b : QuotedBody} (h : b.Rereads) (m : Mode)
    (start inside stop : Location) : Token.Rereads m (b.token start inside stop) := by
  intro l rest us cur _ hs
  rw [QuotedBody.toSource_token] at hs ⊢
  obtain ⟨b', hrun, hfirst, hmore⟩ := h (l.advance '"') rest
  have hs' := Scans.quoted (m := m) (by decide) hrun (by simpa using hs)
  exact ⟨_, by simpa using hs', unplaced_token hfirst hmore ..⟩

theorem escapeQuotedChars_cons (c : Char) (cs : List Char) :
    Word.escapeQuotedChars (c :: cs) =
      Word.escapeQuotedChars [c] ++ Word.escapeQuotedChars cs := by
  simp only [Word.escapeQuotedChars]
  split <;> rfl

/-- A character more in the first literal text. -/
theorem QuotedBody.Rereads.char {b : QuotedBody} (h : b.Rereads) (c : Char) :
    QuotedBody.Rereads ⟨c :: b.first, b.firstStop, b.more⟩ := by
  intro l rest
  have hsource : QuotedBody.source ⟨c :: b.first, b.firstStop, b.more⟩ =
      Word.escapeQuotedChars [c] ++ b.source := by
    simp [QuotedBody.source, escapeQuotedChars_cons c b.first]
  obtain ⟨b', hrun, hfirst, hmore⟩ := h (l.advanceAll (Word.escapeQuotedChars [c])) rest
  have hrun' := scansQuoted_escape [c] l hrun
  rw [hsource, List.append_assoc, advanceAll_append]
  exact ⟨_, hrun', by simp [hfirst], hmore⟩

/-- A line between braces before the rest of a quoted run. -/
theorem QuotedBody.Rereads.interpolation {b : QuotedBody} {inner : List Token} (h : b.Rereads)
    (hline : RereadsAll .braces inner) (l : Location) (sp sp' : Span) :
    QuotedBody.Rereads ⟨[], l, .compound .interpolation none false sp inner ::
      .plain .string (some (String.ofList b.first)) false sp' :: b.more⟩ := by
  obtain ⟨ts, lm, rfl, hno, hts⟩ := hline
  intro l' rest
  have hsource : QuotedBody.source ⟨[], l,
      .compound .interpolation none false sp (ts ++ [endMark lm]) ::
        .plain .string (some (String.ofList b.first)) false sp' :: b.more⟩ =
      '\x7b' :: joinedSource ts ++ '\x7d' :: b.source := by
    simp [QuotedBody.source, joinedSource, piecesSource, toSource, kind, literal, text,
      Word.escapeQuotedChars, Word.escapeQuoted, innerSources_append_endMark hno]
  -- From the back: the rest of the run, then the line before its closing brace.
  obtain ⟨b', hrun, hfirst, hmore⟩ :=
    h (((l'.advance '\x7b').advanceAll (joinedSource ts)).advance '\x7d') rest
  obtain ⟨ts', hscan, heq⟩ := scans_joinedSource
    (detached_of_stopsAt (m := .braces) (c := '\x7d') (by decide) (b.source ++ '"' :: rest)) ts
    (l'.advance '\x7b') hts (.stop (by decide))
  have hall := ScansQuoted.interpolation (q := '"') (by decide) hscan hrun
  rw [hsource]
  simp only [List.cons_append, List.append_assoc, advanceAll_cons, advanceAll_append]
  exact ⟨_, hall, rfl, by simp [unplaced, hfirst, hmore, heq, endMark]⟩

/-! ## Tokens of a source -/

theorem rereads_punctuation {m : Mode} {cs after : List Char} {k : Kind}
    (h : punctuation? cs = some (k, after)) (sp : Span) :
    Rereads m (.plain k (some k.symbol) false sp) := by
  intro l rest us cur hrest hs
  have hsource : (Token.plain k (some k.symbol) false sp).toSource = k.symbol := by
    unfold punctuation? at h
    split at h <;> cases h <;> rfl
  rw [hsource] at hs ⊢
  have hnew : ∀ tail, rest = '>' :: tail → ∃ rest', after = '>' :: rest' :=
    fun tail heq => absurd heq (hrest.2 tail)
  exact ⟨_, .punctuation (punctuation?_followed h hnew) hs, rfl⟩

theorem rereads_word {m : Mode} {c : Char} {w : List Char} (hq : Word.quotes.contains c = false)
    (hall : ∀ d ∈ c :: w, m.isWordChar d = true) (sp : Span) :
    Rereads m (.plain .string (some (String.ofList (c :: w))) false sp) := by
  intro l rest us cur hrest hs
  have hsource : (Token.plain .string (some (String.ofList (c :: w))) false sp).toSource.toList =
      c :: w := by simp [toSource]
  rw [hsource] at hs ⊢
  exact ⟨_, .word hq hall hrest.1 hs, rfl⟩

theorem rereadsAll_endMark (m : Mode) (l : Location) : RereadsAll m [endMark l] :=
  ⟨[], l, rfl, by simp, by simp⟩

theorem RereadsAll.cons {m : Mode} {t : Token} {ts : List Token} (h : RereadsAll m ts)
    (ht : Rereads m t) (hk : t.kind ≠ .endOfInput) : RereadsAll m (t :: ts) := by
  obtain ⟨inner, l, rfl, hno, hall⟩ := h
  exact ⟨t :: inner, l, rfl, Grammar.noEndMark_cons.mpr ⟨hk, hno⟩,
    List.forall_mem_cons.mpr ⟨ht, hall⟩⟩

mutual

/-- **Every token of a source is read from its source text again.** -/
theorem Scans.rereads : ∀ {m : Mode} {cs : List Char} {l : Location} {ts : List Token}
    {cur : Cursor}, Scans m cs l ts cur → RereadsAll m ts
  | _, _, _, _, _, .blank _ hr => hr.rereads
  | m, _, l, _, _, .finish => rereadsAll_endMark m l
  | m, _, l, _, _, .stop _ => rereadsAll_endMark m l
  | _, _, _, _, _, .punctuation hp hr =>
    hr.rereads.cons (rereads_punctuation hp _) (punctuation?_kind hp)
  | m, _, _, _, _, .quoted _ hrun hr =>
    hr.rereads.cons (hrun.rereads.token m _ _ _) (by simp [QuotedBody.token_kind])
  | _, _, _, _, _, .word hq hall _ hr =>
    hr.rereads.cons (rereads_word hq hall _) (by simp [kind])

theorem ScansQuoted.rereads : ∀ {q : Char} {cs : List Char} {l : Location} {body : QuotedBody}
    {cur : Cursor}, ScansQuoted q cs l body cur → body.Rereads
  | _, _, _, _, _, .close => fun _ _ => ⟨_, .close, rfl, rfl⟩
  | _, _, _, _, _, .escape (d := d) _ hr => hr.rereads.char d
  | _, _, _, _, _, .interpolation _ hline hr => hr.rereads.interpolation hline.rereads _ _ _
  | _, _, _, _, _, .plain (c := c) _ _ _ hr => hr.rereads.char c

end

/-- The end mark has an empty source text, so a blank stands behind the last token. -/
theorem joinedSource_append_endMark (t : Token) (ts : List Token) (l : Location) :
    joinedSource (t :: ts ++ [endMark l]) = joinedSource (t :: ts) ++ [' '] := by
  have hsource : ((t :: ts) ++ [endMark l]).map toSource = (t :: ts).map toSource ++ [""] := by
    simp [endMark, toSource, Kind.symbol]
  rw [joinedSource, hsource, String.intercalate_append_of_ne_nil (by simp) (by simp)]
  simp [joinedSource]

/-- **The tokens of a line are read from their source texts with single blanks between them**, up to
the places where they stand. -/
theorem ofLine_toSource {line : String} {ts : List Token} (h : ofLine line = .ok ts) :
    ∃ ts', ofLine (" ".intercalate (ts.map toSource)) = .ok ts' ∧
      ts'.map unplaced = ts.map unplaced := by
  obtain ⟨cur, hscan⟩ := ofLine_eq_ok_iff.mp h
  obtain ⟨inner, l, rfl, -, hall⟩ := hscan.rereads
  cases inner with
  | nil => exact ⟨_, ofLine_eq_ok_iff.mpr ⟨_, .finish⟩, rfl⟩
  | cons t inner =>
    have hdetached : Detached .line [' '] := detached_blank .line []
    obtain ⟨ts', hs, heq⟩ := scans_joinedSource hdetached (t :: inner) .start hall
      (.blank blank_space .finish)
    rw [← joinedSource_append_endMark t inner l] at hs
    exact ⟨_, ofLine_eq_ok_iff.mpr ⟨_, hs⟩, by simp [heq, endMark, unplaced]⟩

/-- A word with a brace in it, and a string in single quotes with a string between its braces. -/
theorem ofLine_toSource_nested :
    let line := "x\x7d>'\"\x7by '\x7bz\x7d'\x7d'"
    let ts : List Token :=
      [.plain .string (some "x\x7d") false ⟨⟨0, 1, 1⟩, ⟨2, 1, 3⟩⟩,
        .plain .rightAngle (some ">") false ⟨⟨2, 1, 3⟩, ⟨3, 1, 4⟩⟩,
        .compound .string none true ⟨⟨3, 1, 4⟩, ⟨15, 1, 16⟩⟩
          [.plain .string (some "\"") false ⟨⟨4, 1, 5⟩, ⟨5, 1, 6⟩⟩,
            .compound .interpolation none false ⟨⟨5, 1, 6⟩, ⟨14, 1, 15⟩⟩
              [.plain .string (some "y") false ⟨⟨6, 1, 7⟩, ⟨7, 1, 8⟩⟩,
                .compound .string none true ⟨⟨8, 1, 9⟩, ⟨13, 1, 14⟩⟩
                  [.plain .string (some "") false ⟨⟨9, 1, 10⟩, ⟨9, 1, 10⟩⟩,
                    .compound .interpolation none false ⟨⟨9, 1, 10⟩, ⟨12, 1, 13⟩⟩
                      [.plain .string (some "z") false ⟨⟨10, 1, 11⟩, ⟨11, 1, 12⟩⟩,
                        endMark ⟨11, 1, 12⟩],
                    .plain .string (some "") false ⟨⟨12, 1, 13⟩, ⟨12, 1, 13⟩⟩],
                endMark ⟨13, 1, 14⟩],
            .plain .string (some "") false ⟨⟨14, 1, 15⟩, ⟨14, 1, 15⟩⟩],
        endMark ⟨15, 1, 16⟩]
    ofLine line = .ok ts ∧
      " ".intercalate (ts.map toSource) = "x\x7d > \"\\\"\x7by \"\x7bz\x7d\"\x7d\" " ∧
      ∃ ts', ofLine (" ".intercalate (ts.map toSource)) = .ok ts' ∧
        ts'.map unplaced = ts.map unplaced := by
  intro line ts
  have hz : Scans .braces ['z', '\x7d', '\'', '\x7d', '\''] ⟨10, 1, 11⟩
      [.plain .string (some "z") false ⟨⟨10, 1, 11⟩, ⟨11, 1, 12⟩⟩, endMark ⟨11, 1, 12⟩]
      ⟨['\x7d', '\'', '\x7d', '\''], ⟨11, 1, 12⟩⟩ :=
    .word (w := []) (by decide) (List.forall_mem_singleton.mpr (by decide))
      (separated_cons (by decide)) (.stop (by decide))
  have hinner := ScansQuoted.interpolation (q := '\'') (l := ⟨9, 1, 10⟩) (by decide) hz .close
  have hstring := Scans.quoted (m := .braces) (l := ⟨8, 1, 9⟩) (by decide) hinner
    (.stop (by decide))
  have hy : Scans .braces ['y', ' ', '\'', '\x7b', 'z', '\x7d', '\'', '\x7d', '\''] ⟨6, 1, 7⟩ _ _ :=
    .word (w := []) (by decide) (List.forall_mem_singleton.mpr (by decide))
      (separated_cons (by decide)) (.blank (by decide) hstring)
  have hrun := ScansQuoted.plain (q := '\'') (c := '"') (l := ⟨4, 1, 5⟩) (by decide) (by decide)
    (by decide) (.interpolation (by decide) hy .close)
  have hquoted := Scans.quoted (m := .line) (l := ⟨3, 1, 4⟩) (by decide) hrun .finish
  have hscan : Scans .line ['x', '\x7d', '>', '\'', '"', '\x7b', 'y', ' ', '\'', '\x7b', 'z', '\x7d',
      '\'', '\x7d', '\''] .start ts ⟨[], ⟨15, 1, 16⟩⟩ :=
    .word (w := ['\x7d']) (by decide)
      (List.forall_mem_cons.mpr ⟨by decide, List.forall_mem_singleton.mpr (by decide)⟩)
      (separated_cons (by decide)) (.punctuation (k := .rightAngle) rfl hquoted)
  have h : ofLine line = .ok ts := ofLine_eq_ok_iff.mpr ⟨_, by simpa [line] using hscan⟩
  exact ⟨h, by decide +kernel, ofLine_toSource h⟩

end CommandShell.Token
