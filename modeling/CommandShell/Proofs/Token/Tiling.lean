import CommandShell.Proofs.Segment.Shape
import CommandShell.Proofs.Token.Location

/-!
# Tokens tile their source

The tokens of a line stand one behind the other with nothing but blanks between them, each on the
characters that it was read from, and so do the tokens between the braces of a string.

* `Layout`        : where the tokens of a stretch stand;
* `Tiles`         : tokens fill a stretch of a source, with an end mark at its end;
* `Faithful`      : what a token says of the characters under it;
* `Pieces`        : the pieces of a string follow each other without a gap;
* `Scans.tiles`   : what a scan reads tiles what it has gone through;
* `ofLine_tiles`  : the tokens of a line tile it.
-/

namespace CommandShell

/-- An offset inside of a stretch. -/
def Span.covers (sp : Span) (i : Nat) : Prop := sp.start.offset ≤ i ∧ i < sp.stop.offset

/-- Characters that begin and end with the same quote. -/
def InQuotes (cs : List Char) : Prop := ∃ q body, q ∈ Word.quotes ∧ cs = q :: body ++ [q]

namespace Token

/-- Where tokens stand between the offsets `a` and `b` of a source. -/
structure Layout (src : List Char) (a b : Nat) (ts : List Token) : Prop where
  le : a ≤ b
  /-- None of them is an end mark. -/
  noMark : ∀ t ∈ ts, t.kind ≠ .endOfInput
  /-- Each stands on at least one character. -/
  filled : ∀ t ∈ ts, t.span.start.offset < t.span.stop.offset
  within : ∀ t ∈ ts, a ≤ t.span.start.offset ∧ t.span.stop.offset ≤ b
  /-- Each ends before the next ones begin. -/
  ordered : ts.Pairwise fun t u => t.span.stop.offset ≤ u.span.start.offset
  /-- All characters outside of them are blank. -/
  blank : ∀ i, a ≤ i → i < b → (∀ t ∈ ts, ¬t.span.covers i) →
    ∃ c, src[i]? = some c ∧ Text.isBlank c = true

mutual

/-- The tokens fill the stretch of a source between two offsets: an end mark, which is the only one,
stands at its end, and the tokens before it say of the characters under them what is there. -/
inductive Tiles (src : List Char) : Nat → Nat → List Token → Prop
  | intro {a : Nat} {ts : List Token} {stop : Location} (place : stop.IsIn src)
    (layout : Layout src a stop.offset ts) (faithful : ∀ t ∈ ts, Faithful src t) :
    Tiles src a stop.offset (ts ++ [endMark stop])

/-- What a token says of the characters under it.  All but the tokens that are made of pieces have a
text. -/
inductive Faithful (src : List Char) : Token → Prop
  /-- The text of a word without quotes is what stands there. -/
  | word {text : String} {sp : Span} (span : sp.IsIn src) (chars : sp.chars src = text.toList) :
    Faithful src (.plain .string (some text) false sp)
  /-- The text of punctuation is what stands there. -/
  | punctuation {k : Kind} {sp : Span} (span : sp.IsIn src)
    (chars : sp.chars src = k.symbol.toList) : Faithful src (.plain k (some k.symbol) false sp)
  | quoted {text : String} {sp : Span} (span : sp.IsIn src) (quotes : InQuotes (sp.chars src)) :
    Faithful src (.plain .string (some text) true sp)
  /-- The pieces of a string fill it from its opening to its closing quote. -/
  | compound {sp : Span} {ps : List Token} (span : sp.IsIn src) (quotes : InQuotes (sp.chars src))
    (length : 3 ≤ ps.length) (odd : ps.length % 2 = 1)
    (pieces : Pieces src true (sp.start.offset + 1) (sp.stop.offset - 1) ps) :
    Faithful src (.compound .string none true sp ps)

/-- Texts and interpolations by turns, a text if `literal` and a text last, fill the stretch of a source
between two offsets without a gap. -/
inductive Pieces (src : List Char) : Bool → Nat → Nat → List Token → Prop
  | nil {a : Nat} : Pieces src false a a []
  | text {b : Nat} {text : String} {sp : Span} {ps : List Token} (span : sp.IsIn src)
    (rest : Pieces src false sp.stop.offset b ps) :
    Pieces src true sp.start.offset b (.plain .string (some text) false sp :: ps)
  /-- An interpolation stands between braces, and its tokens fill what is between them. -/
  | line {b : Nat} {sp : Span} {inner ps : List Token} (span : sp.IsIn src)
    (opening : src[sp.start.offset]? = some '\x7b')
    (closing : src[sp.stop.offset - 1]? = some '\x7d')
    (tokens : Tiles src (sp.start.offset + 1) (sp.stop.offset - 1) inner)
    (rest : Pieces src true sp.stop.offset b ps) :
    Pieces src false sp.start.offset b (.compound .interpolation none false sp inner :: ps)

end

/-! ## One token more -/

theorem tiles_endMark {src cs : List Char} {l : Location} (h : Remains src l cs) :
    Tiles src l.offset l.offset [endMark l] := by
  have hlayout : Layout src l.offset l.offset [] := by
    refine ⟨Nat.le_refl _, by simp, by simp, by simp, .nil, ?_⟩
    intro i hi hi'
    omega
  exact @Tiles.intro src l.offset [] l h.isIn hlayout (by simp)

theorem Tiles.blank {src : List Char} {a b : Nat} {c : Char} {ts : List Token}
    (h : Tiles src (a + 1) b ts) (hget : src[a]? = some c) (hc : Text.isBlank c = true) :
    Tiles src a b ts := by
  obtain ⟨place, ⟨le, noMark, filled, within, ordered, blank⟩, faithful⟩ := h
  refine .intro place ⟨by omega, noMark, filled, ?_, ordered, ?_⟩ faithful
  · intro t ht
    have := within t ht
    omega
  · intro i hi hi' hout
    by_cases ha : i = a
    · subst ha
      exact ⟨c, hget, hc⟩
    · exact blank i (by omega) hi' hout

theorem Tiles.cons {src : List Char} {b : Nat} {t : Token} {ts : List Token}
    (h : Tiles src t.span.stop.offset b ts) (ht : Faithful src t) (hk : t.kind ≠ .endOfInput)
    (hlt : t.span.start.offset < t.span.stop.offset) :
    Tiles src t.span.start.offset b (t :: ts) := by
  generalize ha : t.span.stop.offset = a at h
  obtain @⟨_, us, stop, place, ⟨le, noMark, filled, within, ordered, blank⟩, faithful⟩ := h
  subst ha
  refine @Tiles.intro src _ (t :: us) stop place ⟨by omega, ?_, ?_, ?_, ?_, ?_⟩ ?_
  · exact List.forall_mem_cons.mpr ⟨hk, noMark⟩
  · exact List.forall_mem_cons.mpr ⟨hlt, filled⟩
  · refine List.forall_mem_cons.mpr ⟨⟨Nat.le_refl _, le⟩, fun u hu => ?_⟩
    have := within u hu
    omega
  · exact List.pairwise_cons.mpr ⟨fun u hu => (within u hu).1, ordered⟩
  · intro i hi hi' hout
    obtain ⟨hout, houts⟩ := List.forall_mem_cons.mp hout
    -- What is outside of the token and behind its beginning is behind its end.
    have hge : t.span.stop.offset ≤ i := by
      by_contra hgt
      exact hout ⟨hi, by omega⟩
    exact blank i hge hi' houts
  · exact List.forall_mem_cons.mpr ⟨ht, faithful⟩

/-- A token on characters that are read from a location on. -/
theorem Tiles.token {src w : List Char} {l : Location} {b : Nat} {t : Token} {ts : List Token}
    (h : Tiles src (l.advanceAll w).offset b ts) (hspan : t.span = ⟨l, l.advanceAll w⟩)
    (ht : Faithful src t) (hk : t.kind ≠ .endOfInput) (hw : w ≠ []) :
    Tiles src l.offset b (t :: ts) := by
  have hlt : l.offset < (l.advanceAll w).offset := by
    have := List.length_pos_iff.mpr hw
    rw [offset_advanceAll]
    omega
  have hstart : t.span.start = l := by rw [hspan]
  have hstop : t.span.stop = l.advanceAll w := by rw [hspan]
  rw [← hstop] at h hlt
  rw [← hstart] at hlt ⊢
  exact h.cons ht hk hlt

theorem punctuation?_symbol {cs after : List Char} {k : Kind}
    (h : punctuation? cs = some (k, after)) : k.symbol.toList ≠ [] := by
  intro hnil
  have hlt := punctuation?_length h
  rw [punctuation?_eq_append h, hnil] at hlt
  simp at hlt

theorem QuotedBody.token_span (b : QuotedBody) (start inside stop : Location) :
    (b.token start inside stop).span = ⟨start, stop⟩ := by
  unfold QuotedBody.token
  split <;> rfl

theorem QuotedBody.token_kind (b : QuotedBody) (start inside stop : Location) :
    (b.token start inside stop).kind = .string := by
  unfold QuotedBody.token
  split <;> rfl

/-! ## Scans -/

/-- The pieces of a quoted run, from the end of its first literal text on, fill it up to its closing
quote. -/
structure FillsRun (src : List Char) (l : Location) (body : QuotedBody) (stop : Location) : Prop where
  place : body.firstStop.IsIn src
  le : l.offset ≤ body.firstStop.offset
  pieces : Pieces src false body.firstStop.offset (stop.offset - 1) body.more

/-- A character more in the first literal text. -/
theorem FillsRun.chars {src w : List Char} {l stop : Location} {body : QuotedBody}
    (h : FillsRun src (l.advanceAll w) body stop) (d : Char) :
    FillsRun src l ⟨d :: body.first, body.firstStop, body.more⟩ stop := by
  refine ⟨h.place, ?_, h.pieces⟩
  have := h.le
  rw [offset_advanceAll] at this
  exact Nat.le_trans (Nat.le_add_right _ _) this

/-- The token of a quoted run says of the characters under it what is there. -/
theorem FillsRun.faithful {src mid rest : List Char} {q : Char} {l : Location} {body : QuotedBody}
    (hq : q ∈ Word.quotes) (hbody : body.regular) (hrest : Remains src l (q :: mid ++ q :: rest))
    (h : FillsRun src (l.advance q) body (l.advanceAll (q :: mid ++ [q]))) :
    Faithful src (body.token l (l.advance q) (l.advanceAll (q :: mid ++ [q]))) := by
  have hwhole : Remains src l ((q :: mid ++ [q]) ++ rest) := by simpa using hrest
  have hquotes : InQuotes (Span.chars ⟨l, l.advanceAll (q :: mid ++ [q])⟩ src) := by
    rw [hwhole.chars_eq]
    exact ⟨q, mid, hq, rfl⟩
  have hinside : Remains src (l.advance q) (mid ++ q :: rest) := hrest.cons
  unfold QuotedBody.token
  split
  · exact .quoted hwhole.span_isIn hquotes
  · rename_i hne
    have hpos : body.more.length ≠ 0 := by simpa [List.isEmpty_iff] using hne
    have heven := hbody.1
    refine .compound hwhole.span_isIn hquotes ?_ ?_ ?_
    · simp only [List.length_cons]
      omega
    · simp only [List.length_cons]
      omega
    · have hpieces := @Pieces.text src _ (String.ofList body.first) ⟨l.advance q, body.firstStop⟩ _
        ⟨hinside.isIn, h.place, h.le⟩ h.pieces
      simpa only [offset_advance] using hpieces

mutual

/-- **What a scan reads tiles what it has gone through.** -/
theorem Scans.tiles {src : List Char} : ∀ {m : Mode} {cs : List Char} {l : Location}
    {ts : List Token} {cur : Cursor}, Scans m cs l ts cur → Remains src l cs →
    Tiles src l.offset cur.loc.offset ts
  | _, _, _, _, _, .blank hb hr, h => by
    have htail := hr.tiles h.cons
    rw [offset_advance] at htail
    exact htail.blank h.getElem? hb
  | _, _, _, _, _, .finish, h => tiles_endMark h
  | _, _, _, _, _, .stop _, h => tiles_endMark h
  | _, _, _, _, _, .punctuation hp hr, h => by
    rw [punctuation?_eq_append hp] at h
    exact (hr.tiles h.append).token rfl (.punctuation h.span_isIn h.chars_eq) (punctuation?_kind hp)
      (punctuation?_symbol hp)
  | _, _, l, _, _, @Scans.quoted _ q _ _ body after _ _ hq hrun hr, h => by
    have hfills := hrun.fills h.cons
    have htail : Remains src after.loc after.rest → _ := hr.tiles
    obtain ⟨mid, rfl, hclose⟩ := hrun.consumes
    have hloc : after.loc = l.advanceAll (q :: mid ++ [q]) := hclose.trans (by simp)
    rw [hloc] at hfills htail ⊢
    have hafter : Remains src (l.advanceAll (q :: mid ++ [q])) after.rest :=
      Remains.append (by simpa using h)
    have hfaithful := hfills.faithful (by simpa using hq) (regular_of_scansQuoted hrun) h
    exact (htail hafter).token (body.token_span _ _ _) hfaithful (by simp [QuotedBody.token_kind])
      (by simp)
  | _, _, _, _, _, .word (c := c) (w := w) _ _ _ hr, h => by
    refine (hr.tiles h.append).token rfl (.word h.span_isIn ?_) (by simp [kind]) (by simp)
    rw [h.chars_eq, String.toList_ofList]

theorem ScansQuoted.fills {src : List Char} : ∀ {q : Char} {cs : List Char} {l : Location}
    {body : QuotedBody} {cur : Cursor}, ScansQuoted q cs l body cur → Remains src l cs →
    FillsRun src l body cur.loc
  | q, _, l, _, _, .close, h => by
    refine ⟨h.isIn, Nat.le_refl _, ?_⟩
    rw [offset_advance, Nat.add_sub_cancel]
    exact .nil
  | _, _, _, _, _, .escape (d := d) _ hr, h =>
    (hr.fills h.cons.cons).chars (w := ['\\', d]) d
  | _, _, l, _, cur, @ScansQuoted.interpolation _ d _ after _ l' _ body _ _ hline hr, h => by
    have htokens : Tiles src (l.advance '\x7b').offset l'.offset _ := hline.tiles h.cons
    have hrun : Remains src (l'.advance d) after → FillsRun src (l'.advance d) body cur.loc := hr.fills
    obtain ⟨used, rfl, hl'⟩ := hline.consumes
    dsimp only at hl' h
    have hd : d = '\x7d' := by
      have := hline.stopsAt rfl
      simpa [Mode.stopsAt] using this
    have hend : Remains src l' (d :: after) := by
      rw [hl']
      exact h.cons.append
    have hle : l.offset ≤ l'.offset := by
      rw [hl', offset_advanceAll, offset_advance]
      omega
    obtain ⟨place, le, pieces⟩ := hrun hend.cons
    refine ⟨h.isIn, Nat.le_refl _, ?_⟩
    refine @Pieces.line src _ ⟨l, l'.advance d⟩ _ _ ⟨h.isIn, hend.cons.isIn, ?_⟩ h.getElem? ?_ ?_ ?_
    · simp only [offset_advance]
      omega
    · simp only [offset_advance, Nat.add_sub_cancel]
      rw [hend.getElem?, hd]
    · simpa only [offset_advance, Nat.add_sub_cancel] using htokens
    · exact @Pieces.text src _ _ ⟨l'.advance d, body.firstStop⟩ _ ⟨hend.cons.isIn, place, le⟩ pieces
  | _, _, _, _, _, .plain (c := c) _ _ _ hr, h => (hr.fills h.cons).chars (w := [c]) c

end

/-- **The tokens of a line tile it.**  The list ends with its only end mark, which stands at the end of
the line; the other tokens stand on characters, one behind the other, with nothing but blanks outside of
them; each says of the characters under it what is there; the pieces of a string fill it between its
quotes, and its interpolations hold tokens that tile what is between their braces; and every location,
however deep, is the one of its offset. -/
theorem ofLine_tiles {line : String} {ts : List Token} (h : ofLine line = .ok ts) :
    Tiles line.toList 0 line.toList.length ts := by
  obtain ⟨cur, hscan⟩ := ofLine_eq_ok_iff.mp h
  have htiles := hscan.tiles (Remains.start line.toList)
  obtain ⟨used, hused, hloc⟩ := hscan.consumes
  -- A scan of a whole line stops at its end only.
  have hrest : cur.rest = [] := by
    cases hr : cur.rest with
    | nil => rfl
    | cons d after => cases hscan.stopsAt hr
  have hstop : cur.loc.offset = line.toList.length := by
    rw [hloc, offset_advanceAll_start, hused, hrest, List.append_nil]
  rwa [hstop] at htiles

/-- A word, a blank, and a string with an interpolation and a line feed. -/
theorem ofLine_tiles_string :
    let line := "a \"\x7bb\x7d\n\""
    let ts : List Token :=
      [.plain .string (some "a") false ⟨⟨0, 1, 1⟩, ⟨1, 1, 2⟩⟩,
        .compound .string none true ⟨⟨2, 1, 3⟩, ⟨8, 2, 2⟩⟩
          [.plain .string (some "") false ⟨⟨3, 1, 4⟩, ⟨3, 1, 4⟩⟩,
            .compound .interpolation none false ⟨⟨3, 1, 4⟩, ⟨6, 1, 7⟩⟩
              [.plain .string (some "b") false ⟨⟨4, 1, 5⟩, ⟨5, 1, 6⟩⟩, endMark ⟨5, 1, 6⟩],
            .plain .string (some "\n") false ⟨⟨6, 1, 7⟩, ⟨7, 2, 1⟩⟩],
        endMark ⟨8, 2, 2⟩]
    ofLine line = .ok ts ∧ Tiles line.toList 0 line.toList.length ts := by
  intro line ts
  have hline : Scans .braces ['b', '\x7d', '\n', '"'] ⟨4, 1, 5⟩
      [.plain .string (some "b") false ⟨⟨4, 1, 5⟩, ⟨5, 1, 6⟩⟩, endMark ⟨5, 1, 6⟩]
      ⟨['\x7d', '\n', '"'], ⟨5, 1, 6⟩⟩ :=
    .word (w := []) (by decide) (List.forall_mem_singleton.mpr (by decide))
      (separated_cons (by decide)) (.stop (by decide))
  have hrun := ScansQuoted.interpolation (q := '"') (l := ⟨3, 1, 4⟩) (by decide) hline
    (.plain (by decide) (by decide) (by decide) .close)
  have hstring := Scans.quoted (m := .line) (l := ⟨2, 1, 3⟩) (by decide) hrun .finish
  have hscan : Scans .line ['a', ' ', '"', '\x7b', 'b', '\x7d', '\n', '"'] .start ts
      ⟨[], ⟨8, 2, 2⟩⟩ :=
    .word (w := []) (by decide) (List.forall_mem_singleton.mpr (by decide))
      (separated_cons (by decide)) (.blank (by decide) hstring)
  have h : ofLine line = .ok ts := ofLine_eq_ok_iff.mpr ⟨_, by simpa [line] using hscan⟩
  exact ⟨h, ofLine_tiles h⟩

end Token

end CommandShell
