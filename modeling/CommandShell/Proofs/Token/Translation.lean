import CommandShell.Proofs.Token.Location

/-!
# Sources behind other text

A source that stands behind other text has the same tokens, with every location moved by the place
where it begins.  The columns of its first line go on with those of the line before it.

* `Location.shift`  : a location of a source, seen from where the source begins;
* `Token.shift`     : a token with every location in it moved;
* `Scans.shift`     : what a scan reads, in a source that begins elsewhere;
* `Scans.before`    : what a scan reads does not hang on what stands behind the place where it stops;
* `Scans.unique`    : a scan reads one list of tokens.
-/

namespace CommandShell

namespace Location

/-- The location `l` of a source that begins at `origin`. -/
def shift (origin l : Location) : Location :=
  ⟨origin.offset + l.offset, origin.line + (l.line - 1),
    if l.line = 1 then origin.column + (l.column - 1) else l.column⟩

/-- Lines and columns are counted from one. -/
structure Counted (l : Location) : Prop where
  line : 1 ≤ l.line
  column : 1 ≤ l.column

theorem counted_start : Counted .start := ⟨Nat.le_refl 1, Nat.le_refl 1⟩

theorem Counted.advance {l : Location} (h : l.Counted) (c : Char) : (l.advance c).Counted := by
  unfold Location.advance
  split
  · exact ⟨Nat.le_add_left 1 _, Nat.le_refl 1⟩
  · exact ⟨h.line, Nat.le_add_left 1 _⟩

theorem Counted.advanceAll {l : Location} (h : l.Counted) (cs : List Char) :
    (l.advanceAll cs).Counted := by
  induction cs generalizing l with
  | nil => exact h
  | cons c cs ih => exact ih (h.advance c)

@[simp] theorem shift_start (origin : Location) : origin.shift .start = origin := by
  simp [shift, start]

/-- To go on in the source is to go on behind the other text. -/
theorem shift_advance (origin : Location) {l : Location} (h : l.Counted) (c : Char) :
    origin.shift (l.advance c) = (origin.shift l).advance c := by
  obtain ⟨hline, hcolumn⟩ := h
  unfold advance
  by_cases hc : c = '\n'
  · have hlater : l.line ≠ 0 := by omega
    simp only [hc, ↓reduceIte, shift, Nat.add_eq_right, hlater, mk.injEq, and_true]
    omega
  · simp only [hc, ↓reduceIte, shift, mk.injEq]
    refine ⟨by omega, trivial, ?_⟩
    split <;> omega

theorem shift_advanceAll (origin : Location) {l : Location} (h : l.Counted) (cs : List Char) :
    origin.shift (l.advanceAll cs) = (origin.shift l).advanceAll cs := by
  induction cs generalizing l with
  | nil => rfl
  | cons c cs ih =>
    rw [Token.advanceAll_cons, Token.advanceAll_cons, ih (h.advance c), shift_advance origin h]

end Location

/-- A stretch of a source that begins at `origin`. -/
def Span.shift (origin : Location) (sp : Span) : Span :=
  ⟨origin.shift sp.start, origin.shift sp.stop⟩

namespace Token

mutual

/-- A token of a source that begins at `origin`: every location in it is moved. -/
def shift (origin : Location) : Token → Token
  | .plain k text q sp => .plain k text q (sp.shift origin)
  | .compound k text q sp ps => .compound k text q (sp.shift origin) (shiftAll origin ps)

/-- Tokens of a source that begins at `origin`. -/
def shiftAll (origin : Location) : List Token → List Token
  | [] => []
  | t :: ts => shift origin t :: shiftAll origin ts

end

@[simp] theorem shiftAll_eq_map (origin : Location) (ts : List Token) :
    shiftAll origin ts = ts.map (shift origin) := by
  induction ts with
  | nil => rfl
  | cons t ts ih => simp [shiftAll, ih]

@[simp] theorem shift_endMark (origin l : Location) :
    (endMark l).shift origin = endMark (origin.shift l) := rfl

mutual

/-- Where a token stands does not matter without the places in it. -/
theorem unplaced_shift (origin : Location) : ∀ t : Token, (t.shift origin).unplaced = t.unplaced
  | .plain _ _ _ _ => rfl
  | .compound k text q sp ps => by
    simp only [shift, unplaced, shiftAll_eq_map, unplacedAll_eq_map]
    rw [unplaced_shiftAll origin ps]

theorem unplaced_shiftAll (origin : Location) :
    ∀ ts : List Token, (ts.map (shift origin)).map unplaced = ts.map unplaced
  | [] => rfl
  | t :: ts => by
    simp only [List.map_cons]
    rw [unplaced_shift origin t, unplaced_shiftAll origin ts]

end

/-- The body of a quoted run in a source that begins at `origin`. -/
def QuotedBody.shift (origin : Location) (b : QuotedBody) : QuotedBody :=
  ⟨b.first, origin.shift b.firstStop, b.more.map (Token.shift origin)⟩

theorem QuotedBody.shift_token (origin : Location) (b : QuotedBody) (start inside stop : Location) :
    (b.token start inside stop).shift origin =
      (b.shift origin).token (origin.shift start) (origin.shift inside) (origin.shift stop) := by
  obtain ⟨first, firstStop, more⟩ := b
  cases more with
  | nil => rfl
  | cons p ps => simp [QuotedBody.token, QuotedBody.shift, Token.shift, Span.shift]

/-! ## A source that begins elsewhere -/

mutual

/-- **A scan of a source that begins elsewhere reads the same tokens**, with their locations moved. -/
theorem Scans.shift (origin : Location) : ∀ {m : Mode} {cs : List Char} {l : Location}
    {ts : List Token} {cur : Cursor}, Scans m cs l ts cur → l.Counted →
    Scans m cs (origin.shift l) (ts.map (Token.shift origin)) ⟨cur.rest, origin.shift cur.loc⟩
  | _, _, _, _, _, .blank (c := c) hb hr, hl => by
    have htail := hr.shift origin (hl.advance c)
    rw [Location.shift_advance origin hl] at htail
    exact .blank hb htail
  | _, _, _, _, _, .finish, _ => .finish
  | _, _, _, _, _, .stop hs, _ => .stop hs
  | _, _, l, _, _, .punctuation (k := k) hp hr, hl => by
    have htail := hr.shift origin (hl.advanceAll k.symbol.toList)
    rw [Location.shift_advanceAll origin hl] at htail
    have hs := Scans.punctuation hp htail
    simpa [Token.shift, Span.shift, Location.shift_advanceAll origin hl] using hs
  | _, _, l, _, _, @Scans.quoted _ q _ _ body after _ _ hq hrun hr, hl => by
    obtain ⟨mid, -, hloc⟩ := hrun.consumes
    have hafter : after.loc.Counted := hloc ▸ ((hl.advance q).advanceAll mid).advance q
    have hrun' := hrun.shift origin (hl.advance q)
    rw [Location.shift_advance origin hl] at hrun'
    have hs := Scans.quoted hq hrun' (hr.shift origin hafter)
    simpa [body.shift_token, Location.shift_advance origin hl] using hs
  | _, _, l, _, _, .word (c := c) (w := w) hq hall hsep hr, hl => by
    have htail := hr.shift origin (hl.advanceAll (c :: w))
    rw [Location.shift_advanceAll origin hl] at htail
    have hs := Scans.word hq hall hsep htail
    simpa only [Token.shift, Span.shift, List.map_cons, Location.shift_advanceAll origin hl] using hs

theorem ScansQuoted.shift (origin : Location) : ∀ {q : Char} {cs : List Char} {l : Location}
    {body : QuotedBody} {cur : Cursor}, ScansQuoted q cs l body cur → l.Counted →
    ScansQuoted q cs (origin.shift l) (body.shift origin) ⟨cur.rest, origin.shift cur.loc⟩
  | q, _, _, _, _, .close, hl => by
    rw [Location.shift_advance origin hl]
    exact .close
  | _, _, _, _, _, .escape (d := d) hq hr, hl => by
    have htail := hr.shift origin ((hl.advance '\\').advance d)
    rw [Location.shift_advance origin (hl.advance '\\'), Location.shift_advance origin hl] at htail
    exact .escape hq htail
  | _, _, l, _, _, @ScansQuoted.interpolation _ d _ _ _ l' _ _ _ hq hline hr, hl => by
    obtain ⟨used, -, hloc⟩ := hline.consumes
    have hl' : l'.Counted := by
      rw [show l' = _ from hloc]
      exact (hl.advance '\x7b').advanceAll used
    have hline' := hline.shift origin (hl.advance '\x7b')
    rw [Location.shift_advance origin hl] at hline'
    have htail := hr.shift origin (hl'.advance d)
    rw [Location.shift_advance origin hl'] at htail
    have hs := ScansQuoted.interpolation hq hline' htail
    simpa [QuotedBody.shift, Token.shift, Span.shift, Location.shift_advance origin hl'] using hs
  | _, _, _, _, _, .plain (c := c) hq hesc hbrace hr, hl => by
    have htail := hr.shift origin (hl.advance c)
    rw [Location.shift_advance origin hl] at htail
    exact .plain hq hesc hbrace htail

end

/-! ## What stands behind a source -/

/-- A scan of the source stops before its first character. -/
def EndsScan (m : Mode) (cs : List Char) : Prop :=
  ∀ c rest, cs = c :: rest → m.stopsAt c = true

theorem endsScan_nil (m : Mode) : EndsScan m [] := by
  intro c rest h; cases h

theorem endsScan_cons {m : Mode} {c : Char} (h : m.stopsAt c = true) (cs : List Char) :
    EndsScan m (c :: cs) := by
  intro c' rest h'; cases h'; exact h

theorem EndsScan.scans {m : Mode} {cs : List Char} (h : EndsScan m cs) (l : Location) :
    Scans m cs l [endMark l] ⟨cs, l⟩ := by
  cases cs with
  | nil => exact .finish
  | cons c cs => exact .stop (h c cs rfl)

theorem EndsScan.detached {m : Mode} {cs : List Char} (h : EndsScan m cs) : Detached m cs := by
  cases cs with
  | nil => exact detached_nil m
  | cons c cs => exact detached_of_stopsAt (h c cs rfl) cs

mutual

/-- **What a scan reads does not hang on what stands behind the place where it stops**, as long as it
stops there. -/
theorem Scans.before : ∀ {m : Mode} {cs : List Char} {l : Location} {ts : List Token}
    {cur : Cursor}, Scans m cs l ts cur → ∃ used, cs = used ++ cur.rest ∧
      ∀ rest, EndsScan m rest → Scans m (used ++ rest) l ts ⟨rest, cur.loc⟩
  | _, _, _, _, _, .blank (c := c) hb hr => by
    obtain ⟨used, rfl, hbefore⟩ := hr.before
    exact ⟨c :: used, rfl, fun rest hrest => .blank hb (hbefore rest hrest)⟩
  | _, _, l, _, _, .finish => ⟨[], rfl, fun _ hrest => hrest.scans l⟩
  | _, _, l, _, _, .stop _ => ⟨[], rfl, fun _ hrest => hrest.scans l⟩
  | _, _, _, _, cur, .punctuation (k := k) hp hr => by
    obtain ⟨used, rfl, hbefore⟩ := hr.before
    refine ⟨k.symbol.toList ++ used, by rw [punctuation?_eq_append hp, List.append_assoc], ?_⟩
    intro rest hrest
    have hresumes := hrest.detached.resumes used cur.rest
    rw [List.append_assoc]
    exact .punctuation (punctuation?_followed hp hresumes.2) (hbefore rest hrest)
  | _, _, _, _, _, .quoted (q := q) hq hrun hr => by
    obtain ⟨mid, rfl, hrun'⟩ := hrun.before
    obtain ⟨used, hused, hbefore⟩ := hr.before
    refine ⟨q :: mid ++ used, by simp [hused], fun rest hrest => ?_⟩
    have hs := Scans.quoted hq (hrun' (used ++ rest)) (hbefore rest hrest)
    simpa using hs
  | _, _, _, _, cur, .word (c := c) (w := w) hq hall hsep hr => by
    obtain ⟨used, rfl, hbefore⟩ := hr.before
    refine ⟨c :: w ++ used, by simp, fun rest hrest => ?_⟩
    have hresumes := hrest.detached.resumes used cur.rest
    rw [List.append_assoc]
    exact .word hq hall (hresumes.1 hsep) (hbefore rest hrest)

theorem ScansQuoted.before : ∀ {q : Char} {cs : List Char} {l : Location} {body : QuotedBody}
    {cur : Cursor}, ScansQuoted q cs l body cur → ∃ mid, cs = mid ++ cur.rest ∧
      ∀ rest, ScansQuoted q (mid ++ rest) l body ⟨rest, cur.loc⟩
  | q, _, _, _, _, .close => ⟨[q], rfl, fun _ => .close⟩
  | _, _, _, _, _, .escape (d := d) hq hr => by
    obtain ⟨mid, rfl, hbefore⟩ := hr.before
    exact ⟨'\\' :: d :: mid, rfl, fun rest => .escape hq (hbefore rest)⟩
  | _, _, _, _, _, .interpolation (d := d) hq hline hr => by
    obtain ⟨used, rfl, hline'⟩ := hline.before
    obtain ⟨mid, rfl, hbefore⟩ := hr.before
    refine ⟨'\x7b' :: used ++ d :: mid, by simp, fun rest => ?_⟩
    have hstops := endsScan_cons (hline.stopsAt rfl) (mid ++ rest)
    rw [List.cons_append, List.cons_append, List.append_assoc]
    exact .interpolation hq (hline' _ hstops) (hbefore rest)
  | _, _, _, _, _, .plain (c := c) hq hesc hbrace hr => by
    obtain ⟨mid, rfl, hbefore⟩ := hr.before
    exact ⟨c :: mid, rfl, fun rest => .plain hq hesc hbrace (hbefore rest)⟩

end

/-- A scan reads one list of tokens and stops at one place. -/
theorem Scans.unique {m : Mode} {cs : List Char} {l : Location} {ts us : List Token}
    {cur cur' : Cursor} (h : Scans m cs l ts cur) (h' : Scans m cs l us cur') :
    ts = us ∧ cur = cur' := by
  have heq := h.scanned_eq_ok.symm.trans h'.scanned_eq_ok
  cases heq
  exact ⟨rfl, rfl⟩

/-- A source that is read in one place is read in every other. -/
theorem Scans.unshift {m : Mode} {cs : List Char} {origin stop : Location} {ts : List Token}
    (h : Scans m cs origin ts ⟨[], stop⟩) :
    ∃ us, Scans m cs .start us ⟨[], Location.start.advanceAll cs⟩ ∧
      ts = us.map (Token.shift origin) := by
  obtain ⟨used, inner, l, hused, -, -, hagain⟩ := h.elsewhere
  obtain rfl : cs = used := by simpa using hused
  obtain ⟨inner', hs, -⟩ := hagain .start [] _ _ (detached_nil m) .finish
  rw [List.append_nil] at hs
  refine ⟨_, hs, ?_⟩
  have hshift := hs.shift origin Location.counted_start
  rw [Location.shift_start] at hshift
  exact (h.unique hshift).1

end Token

end CommandShell
