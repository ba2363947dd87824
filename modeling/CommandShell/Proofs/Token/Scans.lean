import CommandShell.Token.Scan

/-!
# The lexical grammar

Which tokens a source holds, as a relation: one rule for each way in which a scan goes on.

* `Token.Scans`, `Token.ScansQuoted` : the rules, for tokens and for the body of a quoted run;
* `scanned_eq_ok_iff`    : a scan reads exactly what the rules allow;
* `Token.ofLine_eq_ok_iff` : the tokens of a line.
-/

namespace CommandShell.Token

/-- The mark after the last token. -/
def endMark (l : Location) : Token := .plain .endOfInput none false (.point l)

/-- No character at the front of a source goes on with an unquoted word. -/
def Separated (m : Mode) (cs : List Char) : Prop :=
  ∀ c rest, cs = c :: rest → m.isWordChar c = false

theorem separated_nil (m : Mode) : Separated m [] := by
  intro c rest h; cases h

theorem separated_cons {m : Mode} {c : Char} {cs : List Char} (h : m.isWordChar c = false) :
    Separated m (c :: cs) := by
  intro c' rest h'; cases h'; exact h

mutual

/-- From the characters, which begin at the location, a scan reads the tokens, the end mark
included, and stops at the cursor. -/
inductive Scans : Mode → List Char → Location → List Token → Cursor → Prop
  | blank {m : Mode} {c : Char} {cs : List Char} {l : Location} {ts : List Token} {cur : Cursor}
    (isBlank : Text.isBlank c = true) (rest : Scans m cs (l.advance c) ts cur) :
    Scans m (c :: cs) l ts cur
  | finish {m : Mode} {l : Location} : Scans m [] l [endMark l] ⟨[], l⟩
  | stop {m : Mode} {c : Char} {cs : List Char} {l : Location} (stops : m.stopsAt c = true) :
    Scans m (c :: cs) l [endMark l] ⟨c :: cs, l⟩
  | punctuation {m : Mode} {cs after : List Char} {k : Kind} {l : Location} {ts : List Token}
    {cur : Cursor} (symbol : punctuation? cs = some (k, after))
    (rest : Scans m after (l.advanceAll k.symbol.toList) ts cur) :
    Scans m cs l
      (.plain k (some k.symbol) false ⟨l, l.advanceAll k.symbol.toList⟩ :: ts) cur
  | quoted {m : Mode} {q : Char} {cs : List Char} {l : Location} {body : QuotedBody}
    {after cur : Cursor} {ts : List Token} (quote : Word.quotes.contains q = true)
    (run : ScansQuoted q cs (l.advance q) body after)
    (rest : Scans m after.rest after.loc ts cur) :
    Scans m (q :: cs) l (body.token l (l.advance q) after.loc :: ts) cur
  | word {m : Mode} {c : Char} {w cs : List Char} {l : Location} {ts : List Token} {cur : Cursor}
    (noQuote : Word.quotes.contains c = false) (all : ∀ d ∈ c :: w, m.isWordChar d = true)
    (ends : Separated m cs) (rest : Scans m cs (l.advanceAll (c :: w)) ts cur) :
    Scans m (c :: w ++ cs) l
      (.plain .string (some (String.ofList (c :: w))) false ⟨l, l.advanceAll (c :: w)⟩ :: ts) cur

/-- From the characters, which begin at the location, the rest of a run in quotes has the body, and
the source goes on at the cursor. -/
inductive ScansQuoted : Char → List Char → Location → QuotedBody → Cursor → Prop
  | close {q : Char} {cs : List Char} {l : Location} :
    ScansQuoted q (q :: cs) l ⟨[], l, []⟩ ⟨cs, l.advance q⟩
  | escape {q d : Char} {cs : List Char} {l : Location} {body : QuotedBody} {cur : Cursor}
    (open_ : q ≠ '\\') (rest : ScansQuoted q cs ((l.advance '\\').advance d) body cur) :
    ScansQuoted q ('\\' :: d :: cs) l ⟨d :: body.first, body.firstStop, body.more⟩ cur
  | interpolation {q d : Char} {cs after : List Char} {l l' : Location} {inner : List Token}
    {body : QuotedBody} {cur : Cursor} (open_ : q ≠ '\x7b')
    (line : Scans .braces cs (l.advance '\x7b') inner ⟨d :: after, l'⟩)
    (rest : ScansQuoted q after (l'.advance d) body cur) :
    ScansQuoted q ('\x7b' :: cs) l
      ⟨[], l, .compound .interpolation none false ⟨l, l'.advance d⟩ inner ::
        .plain .string (some (String.ofList body.first)) false ⟨l'.advance d, body.firstStop⟩ ::
          body.more⟩ cur
  | plain {q c : Char} {cs : List Char} {l : Location} {body : QuotedBody} {cur : Cursor}
    (open_ : c ≠ q) (noEscape : c ≠ '\\') (noBrace : c ≠ '\x7b')
    (rest : ScansQuoted q cs (l.advance c) body cur) :
    ScansQuoted q (c :: cs) l ⟨c :: body.first, body.firstStop, body.more⟩ cur

end

/-! ## Characters taken off the front -/

@[simp] theorem advanceAll_nil (l : Location) : l.advanceAll [] = l := rfl

@[simp] theorem advanceAll_cons (l : Location) (c : Char) (cs : List Char) :
    l.advanceAll (c :: cs) = (l.advance c).advanceAll cs := rfl

@[simp] theorem advanceAll_append (l : Location) (cs ds : List Char) :
    l.advanceAll (cs ++ ds) = (l.advanceAll cs).advanceAll ds := by
  simp [Location.advanceAll]

/-- The characters that satisfy a test are taken, up to the first that does not. -/
theorem spanFrom_spec (p : Char → Bool) :
    ∀ (cs : List Char) (l : Location), ∃ taken rest, cs = taken ++ rest ∧
      (∀ c ∈ taken, p c = true) ∧ (∀ c cs', rest = c :: cs' → p c = false) ∧
      Cursor.spanFrom p cs l = (taken, ⟨rest, l.advanceAll taken⟩)
  | [], l => ⟨[], [], rfl, by simp, by simp, rfl⟩
  | c :: cs, l => by
    by_cases hc : p c = true
    · obtain ⟨taken, rest, rfl, hall, hrest, hspan⟩ := spanFrom_spec p cs (l.advance c)
      refine ⟨c :: taken, rest, rfl, by simpa [hc] using hall, hrest, ?_⟩
      simp [Cursor.spanFrom, hc, hspan, advanceAll_cons]
    · refine ⟨[], c :: cs, rfl, by simp, ?_, by simp [Cursor.spanFrom, hc, Location.advanceAll]⟩
      rintro c' cs' h; cases h; simpa using hc

theorem spanFrom_append {p : Char → Bool} {taken rest : List Char} (l : Location)
    (hall : ∀ c ∈ taken, p c = true) (hrest : ∀ c cs, rest = c :: cs → p c = false) :
    Cursor.spanFrom p (taken ++ rest) l = (taken, ⟨rest, l.advanceAll taken⟩) := by
  induction taken generalizing l with
  | nil =>
    cases rest with
    | nil => rfl
    | cons c cs => simp [Cursor.spanFrom, hrest c cs rfl, Location.advanceAll]
  | cons c taken ih =>
    have hc := hall c (by simp)
    have := ih (l.advance c) (fun d hd => hall d (by simp [hd]))
    simp [Cursor.spanFrom, hc, this, advanceAll_cons]

/-- Blanks before a token are skipped. -/
theorem scans_blanks {m : Mode} {bs cs : List Char} {l : Location} {ts : List Token} {cur : Cursor}
    (hb : ∀ c ∈ bs, Text.isBlank c = true) (h : Scans m cs (l.advanceAll bs) ts cur) :
    Scans m (bs ++ cs) l ts cur := by
  induction bs generalizing l with
  | nil => exact h
  | cons b bs ih => exact .blank (hb b (by simp)) (ih (fun c hc => hb c (by simp [hc])) h)

theorem blank_space : Text.isBlank ' ' = true := by decide

/-- An operator with blanks around it. -/
theorem scans_operator {m : Mode} {op : String} {k : Kind} {cs : List Char} {l : Location}
    {us : List Token} {cur : Cursor} (hop : k.symbol = op)
    (hp : ∀ rest, punctuation? (op.toList ++ ' ' :: rest) = some (k, ' ' :: rest))
    (h : Scans m cs (l.advanceAll (' ' :: op.toList ++ [' '])) us cur) :
    ∃ sp, Scans m (' ' :: op.toList ++ ' ' :: cs) l
      (.plain k (some k.symbol) false sp :: us) cur := by
  subst hop
  refine ⟨_, .blank blank_space (.punctuation (hp cs) (.blank blank_space ?_))⟩
  simpa using h

/-! ## One unfolding of the scans -/

/-- A scan without the bound on what is left. -/
def scanned (m : Mode) (cs : List Char) (l : Location) :
    Except SyntaxError (List Token × Cursor) :=
  (scan m cs l).map fun r => (r.1, r.2.1)

/-- A quoted scan without the bound on what is left. -/
def scannedQuoted (q : Char) (start : Location) (cs : List Char) (l : Location) :
    Except SyntaxError (QuotedBody × Cursor) :=
  (scanQuoted q start cs l).map fun r => (r.1, r.2.1)

/-- A scan puts a token before those of the rest. -/
def prepend (t : Token) (r : List Token × Cursor) : List Token × Cursor := (t :: r.1, r.2)

/-- One unfolding of a scan, at a cursor where the blanks are skipped. -/
def scannedAt (m : Mode) : Cursor → Except SyntaxError (List Token × Cursor)
  | ⟨[], l⟩ => .ok ([endMark l], ⟨[], l⟩)
  | ⟨c :: rest, l⟩ =>
    if m.stopsAt c then .ok ([endMark l], ⟨c :: rest, l⟩)
    else
      match punctuation? (c :: rest) with
      | some (k, after) =>
        (scanned m after (l.advanceAll k.symbol.toList)).map
          (prepend (.plain k (some k.symbol) false ⟨l, l.advanceAll k.symbol.toList⟩))
      | none =>
        if Word.quotes.contains c then
          match scannedQuoted c l rest (l.advance c) with
          | .error e => .error e
          | .ok (body, after) =>
            (scanned m after.rest after.loc).map (prepend (body.token l (l.advance c) after.loc))
        else if m.isWordChar c then
          let (w, after) := Cursor.spanFrom m.isWordChar rest (l.advance c)
          (scanned m after.rest after.loc).map
            (prepend (.plain .string (some (String.ofList (c :: w))) false ⟨l, after.loc⟩))
        else .error ⟨.unexpectedCharacter c, .point l⟩

theorem scanned_eq (m : Mode) (cs : List Char) (l : Location) :
    scanned m cs l = scannedAt m (Cursor.spanFrom Text.isBlank cs l).2 := by
  rw [scanned, scan]
  split
  · rename_i l' hb
    rw [hb]; rfl
  rename_i c rest l' hb
  refine Eq.trans ?_ (congrArg (scannedAt m) hb.symm)
  unfold scannedAt
  by_cases hstop : m.stopsAt c = true
  · simp only [hstop, ↓reduceIte]; rfl
  simp only [hstop, Bool.false_eq_true, ↓reduceIte]
  split
  · rename_i k after hp
    simp only [hp, scanned]
    cases scan m after (l'.advanceAll k.symbol.toList) <;> rfl
  rename_i hp
  simp only [hp]
  by_cases hq : Word.quotes.contains c = true
  · simp only [hq, ↓reduceIte, scannedQuoted]
    cases scanQuoted c l' rest (l'.advance c) with
    | error e => rfl
    | ok r =>
      obtain ⟨body, after, hle⟩ := r
      simp only [scanned, Except.map]
      cases scan m after.rest after.loc <;> rfl
  simp only [hq, Bool.false_eq_true, ↓reduceIte]
  by_cases hw : m.isWordChar c = true
  · simp only [hw, ↓reduceIte, scanned]
    cases scan m (Cursor.spanFrom m.isWordChar rest (l'.advance c)).2.rest
      (Cursor.spanFrom m.isWordChar rest (l'.advance c)).2.loc <;> rfl
  · simp only [hw, Bool.false_eq_true, ↓reduceIte]; rfl

/-- A quoted scan puts a character before the literal text of the rest. -/
def prependChar (c : Char) (r : QuotedBody × Cursor) : QuotedBody × Cursor :=
  (⟨c :: r.1.first, r.1.firstStop, r.1.more⟩, r.2)

/-- A quoted scan puts an interpolation between `start` and `stop` before the rest. -/
def prependLine (start stop : Location) (inner : List Token) (r : QuotedBody × Cursor) :
    QuotedBody × Cursor :=
  (⟨[], start, .compound .interpolation none false ⟨start, stop⟩ inner ::
    .plain .string (some (String.ofList r.1.first)) false ⟨stop, r.1.firstStop⟩ :: r.1.more⟩, r.2)

theorem scannedQuoted_nil (q : Char) (start l : Location) :
    scannedQuoted q start [] l = .error ⟨.unterminatedString, .point start⟩ := by
  rw [scannedQuoted, scanQuoted.eq_def]; rfl

theorem scannedQuoted_cons (q : Char) (start : Location) (c : Char) (rest : List Char)
    (l : Location) :
    scannedQuoted q start (c :: rest) l =
      if c = q then .ok (⟨[], l, []⟩, ⟨rest, l.advance c⟩)
      else if c = '\\' then
        match rest with
        | [] => .error ⟨.unterminatedString, .point start⟩
        | d :: rest' =>
          (scannedQuoted q start rest' ((l.advance c).advance d)).map (prependChar d)
      else if c = '\x7b' then
        match scanned .braces rest (l.advance c) with
        | .error e => .error e
        | .ok (_, ⟨[], _⟩) => .error ⟨.unterminatedInterpolation, .point l⟩
        | .ok (inner, ⟨d :: rest', l'⟩) =>
          (scannedQuoted q start rest' (l'.advance d)).map (prependLine l (l'.advance d) inner)
      else (scannedQuoted q start rest (l.advance c)).map (prependChar c) := by
  rw [scannedQuoted, scanQuoted.eq_def]
  simp only
  split
  · rfl
  split
  · cases rest with
    | nil => rfl
    | cons d rest' =>
      simp only [scannedQuoted]
      cases scanQuoted q start rest' ((l.advance c).advance d) <;> rfl
  split
  · simp only [scanned]
    cases scan .braces rest (l.advance c) with
    | error e => rfl
    | ok r =>
      obtain ⟨inner, ⟨after, l'⟩, hle⟩ := r
      cases after with
      | nil => rfl
      | cons d rest' =>
        simp only [Except.map, scannedQuoted]
        cases scanQuoted q start rest' (l'.advance d) <;> rfl
  · simp only [scannedQuoted]
    cases scanQuoted q start rest (l.advance c) <;> rfl

theorem map_eq_ok {ε α β : Type} {f : α → β} {r : Except ε α} {b : β}
    (h : r.map f = .ok b) : ∃ a, r = .ok a ∧ f a = b := by
  cases r with
  | error e => cases h
  | ok a => cases h; exact ⟨a, rfl, rfl⟩

theorem scanned_length {m : Mode} {cs : List Char} {l : Location} {ts : List Token} {cur : Cursor}
    (h : scanned m cs l = .ok (ts, cur)) : cur.rest.length ≤ cs.length := by
  obtain ⟨⟨ts', cur', hle⟩, -, hr⟩ := map_eq_ok h
  cases hr; exact hle

theorem scannedQuoted_length {q : Char} {start l : Location} {cs : List Char} {body : QuotedBody}
    {cur : Cursor} (h : scannedQuoted q start cs l = .ok (body, cur)) :
    cur.rest.length ≤ cs.length := by
  obtain ⟨⟨body', cur', hle⟩, -, hr⟩ := map_eq_ok h
  cases hr; exact hle

/-! ## What a scan reads follows the rules -/

/-- On sources shorter than a bound, both scans follow the rules. -/
structure FollowsBelow (n : Nat) : Prop where
  tokens : ∀ (m : Mode) (cs : List Char) (l : Location) (ts : List Token) (cur : Cursor),
    cs.length < n → scanned m cs l = .ok (ts, cur) → Scans m cs l ts cur
  quoted : ∀ (q : Char) (start : Location) (cs : List Char) (l : Location) (body : QuotedBody)
    (cur : Cursor), cs.length < n → scannedQuoted q start cs l = .ok (body, cur) →
    ScansQuoted q cs l body cur

theorem FollowsBelow.scanned {n : Nat} (ih : FollowsBelow n) {m : Mode} {cs : List Char}
    {l : Location} {ts : List Token} {cur : Cursor} (hn : cs.length ≤ n)
    (h : scanned m cs l = .ok (ts, cur)) : Scans m cs l ts cur := by
  obtain ⟨bs, rest, rfl, hb, -, hspan⟩ := spanFrom_spec Text.isBlank cs l
  rw [scanned_eq, hspan] at h
  simp only [List.length_append] at hn
  refine scans_blanks hb ?_
  generalize l.advanceAll bs = l' at h ⊢
  cases rest with
  | nil => cases h; exact .finish
  | cons c rest =>
    simp only [List.length_cons] at hn
    simp only [scannedAt] at h
    split at h
    · rename_i hstop
      cases h
      exact .stop hstop
    split at h
    · rename_i k after hp
      have hlt := punctuation?_length hp
      simp only [List.length_cons] at hlt
      obtain ⟨⟨ts', cur'⟩, hs, hr⟩ := map_eq_ok h
      cases hr
      exact .punctuation hp (ih.tokens m after _ _ _ (by omega) hs)
    split at h
    · rename_i hq
      split at h
      · cases h
      rename_i body after hrun
      have hle := scannedQuoted_length hrun
      obtain ⟨⟨ts', cur'⟩, hs, hr⟩ := map_eq_ok h
      cases hr
      exact .quoted hq (ih.quoted c l' rest _ _ _ (by omega) hrun)
        (ih.tokens m after.rest _ _ _ (by omega) hs)
    rename_i hq
    split at h
    · rename_i hword
      obtain ⟨w, rest', rfl, hall, hrest, hspan'⟩ := spanFrom_spec m.isWordChar rest (l'.advance c)
      rw [hspan'] at h
      simp only [List.length_append] at hn
      obtain ⟨⟨ts', cur'⟩, hs, hr⟩ := map_eq_ok h
      cases hr
      refine .word (by simpa using hq) ?_ hrest (ih.tokens m rest' _ _ _ (by omega) hs)
      intro d hd
      rcases List.mem_cons.mp hd with rfl | hd
      · exact hword
      · exact hall d hd
    · cases h

theorem FollowsBelow.scannedQuoted {n : Nat} (ih : FollowsBelow n) {q : Char} {start : Location}
    {cs : List Char} {l : Location} {body : QuotedBody} {cur : Cursor} (hn : cs.length ≤ n)
    (h : scannedQuoted q start cs l = .ok (body, cur)) : ScansQuoted q cs l body cur := by
  cases cs with
  | nil => rw [scannedQuoted_nil] at h; cases h
  | cons c rest =>
    rw [scannedQuoted_cons] at h
    simp only [List.length_cons] at hn
    split at h
    · rename_i hq
      cases h
      subst hq
      exact .close
    rename_i hq
    split at h
    · rename_i hesc
      subst hesc
      cases rest with
      | nil => cases h
      | cons d rest' =>
        simp only [List.length_cons] at hn
        obtain ⟨⟨body', cur'⟩, hrun, hr⟩ := map_eq_ok h
        cases hr
        exact .escape (Ne.symm hq) (ih.quoted q start rest' _ _ _ (by omega) hrun)
    rename_i hesc
    split at h
    · rename_i hbrace
      subst hbrace
      split at h
      · cases h
      · cases h
      rename_i inner d rest' l' hline
      have hle := scanned_length hline
      simp only [List.length_cons] at hle
      obtain ⟨⟨body', cur'⟩, hrun, hr⟩ := map_eq_ok h
      cases hr
      exact .interpolation (Ne.symm hq) (ih.tokens .braces rest _ _ _ (by omega) hline)
        (ih.quoted q start rest' _ _ _ (by omega) hrun)
    · rename_i hbrace
      obtain ⟨⟨body', cur'⟩, hrun, hr⟩ := map_eq_ok h
      cases hr
      exact .plain hq hesc hbrace (ih.quoted q start rest _ _ _ (by omega) hrun)

theorem followsBelow (n : Nat) : FollowsBelow n := by
  induction n with
  | zero => exact ⟨fun _ _ _ _ _ h => by omega, fun _ _ _ _ _ _ h => by omega⟩
  | succ n ih =>
    exact ⟨fun _ _ _ _ _ hn h => ih.scanned (by omega) h,
      fun _ _ _ _ _ _ hn h => ih.scannedQuoted (by omega) h⟩

/-! ## A scan reads what the rules allow -/

theorem stopsAt_not_blank {m : Mode} {c : Char} (h : m.stopsAt c = true) :
    Text.isBlank c = false := by
  cases m with
  | line => cases h
  | braces =>
    obtain rfl : c = '\x7d' := by simpa [Mode.stopsAt] using h
    decide

theorem stopsAt_eq_false {c : Char} (h : c ≠ '\x7d') (m : Mode) : m.stopsAt c = false := by
  cases m <;> simp [Mode.stopsAt, h]

/-- No quote and no punctuation is a blank or a closing brace. -/
theorem mark_not_blank : ∀ c ∈ Word.quotes ++ Word.punctuation,
    Text.isBlank c = false ∧ c ≠ '\x7d' := by
  have hall : (Word.quotes ++ Word.punctuation).all
      (fun c => !Text.isBlank c && c != '\x7d') = true := by decide
  intro c hc
  simpa using List.all_eq_true.mp hall c hc

theorem punctuation?_eq_some {cs after : List Char} {k : Kind}
    (h : punctuation? cs = some (k, after)) :
    ∃ c rest, cs = c :: rest ∧ c ∈ Word.punctuation := by
  unfold punctuation? at h
  split at h <;> cases h
  all_goals exact ⟨_, _, rfl, by decide⟩

theorem isWordChar_not_punctuation {c : Char} (h : Word.isWordChar c = true) :
    c ∉ Word.punctuation := by
  intro hm
  simp [Word.isWordChar, hm] at h

theorem punctuation?_eq_none {c : Char} {cs : List Char} (h : c ∉ Word.punctuation) :
    punctuation? (c :: cs) = none := by
  cases hp : punctuation? (c :: cs) with
  | none => rfl
  | some r =>
    obtain ⟨k, after⟩ := r
    obtain ⟨c', rest, heq, hm⟩ := punctuation?_eq_some hp
    cases heq
    exact absurd hm h

theorem quote_not_punctuation : ∀ c ∈ Word.quotes, c ∉ Word.punctuation := by
  have hall : Word.quotes.all (fun c => !Word.punctuation.contains c) = true := by decide
  intro c hc
  simpa using List.all_eq_true.mp hall c hc

/-- At a character that is not blank nothing is skipped. -/
theorem scanned_of_not_blank {m : Mode} {c : Char} {cs : List Char} {l : Location}
    (h : Text.isBlank c = false) : scanned m (c :: cs) l = scannedAt m ⟨c :: cs, l⟩ := by
  rw [scanned_eq]
  simp [Cursor.spanFrom, h]

mutual

theorem Scans.scanned_eq_ok : ∀ {m : Mode} {cs : List Char} {l : Location} {ts : List Token}
    {cur : Cursor}, Scans m cs l ts cur → scanned m cs l = .ok (ts, cur)
  | _, _, _, _, _, .blank hb hr => by
    rw [← hr.scanned_eq_ok, scanned_eq, scanned_eq]
    simp [Cursor.spanFrom, hb]
  | _, _, _, _, _, .finish => by
    rw [scanned_eq]; rfl
  | _, _, _, _, _, .stop hs => by
    rw [scanned_of_not_blank (stopsAt_not_blank hs)]
    simp [scannedAt, hs]
  | m, _, l, _, _, .punctuation hp hr => by
    obtain ⟨c, rest, rfl, hm⟩ := punctuation?_eq_some hp
    obtain ⟨hb, hbrace⟩ := mark_not_blank c (by simp [hm])
    rw [scanned_of_not_blank hb]
    simp [scannedAt, stopsAt_eq_false hbrace m, hp, hr.scanned_eq_ok, Except.map, prepend]
  | m, _, l, _, _, .quoted (q := q) hq hrun hr => by
    have hmem : q ∈ Word.quotes := by simpa using hq
    obtain ⟨hb, hbrace⟩ := mark_not_blank q (List.mem_append_left _ hmem)
    rw [scanned_of_not_blank hb]
    simp only [scannedAt, stopsAt_eq_false hbrace m,
      punctuation?_eq_none (quote_not_punctuation q hmem), hq, Bool.false_eq_true, ↓reduceIte,
      hrun.scannedQuoted_eq_ok l, hr.scanned_eq_ok]
    rfl
  | m, _, l, _, _, .word (c := c) (w := w) hq hall hsep hr => by
    have hc := hall c (by simp)
    have hstop : m.stopsAt c = false ∧ Word.isWordChar c = true := by
      simpa [Mode.isWordChar, and_comm] using hc
    have hb : Text.isBlank c = false := by
      have := hstop.2
      simp only [Word.isWordChar, Bool.and_eq_true, Bool.not_eq_true'] at this
      exact this.1.1
    have hw : ∀ d ∈ w, m.isWordChar d = true := fun d hd => hall d (by simp [hd])
    have hspan := spanFrom_append (l.advance c) hw hsep
    rw [List.cons_append, scanned_of_not_blank hb]
    simp only [scannedAt, hstop.1, punctuation?_eq_none (isWordChar_not_punctuation hstop.2), hq,
      hc, hspan, Bool.false_eq_true, ↓reduceIte]
    have hrec := hr.scanned_eq_ok
    rw [advanceAll_cons] at hrec
    rw [hrec]
    rfl

theorem ScansQuoted.scannedQuoted_eq_ok : ∀ {q : Char} {cs : List Char} {l : Location}
    {body : QuotedBody} {cur : Cursor}, ScansQuoted q cs l body cur → ∀ start,
    scannedQuoted q start cs l = .ok (body, cur)
  | _, _, _, _, _, .close, start => by
    rw [scannedQuoted_cons]; simp
  | _, _, _, _, _, .escape hq hr, start => by
    rw [scannedQuoted_cons]
    simp only [Ne.symm hq, ↓reduceIte, hr.scannedQuoted_eq_ok start]
    rfl
  | _, _, _, _, _, .interpolation hq hline hr, start => by
    rw [scannedQuoted_cons]
    simp only [Ne.symm hq, ↓reduceIte, Char.reduceEq, hline.scanned_eq_ok,
      hr.scannedQuoted_eq_ok start]
    rfl
  | _, _, _, _, _, .plain hq hesc hbrace hr, start => by
    rw [scannedQuoted_cons]
    simp only [hq, hesc, hbrace, ↓reduceIte, hr.scannedQuoted_eq_ok start]
    rfl

end

/-- **A scan reads exactly what the rules allow.** -/
theorem scanned_eq_ok_iff {m : Mode} {cs : List Char} {l : Location} {ts : List Token}
    {cur : Cursor} : scanned m cs l = .ok (ts, cur) ↔ Scans m cs l ts cur :=
  ⟨(followsBelow (cs.length + 1)).tokens m cs l ts cur (by omega), Scans.scanned_eq_ok⟩

/-- The tokens of a line. -/
theorem ofLine_eq_ok_iff {line : String} {ts : List Token} :
    ofLine line = .ok ts ↔ ∃ cur, Scans .line line.toList .start ts cur := by
  simp only [← scanned_eq_ok_iff, ofLine, scanned]
  cases scan .line line.toList .start with
  | error e => simp [Except.map]
  | ok r => simp [Except.map]

end CommandShell.Token
