import CommandShell.Proofs.Grammar.Basic
import CommandShell.Proofs.Token.Scans

/-!
# Sources in other places

The tokens of a source do not hang on where it stands, nor on what stands behind it, as long as that
does not go on with its last token.

* `Token.unplaced`       : a token without the places in it;
* `Detached`             : a source that does not go on with a token before it;
* `Scans.elsewhere`      : the tokens of a source are read again in another place;
* `Derives.of_unplaced`  : the tree of a phrase does not hang on the places of its tokens.
-/

namespace CommandShell

namespace Token

mutual

/-- A token without the places in it. -/
def unplaced : Token → Token
  | .plain k text q _ => .plain k text q .nowhere
  | .compound k text q _ ps => .compound k text q .nowhere (unplacedAll ps)

/-- Tokens without the places in them. -/
def unplacedAll : List Token → List Token
  | [] => []
  | t :: ts => unplaced t :: unplacedAll ts

end

@[simp] theorem unplacedAll_eq_map (ts : List Token) : unplacedAll ts = ts.map unplaced := by
  induction ts with
  | nil => rfl
  | cons t ts ih => simp [unplacedAll, ih]

theorem unplaced_kind (t : Token) : t.unplaced.kind = t.kind := by
  cases t <;> rfl

theorem unplaced_text (t : Token) : t.unplaced.text = t.text := by
  cases t <;> rfl

theorem unplaced_pieces (t : Token) : t.unplaced.pieces = t.pieces.map (List.map unplaced) := by
  cases t <;> simp [unplaced, pieces]

/-! ## What stands behind a source -/

/-- A source that goes on neither with a word nor with a run of `>` before it. -/
def Detached (m : Mode) (cs : List Char) : Prop :=
  Separated m cs ∧ ∀ rest, cs ≠ '>' :: rest

theorem detached_nil (m : Mode) : Detached m [] :=
  ⟨separated_nil m, by simp⟩

theorem detached_blank (m : Mode) (cs : List Char) : Detached m (' ' :: cs) :=
  ⟨separated_cons (by cases m <;> decide), by simp⟩

theorem detached_of_stopsAt {m : Mode} {c : Char} (h : m.stopsAt c = true) (cs : List Char) :
    Detached m (c :: cs) := by
  refine ⟨separated_cons (by simp [Mode.isWordChar, h]), ?_⟩
  rintro rest ⟨⟩
  cases m <;> simp [Mode.stopsAt] at h

/-- Characters that are followed by detached ones may be followed by others. -/
theorem Separated.append {m : Mode} {cs ds es : List Char} (h : Separated m (cs ++ ds))
    (he : Separated m es) : Separated m (cs ++ es) := by
  cases cs with
  | nil => exact he
  | cons c cs =>
    intro c' rest heq
    cases heq
    exact h c _ rfl

theorem punctuation?_eq_append {cs after : List Char} {k : Kind}
    (h : punctuation? cs = some (k, after)) : cs = k.symbol.toList ++ after := by
  unfold punctuation? at h
  split at h <;> cases h <;> rfl

theorem punctuation?_kind {cs after : List Char} {k : Kind}
    (h : punctuation? cs = some (k, after)) : k ≠ .endOfInput := by
  unfold punctuation? at h
  split at h <;> cases h <;> decide

/-- A run of one or two `>` ends where no other follows. -/
theorem punctuation?_angles {cs : List Char} (h : ∀ rest, cs ≠ '>' :: rest) :
    punctuation? ('>' :: cs) = some (.rightAngle, cs) ∧
      punctuation? ('>' :: '>' :: cs) = some (.doubleRightAngle, cs) := by
  cases cs with
  | nil => exact ⟨rfl, rfl⟩
  | cons c cs =>
    have hc : c ≠ '>' := by rintro rfl; exact h cs rfl
    constructor <;> (unfold punctuation?; split <;> grind)

/-- Punctuation is read again unless a `>` behind it is new. -/
theorem punctuation?_followed {cs after after' : List Char} {k : Kind}
    (h : punctuation? cs = some (k, after))
    (hnew : ∀ rest, after' = '>' :: rest → ∃ rest', after = '>' :: rest') :
    punctuation? (k.symbol.toList ++ after') = some (k, after') := by
  unfold punctuation? at h
  split at h <;> cases h <;> try rfl
  · rename_i hno
    refine (punctuation?_angles fun rest heq => ?_).2
    obtain ⟨rest', rfl⟩ := hnew rest heq
    exact hno rest' rfl
  · rename_i hno
    refine (punctuation?_angles fun rest heq => ?_).1
    obtain ⟨rest', rfl⟩ := hnew rest heq
    exact hno rest' rfl

/-- Another source goes on with what is before it only if the first does. -/
def Resumes (m : Mode) (cs cs' : List Char) : Prop :=
  (Separated m cs → Separated m cs') ∧ ∀ rest, cs' = '>' :: rest → ∃ rest', cs = '>' :: rest'

theorem Detached.resumes {m : Mode} {rest : List Char} (h : Detached m rest) (used stop : List Char) :
    Resumes m (used ++ stop) (used ++ rest) := by
  refine ⟨fun hs => hs.append h.1, fun tail heq => ?_⟩
  cases used with
  | nil => exact absurd heq (h.2 tail)
  | cons c used => cases heq; exact ⟨_, rfl⟩

/-! ## Reading again -/

/-- The tokens of a source, up to what a scan of it leaves, are those of its front wherever it stands
and whatever detached source follows. -/
def ReadsAgain (m : Mode) (cs : List Char) (ts : List Token) (stop : List Char) : Prop :=
  ∃ used inner l, cs = used ++ stop ∧ ts = inner ++ [endMark l] ∧ Grammar.NoEndMark inner ∧
    ∀ (l' : Location) (rest : List Char) (us : List Token) (cur : Cursor), Detached m rest →
      Scans m rest (l'.advanceAll used) us cur →
      ∃ inner', Scans m (used ++ rest) l' (inner' ++ us) cur ∧
        inner'.map unplaced = inner.map unplaced

/-- The body of a quoted run is that of its front wherever it stands and whatever follows. -/
def RunsAgain (q : Char) (cs : List Char) (body : QuotedBody) (stop : List Char) : Prop :=
  ∃ used, cs = used ++ stop ∧ ∀ (l' : Location) (rest : List Char), ∃ body',
    ScansQuoted q (used ++ rest) l' body' ⟨rest, l'.advanceAll used⟩ ∧ body'.first = body.first ∧
      body'.more.map unplaced = body.more.map unplaced

theorem readsAgain_nil (m : Mode) (l : Location) (stop : List Char) :
    ReadsAgain m stop [endMark l] stop :=
  ⟨[], [], l, rfl, rfl, by simp, fun _ _ _ _ _ h => ⟨[], h, rfl⟩⟩

theorem ReadsAgain.blank {m : Mode} {c : Char} {cs stop : List Char} {ts : List Token}
    (hc : Text.isBlank c = true) (h : ReadsAgain m cs ts stop) : ReadsAgain m (c :: cs) ts stop := by
  obtain ⟨used, inner, l, rfl, rfl, hno, hagain⟩ := h
  refine ⟨c :: used, inner, l, rfl, rfl, hno, fun l' rest us cur hrest hs => ?_⟩
  obtain ⟨inner', hs', heq⟩ := hagain (l'.advance c) rest us cur hrest hs
  exact ⟨inner', .blank hc hs', heq⟩

/-- A token before others that are read again. -/
theorem ReadsAgain.token {m : Mode} {w cs stop : List Char} {t : Token} {ts : List Token}
    (h : ReadsAgain m cs ts stop) (hk : t.kind ≠ .endOfInput)
    (ht : ∀ (l : Location) (cs' : List Char) (us : List Token) (cur : Cursor), Resumes m cs cs' →
      Scans m cs' (l.advanceAll w) us cur →
      ∃ t', Scans m (w ++ cs') l (t' :: us) cur ∧ t'.unplaced = t.unplaced) :
    ReadsAgain m (w ++ cs) (t :: ts) stop := by
  obtain ⟨used, inner, l, rfl, rfl, hno, hagain⟩ := h
  refine ⟨w ++ used, t :: inner, l, by simp, rfl, by simp [hk, hno], fun l' rest us cur hrest hs => ?_⟩
  obtain ⟨inner', hs', heq⟩ := hagain (l'.advanceAll w) rest us cur hrest (by simpa using hs)
  obtain ⟨t', hs'', heq'⟩ := ht l' _ _ _ (hrest.resumes used stop) hs'
  exact ⟨t' :: inner', by simpa using hs'', by simp [heq, heq']⟩

theorem unplaced_token {b b' : QuotedBody} (hf : b'.first = b.first)
    (hm : b'.more.map unplaced = b.more.map unplaced) (l i s l' i' s' : Location) :
    (b'.token l' i' s').unplaced = (b.token l i s).unplaced := by
  have hempty : b'.more.isEmpty = b.more.isEmpty := by
    have := congrArg List.isEmpty hm
    simpa using this
  unfold QuotedBody.token
  rw [hempty]
  split
  · simp [unplaced, hf]
  · simp [unplaced, hf, hm]

theorem ReadsAgain.quoted {m : Mode} {q : Char} {cs stop after : List Char} {body : QuotedBody}
    {ts : List Token} (hq : Word.quotes.contains q = true) (hrun : RunsAgain q cs body after)
    (h : ReadsAgain m after ts stop) (l i s : Location) :
    ReadsAgain m (q :: cs) (body.token l i s :: ts) stop := by
  obtain ⟨used, rfl, hagain⟩ := hrun
  have hk : (body.token l i s).kind ≠ .endOfInput := by
    unfold QuotedBody.token
    split <;> simp [kind]
  refine h.token (w := q :: used) hk fun l' cs' us cur _ hs => ?_
  obtain ⟨body', hrun', hf, hm⟩ := hagain (l'.advance q) cs'
  exact ⟨_, .quoted hq hrun' hs, unplaced_token hf hm ..⟩

theorem RunsAgain.chars {q : Char} {w cs stop : List Char} {body : QuotedBody} {d : Char}
    (h : RunsAgain q cs body stop)
    (hd : ∀ (l : Location) (cs' : List Char) (body' : QuotedBody) (cur : Cursor),
      ScansQuoted q cs' (l.advanceAll w) body' cur →
      ScansQuoted q (w ++ cs') l ⟨d :: body'.first, body'.firstStop, body'.more⟩ cur) :
    RunsAgain q (w ++ cs) ⟨d :: body.first, body.firstStop, body.more⟩ stop := by
  obtain ⟨used, rfl, hagain⟩ := h
  refine ⟨w ++ used, by simp, fun l' rest => ?_⟩
  obtain ⟨body', hrun, hf, hm⟩ := hagain (l'.advanceAll w) rest
  rw [List.append_assoc, advanceAll_append]
  exact ⟨_, hd l' _ _ _ hrun, by simp [hf], hm⟩

/-- A line between braces before the rest of a quoted run. -/
theorem RunsAgain.interpolation {q d : Char} {cs after stop : List Char} {inner : List Token}
    {body : QuotedBody} (hq : q ≠ '\x7b') (hd : Mode.braces.stopsAt d = true)
    (hline : ReadsAgain .braces cs inner (d :: after)) (h : RunsAgain q after body stop)
    (l : Location) (sp sp' : Span) :
    RunsAgain q ('\x7b' :: cs)
      ⟨[], l, .compound .interpolation none false sp inner ::
        .plain .string (some (String.ofList body.first)) false sp' :: body.more⟩ stop := by
  obtain ⟨used, tokens, lm, rfl, rfl, -, hagain⟩ := hline
  obtain ⟨used', rfl, hagain'⟩ := h
  refine ⟨'\x7b' :: used ++ d :: used', by simp, fun l' rest => ?_⟩
  obtain ⟨body', hrun, hf, hm⟩ := hagain' (((l'.advance '\x7b').advanceAll used).advance d) rest
  obtain ⟨tokens', hs, heq⟩ := hagain (l'.advance '\x7b') (d :: (used' ++ rest)) _ _
    (detached_of_stopsAt hd _) (.stop hd)
  simp only [List.cons_append, List.append_assoc, advanceAll_cons, advanceAll_append]
  exact ⟨_, .interpolation hq hs hrun, rfl, by simp [unplaced, hf, hm, heq, endMark]⟩

/-- A scan that leaves something stops at it. -/
theorem Scans.stopsAt : ∀ {m : Mode} {cs : List Char} {l : Location} {ts : List Token} {cur : Cursor},
    Scans m cs l ts cur → ∀ {d : Char} {after : List Char}, cur.rest = d :: after →
      m.stopsAt d = true
  | _, _, _, _, _, .blank _ hr, _, _, h => hr.stopsAt h
  | _, _, _, _, _, .finish, _, _, h => by cases h
  | _, _, _, _, _, .stop hs, _, _, h => by cases h; exact hs
  | _, _, _, _, _, .punctuation _ hr, _, _, h => hr.stopsAt h
  | _, _, _, _, _, .quoted _ _ hr, _, _, h => hr.stopsAt h
  | _, _, _, _, _, .word _ _ _ hr, _, _, h => hr.stopsAt h

mutual

/-- **The tokens of a source are read again in another place.** -/
theorem Scans.elsewhere : ∀ {m : Mode} {cs : List Char} {l : Location} {ts : List Token}
    {cur : Cursor}, Scans m cs l ts cur → ReadsAgain m cs ts cur.rest
  | _, _, _, _, _, .blank hb hr => hr.elsewhere.blank hb
  | m, _, l, _, _, .finish => readsAgain_nil m l []
  | m, _, l, _, _, .stop _ => readsAgain_nil m l _
  | _, _, _, _, _, .punctuation hp hr => by
    rw [punctuation?_eq_append hp]
    refine hr.elsewhere.token (punctuation?_kind hp) fun l' cs' us cur' hres hs => ?_
    exact ⟨_, .punctuation (punctuation?_followed hp hres.2) hs, rfl⟩
  | _, _, _, _, _, .quoted hq hrun hr => hr.elsewhere.quoted hq hrun.elsewhere _ _ _
  | _, _, _, _, _, .word hq hall hsep hr =>
    hr.elsewhere.token (by simp [kind]) fun l' cs' us cur' hres hs => ⟨_, .word hq hall (hres.1 hsep) hs, rfl⟩

theorem ScansQuoted.elsewhere : ∀ {q : Char} {cs : List Char} {l : Location} {body : QuotedBody}
    {cur : Cursor}, ScansQuoted q cs l body cur → RunsAgain q cs body cur.rest
  | q, _, _, _, _, .close => ⟨[q], rfl, fun _ _ => ⟨_, .close, rfl, rfl⟩⟩
  | _, _, _, _, _, .escape (d := d) hq hr =>
    hr.elsewhere.chars (w := ['\\', d]) fun _ _ _ _ h => .escape hq h
  | _, _, _, _, _, .interpolation hq hline hr =>
    hr.elsewhere.interpolation hq (hline.stopsAt rfl) hline.elsewhere _ _ _
  | _, _, _, _, _, .plain (c := c) hq hesc hbrace hr =>
    hr.elsewhere.chars (w := [c]) fun _ _ _ _ h => .plain hq hesc hbrace h

end

end Token

namespace Grammar

open Token

/-! ## Phrases in other places -/

theorem kind_of_unplaced {t u : Token} (h : t.unplaced = u.unplaced) : t.kind = u.kind := by
  rw [← unplaced_kind t, h, unplaced_kind]

theorem text_of_unplaced {t u : Token} (h : t.unplaced = u.unplaced) : t.text = u.text := by
  rw [← unplaced_text t, h, unplaced_text]

theorem literal_of_unplaced {t u : Token} (h : t.unplaced = u.unplaced) : t.literal = u.literal := by
  rw [Token.literal, text_of_unplaced h, Token.literal]

theorem pieces_of_unplaced {t u : Token} (h : t.unplaced = u.unplaced) :
    t.pieces.map (List.map unplaced) = u.pieces.map (List.map unplaced) := by
  rw [← unplaced_pieces t, h, unplaced_pieces]

theorem pieces_eq_none_of_unplaced {t u : Token} (h : t.unplaced = u.unplaced)
    (hu : u.pieces = none) : t.pieces = none := by
  have := pieces_of_unplaced h
  rw [hu] at this
  simpa using this

theorem pieces_eq_some_of_unplaced {t u : Token} {ps : List Token} (h : t.unplaced = u.unplaced)
    (hu : u.pieces = some ps) :
    ∃ ps', t.pieces = some ps' ∧ ps'.map unplaced = ps.map unplaced := by
  have := pieces_of_unplaced h
  rw [hu] at this
  simpa using this

theorem append_of_unplaced {ts us vs : List Token}
    (h : ts.map unplaced = (us ++ vs).map unplaced) :
    ∃ us' vs', ts = us' ++ vs' ∧ us'.map unplaced = us.map unplaced ∧
      vs'.map unplaced = vs.map unplaced := by
  rw [List.map_append] at h
  exact List.map_eq_append_iff.mp h

theorem cons_of_unplaced {ts us : List Token} {u : Token}
    (h : ts.map unplaced = (u :: us).map unplaced) :
    ∃ u' us', ts = u' :: us' ∧ u'.unplaced = u.unplaced ∧ us'.map unplaced = us.map unplaced := by
  rw [List.map_cons] at h
  exact List.map_eq_cons_iff.mp h

theorem singleton_of_unplaced {ts : List Token} {u : Token}
    (h : ts.map unplaced = [u].map unplaced) : ∃ u', ts = [u'] ∧ u'.unplaced = u.unplaced := by
  obtain ⟨u', us', rfl, hu, hus⟩ := cons_of_unplaced h
  obtain rfl : us' = [] := by simpa using hus
  exact ⟨u', rfl, hu⟩

theorem noEndMark_of_unplaced {ts us : List Token} (h : ts.map unplaced = us.map unplaced)
    (hu : NoEndMark us) : NoEndMark ts := by
  intro t ht
  have hmem : t.unplaced ∈ us.map unplaced := by
    rw [← h]
    exact List.mem_map_of_mem ht
  obtain ⟨u, hmemu, heq⟩ := List.mem_map.mp hmem
  rw [← kind_of_unplaced heq]
  exact hu u hmemu

/-- **The tree of a phrase does not hang on the places of its tokens.** -/
theorem Derives.of_unplaced {p : Phrase} {us : List Token} {t : Segment} (h : Derives p us t) :
    ∀ ts : List Token, ts.map unplaced = us.map unplaced → Derives p ts t := by
  induction h with
  | single _ ih => exact fun ts hts => .single (ih ts hts)
  | join stop _ hop _ ihl ihr =>
    intro ts hts
    obtain ⟨ls, os, rfl, hl, hos⟩ := append_of_unplaced hts
    obtain ⟨o, rs, rfl, ho, hr⟩ := cons_of_unplaced hos
    exact .join stop (ihl ls hl) ((kind_of_unplaced ho).trans hop) (ihr rs hr)
  | operand _ ih => exact fun ts hts => .operand (ih ts hts)
  | pipe _ hop _ ihl ihr =>
    intro ts hts
    obtain ⟨ls, os, rfl, hl, hos⟩ := append_of_unplaced hts
    obtain ⟨o, rs, rfl, ho, hr⟩ := cons_of_unplaced hos
    exact .pipe (ihl ls hl) ((kind_of_unplaced ho).trans hop) (ihr rs hr)
  | redirect mode _ hop _ ihl ihd =>
    intro ts hts
    obtain ⟨ls, os, rfl, hl, hos⟩ := append_of_unplaced hts
    obtain ⟨o, ds, rfl, ho, hd⟩ := cons_of_unplaced hos
    exact .redirect mode (ihl ls hl) ((kind_of_unplaced ho).trans hop) (ihd ds hd)
  | bare hk hw =>
    intro ts hts
    obtain ⟨u, rfl, hu⟩ := singleton_of_unplaced hts
    rw [← literal_of_unplaced hu]
    exact .bare ((kind_of_unplaced hu).trans hk) (pieces_eq_none_of_unplaced hu hw)
  | string hps _ ih =>
    intro ts hts
    obtain ⟨u, rfl, hu⟩ := singleton_of_unplaced hts
    obtain ⟨ps, hps', -⟩ := pieces_eq_some_of_unplaced hu hps
    exact .string hps' (ih _ hts)
  | command _ ih => exact fun ts hts => .command (ih ts hts)
  | reference _ ih => exact fun ts hts => .reference (ih ts hts)
  | firstArgument _ _ ihh iha =>
    intro ts hts
    obtain ⟨hs, as, rfl, hh, ha⟩ := append_of_unplaced hts
    exact .firstArgument (ihh hs hh) (iha as ha)
  | nextArgument _ _ ihc iha =>
    intro ts hts
    obtain ⟨cs, as, rfl, hc, ha⟩ := append_of_unplaced hts
    exact .nextArgument (ihc cs hc) (iha as ha)
  | valueWord _ ih => exact fun ts hts => .valueWord (ih ts hts)
  | valueReference _ ih => exact fun ts hts => .valueReference (ih ts hts)
  | text hk hw =>
    intro ts hts
    obtain ⟨u, rfl, hu⟩ := singleton_of_unplaced hts
    rw [← literal_of_unplaced hu]
    exact .text ((kind_of_unplaced hu).trans hk) (pieces_eq_none_of_unplaced hu hw)
  | interpolation hk hps _ ih =>
    intro ts hts
    obtain ⟨u, rfl, hu⟩ := singleton_of_unplaced hts
    obtain ⟨ps, hps', heq⟩ := pieces_eq_some_of_unplaced hu hps
    exact .interpolation ((kind_of_unplaced hu).trans hk) hps' (ih ps heq)
  | substitution hd ho _ hc ih =>
    intro ts hts
    obtain ⟨d, us, rfl, hd', hus⟩ := cons_of_unplaced hts
    obtain ⟨o, vs, rfl, ho', hvs⟩ := cons_of_unplaced hus
    obtain ⟨is, cs, rfl, hi, hcs⟩ := append_of_unplaced hvs
    obtain ⟨c, rfl, hc'⟩ := singleton_of_unplaced hcs
    exact .substitution ((kind_of_unplaced hd').trans hd) ((kind_of_unplaced ho').trans ho)
      (ih is hi) ((kind_of_unplaced hc').trans hc)
  | inScope hd hk htext hn =>
    intro ts hts
    obtain ⟨d, us, rfl, hd', hus⟩ := cons_of_unplaced hts
    obtain ⟨u, rfl, hu⟩ := singleton_of_unplaced hus
    exact .inScope ((kind_of_unplaced hd').trans hd) ((kind_of_unplaced hu).trans hk)
      ((text_of_unplaced hu).trans htext) hn
  | inDefault hd hk htext hn =>
    intro ts hts
    obtain ⟨d, us, rfl, hd', hus⟩ := cons_of_unplaced hts
    obtain ⟨u, rfl, hu⟩ := singleton_of_unplaced hus
    exact .inDefault ((kind_of_unplaced hd').trans hd) ((kind_of_unplaced hu).trans hk)
      ((text_of_unplaced hu).trans htext) hn
  | noPieces =>
    intro ts hts
    obtain rfl : ts = [] := by simpa using hts
    exact .noPieces
  | textPiece hk _ ih =>
    intro ts hts
    obtain ⟨u, us, rfl, hu, hus⟩ := cons_of_unplaced hts
    rw [← literal_of_unplaced hu]
    exact .textPiece ((kind_of_unplaced hu).symm ▸ hk) (ih us hus)
  | linePiece hk hps hm hb _ _ ihl ih =>
    intro ts hts
    obtain ⟨u, us, rfl, hu, hus⟩ := cons_of_unplaced hts
    obtain ⟨inner, hps', hin⟩ := pieces_eq_some_of_unplaced hu hps
    obtain ⟨before, ms, rfl, hbefore, hms⟩ := append_of_unplaced hin
    obtain ⟨mark, after, rfl, hmark, -⟩ := cons_of_unplaced hms
    exact .linePiece ((kind_of_unplaced hu).trans hk) hps' ((kind_of_unplaced hmark).trans hm)
      (noEndMark_of_unplaced hbefore hb) (ihl before hbefore) (ih us hus)

end Grammar

end CommandShell
