import CommandShell.Proofs.Segment.RoundTrip
import CommandShell.Proofs.Token.Braces

/-!
# Quoting

A text that is written as a word is read as one word that has the text, whatever characters are in it.
So the strings of a tree are nothing but texts in its source text: with other strings in their places
the tokens have the same kinds, and the same pieces.

* `Token.lone`               : the tokens of a source that is one word;
* `Scans.bareUnlessQuoted`   : a word that is read without quotes is bare;
* `Token.skeleton`           : the kinds of a token and of its pieces;
* `Segment.mapStrings`       : a tree with other strings;
* `sameKinds_renderAs`       : its source text has tokens of the same kinds;
* `Word.reads_as_one_word`   : words, in both modes of a scan and in the source text of a tree.
-/

namespace CommandShell

namespace Token

/-! ## Sources that are one word -/

/-- The tokens of a source that begins at the location and is one word, which is written as `written`
and has the text. -/
def lone (text : String) (quoted : Bool) (written : String) (l : Location) : List Token :=
  [.plain .string (some text) quoted ⟨l, l.advanceAll written.toList⟩,
    endMark (l.advanceAll written.toList)]

theorem text_of_lone {text text' written written' : String} {quoted quoted' : Bool}
    {l l' : Location} (h : lone text quoted written l = lone text' quoted' written' l') :
    text = text' := by
  simp only [lone, List.cons.injEq, plain.injEq, Option.some.injEq] at h
  exact h.1.2.1

theorem ofLine_escape (s : String) :
    ofLine (Word.escape s) =
      .ok (lone s (decide (Word.escape s ≠ s)) (Word.escape s) .start) := by
  have hscan := scans_escape (m := .line) (l := .start) s (separated_nil _) .finish
  rw [List.append_nil] at hscan
  exact ofLine_eq_ok_iff.mpr ⟨_, hscan⟩

theorem ofLine_quote (s : String) :
    ofLine (Word.quote s) = .ok (lone s true (Word.quote s) .start) := by
  have hscan := scans_quote (m := .line) (l := .start) s .finish
  rw [List.append_nil] at hscan
  exact ofLine_eq_ok_iff.mpr ⟨_, hscan⟩

/-- Between braces a word ends where they close. -/
theorem ofBraces_escape (s r : String) (l : Location) :
    ofBraces ⟨(Word.escape s ++ "\x7d" ++ r).toList, l⟩ =
      .ok (lone s (decide (Word.escape s ≠ s)) (Word.escape s) l,
        ⟨'\x7d' :: r.toList, l.advanceAll (Word.escape s).toList⟩) := by
  have hsep : Separated .braces ('\x7d' :: r.toList) := separated_cons (by decide)
  have hscan := scans_escape (l := l) s hsep (.stop (by decide))
  have hchars : (Word.escape s ++ "\x7d" ++ r).toList =
      (Word.escape s).toList ++ '\x7d' :: r.toList := by simp
  rw [hchars, ofBraces_eq_ok_iff]
  exact hscan

theorem escape_injective : Function.Injective Word.escape := by
  intro s s' h
  have hs := ofLine_escape s
  rw [h, ofLine_escape s'] at hs
  exact (text_of_lone (Except.ok.inj hs)).symm

theorem quote_injective : Function.Injective Word.quote := by
  intro s s' h
  have hs := ofLine_quote s
  rw [h, ofLine_quote s'] at hs
  exact (text_of_lone (Except.ok.inj hs)).symm

/-! ## Bare words -/

/-- If the token is a word without quotes, its text is bare. -/
def BareUnlessQuoted (t : Token) : Prop :=
  t.kind = .string → t.quoted = false → Word.isBare t.literal = true

theorem bareUnlessQuoted_endMark (l : Location) : BareUnlessQuoted (endMark l) := by
  intro hk
  cases hk

theorem bareUnlessQuoted_punctuation {cs after : List Char} {k : Kind}
    (h : punctuation? cs = some (k, after)) (sp : Span) :
    BareUnlessQuoted (.plain k (some k.symbol) false sp) := by
  intro hk
  unfold punctuation? at h
  split at h <;> cases h <;> cases hk

theorem QuotedBody.bareUnlessQuoted_token (b : QuotedBody) (start inside stop : Location) :
    BareUnlessQuoted (b.token start inside stop) := by
  intro _ hq
  unfold QuotedBody.token at hq
  split at hq <;> cases hq

theorem bareUnlessQuoted_word {m : Mode} {c : Char} {w : List Char}
    (hq : Word.quotes.contains c = false) (hall : ∀ d ∈ c :: w, m.isWordChar d = true) (sp : Span) :
    BareUnlessQuoted (.plain .string (some (String.ofList (c :: w))) false sp) := by
  intro _ _
  have hword : ∀ d ∈ c :: w, Word.isWordChar d = true := by
    intro d hd
    rw [← isWordChar_line]
    exact isWordChar_line_of (hall d hd)
  simp only [literal, text, Option.getD_some, Word.isBare, String.toList_ofList, Word.isBareChars,
    Bool.and_eq_true, Bool.not_eq_true', List.all_eq_true]
  exact ⟨hq, hword⟩

/-- **A word that is read without quotes is bare.** -/
theorem Scans.bareUnlessQuoted {m : Mode} {cs : List Char} {l : Location} {ts : List Token}
    {cur : Cursor} (h : Scans m cs l ts cur) : ∀ t ∈ ts, BareUnlessQuoted t := by
  match h with
  | .blank _ hr => exact hr.bareUnlessQuoted
  | .finish => exact List.forall_mem_singleton.mpr (bareUnlessQuoted_endMark _)
  | .stop _ => exact List.forall_mem_singleton.mpr (bareUnlessQuoted_endMark _)
  | .punctuation hp hr =>
    exact List.forall_mem_cons.mpr ⟨bareUnlessQuoted_punctuation hp _, hr.bareUnlessQuoted⟩
  | .quoted _ _ hr =>
    exact List.forall_mem_cons.mpr
      ⟨QuotedBody.bareUnlessQuoted_token _ _ _ _, hr.bareUnlessQuoted⟩
  | .word hq hall _ hr =>
    exact List.forall_mem_cons.mpr ⟨bareUnlessQuoted_word hq hall _, hr.bareUnlessQuoted⟩

/-- A text is bare exactly if a line of nothing else is one word without quotes that has the text. -/
theorem isBare_iff_ofLine (s : String) :
    Word.isBare s = true ↔ ∃ span mark, ofLine s =
      .ok [.plain .string (some s) false span, .plain .endOfInput none false mark] := by
  constructor
  · intro h
    have hscan := scans_bare (m := .line) (l := .start) h (fun _ _ => rfl) (separated_nil _) .finish
    rw [List.append_nil] at hscan
    exact ⟨_, _, ofLine_eq_ok_iff.mpr ⟨_, hscan⟩⟩
  · rintro ⟨span, mark, h⟩
    obtain ⟨cur, hscan⟩ := ofLine_eq_ok_iff.mp h
    exact hscan.bareUnlessQuoted _ List.mem_cons_self rfl rfl

/-! ## Kinds of tokens -/

mutual

/-- The kinds of a token and of its pieces, without texts, quotes and places. -/
def skeleton : Token → Token
  | .plain k _ _ _ => .plain k none false .nowhere
  | .compound k _ _ _ ps => .compound k none false .nowhere (skeletonAll ps)

/-- The kinds of tokens. -/
def skeletonAll : List Token → List Token
  | [] => []
  | t :: ts => skeleton t :: skeletonAll ts

end

@[simp] theorem skeletonAll_eq_map (ts : List Token) : skeletonAll ts = ts.map skeleton := by
  induction ts with
  | nil => rfl
  | cons t ts ih => simp [skeletonAll, ih]

@[simp] theorem skeleton_plain (k : Kind) (text : Option String) (q : Bool) (sp : Span) :
    (Token.plain k text q sp).skeleton = .plain k none false .nowhere := rfl

/-- The skeleton of a string whose further pieces have the skeletons. -/
def stringSkeleton (ks : List Token) : Token :=
  if ks.isEmpty then .plain .string none false .nowhere
  else .compound .string none false .nowhere (.plain .string none false .nowhere :: ks)

theorem skeleton_token (b : QuotedBody) (start inside stop : Location) :
    (b.token start inside stop).skeleton = stringSkeleton (b.more.map skeleton) := by
  obtain ⟨first, firstStop, more⟩ := b
  cases more with
  | nil => rfl
  | cons p ps => simp [QuotedBody.token, stringSkeleton, skeleton]

end Token

open Segment Token

/-- Two source texts yield tokens of the same kinds, wherever they stand. -/
def SameKinds (s s' : String) : Prop :=
  ∃ ks, Yields (fun ts => ts.map skeleton = ks) s.toList ∧
    Yields (fun ts => ts.map skeleton = ks) s'.toList

/-- Between double quotes, two source texts yield further pieces of the same kinds. -/
def SameRuns (s s' : String) : Prop :=
  ∃ ks, YieldsRun (fun b => b.more.map skeleton = ks) s.toList ∧
    YieldsRun (fun b => b.more.map skeleton = ks) s'.toList

/-- The tokens of two lines. -/
theorem SameKinds.ofLine {s s' : String} (h : SameKinds s s') :
    ∃ ts us, Token.ofLine s = .ok ts ∧ Token.ofLine s' = .ok us ∧
      us.map skeleton = ts.map skeleton := by
  obtain ⟨ks, hs, hs'⟩ := h
  obtain ⟨ts, l, hts, hks⟩ := hs.ofLine
  obtain ⟨us, l', hus, hks'⟩ := hs'.ofLine
  have hkinds : us.map skeleton = ts.map skeleton := hks'.trans hks.symm
  exact ⟨_, _, hts, hus, by simp [hkinds, endMark]⟩

/-! ## Putting source texts together -/

theorem SameKinds.operator {l l' r r' op : String} {k : Kind}
    (hop : op.toList = ' ' :: k.symbol.toList ++ [' '])
    (hp : ∀ rest, punctuation? (k.symbol.toList ++ ' ' :: rest) = some (k, ' ' :: rest))
    (hl : SameKinds l l') (hr : SameKinds r r') : SameKinds (l ++ op ++ r) (l' ++ op ++ r') := by
  obtain ⟨ks, hl, hl'⟩ := hl
  obtain ⟨js, hr, hr'⟩ := hr
  have hkinds : ∀ (ts us : List Token) sp, ts.map skeleton = ks → us.map skeleton = js →
      (ts ++ .plain k (some k.symbol) false sp :: us).map skeleton =
        ks ++ .plain k none false .nowhere :: js := by
    rintro ts us sp rfl rfl
    simp
  have hchars : ∀ a b : String,
      (a ++ op ++ b).toList = a.toList ++ (' ' :: k.symbol.toList ++ ' ' :: b.toList) := by
    simp [hop]
  unfold SameKinds
  rw [hchars, hchars]
  exact ⟨_, hl.operator rfl hp hr hkinds, hl'.operator rfl hp hr' hkinds⟩

theorem SameKinds.spaced {l l' r r' : String} (hl : SameKinds l l') (hr : SameKinds r r') :
    SameKinds (l ++ " " ++ r) (l' ++ " " ++ r') := by
  obtain ⟨ks, hl, hl'⟩ := hl
  obtain ⟨js, hr, hr'⟩ := hr
  have hkinds : ∀ ts us : List Token, ts.map skeleton = ks → us.map skeleton = js →
      (ts ++ us).map skeleton = ks ++ js := by
    rintro ts us rfl rfl
    simp
  have hchars : ∀ a b : String, (a ++ " " ++ b).toList = a.toList ++ ' ' :: b.toList := by simp
  unfold SameKinds
  rw [hchars, hchars]
  exact ⟨_, hl.spaced hr hkinds, hl'.spaced hr' hkinds⟩

theorem SameKinds.wrap {s s' : String} (h : SameKinds s s') :
    SameKinds (Segment.wrap s) (Segment.wrap s') := by
  obtain ⟨ks, hs, hs'⟩ := h
  have hkinds : ∀ (ts : List Token) sp sp' sp'', ts.map skeleton = ks →
      (Token.plain .dollar (some "$") false sp :: Token.plain .leftParen (some "(") false sp' ::
        (ts ++ [.plain .rightParen (some ")") false sp''])).map skeleton =
      .plain .dollar none false .nowhere :: .plain .leftParen none false .nowhere ::
        (ks ++ [.plain .rightParen none false .nowhere]) := by
    rintro ts sp sp' sp'' rfl
    simp
  exact ⟨_, hs.wrap hkinds, hs'.wrap hkinds⟩

theorem SameKinds.wrapIf {s s' : String} (h : SameKinds s s') (b : Bool) :
    SameKinds (Segment.wrapIf b s) (Segment.wrapIf b s') := by
  cases b with
  | true => exact h.wrap
  | false => exact h

theorem sameKinds_escape (s s' : String) : SameKinds (Word.escape s) (Word.escape s') := by
  have hkinds : ∀ (v : String) (ts : List Token),
      (∃ quoted span, ts = [.plain .string (some v) quoted span]) →
        ts.map skeleton = [.plain .string none false .nowhere] := by
    rintro v _ ⟨quoted, span, rfl⟩
    rfl
  exact ⟨_, (yields_escape s).imp (hkinds s), (yields_escape s').imp (hkinds s')⟩

theorem sameKinds_reference (name name' : String) :
    SameKinds ("$" ++ Word.escape name) ("$" ++ Word.escape name') := by
  have hkinds : ∀ (v : String) (ts : List Token),
      (∃ span quoted span', ts = [.plain .dollar (some "$") false span,
        .plain .string (some v) quoted span']) →
        ts.map skeleton = [.plain .dollar none false .nowhere, .plain .string none false .nowhere] := by
    rintro v _ ⟨span, quoted, span', rfl⟩
    rfl
  exact ⟨_, (yields_reference name).imp (hkinds name), (yields_reference name').imp (hkinds name')⟩

theorem sameRuns_empty : SameRuns "" "" := by
  have hrun : YieldsRun (fun b => b.more.map skeleton = []) "".toList := by
    intro l rest
    obtain ⟨b, hs, -, hmore⟩ := yieldsRun_nil l rest
    exact ⟨b, hs, List.map_eq_nil_iff.mpr hmore⟩
  exact ⟨[], hrun, hrun⟩

theorem SameRuns.text {s s' : String} (h : SameRuns s s') (v v' : String) :
    SameRuns (Word.escapeQuoted v ++ s) (Word.escapeQuoted v' ++ s') := by
  obtain ⟨ks, hs, hs'⟩ := h
  have hchars : ∀ a b : String,
      (Word.escapeQuoted a ++ b).toList = Word.escapeQuotedChars a.toList ++ b.toList := by
    simp [Word.escapeQuoted]
  unfold SameRuns
  rw [hchars, hchars]
  exact ⟨ks, hs.text v.toList fun _ hb => hb, hs'.text v'.toList fun _ hb => hb⟩

theorem SameRuns.line {l l' s s' : String} (h : SameRuns s s') (hline : SameKinds l l') :
    SameRuns ("\x7b" ++ l ++ "\x7d" ++ s) ("\x7b" ++ l' ++ "\x7d" ++ s') := by
  obtain ⟨ks, hs, hs'⟩ := h
  obtain ⟨js, hl, hl'⟩ := hline
  have hkinds : ∀ (ts : List Token) (b : QuotedBody) (_ l' : Location) sp sp',
      ts.map skeleton = js → b.more.map skeleton = ks →
      (Token.compound .interpolation none false sp (ts ++ [endMark l']) ::
        .plain .string (some (String.ofList b.first)) false sp' :: b.more).map skeleton =
      .compound .interpolation none false .nowhere (js ++ [.plain .endOfInput none false .nowhere]) ::
        .plain .string none false .nowhere :: ks := by
    rintro ts b _ l' sp sp' rfl rfl
    simp [skeleton, endMark]
  have hchars : ∀ a b : String,
      ("\x7b" ++ a ++ "\x7d" ++ b).toList = '\x7b' :: a.toList ++ '\x7d' :: b.toList := by simp
  unfold SameRuns
  rw [hchars, hchars]
  exact ⟨_, hs.line hl hkinds, hs'.line hl' hkinds⟩

theorem SameRuns.string {s s' : String} (h : SameRuns s s') :
    SameKinds ("\"" ++ s ++ "\"") ("\"" ++ s' ++ "\"") := by
  obtain ⟨ks, hs, hs'⟩ := h
  have hkinds : ∀ ts : List Token, (∃ (b : QuotedBody) (start inside stop : Location),
      ts = [b.token start inside stop] ∧ b.more.map skeleton = ks) →
        ts.map skeleton = [stringSkeleton ks] := by
    rintro _ ⟨b, start, inside, stop, rfl, rfl⟩
    simp [skeleton_token]
  have hchars : ∀ a : String, ("\"" ++ a ++ "\"").toList = '"' :: a.toList ++ ['"'] := by simp
  unfold SameKinds
  rw [hchars, hchars]
  exact ⟨_, hs.token.imp hkinds, hs'.token.imp hkinds⟩

theorem sameKinds_quote (s s' : String) : SameKinds (Word.quote s) (Word.quote s') := by
  have hstring := (sameRuns_empty.text s s').string
  simpa [Word.quote] using hstring

/-! ## Trees with other strings -/

namespace Segment

mutual

/-- The tree with other strings in the places of its texts, scopes and names. -/
def mapStrings (f : String → String) : Segment → Segment
  | bare head => bare (mapStrings f head)
  | command head args => command (mapStrings f head) (mapStringsAll f args)
  | pipe left right => pipe (mapStrings f left) (mapStrings f right)
  | redirect left device mode => redirect (mapStrings f left) (mapStrings f device) mode
  | sequence left right stop => sequence (mapStrings f left) (mapStrings f right) stop
  | text value => text (f value)
  | reference scope name => reference (scope.map f) (f name)
  | interpolation parts => interpolation (mapStringsAll f parts)
  | substitution inner => substitution (mapStrings f inner)

/-- The trees with other strings. -/
def mapStringsAll (f : String → String) : List Segment → List Segment
  | [] => []
  | s :: ss => mapStrings f s :: mapStringsAll f ss

end

@[simp] theorem precedence_mapStrings (f : String → String) (t : Segment) :
    (t.mapStrings f).precedence = t.precedence := by
  cases t <;> rfl

@[simp] theorem isText_mapStrings (f : String → String) (t : Segment) :
    (t.mapStrings f).isText = t.isText := by
  cases t <;> rfl

/-- A part that is no text, or stands where no text is taken, is a line between braces. -/
theorem renderParts_cons {literal : Bool} {p : Segment} (h : ¬ (literal = true ∧ p.isText = true))
    (ps : List Segment) :
    renderParts literal (p :: ps) =
      "\x7b" ++ renderAs false p ++ "\x7d" ++ renderParts (!literal) ps := by
  cases literal with
  | false => cases p <;> rfl
  | true =>
    cases p with
    | text value => exact absurd ⟨rfl, rfl⟩ h
    | _ => rfl

end Segment

mutual

/-- **The source text of a tree with other strings yields tokens of the same kinds.** -/
theorem sameKinds_renderAs (f : String → String) : ∀ (word : Bool) (t : Segment),
    SameKinds (renderAs word t) (renderAs word (t.mapStrings f))
  | word, .bare head => by
    simp only [mapStrings, renderAs]
    exact (sameKinds_renderAs f true head).wrapIf word
  | word, .command head args => by
    simp only [mapStrings, renderAs]
    exact (sameKinds_renderArgs f args (sameKinds_renderAs f true head)).wrapIf word
  | word, .pipe left right => by
    simp only [mapStrings, renderAs, precedence_mapStrings]
    have hl := (sameKinds_renderAs f false left).wrapIf (left.precedence < 2)
    have hr := (sameKinds_renderAs f false right).wrapIf (right.precedence ≤ 2)
    exact (hl.operator (k := .pipe) rfl (fun _ => rfl) hr).wrapIf word
  | word, .redirect left device mode => by
    simp only [mapStrings, renderAs, precedence_mapStrings]
    have hl := (sameKinds_renderAs f false left).wrapIf (left.precedence < 2)
    have hop : (" " ++ mode.operator ++ " ").toList = ' ' :: mode.kind.symbol.toList ++ [' '] := by
      cases mode <;> rfl
    have h := hl.operator hop (punctuation?_mode mode) (sameKinds_renderAs f true device)
    simp only [← String.append_assoc] at h
    exact h.wrapIf word
  | word, .sequence left right stop => by
    simp only [mapStrings, renderAs, precedence_mapStrings]
    have hl := (sameKinds_renderAs f false left).wrapIf (left.precedence < 1)
    have hr := (sameKinds_renderAs f false right).wrapIf (right.precedence ≤ 1)
    have hop : (joint stop).toList = ' ' :: (Kind.joint stop).symbol.toList ++ [' '] := by
      cases stop <;> rfl
    exact (hl.operator hop (punctuation?_joint stop) hr).wrapIf word
  | word, .text value => by
    simp only [mapStrings, renderAs]
    cases word with
    | true => exact sameKinds_escape value (f value)
    | false => exact sameKinds_quote value (f value)
  | word, .reference scope name => by
    simp only [mapStrings, renderAs]
    exact sameKinds_reference _ _
  | word, .interpolation parts => by
    simp only [mapStrings, renderAs]
    exact (sameRuns_renderParts f true parts).string
  | word, .substitution inner => by
    simp only [mapStrings, renderAs]
    exact (sameKinds_renderAs f false inner).wrap

/-- Arguments behind source texts that yield tokens of the same kinds. -/
theorem sameKinds_renderArgs (f : String → String) : ∀ (as : List Segment) {s s' : String},
    SameKinds s s' → SameKinds (s ++ renderArgs as) (s' ++ renderArgs (mapStringsAll f as))
  | [], _, _, h => by simpa [mapStringsAll, renderArgs] using h
  | a :: as, _, _, h => by
    have hnext := sameKinds_renderArgs f as (h.spaced (sameKinds_renderAs f true a))
    simpa only [mapStringsAll, renderArgs, String.append_assoc] using hnext

theorem sameRuns_renderParts (f : String → String) : ∀ (literal : Bool) (ps : List Segment),
    SameRuns (renderParts literal ps) (renderParts literal (mapStringsAll f ps))
  | _, [] => by
    simp only [mapStringsAll, renderParts]
    exact sameRuns_empty
  | literal, p :: ps => by
    have hrest := sameRuns_renderParts f (!literal) ps
    have hp := sameKinds_renderAs f false p
    rw [mapStringsAll]
    by_cases htext : literal = true ∧ p.isText = true
    · obtain ⟨rfl, hvalue⟩ := htext
      obtain ⟨value, rfl⟩ := exists_of_isText hvalue
      simp only [mapStrings, renderParts]
      exact hrest.text value (f value)
    · rw [renderParts_cons htext, renderParts_cons (by simpa using htext)]
      exact hrest.line hp

end

/-- **A text that is written as a word is read as one word.**  Alone on a line, between quotes or not, it
is one string token that has the text and no pieces; between braces it is the same token, and the scan
stops at the closing brace behind it.  The bare texts are exactly those that are read so without being
written as anything else.  So texts that are written alike are the same, and no string of a tree brings
an operator, a variable, the end of a quoted run or an interpolation into its source text: with other
strings the tokens have the same kinds, pieces included. -/
theorem Word.reads_as_one_word :
    (∀ s : String,
      Token.ofLine (Word.escape s) =
        .ok (lone s (decide (Word.escape s ≠ s)) (Word.escape s) .start) ∧
      Token.ofLine (Word.quote s) = .ok (lone s true (Word.quote s) .start) ∧
      (∀ (r : String) (l : Location),
        ofBraces ⟨(Word.escape s ++ "\x7d" ++ r).toList, l⟩ =
          .ok (lone s (decide (Word.escape s ≠ s)) (Word.escape s) l,
            ⟨'\x7d' :: r.toList, l.advanceAll (Word.escape s).toList⟩)) ∧
      (Word.isBare s = true ↔ ∃ span mark, Token.ofLine s =
        .ok [.plain .string (some s) false span, .plain .endOfInput none false mark])) ∧
    Function.Injective Word.escape ∧ Function.Injective Word.quote ∧
    ∀ (t : Segment) (f : String → String), ∃ ts us, Token.ofLine t.render = .ok ts ∧
      Token.ofLine (t.mapStrings f).render = .ok us ∧ us.map skeleton = ts.map skeleton := by
  refine ⟨fun s => ?_, escape_injective, quote_injective, fun t f => ?_⟩
  · exact ⟨ofLine_escape s, ofLine_quote s, ofBraces_escape s, isBare_iff_ofLine s⟩
  · exact (sameKinds_renderAs f false t).ofLine

end CommandShell
