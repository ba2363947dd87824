import CommandShell.Proofs.Segment.Shape
import CommandShell.Proofs.Token.Yields

/-!
# Reading what was written

A tree that a line can stand for is read back from its source text.  The proof follows the tree: each
piece of source text yields tokens that derive its part of the tree, in both modes of a scan and
whatever stands behind it, as long as that does not go on with a word.

* `Writes`             : characters yield tokens that derive a tree as a phrase;
* `writes_renderAs`    : the source text of a well-shaped tree does so;
* `ofLine_render`      : a well-shaped tree is read back from its source text;
* `ofLine_image`       : the trees of lines are exactly the well-shaped ones.
-/

namespace CommandShell

open Grammar Segment Token

/-- The characters yield tokens that derive the tree as a phrase, wherever they stand. -/
def Writes (p : Phrase) (cs : List Char) (t : Segment) : Prop := Yields (Derives p · t) cs

/-! ## Changing the phrase -/

theorem Writes.bare {cs : List Char} {s : String} (h : Writes .word cs (.text s)) :
    Writes .operand cs (.bare (.text s)) := by
  refine h.imp fun ts hd => ?_
  obtain ⟨t, rfl, hk, ⟨hw, heq⟩ | ⟨_, _, _, heq, _⟩⟩ := hd.word_cases
  · rw [heq]; exact .bare hk hw
  · cases heq

theorem Writes.string {cs : List Char} {ss : List Segment}
    (h : Writes .word cs (.interpolation ss)) : Writes .operand cs (.interpolation ss) := by
  refine h.imp fun ts hd => ?_
  obtain ⟨t, rfl, hk, ⟨_, heq⟩ | ⟨ps, _, hps, _, _⟩⟩ := hd.word_cases
  · cases heq
  · exact .string hps hd

/-! ## Blanks and operators between phrases -/

theorem punctuation?_joint (stop : Bool) (rest : List Char) :
    punctuation? ((Kind.joint stop).symbol.toList ++ ' ' :: rest) =
      some (.joint stop, ' ' :: rest) := by
  cases stop <;> rfl

theorem punctuation?_mode (mode : RedirectMode) (rest : List Char) :
    punctuation? (mode.kind.symbol.toList ++ ' ' :: rest) = some (mode.kind, ' ' :: rest) := by
  cases mode <;> rfl

theorem Writes.join {cs ds : List Char} {l r : Segment} (stop : Bool) (hl : Writes .line cs l)
    (hr : Writes .statement ds r) :
    Writes .line (cs ++ (joint stop).toList ++ ds) (.sequence l r stop) := by
  have h : Writes .line _ (.sequence l r stop) :=
    hl.operator rfl (punctuation?_joint stop) hr fun ts us _ hl hr => .join stop hl rfl hr
  cases stop <;> simpa [joint, Kind.joint, Kind.symbol] using h

theorem Writes.pipe {cs ds : List Char} {l r : Segment} (hl : Writes .statement cs l)
    (hr : Writes .operand ds r) :
    Writes .statement (cs ++ " | ".toList ++ ds) (.pipe l r) := by
  have h : Writes .statement _ (.pipe l r) :=
    hl.operator (k := .pipe) rfl (fun _ => rfl) hr fun ts us _ hl hr => .pipe hl rfl hr
  simpa [Kind.symbol] using h

theorem Writes.redirect {cs ds : List Char} {l d : Segment} (mode : RedirectMode)
    (hl : Writes .statement cs l) (hd : Writes .value ds d) :
    Writes .statement (cs ++ " ".toList ++ mode.operator.toList ++ " ".toList ++ ds)
      (.redirect l d mode) := by
  have h : Writes .statement _ (.redirect l d mode) :=
    hl.operator rfl (punctuation?_mode mode) hd fun ts us _ hl hd => .redirect mode hl rfl hd
  cases mode <;>
    simpa [RedirectMode.kind, Kind.symbol, RedirectMode.operator] using h

/-! ## Words and what stands after a `$` -/

theorem writes_escape (s : String) : Writes .word (Word.escape s).toList (.text s) := by
  refine (yields_escape s).imp ?_
  rintro _ ⟨quoted, span, rfl⟩
  exact .text rfl rfl

theorem writes_reference {scope : Option String} {name : String}
    (h : ':' ∉ (scope.getD name).toList) :
    Writes .reference ("$" ++ Word.escape (variableName scope name)).toList
      (.reference scope name) := by
  refine (yields_reference (variableName scope name)).imp ?_
  rintro _ ⟨span, quoted, span', rfl⟩
  cases scope with
  | none => exact .inDefault rfl rfl rfl h
  | some scope => exact .inScope rfl rfl rfl h

theorem Writes.wrap {s : String} {t : Segment} (h : Writes .line s.toList t) :
    Writes .reference (Segment.wrap s).toList (.substitution t) :=
  Yields.wrap h fun _ _ _ _ hd => .substitution rfl rfl hd rfl

/-! ## Strings with interpolations -/

/-- The first piece of the body is the first part, and its further pieces derive the other parts. -/
def DerivesParts (ps : List Segment) (b : QuotedBody) : Prop :=
  ∃ v ps', ps = .text v :: ps' ∧ b.first = v.toList ∧ Derives .pieces b.more (.interpolation ps')

/-- Between double quotes, the source text of the parts yields a body that derives them. -/
def WritesParts (ps : List Segment) : Prop :=
  YieldsRun (DerivesParts ps) (renderParts true ps).toList

theorem writesParts_text (v : String) : WritesParts [.text v] := by
  have hrun : YieldsRun (DerivesParts [.text v]) (Word.escapeQuotedChars v.toList ++ []) := by
    refine yieldsRun_nil.text v.toList ?_
    rintro b ⟨hfirst, hmore⟩
    refine ⟨v, [], rfl, by simp [hfirst], ?_⟩
    rw [hmore]
    exact .noPieces
  simpa [WritesParts, renderParts, Word.escapeQuoted] using hrun

theorem Grammar.Derives.literalPiece {cs : List Char} {v : String} {ps : List Token}
    {ss : List Segment} (h : Derives .pieces ps (.interpolation ss)) (hv : cs = v.toList)
    (quoted : Bool) (span : Span) :
    Derives .pieces (.plain .string (some (String.ofList cs)) quoted span :: ps)
      (.interpolation (.text v :: ss)) := by
  obtain rfl : v = String.ofList cs := by simp [hv]
  exact .textPiece (by simp [Token.kind]) h

theorem WritesParts.cons {p : Segment} {ps : List Segment} (v : String)
    (hp : Writes .line (renderAs false p).toList p) (hps : WritesParts ps) :
    WritesParts (.text v :: p :: ps) := by
  -- From the back: the line between its braces before the parts after it, then the text.
  have hline : YieldsRun
      (fun b => b.first = [] ∧ Derives .pieces b.more (.interpolation (p :: ps)))
      ('\x7b' :: (renderAs false p).toList ++ '\x7d' :: (renderParts true ps).toList) := by
    refine hps.line hp ?_
    rintro ts b l l' sp sp' hdp ⟨v', ps', rfl, hfirst, hd⟩
    exact ⟨rfl, .linePiece rfl rfl rfl (hdp.no_endMark (by decide)) hdp (hd.literalPiece hfirst _ _)⟩
  have htext : YieldsRun (DerivesParts (.text v :: p :: ps)) _ :=
    hline.text v.toList fun b hb => ⟨v, _, rfl, by simp [hb.1], hb.2⟩
  simpa [WritesParts, renderParts, Word.escapeQuoted] using htext

theorem WritesParts.word {ps : List Segment} (h : WritesParts ps) (hlen : 3 ≤ ps.length) :
    Writes .word ("\"" ++ renderParts true ps ++ "\"").toList (.interpolation ps) := by
  have htoken := h.token
  have hchars : ("\"" ++ renderParts true ps ++ "\"").toList =
      '"' :: (renderParts true ps).toList ++ ['"'] := by simp
  rw [hchars]
  refine htoken.imp ?_
  rintro _ ⟨b, start, inside, stop, rfl, v, ps', rfl, hfirst, hd⟩
  have hmore : b.more.isEmpty = false := by
    cases hm : b.more with
    | nil => rw [hm] at hd; cases hd; simp at hlen
    | cons p ps => rfl
  simp only [QuotedBody.token, hmore, Bool.false_eq_true, ↓reduceIte]
  exact .interpolation rfl rfl (hd.literalPiece hfirst _ _)

/-! ## Trees -/

theorem Segment.exists_of_isText {s : Segment} (h : s.isText = true) : ∃ v, s = .text v := by
  cases s with
  | text v => exact ⟨v, rfl⟩
  | _ => cases h

/-- The phrase that the source text of a tree is. -/
def Segment.phrase : Segment → Phrase
  | text _ | interpolation _ => .word
  | reference _ _ | substitution _ => .reference
  | bare _ | command _ _ => .operand
  | pipe _ _ | redirect _ _ _ => .statement
  | sequence _ _ _ => .line

theorem Writes.toOperand {cs : List Char} {t : Segment} (h : Writes t.phrase cs t)
    (hs : t.shapedAs false = true) (hp : 2 < t.precedence) : Writes .operand cs t := by
  cases t with
  | bare _ | command _ _ => exact h
  | pipe _ _ | redirect _ _ _ | sequence _ _ _ => simp [precedence] at hp
  | text _ => simp [shapedAs] at hs
  | interpolation _ => exact h.string
  | reference _ _ | substitution _ => exact h.imp fun _ => .reference

theorem Writes.toStatement {cs : List Char} {t : Segment} (h : Writes t.phrase cs t)
    (hs : t.shapedAs false = true) (hp : 2 ≤ t.precedence) : Writes .statement cs t := by
  rcases Nat.lt_or_eq_of_le hp with hp | hp
  · exact (h.toOperand hs hp).imp fun _ => .operand
  · cases t <;> first | exact h | simp [precedence] at hp

theorem Writes.toLine {cs : List Char} {t : Segment} (h : Writes t.phrase cs t)
    (hs : t.shapedAs false = true) : Writes .line cs t := by
  by_cases hp : 2 ≤ t.precedence
  · exact (h.toStatement hs hp).imp fun _ => .single
  · cases t <;> first | exact h | simp [precedence] at hp

theorem Writes.toValue {cs : List Char} {t : Segment} (h : Writes t.phrase cs t)
    (hs : t.shapedAs true = true) : Writes .value cs t := by
  cases t with
  | text _ | interpolation _ => exact h.imp fun _ => .valueWord
  | reference _ _ | substitution _ => exact h.imp fun _ => .valueReference
  | bare _ | command _ _ | pipe _ _ | redirect _ _ _ | sequence _ _ _ => simp [shapedAs] at hs

theorem Writes.toWord {cs : List Char} {t : Segment} (h : Writes t.phrase cs t)
    (hs : t.isHead = true) : Writes .word cs t := by
  cases t <;> first | exact h | simp [isHead] at hs

mutual

/-- **A well-shaped tree is the phrase that its source text yields.** -/
theorem writes_renderAs : ∀ (word : Bool) (t : Segment), t.shapedAs word = true →
    Writes t.phrase (renderAs word t).toList t
  | word, .text v, h => by
    simp only [shapedAs] at h
    simpa [h, phrase, renderAs] using writes_escape v
  | word, .bare head, h => by
    simp only [shapedAs, Bool.and_eq_true, Bool.not_eq_true'] at h
    obtain ⟨rfl, hhead⟩ := h
    obtain ⟨v, rfl⟩ := exists_of_isText hhead
    simpa [phrase, renderAs, wrapIf] using (writes_escape v).bare
  | word, .command head [], h => by simp [shapedAs] at h
  | word, .command head (a :: as), h => by
    simp only [shapedAs, shapedArgs, Bool.and_eq_true, Bool.not_eq_true'] at h
    obtain ⟨⟨⟨⟨rfl, hhead⟩, hs⟩, -⟩, ha, has⟩ := h
    have hfirst : Writes .call _ (.command head [a]) :=
      ((writes_renderAs true head hs).toWord hhead).spaced
        ((writes_renderAs true a ha).toValue ha) fun _ _ => .firstArgument
    have hall := writes_renderArgs as has head [a] _ hfirst
    have hcall : Writes .operand _ (.command head (a :: as)) := hall.imp fun _ => .command
    simpa [phrase, renderAs, renderArgs, wrapIf] using hcall
  | word, .pipe left right, h => by
    simp only [shapedAs, Bool.and_eq_true, Bool.not_eq_true', decide_eq_true_eq] at h
    obtain ⟨⟨⟨⟨rfl, hl⟩, hlp⟩, hr⟩, hrp⟩ := h
    have hw := ((writes_renderAs false left hl).toStatement hl hlp).pipe
      ((writes_renderAs false right hr).toOperand hr hrp)
    have hlp' : ¬ left.precedence < 2 := by omega
    have hrp' : ¬ right.precedence ≤ 2 := by omega
    simpa [phrase, renderAs, wrapIf, hlp', hrp'] using hw
  | word, .redirect left device mode, h => by
    simp only [shapedAs, Bool.and_eq_true, Bool.not_eq_true', decide_eq_true_eq] at h
    obtain ⟨⟨⟨rfl, hl⟩, hlp⟩, hd⟩ := h
    have hw := ((writes_renderAs false left hl).toStatement hl hlp).redirect mode
      ((writes_renderAs true device hd).toValue hd)
    have hlp' : ¬ left.precedence < 2 := by omega
    simpa [phrase, renderAs, wrapIf, hlp'] using hw
  | word, .sequence left right stop, h => by
    simp only [shapedAs, Bool.and_eq_true, Bool.not_eq_true', decide_eq_true_eq] at h
    obtain ⟨⟨⟨rfl, hl⟩, hr⟩, hrp⟩ := h
    have hw := ((writes_renderAs false left hl).toLine hl).join stop
      ((writes_renderAs false right hr).toStatement hr hrp)
    have hlp' : ¬ left.precedence < 1 := by cases left <;> simp [precedence]
    have hrp' : ¬ right.precedence ≤ 1 := by omega
    simpa [phrase, renderAs, wrapIf, hlp', hrp'] using hw
  | word, .reference scope name, h => by
    simpa only [phrase, renderAs] using writes_reference (by simpa [shapedAs] using h)
  | word, .interpolation parts, h => by
    simp only [shapedAs, Bool.and_eq_true, decide_eq_true_eq] at h
    obtain ⟨⟨hlen, hodd⟩, hs⟩ := h
    simpa only [phrase, renderAs] using (writes_renderParts parts hs hodd).word hlen
  | word, .substitution inner, h => by
    simp only [shapedAs] at h
    simpa only [phrase, renderAs] using ((writes_renderAs false inner h).toLine h).wrap

/-- Arguments go on with a call. -/
theorem writes_renderArgs : ∀ as : List Segment, shapedArgs as = true →
    ∀ (head : Segment) (args : List Segment) (cs : List Char), Writes .call cs (.command head args) →
      Writes .call (cs ++ (renderArgs as).toList) (.command head (args ++ as))
  | [], _, head, args, cs, hc => by simpa [renderArgs] using hc
  | a :: as, h, head, args, cs, hc => by
    simp only [shapedArgs, Bool.and_eq_true] at h
    have hnext : Writes .call _ (.command head (args ++ [a])) :=
      hc.spaced ((writes_renderAs true a h.1).toValue h.1) fun _ _ => .nextArgument
    simpa [renderArgs] using writes_renderArgs as h.2 head (args ++ [a]) _ hnext

/-- Parts by turns, a text first and last, are the body of a string. -/
theorem writes_renderParts : ∀ ps : List Segment, shapedParts true ps = true →
    ps.length % 2 = 1 → WritesParts ps
  | [], _, hodd => by simp at hodd
  | [q], h, _ => by
    simp only [shapedParts, ↓reduceIte, Bool.and_eq_true] at h
    obtain ⟨v, rfl⟩ := exists_of_isText h.1
    exact writesParts_text v
  | q :: p :: ps, h, hodd => by
    simp only [shapedParts, ↓reduceIte, Bool.not_true, Bool.not_false, Bool.false_eq_true,
      Bool.and_eq_true] at h
    obtain ⟨hq, hp, hps⟩ := h
    have hrest := writes_renderParts ps hps (by simp only [List.length_cons] at hodd; omega)
    obtain ⟨v, rfl⟩ := exists_of_isText hq
    exact .cons v ((writes_renderAs false p hp).toLine hp) hrest

end

/-- A well-shaped tree is read back from its source text. -/
theorem ofLine_render {t : Segment} (h : t.wellShaped = true) :
    Segment.ofLine t.render = .ok t := by
  obtain ⟨ts, hscan, hd⟩ := (writes_renderAs false t h).toLine h .line .start [] _ _
    (separated_nil _) .finish
  exact ofLine_of_scans (by simpa [render] using hscan) hd

/-- **A tree is read from some line exactly if it is well-shaped, and then from its own source
text.** -/
theorem ofLine_image (t : Segment) :
    ((∃ line, Segment.ofLine line = .ok t) ↔ t.wellShaped = true) ∧
      (t.wellShaped = true → Segment.ofLine t.render = .ok t) := by
  refine ⟨⟨?_, fun h => ⟨t.render, ofLine_render h⟩⟩, ofLine_render⟩
  rintro ⟨line, h⟩
  exact wellShaped_of_ofLine h

/-- A string with a line and a brace in a word of it, as the argument of an empty name. -/
theorem ofLine_image_string :
    let t : Segment := .redirect
      (.command (.text "")
        [.interpolation [.text "\"", .sequence (.bare (.text "a\x7d")) (.bare (.text "b")) true,
          .text "\x7b"], .reference (some "s") "n:m"])
      (.substitution (.pipe (.bare (.text "c d")) (.reference none "v"))) .stdErr
    t.wellShaped = true ∧ Segment.ofLine t.render = .ok t := by
  refine ⟨by decide, (ofLine_image _).2 (by decide)⟩

end CommandShell
