import CommandShell.Proofs.Grammar.Completeness
import CommandShell.Proofs.Token.Scans

/-!
# Well-shaped trees

Which trees a line can stand for.  A text stands only where one word is taken, or in every other part
of a string with interpolations; operators of one strength group to the left; and names of variables
have their first colon after the scope.

* `Segment.wellShaped`       : the test;
* `Token.regular`            : what the tokens of a source have in common;
* `regular_of_scans`         : every token that is read is regular;
* `ofLine_accepts_iff`       : the tree of a line is the one that its tokens derive;
* `wellShaped_of_ofLine`     : every tree that is read is well-shaped.
-/

namespace CommandShell

namespace Segment

/-- A literal text. -/
def isText : Segment → Bool
  | text _ => true
  | _ => false

/-- What a command with arguments may begin with. -/
def isHead : Segment → Bool
  | text _ | interpolation _ => true
  | _ => false

mutual

/-- The shapes of a tree in a place that takes a whole line or, with `word`, in a place that takes one
word: the head of a command, an argument or a device. -/
def shapedAs (word : Bool) : Segment → Bool
  | text _ => word
  | bare head => !word && head.isText
  | command head args =>
    !word && head.isHead && shapedAs true head && !args.isEmpty && shapedArgs args
  | pipe left right =>
    !word && shapedAs false left && decide (2 ≤ left.precedence) &&
      shapedAs false right && decide (2 < right.precedence)
  | redirect left device _ =>
    !word && shapedAs false left && decide (2 ≤ left.precedence) && shapedAs true device
  | sequence left right _ =>
    !word && shapedAs false left && shapedAs false right && decide (1 < right.precedence)
  | reference scope name => !(scope.getD name).toList.contains ':'
  | interpolation parts =>
    decide (3 ≤ parts.length) && decide (parts.length % 2 = 1) && shapedParts true parts
  | substitution inner => shapedAs false inner

/-- Every argument has the shape of one word. -/
def shapedArgs : List Segment → Bool
  | [] => true
  | a :: as => shapedAs true a && shapedArgs as

/-- Texts and lines by turns. -/
def shapedParts : Bool → List Segment → Bool
  | _, [] => true
  | literal, p :: ps => (if literal then p.isText else shapedAs false p) && shapedParts (!literal) ps

end

/-- The shapes that a line can have. -/
def wellShaped (s : Segment) : Bool := shapedAs false s

end Segment

namespace Token

mutual

/-- Tokens as a source has them: the pieces of a string are texts and interpolations by turns, a text
first and last, and an interpolation holds such tokens. -/
def regular : Token → Prop
  | .plain _ _ _ _ => True
  | .compound .interpolation _ _ _ inner => regularAll inner
  | .compound _ _ _ _ ps => 3 ≤ ps.length ∧ ps.length % 2 = 1 ∧ alternate true ps

/-- Every token is regular. -/
def regularAll : List Token → Prop
  | [] => True
  | t :: ts => regular t ∧ regularAll ts

/-- Texts and regular interpolations by turns. -/
def alternate : Bool → List Token → Prop
  | _, [] => True
  | true, p :: ps => p.kind ≠ .interpolation ∧ alternate false ps
  | false, p :: ps => (p.kind = .interpolation ∧ regular p) ∧ alternate true ps

end

theorem regularAll_append {ts us : List Token} :
    regularAll (ts ++ us) ↔ regularAll ts ∧ regularAll us := by
  induction ts with
  | nil => simp [regularAll]
  | cons t ts ih => simp [regularAll, ih, and_assoc]

/-! ## Tokens of a source -/

/-- The further pieces of a quoted run. -/
def QuotedBody.regular (b : QuotedBody) : Prop :=
  b.more.length % 2 = 0 ∧ alternate false b.more

theorem QuotedBody.regular_token {b : QuotedBody} (h : b.regular) (start inside stop : Location) :
    (b.token start inside stop).regular := by
  unfold QuotedBody.token
  split
  · simp [Token.regular]
  · rename_i hne
    obtain ⟨heven, halt⟩ := h
    have hpos : b.more.length ≠ 0 := by
      simpa [List.isEmpty_iff] using hne
    refine ⟨by simp only [List.length_cons]; omega, by simp only [List.length_cons]; omega, ?_⟩
    exact ⟨by simp [Token.kind], halt⟩

mutual

/-- **Every token that is read is regular.** -/
theorem regular_of_scans : ∀ {m : Mode} {cs : List Char} {l : Location} {ts : List Token}
    {cur : Cursor}, Scans m cs l ts cur → regularAll ts
  | _, _, _, _, _, .blank _ hr => regular_of_scans hr
  | _, _, _, _, _, .finish => ⟨by simp [endMark, Token.regular], trivial⟩
  | _, _, _, _, _, .stop _ => ⟨by simp [endMark, Token.regular], trivial⟩
  | _, _, _, _, _, .punctuation _ hr => ⟨by simp [Token.regular], regular_of_scans hr⟩
  | _, _, _, _, _, .quoted _ hrun hr =>
    ⟨QuotedBody.regular_token (regular_of_scansQuoted hrun) _ _ _, regular_of_scans hr⟩
  | _, _, _, _, _, .word _ _ _ hr => ⟨by simp [Token.regular], regular_of_scans hr⟩

theorem regular_of_scansQuoted : ∀ {q : Char} {cs : List Char} {l : Location} {body : QuotedBody}
    {cur : Cursor}, ScansQuoted q cs l body cur → body.regular
  | _, _, _, _, _, .close => ⟨rfl, trivial⟩
  | _, _, _, _, _, .escape _ hr => by
    obtain ⟨heven, halt⟩ := regular_of_scansQuoted hr
    exact ⟨heven, halt⟩
  | _, _, _, _, _, .interpolation _ hline hr => by
    obtain ⟨heven, halt⟩ := regular_of_scansQuoted hr
    refine ⟨by simp only [List.length_cons]; omega, ⟨rfl, ?_⟩, by simp [Token.kind], halt⟩
    exact regular_of_scans hline
  | _, _, _, _, _, .plain _ _ _ hr => by
    obtain ⟨heven, halt⟩ := regular_of_scansQuoted hr
    exact ⟨heven, halt⟩

end

end Token

namespace Grammar

open Segment Token

/-! ## Trees of regular tokens -/

/-- The shape of a tree that tokens derive as a phrase. -/
def Shaped : Phrase → List Token → Segment → Prop
  | .line, ts, t => regularAll ts → t.shapedAs false = true
  | .statement, ts, t => regularAll ts → t.shapedAs false = true ∧ 2 ≤ t.precedence
  | .operand, ts, t => regularAll ts → t.shapedAs false = true ∧ 2 < t.precedence
  | .call, ts, t => regularAll ts → t.shapedAs false = true ∧ 2 < t.precedence
  | .value, ts, t => regularAll ts → t.shapedAs true = true
  | .word, ts, t => regularAll ts → t.isHead = true ∧ t.shapedAs true = true
  | .reference, ts, t => regularAll ts → t.shapedAs true = true ∧ t.isText = false
  | .pieces, ts, t => ∀ literal ss, t = .interpolation ss → alternate literal ts →
      shapedParts literal ss = true ∧ ss.length = ts.length

/-- A value that is no text has the shape of a line. -/
theorem shapedAs_false_of_value {t : Segment} (h : t.shapedAs true = true)
    (hv : t.isText = false) : t.shapedAs false = true ∧ 2 < t.precedence := by
  cases t <;> simp_all [shapedAs, isText, precedence]

theorem regular_pieces {t : Token} {ps : List Token} (hk : t.kind = .string)
    (hps : t.pieces = some ps) (h : t.regular) :
    3 ≤ ps.length ∧ ps.length % 2 = 1 ∧ alternate true ps := by
  cases t with
  | plain k text q sp => cases hps
  | compound k text q sp ps' =>
    cases hps
    cases hk
    exact h

theorem regular_inner {t : Token} {inner : List Token} (hk : t.kind = .interpolation)
    (hps : t.pieces = some inner) (h : t.regular) : regularAll inner := by
  cases t with
  | plain k text q sp => cases hps
  | compound k text q sp ps' =>
    cases hps
    cases hk
    exact h

theorem shapedArgs_append {as bs : List Segment} :
    shapedArgs (as ++ bs) = (shapedArgs as && shapedArgs bs) := by
  induction as with
  | nil => simp [shapedArgs]
  | cons a as ih => simp [shapedArgs, ih, Bool.and_assoc]

/-- **Regular tokens derive well-shaped trees only.** -/
theorem Derives.shaped {p : Phrase} {ts : List Token} {t : Segment} (h : Derives p ts t) :
    Shaped p ts t := by
  induction h with
  | single _ ih => exact fun hr => (ih hr).1
  | join stop _ _ _ ihl ihr =>
    intro hr
    obtain ⟨hl, -, hrr⟩ := regularAll_append.mp hr
    obtain ⟨hs, hp⟩ := ihr hrr
    have hp' : 1 < _ := Nat.lt_of_succ_le hp
    simp [shapedAs, ihl hl, hs, hp']
  | operand _ ih => exact fun hr => ⟨(ih hr).1, Nat.le_of_lt (ih hr).2⟩
  | pipe _ _ _ ihl ihr =>
    intro hr
    obtain ⟨hl, -, hrr⟩ := regularAll_append.mp hr
    obtain ⟨hls, hlp⟩ := ihl hl
    obtain ⟨hrs, hrp⟩ := ihr hrr
    exact ⟨by simp [shapedAs, hls, hlp, hrs, hrp], Nat.le_refl 2⟩
  | redirect mode _ _ _ ihl ihr =>
    intro hr
    obtain ⟨hl, -, hrr⟩ := regularAll_append.mp hr
    obtain ⟨hls, hlp⟩ := ihl hl
    exact ⟨by simp [shapedAs, hls, hlp, ihr hrr], Nat.le_refl 2⟩
  | bare _ _ => exact fun _ => ⟨by simp [shapedAs, isText], Nat.le_refl 3⟩
  | string hps hw ih =>
    intro hr
    obtain ⟨u, hu, -, ⟨hnone, -⟩ | ⟨_, ss, -, rfl, -⟩⟩ := hw.word_cases
    · cases hu; rw [hps] at hnone; cases hnone
    · exact shapedAs_false_of_value (ih hr).2 rfl
  | command _ ih => exact ih
  | reference _ ih => exact fun hr => shapedAs_false_of_value (ih hr).1 (ih hr).2
  | firstArgument _ _ ihh iha =>
    intro hr
    obtain ⟨hl, hrr⟩ := regularAll_append.mp hr
    obtain ⟨hh, hs⟩ := ihh hl
    exact ⟨by simp [shapedAs, shapedArgs, hh, hs, iha hrr], Nat.le_refl 3⟩
  | nextArgument _ _ ihc iha =>
    intro hr
    obtain ⟨hl, hrr⟩ := regularAll_append.mp hr
    obtain ⟨hc, -⟩ := ihc hl
    simp only [shapedAs, Bool.not_false, Bool.true_and, Bool.and_eq_true] at hc
    refine ⟨?_, Nat.le_refl 3⟩
    simp [shapedAs, shapedArgs_append, shapedArgs, hc.1.1.1, hc.1.1.2, hc.2, iha hrr]
  | valueWord _ ih => exact fun hr => (ih hr).2
  | valueReference _ ih => exact fun hr => (ih hr).1
  | text _ _ => exact fun _ => ⟨rfl, rfl⟩
  | interpolation hk hps _ ih =>
    intro hr
    obtain ⟨hlen, hodd, halt⟩ := regular_pieces hk hps hr.1
    obtain ⟨hshape, heq⟩ := ih true _ rfl halt
    exact ⟨rfl, by simp [shapedAs, hshape, heq, hlen, hodd]⟩
  | substitution _ _ _ _ ih =>
    intro hr
    have hin := (regularAll_append.mp hr.2.2).1
    exact ⟨by simp [shapedAs, ih hin], rfl⟩
  | inScope _ _ _ hn => exact fun _ => ⟨by simpa [shapedAs] using hn, rfl⟩
  | inDefault _ _ _ hn => exact fun _ => ⟨by simpa [shapedAs] using hn, rfl⟩
  | noPieces => rintro literal ss h -; cases h; cases literal <;> exact ⟨rfl, rfl⟩
  | textPiece hk _ ih =>
    rintro literal ss h halt
    cases h
    cases literal with
    | true =>
      obtain ⟨hshape, heq⟩ := ih false _ rfl halt.2
      exact ⟨by simp [shapedParts, isText, hshape], by simp [heq]⟩
    | false => exact absurd halt.1.1 hk
  | linePiece hk hps hm hb _ _ ihl ih =>
    rintro literal ss h halt
    cases h
    cases literal with
    | true => exact absurd hk halt.1
    | false =>
      obtain ⟨hshape, heq⟩ := ih true _ rfl halt.2
      have hin := regularAll_append.mp (regular_inner hk hps halt.1.2)
      exact ⟨by simp [shapedParts, ihl hin.1, hshape], by simp [heq]⟩

/-- The tree of a line is the one that its tokens derive. -/
theorem ofLine_accepts_iff {line : String} {t : Segment} :
    Segment.ofLine line = .ok t ↔
      ∃ ts cur, Scans .line line.toList .start ts cur ∧ Accepts ts t := by
  constructor
  · intro h
    unfold Segment.ofLine at h
    split at h
    · cases h
    rename_i ts hts
    obtain ⟨cur, hscan⟩ := ofLine_eq_ok_iff.mp hts
    exact ⟨ts, cur, hscan, ofTokens_accepts_iff.mp h⟩
  · rintro ⟨ts, cur, hscan, haccepts⟩
    rw [Segment.ofLine, ofLine_eq_ok_iff.mpr ⟨cur, hscan⟩]
    exact ofTokens_accepts_iff.mpr haccepts

/-- A line is read as the tree that the tokens before its end mark derive. -/
theorem ofLine_of_scans {line : String} {ts : List Token} {t : Segment} {l : Location} {cur : Cursor}
    (hs : Scans .line line.toList .start (ts ++ [endMark l]) cur) (hd : Derives .line ts t) :
    Segment.ofLine line = .ok t :=
  ofLine_accepts_iff.mpr
    ⟨_, cur, hs, ts, _, [], rfl, rfl, hd.no_endMark (by decide), hd⟩

/-- Every tree that is read is well-shaped. -/
theorem wellShaped_of_ofLine {line : String} {t : Segment} (h : Segment.ofLine line = .ok t) :
    t.wellShaped = true := by
  obtain ⟨ts, cur, hscan, before, mark, after, rfl, -, -, hd⟩ := ofLine_accepts_iff.mp h
  exact hd.shaped (regularAll_append.mp (regular_of_scans hscan)).1

end Grammar

end CommandShell
