import CommandShell.Proofs.Segment.RoundTrip
import CommandShell.Segment.Eval

/-!
# Source text of trees that no line has

A tree need not have the shape of a line to have a source text: where a child would bind otherwise
than it stands, the source text has `$( ... )` around it.  What is read back is the tree with these
wrappers in it, and evaluation does not see them.

* `Segment.renderable`    : trees with a source text that can be read;
* `Wraps`                 : a tree with further `$( ... )` in it;
* `Wraps.eval_eq`         : they do not change what is evaluated;
* `Segment.wrapped`       : the tree with the wrappers that its source text has;
* `eval_ofLine_render`    : the tree that is read back is evaluated as the tree that was written.
-/

namespace CommandShell

namespace Segment

/-! ## Trees with a source text -/

mutual

/-- The trees with a source text for a place that takes a whole line or, with `word`, for a place that
takes one word: an operator may stand on either side of an operator, and every segment may be an
argument or a device. -/
def renderableAs (word : Bool) : Segment → Bool
  | text _ => word
  | bare head => head.isText
  | command head args =>
    head.isHead && renderableAs true head && !args.isEmpty && renderableArgs args
  | pipe left right => renderableAs false left && renderableAs false right
  | redirect left device _ => renderableAs false left && renderableAs true device
  | sequence left right _ => renderableAs false left && renderableAs false right
  | reference scope name => !(scope.getD name).toList.contains ':'
  | interpolation parts =>
    decide (3 ≤ parts.length) && decide (parts.length % 2 = 1) && renderableParts true parts
  | substitution inner => renderableAs false inner

/-- Every argument has a source text. -/
def renderableArgs : List Segment → Bool
  | [] => true
  | a :: as => renderableAs true a && renderableArgs as

/-- Texts, and lines with a source text, by turns. -/
def renderableParts : Bool → List Segment → Bool
  | _, [] => true
  | literal, p :: ps =>
    (if literal then p.isText else renderableAs false p) && renderableParts (!literal) ps

end

/-- The trees whose source text can be read as a line. -/
def renderable (t : Segment) : Bool := renderableAs false t

end Segment

/-! ## Further wrappers -/

mutual

/-- The second tree is the first with any number of further `$( ... )` around segments of it. -/
inductive Wraps : Segment → Segment → Prop
  | further {t t' : Segment} (inner : Wraps t t') : Wraps t (.substitution t')
  | bare {h h' : Segment} (head : Wraps h h') : Wraps (.bare h) (.bare h')
  | command {h h' : Segment} {as as' : List Segment} (head : Wraps h h') (args : WrapsAll as as') :
    Wraps (.command h as) (.command h' as')
  | pipe {l l' r r' : Segment} (left : Wraps l l') (right : Wraps r r') :
    Wraps (.pipe l r) (.pipe l' r')
  | redirect {l l' d d' : Segment} {mode : RedirectMode} (left : Wraps l l') (device : Wraps d d') :
    Wraps (.redirect l d mode) (.redirect l' d' mode)
  | sequence {l l' r r' : Segment} {stop : Bool} (left : Wraps l l') (right : Wraps r r') :
    Wraps (.sequence l r stop) (.sequence l' r' stop)
  | text {v : String} : Wraps (.text v) (.text v)
  | reference {scope : Option String} {name : String} :
    Wraps (.reference scope name) (.reference scope name)
  | interpolation {ps ps' : List Segment} (parts : WrapsAll ps ps') :
    Wraps (.interpolation ps) (.interpolation ps')
  | substitution {t t' : Segment} (inner : Wraps t t') : Wraps (.substitution t) (.substitution t')

/-- The second trees are the first, each with any number of further `$( ... )`. -/
inductive WrapsAll : List Segment → List Segment → Prop
  | nil : WrapsAll [] []
  | cons {t t' : Segment} {ts ts' : List Segment} (first : Wraps t t') (rest : WrapsAll ts ts') :
    WrapsAll (t :: ts) (t' :: ts')

end

mutual

/-- **Further wrappers do not change what is evaluated**: each hands its input, the flag and the
outcome through. -/
theorem Wraps.eval_eq (ctx : Context) : ∀ {t t' : Segment}, Wraps t t' →
    ∀ (input : Value) (capture : Bool), t'.eval ctx input capture = t.eval ctx input capture
  | _, _, .further h, input, capture => by
    rw [Segment.eval]
    exact h.eval_eq ctx input capture
  | _, _, .bare h, _, _ => by
    rw [Segment.eval, Segment.eval, h.eval_eq ctx]
  | _, _, .command h has, _, _ => by
    rw [Segment.eval, Segment.eval, h.eval_eq ctx, has.evalAll_eq ctx]
  | _, _, .pipe hl hr, _, _ => by
    rw [Segment.eval, Segment.eval, hl.eval_eq ctx]
    simp only [hr.eval_eq ctx]
  | _, _, .redirect hl hd, _, _ => by
    rw [Segment.eval, Segment.eval, hd.eval_eq ctx]
    simp only [hl.eval_eq ctx]
  | _, _, .sequence hl hr, _, _ => by
    rw [Segment.eval, Segment.eval, hl.eval_eq ctx]
    simp only [hr.eval_eq ctx]
  | _, _, .text, _, _ => rfl
  | _, _, .reference, _, _ => rfl
  | _, _, .interpolation hps, _, _ => by
    rw [Segment.eval, Segment.eval, hps.evalAll_eq ctx]
  | _, _, .substitution h, input, capture => by
    rw [Segment.eval, Segment.eval]
    exact h.eval_eq ctx input capture

theorem WrapsAll.evalAll_eq (ctx : Context) : ∀ {ts ts' : List Segment}, WrapsAll ts ts' →
    Segment.evalAll ctx ts' = Segment.evalAll ctx ts
  | _, _, .nil => rfl
  | _, _, .cons h hs => by
    rw [Segment.evalAll, Segment.evalAll, h.eval_eq ctx, hs.evalAll_eq ctx]

end

/-- A tree that is wrapped where asked for. -/
def Segment.wrapTreeIf (b : Bool) (t : Segment) : Segment := if b then .substitution t else t

theorem Wraps.wrapIf {t t' : Segment} (h : Wraps t t') (b : Bool) : Wraps t (t'.wrapTreeIf b) := by
  cases b with
  | true => exact .further h
  | false => exact h

namespace Segment

/-! ## The wrappers of a source text -/

mutual

/-- The tree with the wrappers that its source text has, for a place that takes a whole line or, with
`word`, for a place that takes one word. -/
def wrappedAs (word : Bool) : Segment → Segment
  | bare head => wrapTreeIf word (.bare (wrappedAs true head))
  | command head args => wrapTreeIf word (.command (wrappedAs true head) (wrappedAll true args))
  | pipe left right =>
    wrapTreeIf word (.pipe (wrapTreeIf (left.precedence < 2) (wrappedAs false left))
      (wrapTreeIf (right.precedence ≤ 2) (wrappedAs false right)))
  | redirect left device mode =>
    wrapTreeIf word (.redirect (wrapTreeIf (left.precedence < 2) (wrappedAs false left))
      (wrappedAs true device) mode)
  | sequence left right stop =>
    wrapTreeIf word (.sequence (wrapTreeIf (left.precedence < 1) (wrappedAs false left))
      (wrapTreeIf (right.precedence ≤ 1) (wrappedAs false right)) stop)
  | text value => .text value
  | reference scope name => .reference scope name
  | interpolation parts => .interpolation (wrappedAll false parts)
  | substitution inner => .substitution (wrappedAs false inner)

/-- Trees with the wrappers that their source texts have. -/
def wrappedAll (word : Bool) : List Segment → List Segment
  | [] => []
  | t :: ts => wrappedAs word t :: wrappedAll word ts

end

/-- The tree with the wrappers that its source text has. -/
def wrapped (t : Segment) : Segment := wrappedAs false t

mutual

theorem wraps_wrappedAs : ∀ (word : Bool) (t : Segment), Wraps t (wrappedAs word t)
  | word, .bare head => (Wraps.bare (wraps_wrappedAs true head)).wrapIf word
  | word, .command head args =>
    (Wraps.command (wraps_wrappedAs true head) (wraps_wrappedAll true args)).wrapIf word
  | word, .pipe left right =>
    (Wraps.pipe ((wraps_wrappedAs false left).wrapIf _)
      ((wraps_wrappedAs false right).wrapIf _)).wrapIf word
  | word, .redirect left device _ =>
    (Wraps.redirect ((wraps_wrappedAs false left).wrapIf _) (wraps_wrappedAs true device)).wrapIf word
  | word, .sequence left right _ =>
    (Wraps.sequence ((wraps_wrappedAs false left).wrapIf _)
      ((wraps_wrappedAs false right).wrapIf _)).wrapIf word
  | _, .text _ => .text
  | _, .reference _ _ => .reference
  | _, .interpolation parts => .interpolation (wraps_wrappedAll false parts)
  | _, .substitution inner => .substitution (wraps_wrappedAs false inner)

theorem wraps_wrappedAll : ∀ (word : Bool) (ts : List Segment), WrapsAll ts (wrappedAll word ts)
  | _, [] => .nil
  | word, t :: ts => .cons (wraps_wrappedAs word t) (wraps_wrappedAll word ts)

end

/-! ## The source text -/

theorem precedence_wrappedAs (t : Segment) : (wrappedAs false t).precedence = t.precedence := by
  cases t <;> rfl

/-- A child of an operator is wrapped in the tree exactly where it is in the source text. -/
theorem wrapIf_wrapTreeIf {t t' : Segment} (test : Nat → Bool) (htest : test 3 = false)
    (hp : t'.precedence = t.precedence) (hr : renderAs false t' = renderAs false t) :
    wrapIf (test (wrapTreeIf (test t.precedence) t').precedence)
        (renderAs false (wrapTreeIf (test t.precedence) t')) =
      wrapIf (test t.precedence) (renderAs false t) := by
  cases h : test t.precedence with
  | true => simp [wrapTreeIf, precedence, htest, wrapIf, renderAs, hr]
  | false => simp [wrapTreeIf, hp, h, wrapIf, hr]

/-- A tree that is wrapped in a place for one word is written between `$(` and `)` there. -/
theorem renderAs_wrapTreeIf (word : Bool) (t : Segment) :
    renderAs word (wrapTreeIf word t) = wrapIf word (renderAs false t) := by
  cases word with
  | true => simp [wrapTreeIf, renderAs, wrapIf]
  | false => simp [wrapTreeIf, wrapIf]

mutual

/-- The wrappers of the source text do not change it. -/
theorem renderAs_wrappedAs : ∀ (word : Bool) (t : Segment),
    renderAs word (wrappedAs word t) = renderAs word t
  | word, .bare head => by
    rw [wrappedAs, renderAs_wrapTreeIf, renderAs, renderAs_wrappedAs true head, renderAs]
    rfl
  | word, .command head args => by
    rw [wrappedAs, renderAs_wrapTreeIf, renderAs, renderAs_wrappedAs true head,
      renderArgs_wrappedAll args, renderAs]
    rfl
  | word, .pipe left right => by
    have hl := wrapIf_wrapTreeIf (fun n => decide (n < 2)) rfl (precedence_wrappedAs left)
      (renderAs_wrappedAs false left)
    have hr := wrapIf_wrapTreeIf (fun n => decide (n ≤ 2)) rfl (precedence_wrappedAs right)
      (renderAs_wrappedAs false right)
    rw [wrappedAs, renderAs_wrapTreeIf, renderAs, hl, hr, renderAs]
    rfl
  | word, .redirect left device mode => by
    have hl := wrapIf_wrapTreeIf (fun n => decide (n < 2)) rfl (precedence_wrappedAs left)
      (renderAs_wrappedAs false left)
    rw [wrappedAs, renderAs_wrapTreeIf, renderAs, hl, renderAs_wrappedAs true device, renderAs]
    rfl
  | word, .sequence left right stop => by
    have hl := wrapIf_wrapTreeIf (fun n => decide (n < 1)) rfl (precedence_wrappedAs left)
      (renderAs_wrappedAs false left)
    have hr := wrapIf_wrapTreeIf (fun n => decide (n ≤ 1)) rfl (precedence_wrappedAs right)
      (renderAs_wrappedAs false right)
    rw [wrappedAs, renderAs_wrapTreeIf, renderAs, hl, hr, renderAs]
    rfl
  | _, .text _ => rfl
  | _, .reference _ _ => rfl
  | _, .interpolation parts => by
    rw [wrappedAs, renderAs, renderParts_wrappedAll true parts, renderAs]
  | _, .substitution inner => by
    rw [wrappedAs, renderAs, renderAs_wrappedAs false inner, renderAs]

theorem renderArgs_wrappedAll : ∀ as : List Segment,
    renderArgs (wrappedAll true as) = renderArgs as
  | [] => rfl
  | a :: as => by
    rw [wrappedAll, renderArgs, renderAs_wrappedAs true a, renderArgs_wrappedAll as, renderArgs]

theorem renderParts_wrappedAll : ∀ (literal : Bool) (ps : List Segment),
    renderParts literal (wrappedAll false ps) = renderParts literal ps
  | _, [] => rfl
  | literal, p :: ps => by
    have hp := renderAs_wrappedAs false p
    have hps := fun l => renderParts_wrappedAll l ps
    rw [wrappedAll]
    -- A text is its own source text on a literal turn; all else stands between braces.
    cases literal <;> cases p <;>
      simp only [wrappedAs, wrapTreeIf, renderParts, hps, Bool.false_eq_true, ↓reduceIte] at hp ⊢ <;>
      rw [hp]

end

/-! ## The shape of what is read -/

theorem shapedAs_wrapTreeIf {word : Bool} {t : Segment} (h : shapedAs false t = true) :
    shapedAs word (wrapTreeIf word t) = true := by
  cases word with
  | true => simpa [wrapTreeIf, shapedAs] using h
  | false => exact h

/-- A child of an operator has the shape of a line, and it binds as tightly as the test asks for. -/
theorem shapedAs_child {t : Segment} (test : Nat → Bool) (htest : test 3 = false)
    (h : shapedAs false (wrappedAs false t) = true) :
    shapedAs false (wrapTreeIf (test t.precedence) (wrappedAs false t)) = true ∧
      test (wrapTreeIf (test t.precedence) (wrappedAs false t)).precedence = false := by
  cases ht : test t.precedence with
  | true => exact ⟨by simpa [wrapTreeIf, shapedAs] using h, htest⟩
  | false => exact ⟨h, by simpa [wrapTreeIf, precedence_wrappedAs] using ht⟩

theorem isHead_wrappedAs {head : Segment} (h : head.isHead = true) :
    (wrappedAs true head).isHead = true := by
  cases head <;> first | rfl | cases h

theorem length_wrappedAll (word : Bool) (ts : List Segment) :
    (wrappedAll word ts).length = ts.length := by
  induction ts with
  | nil => rfl
  | cons t ts ih => simp [wrappedAll, ih]

mutual

/-- **With the wrappers of its source text a tree has the shape of a line.** -/
theorem shapedAs_wrappedAs : ∀ (word : Bool) (t : Segment), t.renderableAs word = true →
    shapedAs word (wrappedAs word t) = true
  | word, .bare head, h => by
    rw [renderableAs] at h
    obtain ⟨v, rfl⟩ := exists_of_isText h
    exact shapedAs_wrapTreeIf rfl
  | word, .command head args, h => by
    simp only [renderableAs, Bool.and_eq_true, Bool.not_eq_true'] at h
    obtain ⟨⟨⟨hhead, hs⟩, hne⟩, has⟩ := h
    have hargs : (wrappedAll true args).isEmpty = false := by
      cases args with
      | nil => cases hne
      | cons a as => rfl
    refine shapedAs_wrapTreeIf ?_
    simp [shapedAs, isHead_wrappedAs hhead, shapedAs_wrappedAs true head hs, hargs,
      shapedArgs_wrappedAll args has]
  | word, .pipe left right, h => by
    simp only [renderableAs, Bool.and_eq_true] at h
    obtain ⟨hl, hlp⟩ := shapedAs_child (fun n => decide (n < 2)) rfl
      (shapedAs_wrappedAs false left h.1)
    obtain ⟨hr, hrp⟩ := shapedAs_child (fun n => decide (n ≤ 2)) rfl
      (shapedAs_wrappedAs false right h.2)
    refine shapedAs_wrapTreeIf ?_
    simp only [decide_eq_false_iff_not, Nat.not_lt, Nat.not_le] at hlp hrp
    simp only [shapedAs, hl, hlp, hr, hrp, decide_true, Bool.not_false, Bool.and_self]
  | word, .redirect left device mode, h => by
    simp only [renderableAs, Bool.and_eq_true] at h
    obtain ⟨hl, hlp⟩ := shapedAs_child (fun n => decide (n < 2)) rfl
      (shapedAs_wrappedAs false left h.1)
    refine shapedAs_wrapTreeIf ?_
    simp only [decide_eq_false_iff_not, Nat.not_lt] at hlp
    simp only [shapedAs, hl, hlp, shapedAs_wrappedAs true device h.2, decide_true, Bool.not_false,
      Bool.and_self]
  | word, .sequence left right stop, h => by
    simp only [renderableAs, Bool.and_eq_true] at h
    obtain ⟨hl, -⟩ := shapedAs_child (fun n => decide (n < 1)) rfl
      (shapedAs_wrappedAs false left h.1)
    obtain ⟨hr, hrp⟩ := shapedAs_child (fun n => decide (n ≤ 1)) rfl
      (shapedAs_wrappedAs false right h.2)
    refine shapedAs_wrapTreeIf ?_
    simp only [decide_eq_false_iff_not, Nat.not_le] at hrp
    simp only [shapedAs, hl, hr, hrp, decide_true, Bool.not_false, Bool.and_self]
  | _, .text _, h => h
  | _, .reference _ _, h => h
  | _, .interpolation parts, h => by
    simp only [renderableAs, Bool.and_eq_true, decide_eq_true_eq] at h
    obtain ⟨⟨hlen, hodd⟩, hps⟩ := h
    simp [wrappedAs, shapedAs, length_wrappedAll, hlen, hodd, shapedParts_wrappedAll true parts hps]
  | _, .substitution inner, h => shapedAs_wrappedAs false inner h

theorem shapedArgs_wrappedAll : ∀ as : List Segment, renderableArgs as = true →
    shapedArgs (wrappedAll true as) = true
  | [], _ => rfl
  | a :: as, h => by
    simp only [renderableArgs, Bool.and_eq_true] at h
    simp [wrappedAll, shapedArgs, shapedAs_wrappedAs true a h.1, shapedArgs_wrappedAll as h.2]

theorem shapedParts_wrappedAll : ∀ (literal : Bool) (ps : List Segment),
    renderableParts literal ps = true → shapedParts literal (wrappedAll false ps) = true
  | _, [], _ => rfl
  | true, p :: ps, h => by
    simp only [renderableParts, ↓reduceIte, Bool.and_eq_true] at h
    obtain ⟨v, rfl⟩ := exists_of_isText h.1
    simp [wrappedAll, wrappedAs, shapedParts, isText, shapedParts_wrappedAll false ps h.2]
  | false, p :: ps, h => by
    simp only [renderableParts, Bool.false_eq_true, ↓reduceIte, Bool.and_eq_true] at h
    simp [wrappedAll, shapedParts, shapedAs_wrappedAs false p h.1,
      shapedParts_wrappedAll true ps h.2]

end

end Segment

open Segment

/-- The source text of a tree is read as the tree with the wrappers that it has. -/
theorem ofLine_render_wrapped {t : Segment} (h : t.renderable = true) :
    Segment.ofLine t.render = .ok t.wrapped := by
  have hshape : t.wrapped.wellShaped = true := shapedAs_wrappedAs false t h
  have hsource : t.wrapped.render = t.render := renderAs_wrappedAs false t
  rw [← hsource]
  exact ofLine_render hshape

/-- **The source text of a tree means what the tree means**, whether a line can have the tree or not.
It is read as the tree with further wrappers, and both are evaluated to the same result or error, with
the same state behind it: settings, machine and everything that others can see. -/
theorem eval_ofLine_render {t : Segment} (h : t.renderable = true) :
    ∃ t', Segment.ofLine t.render = .ok t' ∧ Wraps t t' ∧
      ∀ (ctx : Context) (input : Value) (capture : Bool) (s : State),
        t'.eval ctx input capture s = t.eval ctx input capture s := by
  have hwraps : Wraps t t.wrapped := wraps_wrappedAs false t
  refine ⟨t.wrapped, ofLine_render_wrapped h, hwraps, fun ctx input capture s => ?_⟩
  rw [hwraps.eval_eq ctx]

/-- Operators on the right of operators, and lines as an argument, as a device and in a string. -/
theorem eval_ofLine_render_nested :
    let t : Segment := .pipe (.sequence (.bare (.text "a")) (.reference (some "tmp") "x:y") true)
      (.redirect
        (.command (.text "echo")
          [.pipe (.bare (.text "b")) (.sequence (.bare (.text "c")) (.bare (.text "")) false)])
        (.command (.interpolation [.text "\"", .pipe (.bare (.text "d\x7d")) (.pipe (.bare (.text "e"))
          (.bare (.text "f"))), .text "\x7b"]) [.text "g h"]) .stdOutAndErr)
    t.renderable = true ∧ t.wellShaped = false ∧ ∃ t', Segment.ofLine t.render = .ok t' ∧ Wraps t t' ∧
      ∀ (ctx : Context) (input : Value) (capture : Bool) (s : State),
        t'.eval ctx input capture s = t.eval ctx input capture s := by
  intro t
  have h : t.renderable = true := by decide
  exact ⟨h, by decide, eval_ofLine_render h⟩

end CommandShell
