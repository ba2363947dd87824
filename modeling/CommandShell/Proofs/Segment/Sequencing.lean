import CommandShell.Proofs.Segment.RoundTrip
import CommandShell.Proofs.Token.Place
import CommandShell.Segment.Eval

/-!
# Lines one after the other

Two lines with a `;` between them are one line.  The operators of the second group to the left around
the first, so that its tree is not a sequence of the two trees; it is evaluated as if it were one.

* `ofLine_reads`      : the tokens of a line are read again where it is a part of a source;
* `Segment.graft`     : the tree of the line after a `;` and another;
* `eval_graft`        : it is evaluated as one line after the other;
* `ofLine_semicolon`  : two lines with a `;` between them.
-/

namespace CommandShell

open Grammar Token

/-- The tokens of a line are read again where it is a part of a source, and derive its tree. -/
theorem ofLine_reads {line : String} {t : Segment} (h : Segment.ofLine line = .ok t) {l : Location}
    {rest : List Char} {us : List Token} {cur : Cursor} (hrest : Detached .line rest)
    (hs : Scans .line rest (l.advanceAll line.toList) us cur) :
    ∃ ts, Scans .line (line.toList ++ rest) l (ts ++ us) cur ∧ Derives .line ts t := by
  obtain ⟨tokens, stop, hscan, before, mark, after, hsplit, hmark, hbefore, hd⟩ :=
    ofLine_accepts_iff.mp h
  obtain ⟨used, inner, l', hused, rfl, hinner, hagain⟩ := hscan.elsewhere
  -- A scan of a whole line leaves nothing.
  have hstop : stop.rest = [] := by
    cases hr : stop.rest with
    | nil => rfl
    | cons d after => cases hscan.stopsAt hr
  obtain rfl : used = line.toList := by simp [hused, hstop]
  obtain ⟨ts, hts', heq⟩ := hagain l rest us cur hrest hs
  obtain rfl : inner = before := before_endMark_unique hsplit rfl hmark hinner hbefore
  exact ⟨ts, hts', hd.of_unplaced ts heq⟩

namespace Segment

/-- The tree of a line after a `;` and another: the operators of the line group around both. -/
def graft (t : Segment) : Segment → Segment
  | .sequence left right stop => .sequence (graft t left) right stop
  | s => .sequence t s false

/-- A segment that is no sequence. -/
def isStatement : Segment → Bool
  | .sequence _ _ _ => false
  | _ => true

theorem graft_of_isStatement (t : Segment) {s : Segment} (h : s.isStatement = true) :
    graft t s = .sequence t s false := by
  cases s with
  | sequence l r stop => cases h
  | _ => rfl

theorem eval_semicolon (ctx : Context) (left right : Segment) (input : Value) (capture : Bool) :
    (sequence left right false).eval ctx input capture = (do
      let o ← left.eval ctx .absent false
      emit ctx o.value
      right.eval ctx .absent false) := by
  rw [eval]
  simp

/-- **A grafted tree is evaluated as one line after the other.** -/
theorem eval_graft (ctx : Context) (t : Segment) : ∀ (s : Segment) (input : Value) (capture : Bool),
    (graft t s).eval ctx input capture = (do
      let o ← t.eval ctx .absent false
      emit ctx o.value
      s.eval ctx .absent false)
  | .sequence left right stop, input, capture => by
    rw [graft, eval, eval_graft ctx t left, eval]
    simp only [bind_assoc]
  | .bare _, _, _ | .command _ _, _, _ | .pipe _ _, _, _ | .redirect _ _ _, _, _ | .text _, _, _
  | .reference _ _, _, _ | .interpolation _, _, _ | .substitution _, _, _ => by
    rw [graft_of_isStatement t rfl, eval_semicolon]

end Segment

namespace Grammar

open Segment

/-- A phrase that is no whole line has a tree that is no sequence. -/
theorem Derives.isStatement {p : Phrase} {ts : List Token} {t : Segment} (h : Derives p ts t)
    (hp : p ≠ .line) : t.isStatement = true := by
  induction h with
  | single _ _ => exact absurd rfl hp
  | join _ _ _ _ _ _ => exact absurd rfl hp
  | operand _ ih | string _ _ ih | command _ ih | reference _ ih | valueWord _ ih
  | valueReference _ ih => exact ih (by decide)
  | _ => rfl

/-- A line after a `;` and another. -/
theorem Derives.graft {ts us : List Token} {op : Token} {t s : Segment} (ht : Derives .line ts t)
    (hop : op.kind = .semicolon) (hs : Derives .line us s) :
    Derives .line (ts ++ op :: us) (t.graft s) := by
  generalize hp : Phrase.line = p at hs
  induction hs with
  | single hs _ =>
    rw [graft_of_isStatement t (hs.isStatement (by decide))]
    exact .join false ht hop hs
  | join stop _ hop' hr ihl _ =>
    have hjoin := Derives.join stop (ihl rfl) hop' hr
    simpa [Segment.graft] using hjoin
  | _ => cases hp

end Grammar

/-- Two lines with a `;` between them are one line. -/
theorem ofLine_semicolon {l₁ l₂ : String} {t₁ t₂ : Segment} (h₁ : Segment.ofLine l₁ = .ok t₁)
    (h₂ : Segment.ofLine l₂ = .ok t₂) :
    Segment.ofLine (l₁ ++ " ; " ++ l₂) = .ok (t₁.graft t₂) := by
  obtain ⟨us, hus, hdu⟩ := ofLine_reads h₂ (l := Location.start.advanceAll (l₁.toList ++ " ; ".toList))
    (detached_nil _) .finish
  obtain ⟨sp, hscan⟩ := scans_operator (m := .line) (l := Location.start.advanceAll l₁.toList)
    (k := .semicolon) rfl (fun _ => rfl) (by simpa [Kind.symbol] using hus)
  obtain ⟨ts, hts, hdt⟩ := ofLine_reads h₁ (detached_blank _ _) hscan
  exact ofLine_of_scans (by simpa [Kind.symbol] using hts) (hdt.graft rfl hdu)

namespace Segment

theorem emit_apply (ctx : Context) (v : Value) (s : State) :
    emit ctx v s = (.ok (), if ctx.emits && !v.isAbsent then
      { s with log := s.log ++ [.emitted v] } else s) := by
  unfold emit
  split <;> rfl

end Segment

/-- **A line, a `;` and another line are evaluated as one line after the other.**  The first has no
input and keeps its output; an error of it ends both; and its value, if there is one, is handed on
before the second begins, whatever its exit code is. -/
theorem eval_ofLine_semicolon {l₁ l₂ : String} {t₁ t₂ : Segment} (h₁ : Segment.ofLine l₁ = .ok t₁)
    (h₂ : Segment.ofLine l₂ = .ok t₂) :
    ∃ t, Segment.ofLine (l₁ ++ " ; " ++ l₂) = .ok t ∧
      ∀ (ctx : Context) (input : Value) (capture : Bool) (s : State),
        t.eval ctx input capture s =
          match t₁.eval ctx .absent false s with
          | (.error e, s') => (.error e, s')
          | (.ok o, s') => t₂.eval ctx .absent false
              (if ctx.emits && !o.value.isAbsent then { s' with log := s'.log ++ [.emitted o.value] }
                else s') := by
  refine ⟨t₁.graft t₂, ofLine_semicolon h₁ h₂, fun ctx input capture s => ?_⟩
  rw [Segment.eval_graft, Action.bind_apply]
  rcases t₁.eval ctx .absent false s with ⟨r, s'⟩
  cases r with
  | error e => rfl
  | ok o => exact Action.bind_of_ok (Segment.emit_apply ctx o.value s')

/-- A line that fails, and a line whose operators group around it. -/
theorem eval_ofLine_semicolon_chain :
    let t₁ : Segment := .bare (.text "split")
    let t₂ : Segment := .sequence (.sequence (.bare (.text "cd")) (.bare (.text "pwd")) true)
      (.command (.text "echo") [.text "x"]) false
    Segment.ofLine "split" = .ok t₁ ∧ Segment.ofLine "cd & pwd ; echo x" = .ok t₂ ∧
      ∃ t, Segment.ofLine ("split" ++ " ; " ++ "cd & pwd ; echo x") = .ok t ∧
        ∀ (ctx : Context) (input : Value) (capture : Bool) (s : State),
          t.eval ctx input capture s =
            match t₁.eval ctx .absent false s with
            | (.error e, s') => (.error e, s')
            | (.ok o, s') => t₂.eval ctx .absent false
                (if ctx.emits && !o.value.isAbsent then
                  { s' with log := s'.log ++ [.emitted o.value] } else s') := by
  intro t₁ t₂
  -- Both lines are the source texts of their trees.
  have h₁ : Segment.ofLine "split" = .ok t₁ := ofLine_render (t := t₁) (by decide)
  have h₂ : Segment.ofLine "cd & pwd ; echo x" = .ok t₂ := ofLine_render (t := t₂) (by decide)
  exact ⟨h₁, h₂, eval_ofLine_semicolon h₁ h₂⟩

end CommandShell
