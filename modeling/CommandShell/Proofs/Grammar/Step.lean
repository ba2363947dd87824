import CommandShell.Proofs.Grammar.Basic

/-!
# Steps of the parser

What one token can do to the state of the parser, said once, and what a list of tokens does.

* `Parse.Step`            : the ways in which a token is taken;
* `Parse.shift_eq_ok_iff` : `State.shift` takes a token exactly by one of these ways;
* `Parse.shiftAll`        : the state after several tokens;
* `Parse.run_eq_ok_iff`   : a run succeeds exactly when the tokens before the first end mark are all
  taken and lead to a state in which the line can end.
-/

namespace CommandShell.Parse

open Grammar

/-- The token of a pipe or a redirection. -/
def Link.kind : Link → Token.Kind
  | pipe => .pipe
  | redirect mode => mode.kind

/-- A `$` was read and its value is missing. -/
def Focus.waits : Focus → Bool
  | sigil _ | argument _ _ => true
  | _ => false

/-- The head and the arguments so far of an operand that takes more words. -/
def Focus.call? : Focus → Option (Segment × List Segment)
  | word head _ => some (head, [])
  | command head args => some (head, args)
  | _ => none

/-- The state with another operand under way. -/
def State.focused (s : State) (f : Focus) : State :=
  { s with level := { s.level with focus := f } }

/-- The level with a value where a `$` was read. -/
def Level.filled (l : Level) (value : Segment) : Level :=
  match l.focus with
  | .sigil _ => { l with focus := .closed value }
  | .argument head args => { l with focus := .command head (args ++ [value]) }
  | _ => l

/-- The ways in which a token is taken. -/
inductive Step (s : State) (t : Token) : State → Prop
  | device {v : Segment} (vacant : s.level.focus = .vacant) (wanted : s.level.wantsDevice = true)
    (string : t.kind = .string) (val : value t = .ok v) : Step s t (s.focused (.closed v))
  | word {v : Segment} (vacant : s.level.focus = .vacant) (wanted : s.level.wantsDevice = false)
    (string : t.kind = .string) (val : value t = .ok v) :
    Step s t (s.focused (.word v t.isInterpolated))
  | sigil (vacant : s.level.focus = .vacant) (dollar : t.kind = .dollar) :
    Step s t (s.focused (.sigil t.span))
  | enter (waits : s.level.focus.waits = true) (opening : t.kind = .leftParen) :
    Step s t ⟨.start, s.level :: s.outer⟩
  | name {w : String} (waits : s.level.focus.waits = true) (string : t.kind = .string)
    (text : t.text = some w) : Step s t { s with level := s.level.filled (variableOf w) }
  | argument {h v : Segment} {args : List Segment} (call : s.level.focus.call? = some (h, args))
    (string : t.kind = .string) (val : value t = .ok v) :
    Step s t (s.focused (.command h (args ++ [v])))
  | argumentSigil {h : Segment} {args : List Segment}
    (call : s.level.focus.call? = some (h, args)) (dollar : t.kind = .dollar) :
    Step s t (s.focused (.argument h args))
  | link {st : Segment} (k : Link) (statement : s.level.statement? = some st)
    (operator : t.kind = k.kind) : Step s t (s.link st k)
  | join {st : Segment} (stop : Bool) (statement : s.level.statement? = some st)
    (operator : t.kind = .joint stop) : Step s t (s.join st stop)
  | leave {st : Segment} {around : Level} {outer : List Level}
    (statement : s.level.statement? = some st) (nested : s.outer = around :: outer)
    (closing : t.kind = .rightParen) :
    Step s t ⟨around.filled (.substitution (bindJoined s.level.joined st)), outer⟩

/-! ## Devices -/

theorem isValue_variableOf (word : String) : (variableOf word).isValue = true := by
  unfold variableOf
  split <;> rfl

/-- What a token stands for as a word is a value. -/
theorem isValue_of_value {t : Token} {v : Segment} (h : value t = .ok v) : v.isValue = true := by
  cases t with
  | plain k text q sp =>
    rw [value] at h
    cases h
    rfl
  | compound k text q sp ps =>
    rw [value] at h
    split at h
    · cases h
    · cases h
      rfl

/-- A value is never refused as a device. -/
theorem close_of_isValue (l : Level) (start : Span) {v : Segment} (h : v.isValue = true) :
    l.close start v = .ok { l with focus := .closed v } := by
  simp [Level.close, h]

theorem fill_of_isValue (l : Level) {v : Segment} (h : v.isValue = true) :
    l.fill v = .ok (l.filled v) := by
  unfold Level.fill Level.filled
  cases l.focus with
  | sigil start => exact close_of_isValue l start h
  | argument head args => rfl
  | vacant | word _ _ | command _ _ | closed _ => rfl

theorem fill_variableOf (l : Level) (word : String) :
    l.fill (variableOf word) = .ok (l.filled (variableOf word)) :=
  fill_of_isValue l (isValue_variableOf word)

theorem fill_substitution (l : Level) (inner : Segment) :
    l.fill (.substitution inner) = .ok (l.filled (.substitution inner)) :=
  fill_of_isValue l rfl

/-! ## One token -/

theorem begin_step {s s' : State} {t : Token} (hf : s.level.focus = .vacant)
    (h : s.begin t (value t) = .ok s') : Step s t s' := by
  unfold State.begin at h
  split at h
  · rename_i hk
    split at h
    · cases h
    · rename_i v hv
      split at h
      · rename_i hw
        rw [close_of_isValue _ _ (isValue_of_value hv)] at h
        cases h
        exact .device hf hw hk hv
      · rename_i hw
        cases h
        exact .word hf (by simpa using hw) hk hv
  · rename_i hk
    cases h
    exact .sigil hf hk
  · cases h

theorem afterSigil_step {s s' : State} {t : Token} (hf : s.level.focus.waits = true)
    (h : s.afterSigil t = .ok s') : Step s t s' := by
  unfold State.afterSigil at h
  split at h
  · rename_i hk
    cases h
    exact .enter hf hk
  · rename_i hk
    split at h
    · cases h
    · rename_i w hw
      rw [fill_variableOf] at h
      cases h
      exact .name hf hk hw
  · cases h

theorem goOn_step {s s' : State} {t : Token} {st : Segment}
    (hs : s.level.statement? = some st) (h : s.goOn st t = .ok s') : Step s t s' := by
  unfold State.goOn at h
  simp only [fill_substitution, Except.map] at h
  split at h <;> cases h
  · exact .link .pipe hs ‹_›
  · exact .link (.redirect .stdIn) hs ‹_›
  · exact .link (.redirect .stdOut) hs ‹_›
  · exact .link (.redirect .stdErr) hs ‹_›
  · exact .link (.redirect .stdOutAndErr) hs ‹_›
  · exact .join false hs ‹_›
  · exact .join true hs ‹_›
  · exact .leave hs ‹_› ‹_›

theorem argument_step {s s' : State} {t : Token} {head st : Segment} {args : List Segment}
    (hc : s.level.focus.call? = some (head, args)) (hs : s.level.statement? = some st)
    (h : s.argument head args t (value t) st = .ok s') : Step s t s' := by
  unfold State.argument at h
  split at h
  · rename_i hk
    split at h
    · cases h
    · rename_i v hv
      cases h
      exact .argument hc hk hv
  · rename_i hk
    cases h
    exact .argumentSigil hc hk
  · exact goOn_step hs h

theorem goOn_link (s : State) (st : Segment) {t : Token} {k : Link} (h : t.kind = k.kind) :
    s.goOn st t = .ok (s.link st k) := by
  unfold State.goOn
  cases k with
  | pipe => simp only [h, Link.kind]
  | redirect mode => cases mode <;> simp only [h, Link.kind, RedirectMode.kind]

theorem goOn_join (s : State) (st : Segment) {t : Token} {stop : Bool}
    (h : t.kind = .joint stop) : s.goOn st t = .ok (s.join st stop) := by
  unfold State.goOn
  cases stop <;> simp only [h, Token.Kind.joint]

theorem Link.kind_startsValue (k : Link) : k.kind.startsValue = false := by
  cases k with
  | pipe => rfl
  | redirect mode => cases mode <;> rfl

/-- Where an operand can end, a token that begins no value ends it. -/
theorem shift_eq_goOn {s : State} {t : Token} {st : Segment}
    (hs : s.level.statement? = some st) (hk : t.kind.startsValue = false) :
    s.shift t (value t) = s.goOn st t := by
  simp only [Level.statement?, Option.map_eq_some_iff] at hs
  obtain ⟨operand, ho, rfl⟩ := hs
  have harg : ∀ head args, s.argument head args t (value t) (bindLinked s.level.linked operand) =
      s.goOn (bindLinked s.level.linked operand) t := by
    intro head args
    unfold State.argument
    split
    · rename_i h; rw [h] at hk; cases hk
    · rename_i h; rw [h] at hk; cases hk
    · rfl
  cases hf : s.level.focus with
  | vacant => rw [hf] at ho; cases ho
  | sigil start => rw [hf] at ho; cases ho
  | word head interpolated =>
    rw [hf] at ho
    cases ho
    simp only [State.shift, hf]
    exact harg head []
  | command head args =>
    rw [hf] at ho
    cases ho
    simp only [State.shift, hf]
    exact harg head args
  | argument head args => rw [hf] at ho; cases ho
  | closed operand' =>
    rw [hf] at ho
    cases ho
    simp only [State.shift, hf]

/-- **A token is taken exactly by one of the steps.** -/
theorem shift_eq_ok_iff {s s' : State} {t : Token} :
    s.shift t (value t) = .ok s' ↔ Step s t s' := by
  constructor
  · intro h
    unfold State.shift at h
    split at h
    · exact begin_step ‹_› h
    · rename_i hf; exact afterSigil_step (by rw [hf]; rfl) h
    · rename_i hf; exact afterSigil_step (by rw [hf]; rfl) h
    · rename_i hf
      exact argument_step (by rw [hf]; rfl) (by simp [Level.statement?, hf, Focus.operand?]) h
    · rename_i hf
      exact argument_step (by rw [hf]; rfl) (by simp [Level.statement?, hf, Focus.operand?]) h
    · rename_i hf
      exact goOn_step (by simp [Level.statement?, hf, Focus.operand?]) h
  · intro h
    cases h with
    | device hf hw hk hv =>
      simp [State.shift, hf, State.begin, hk, hv, hw, State.focused, Except.map,
        close_of_isValue _ _ (isValue_of_value hv)]
    | word hf hw hk hv => simp [State.shift, hf, State.begin, hk, hv, hw, State.focused]
    | sigil hf hk => simp [State.shift, hf, State.begin, hk, State.focused]
    | enter hf hk =>
      cases hl : s.level.focus <;> simp_all [State.shift, Focus.waits, State.afterSigil]
    | name hf hk ht =>
      cases hl : s.level.focus <;>
        simp_all [State.shift, Focus.waits, State.afterSigil, fill_variableOf, Except.map]
    | argument hc hk hv =>
      cases hl : s.level.focus <;>
        simp_all [State.shift, Focus.call?, State.argument, State.focused]
    | argumentSigil hc hk =>
      cases hl : s.level.focus <;>
        simp_all [State.shift, Focus.call?, State.argument, State.focused]
    | link k hs hk =>
      rw [shift_eq_goOn hs (by rw [hk]; exact k.kind_startsValue)]
      exact goOn_link s _ hk
    | join stop hs hk =>
      rw [shift_eq_goOn hs (by rw [hk]; cases stop <;> rfl)]
      exact goOn_join s _ hk
    | leave hs ho hk =>
      rw [shift_eq_goOn hs (by rw [hk]; rfl)]
      simp [State.goOn, hk, ho, fill_substitution, Except.map]

/-- No step takes an end mark. -/
theorem Step.kind_ne_endOfInput {s s' : State} {t : Token} (h : Step s t s') :
    t.kind ≠ .endOfInput := by
  cases h with
  | device _ _ hk _ => simp [hk]
  | word _ _ hk _ => simp [hk]
  | sigil _ hk => simp [hk]
  | enter _ hk => simp [hk]
  | name _ hk _ => simp [hk]
  | argument _ hk _ => simp [hk]
  | argumentSigil _ hk => simp [hk]
  | link k _ hk =>
    rw [hk]
    cases k with
    | pipe => decide
    | redirect mode => cases mode <;> decide
  | join stop _ hk => rw [hk]; cases stop <;> decide
  | leave _ _ hk => simp [hk]

/-! ## Several tokens -/

/-- The state after several tokens. -/
def shiftAll (s : State) : List Token → Except SyntaxError State
  | [] => .ok s
  | t :: ts =>
    match s.shift t (value t) with
    | .error e => .error e
    | .ok s' => shiftAll s' ts

theorem shiftAll_cons_eq_ok_iff {s s' : State} {t : Token} {ts : List Token} :
    shiftAll s (t :: ts) = .ok s' ↔ ∃ s₁, Step s t s₁ ∧ shiftAll s₁ ts = .ok s' := by
  simp only [← shift_eq_ok_iff, shiftAll]
  cases h : s.shift t (value t) with
  | error e => simp
  | ok s₁ => simp

theorem shiftAll_append_eq_ok_iff {ts us : List Token} {s s' : State} :
    shiftAll s (ts ++ us) = .ok s' ↔
      ∃ s₁, shiftAll s ts = .ok s₁ ∧ shiftAll s₁ us = .ok s' := by
  induction ts generalizing s with
  | nil => simp [shiftAll]
  | cons t ts ih =>
    simp only [List.cons_append, shiftAll_cons_eq_ok_iff, ih]
    constructor
    · rintro ⟨s₁, h₁, s₂, h₂, h₃⟩; exact ⟨s₂, ⟨s₁, h₁, h₂⟩, h₃⟩
    · rintro ⟨s₂, ⟨s₁, h₁, h₂⟩, h₃⟩; exact ⟨s₁, h₁, s₂, h₂, h₃⟩

/-- One unfolding of a run: it ends at an end mark where the line can end, and goes on with every
token that a step takes. -/
theorem run_cons_eq_ok_iff {s : State} {last : Option Token} {t : Token} {ts : List Token}
    {tree : Segment} :
    run s last (t :: ts) = .ok tree ↔
      (t.kind = .endOfInput ∧ s.finished? = some tree) ∨
        ∃ s', Step s t s' ∧ run s' (some t) ts = .ok tree := by
  rw [run]
  split
  · rename_i tree' hk hf
    constructor
    · rintro h; cases h; exact .inl ⟨hk, hf⟩
    · rintro (⟨-, h⟩ | ⟨s', hs, -⟩)
      · rw [hf] at h; cases h; rfl
      · exact absurd hk hs.kind_ne_endOfInput
  · rename_i hn
    have hno : ¬(t.kind = .endOfInput ∧ s.finished? = some tree) := fun h => hn tree h.1 h.2
    simp only [hno, false_or, ← shift_eq_ok_iff]
    cases hs : s.shift t (value t) with
    | error e => simp
    | ok s' => simp

/-- **A run succeeds exactly when all tokens before the first end mark are taken and the line can
end there.** -/
theorem run_eq_ok_iff {ts : List Token} {s : State} {last : Option Token} {tree : Segment} :
    run s last ts = .ok tree ↔
      ∃ before mark after s', ts = before ++ mark :: after ∧ mark.kind = .endOfInput ∧
        NoEndMark before ∧ shiftAll s before = .ok s' ∧ s'.finished? = some tree := by
  induction ts generalizing s last with
  | nil => simp [run]
  | cons t ts ih =>
    rw [run_cons_eq_ok_iff]
    constructor
    · rintro (⟨hk, hf⟩ | ⟨s₁, hs, hr⟩)
      · exact ⟨[], t, ts, s, rfl, hk, noEndMark_nil, rfl, hf⟩
      · obtain ⟨before, mark, after, s', rfl, hm, hb, hsh, hf⟩ := ih.mp hr
        exact ⟨t :: before, mark, after, s', rfl, hm,
          noEndMark_cons.mpr ⟨hs.kind_ne_endOfInput, hb⟩,
          shiftAll_cons_eq_ok_iff.mpr ⟨s₁, hs, hsh⟩, hf⟩
    · rintro ⟨before, mark, after, s', heq, hm, hb, hsh, hf⟩
      cases before with
      | nil =>
        cases heq
        cases hsh
        exact .inl ⟨hm, hf⟩
      | cons b before =>
        cases heq
        obtain ⟨s₁, hs, hsh⟩ := shiftAll_cons_eq_ok_iff.mp hsh
        exact .inr ⟨s₁, hs, ih.mpr ⟨before, mark, after, s', rfl, hm,
          (noEndMark_cons.mp hb).2, hsh, hf⟩⟩

end CommandShell.Parse
