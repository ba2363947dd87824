import CommandShell.Proofs.Grammar.Soundness
import CommandShell.Segment.Render

/-!
# The parser accepts exactly what the grammar derives

* `Grammar.Parses`       : what the parser does on the tokens of each kind of phrase;
* `Derives.parses`       : it does so on every derived phrase;
* `ofTokens_accepts_iff` : the trees that are read from tokens are those that the grammar derives;
* `Derives.line_unique`  : tokens derive at most one line;
* `shift_error`          : a token is refused in its own place, or further inside;
* `device_isValue`, `run_refuses` : the check of a device is always passed;
* `ofTokens_exact`       : all of it for every list of tokens.
-/

namespace CommandShell.Grammar

open Parse

/-- What the parser does on the tokens of a phrase that stands for a tree, wherever the phrase may
stand. -/
def Parses : Phrase → List Token → Segment → Prop
  | .word, ts, v => ∃ t, ts = [t] ∧ t.kind = .string ∧ value t = .ok v
  | .reference, ts, v => ∃ d us, ts = d :: us ∧ d.kind = .dollar ∧
      ∀ s : Parse.State, s.level.focus.waits = true →
        shiftAll s us = .ok { s with level := s.level.filled v }
  | .value, ts, v =>
      (∀ s : Parse.State, s.level.focus = .vacant → s.level.wantsDevice = true →
        shiftAll s ts = .ok (s.focused (.closed v))) ∧
      (∀ (s : Parse.State) (h : Segment) (args : List Segment), s.level.focus.call? = some (h, args) →
        shiftAll s ts = .ok (s.focused (.command h (args ++ [v]))))
  | .call, ts, t => ∀ s : Parse.State, s.level.focus = .vacant → s.level.wantsDevice = false →
      ∃ h args, t = .command h args ∧ shiftAll s ts = .ok (s.focused (.command h args))
  | .operand, ts, t => ∀ s : Parse.State, s.level.focus = .vacant → s.level.wantsDevice = false →
      ∃ f, f.operand? = some t ∧ shiftAll s ts = .ok (s.focused f)
  | .statement, ts, t => ∀ s : Parse.State, s.level.focus = .vacant → s.level.linked = none →
      ∃ l, l.joined = s.level.joined ∧ l.statement? = some t ∧ shiftAll s ts = .ok ⟨l, s.outer⟩
  | .line, ts, t => ∀ outer : List Level,
      ∃ l, l.tree? = some t ∧ shiftAll ⟨.start, outer⟩ ts = .ok ⟨l, outer⟩
  | .pieces, ts, t => ∃ ss, t = .interpolation ss ∧ parts ts = .ok ss

theorem shiftAll_singleton {s s' : Parse.State} {t : Token} (h : Step s t s') :
    shiftAll s [t] = .ok s' :=
  shiftAll_cons_eq_ok_iff.mpr ⟨s', h, rfl⟩

/-- Tokens, an operator and tokens, one after the other. -/
theorem shiftAll_operator {s s₁ s₂ s₃ : Parse.State} {ts us : List Token} {op : Token}
    (hl : shiftAll s ts = .ok s₁) (hop : Step s₁ op s₂) (hr : shiftAll s₂ us = .ok s₃) :
    shiftAll s (ts ++ op :: us) = .ok s₃ :=
  shiftAll_append_eq_ok_iff.mpr ⟨s₁, hl, shiftAll_cons_eq_ok_iff.mpr ⟨s₂, hop, hr⟩⟩

theorem wantsDevice_of_linked_none {l : Level} (h : l.linked = none) : l.wantsDevice = false := by
  simp [Level.wantsDevice, h]

/-! ## One kind of phrase at a time -/

theorem parses_join {ts us : List Token} {op : Token} {l r : Segment} {stop : Bool}
    (hop : op.kind = .joint stop) (hl : Parses .line ts l) (hr : Parses .statement us r) :
    Parses .line (ts ++ op :: us) (.sequence l r stop) := by
  intro outer
  obtain ⟨left, htree, hleft⟩ := hl outer
  simp only [Level.tree?, Option.map_eq_some_iff] at htree
  obtain ⟨st, hst, rfl⟩ := htree
  obtain ⟨right, hjoined, hright, hsh⟩ :=
    hr (Parse.State.join ⟨left, outer⟩ st stop) rfl rfl
  refine ⟨right, ?_, shiftAll_operator hleft (.join stop hst hop) hsh⟩
  simp [Level.tree?, hright, hjoined, Parse.State.join, bindJoined]

theorem parses_link {ts us : List Token} {op : Token} {l r : Segment} (link : Link)
    (hop : op.kind = link.kind) (hl : Parses .statement ts l)
    (hr : ∀ s : Parse.State, s.level.focus = .vacant → s.level.linked = some (l, link) →
      ∃ f, f.operand? = some r ∧ shiftAll s us = .ok (s.focused f)) :
    Parses .statement (ts ++ op :: us) (link.bind l r) := by
  intro s hf hn
  obtain ⟨left, hjoined, hst, hleft⟩ := hl s hf hn
  obtain ⟨f, hoperand, hsh⟩ := hr (Parse.State.link ⟨left, s.outer⟩ l link) rfl rfl
  refine ⟨_, ?_, ?_, shiftAll_operator hleft (.link link hst hop) hsh⟩
  · simpa [Parse.State.link] using hjoined
  · simp [Level.statement?, Parse.State.link, hoperand, bindLinked]

theorem parses_string {t : Token} {v : Segment} (hw : Parses .word [t] v) :
    Parses .operand [t] (if t.isInterpolated then v else .bare v) := by
  intro s hf hd
  obtain ⟨u, hu, hk, hv⟩ := hw
  cases hu
  exact ⟨_, rfl, shiftAll_singleton (.word hf hd hk hv)⟩

theorem parses_operand_of_reference {ts : List Token} {t : Segment} (h : Parses .reference ts t) :
    Parses .operand ts t := by
  intro s hf _
  obtain ⟨d, us, rfl, hd, hus⟩ := h
  refine ⟨.closed t, rfl, shiftAll_cons_eq_ok_iff.mpr ⟨_, .sigil hf hd, ?_⟩⟩
  exact hus (s.focused (.sigil d.span)) rfl

theorem parses_value_of_reference {ts : List Token} {t : Segment} (h : Parses .reference ts t) :
    Parses .value ts t := by
  obtain ⟨d, us, rfl, hd, hus⟩ := h
  refine ⟨fun s hf _ => ?_, fun s h args hc => ?_⟩
  · exact shiftAll_cons_eq_ok_iff.mpr ⟨_, .sigil hf hd, hus (s.focused (.sigil d.span)) rfl⟩
  · exact shiftAll_cons_eq_ok_iff.mpr
      ⟨_, .argumentSigil hc hd, hus (s.focused (.argument h args)) rfl⟩

theorem parses_value_of_word {ts : List Token} {t : Segment} (h : Parses .word ts t) :
    Parses .value ts t := by
  obtain ⟨u, rfl, hk, hv⟩ := h
  exact ⟨fun s hf hd => shiftAll_singleton (.device hf hd hk hv),
    fun s h args hc => shiftAll_singleton (.argument hc hk hv)⟩

theorem parses_substitution {d o c : Token} {ts : List Token} {t : Segment}
    (hd : d.kind = .dollar) (ho : o.kind = .leftParen) (hc : c.kind = .rightParen)
    (h : Parses .line ts t) : Parses .reference (d :: o :: (ts ++ [c])) (.substitution t) := by
  refine ⟨d, _, rfl, hd, fun s hw => ?_⟩
  obtain ⟨l, htree, hsh⟩ := h (s.level :: s.outer)
  simp only [Level.tree?, Option.map_eq_some_iff] at htree
  obtain ⟨st, hst, rfl⟩ := htree
  exact shiftAll_cons_eq_ok_iff.mpr
    ⟨_, .enter hw ho, shiftAll_operator hsh (.leave hst rfl hc) rfl⟩

theorem parses_name {d t : Token} {w : String} (hd : d.kind = .dollar) (hk : t.kind = .string)
    (ht : t.text = some w) : Parses .reference [d, t] (variableOf w) :=
  ⟨d, [t], rfl, hd, fun _ hw => shiftAll_singleton (.name hw hk ht)⟩

theorem value_of_parts {t : Token} {ps : List Token} {ss : List Segment}
    (hps : t.pieces = some ps) (h : parts ps = .ok ss) : value t = .ok (.interpolation ss) := by
  cases t with
  | plain k text q sp => cases hps
  | compound k text q sp ps' => cases hps; simp [value, h]

theorem value_of_no_pieces {t : Token} (h : t.pieces = none) : value t = .ok (.text t.literal) := by
  cases t with
  | plain k text q sp => rfl
  | compound k text q sp ps => cases h

theorem part_of_line {p mark : Token} {before after : List Token} {t : Segment}
    (hk : p.kind = .interpolation) (hps : p.pieces = some (before ++ mark :: after))
    (hm : mark.kind = .endOfInput) (hb : NoEndMark before) (h : Parses .line before t) :
    part p = .ok t := by
  obtain ⟨l, htree, hsh⟩ := h []
  cases p with
  | plain k text q sp => cases hps
  | compound k text q sp ps =>
    cases hps
    cases hk
    simp only [part]
    exact run_eq_ok_iff.mpr ⟨before, mark, after, _, rfl, hm, hb, hsh, htree⟩

/-- **The parser does on every derived phrase what the phrase asks for.** -/
theorem Derives.parses {p : Phrase} {ts : List Token} {t : Segment} (h : Derives p ts t) :
    Parses p ts t := by
  induction h with
  | single _ ih =>
    intro outer
    obtain ⟨l, hj, hst, hsh⟩ := ih ⟨.start, outer⟩ rfl rfl
    exact ⟨l, by simp [Level.tree?, hst, hj, Level.start, bindJoined], hsh⟩
  | join stop _ hop _ ihl ihr => exact parses_join hop ihl ihr
  | operand _ ih =>
    intro s hf hn
    obtain ⟨f, hoperand, hsh⟩ := ih s hf (wantsDevice_of_linked_none hn)
    exact ⟨(s.focused f).level, rfl,
      by simp [Parse.State.focused, Level.statement?, hoperand, hn, bindLinked], hsh⟩
  | pipe _ hop _ ihl ihr =>
    exact parses_link .pipe hop ihl fun s hf hk =>
      ihr s hf (by simp [Level.wantsDevice, hk])
  | redirect mode _ hop _ ihl ihr =>
    exact parses_link (.redirect mode) hop ihl fun s hf hk =>
      ⟨_, rfl, ihr.1 s hf (by simp [Level.wantsDevice, hk])⟩
  | @bare t hk hw =>
    have := parses_string ⟨t, rfl, hk, value_of_no_pieces hw⟩
    simpa [Token.isInterpolated, hw] using this
  | string hps hword ih =>
    have := parses_string ih
    obtain ⟨u, hu, hk, -⟩ := ih
    cases hu
    simpa [Token.isInterpolated, hk, hps] using this
  | command _ ih =>
    intro s hf hd
    obtain ⟨h, args, rfl, hsh⟩ := ih s hf hd
    exact ⟨.command h args, rfl, hsh⟩
  | reference _ ih => exact parses_operand_of_reference ih
  | firstArgument _ _ ihh iha =>
    intro s hf hd
    obtain ⟨u, rfl, hk, hv⟩ := ihh
    exact ⟨_, _, rfl, shiftAll_cons_eq_ok_iff.mpr ⟨_, .word hf hd hk hv, iha.2 _ _ [] rfl⟩⟩
  | nextArgument _ _ ihc iha =>
    intro s hf hd
    obtain ⟨h, args, heq, hsh⟩ := ihc s hf hd
    cases heq
    exact ⟨_, _, rfl, shiftAll_append_eq_ok_iff.mpr ⟨_, hsh, iha.2 _ _ _ rfl⟩⟩
  | valueWord _ ih => exact parses_value_of_word ih
  | valueReference _ ih => exact parses_value_of_reference ih
  | @text t hk hw => exact ⟨t, rfl, hk, value_of_no_pieces hw⟩
  | @interpolation t _ _ hk hps _ ih =>
    obtain ⟨ss, heq, hparts⟩ := ih
    cases heq
    exact ⟨t, rfl, hk, value_of_parts hps hparts⟩
  | substitution hd ho _ hc ih => exact parses_substitution hd ho hc ih
  | inScope hd hk ht hn => rw [← variableOf_scoped _ hn]; exact parses_name hd hk ht
  | inDefault hd hk ht hn => rw [← variableOf_of_not_mem hn]; exact parses_name hd hk ht
  | noPieces => exact ⟨[], rfl, rfl⟩
  | textPiece hk _ ih =>
    obtain ⟨ss, heq, hparts⟩ := ih
    cases heq
    exact ⟨_, rfl, by simp [parts, part_of_kind_ne hk, hparts]⟩
  | linePiece hk hps hm hb _ _ ihl ih =>
    obtain ⟨ss, heq, hparts⟩ := ih
    cases heq
    exact ⟨_, rfl, by simp [parts, part_of_line hk hps hm hb ihl, hparts]⟩

/-! ## The parser and the grammar -/

/-- The trees that are read from tokens are exactly those that the grammar derives. -/
theorem ofTokens_accepts_iff {ts : List Token} {t : Segment} :
    Segment.ofTokens ts = .ok t ↔ Accepts ts t := by
  constructor
  · intro h
    simpa [Accepts] using accepts_of_run ts .start none [] t Parse.State.start_reads h
  · rintro ⟨before, mark, after, rfl, hm, hb, hd⟩
    obtain ⟨l, htree, hsh⟩ := hd.parses []
    exact run_eq_ok_iff.mpr ⟨before, mark, after, _, rfl, hm, hb, hsh, htree⟩

/-- Tokens derive at most one line. -/
theorem Derives.line_unique {ts : List Token} {t t' : Segment} (h : Derives .line ts t)
    (h' : Derives .line ts t') : t = t' := by
  obtain ⟨l, ht, hsh⟩ := h.parses []
  obtain ⟨l', ht', hsh'⟩ := h'.parses []
  rw [hsh] at hsh'
  cases hsh'
  rw [ht] at ht'
  cases ht'
  rfl

/-! ## Devices -/

theorem shiftAll_reads {ts : List Token} {s s' : Parse.State} {seen : List Token} (hr : s.Reads seen)
    (h : shiftAll s ts = .ok s') : s'.Reads (seen ++ ts) := by
  induction ts generalizing s seen with
  | nil => cases h; simpa using hr
  | cons t ts ih =>
    obtain ⟨s₁, hs, hsh⟩ := shiftAll_cons_eq_ok_iff.mp h
    have hr₁ := hs.reads (fun v => derives_of_value t v) hr
    simpa using ih hr₁ hsh

/-- A phrase in the place of a value is a text, a variable, a string or a substitution. -/
theorem Derives.isValue {p : Phrase} {ts : List Token} {t : Segment} (h : Derives p ts t)
    (hp : p = .value ∨ p = .word ∨ p = .reference) : t.isValue = true := by
  induction h with
  | valueWord _ ih => exact ih (by simp)
  | valueReference _ ih => exact ih (by simp)
  | text _ _ => rfl
  | interpolation _ _ _ _ => rfl
  | substitution _ _ _ _ _ => rfl
  | inScope _ _ _ _ => rfl
  | inDefault _ _ _ _ => rfl
  | _ => simp at hp

/-- Where a device is wanted, only a value is ever taken. -/
theorem device_isValue {ts : List Token} {s : Parse.State} {d : Segment}
    (h : shiftAll .start ts = .ok s) (hw : s.level.wantsDevice = true)
    (hd : s.level.focus.operand? = some d) : d.isValue = true := by
  obtain ⟨us, vs, -, -, js, ls, fs, -, -, -, hf⟩ := shiftAll_reads Parse.State.start_reads h
  rw [hw] at hf
  exact (hf.device hd).isValue (.inl rfl)

/-- The error refuses a device. -/
def RefusesDevice (e : SyntaxError) : Prop := ∃ found, e.cause = .unexpectedDevice found

/-- The error stands at the token and does not refuse it as a device. -/
structure RefusesOther (t : Token) (e : SyntaxError) : Prop where
  place : e.span = t.span
  other : ¬ RefusesDevice e

section Refusal

variable {s : Parse.State} {t : Token} {e : SyntaxError}

theorem begin_error {r : Except SyntaxError Segment} (hr : ∀ v, r = .ok v → v.isValue = true)
    (h : s.begin t r = .error e) : RefusesOther t e ∨ t.kind = .string ∧ r = .error e := by
  unfold Parse.State.begin at h
  split at h
  · rename_i hk
    cases r with
    | error e' => cases h; exact .inr ⟨hk, rfl⟩
    | ok v =>
      dsimp only at h
      split at h
      · rw [close_of_isValue _ _ (hr v rfl)] at h
        cases h
      · cases h
  · cases h
  · cases h
    exact .inl ⟨rfl, by rintro ⟨found, hfound⟩; cases hfound⟩

theorem afterSigil_error (h : s.afterSigil t = .error e) : RefusesOther t e := by
  unfold Parse.State.afterSigil at h
  split at h
  · cases h
  · split at h
    · cases h
      exact ⟨rfl, by rintro ⟨found, hfound⟩; cases hfound⟩
    · rw [fill_variableOf] at h
      cases h
  · cases h
    exact ⟨rfl, by rintro ⟨found, hfound⟩; cases hfound⟩

theorem goOn_error {st : Segment} (h : s.goOn st t = .error e) : RefusesOther t e := by
  unfold Parse.State.goOn at h
  simp only [fill_substitution, Except.map] at h
  split at h <;> cases h
  exact ⟨rfl, by rintro ⟨found, hfound⟩; cases hfound⟩

theorem argument_error {head st : Segment} {args : List Segment} {r : Except SyntaxError Segment}
    (h : s.argument head args t r st = .error e) :
    RefusesOther t e ∨ t.kind = .string ∧ r = .error e := by
  unfold Parse.State.argument at h
  split at h
  · rename_i hk
    cases r with
    | error e' => cases h; exact .inr ⟨hk, rfl⟩
    | ok v => cases h
  · cases h
  · exact .inl (goOn_error h)

/-- **A token is refused in its own place and never as a device**, unless it is a string and what it
stands for is refused further inside. -/
theorem shift_error (h : s.shift t (value t) = .error e) :
    RefusesOther t e ∨ t.kind = .string ∧ value t = .error e := by
  unfold Parse.State.shift at h
  split at h
  · exact begin_error (fun v => isValue_of_value) h
  · exact .inl (afterSigil_error h)
  · exact .inl (afterSigil_error h)
  · exact argument_error h
  · exact argument_error h
  · exact .inl (goOn_error h)

theorem stuck_refuses (s : Parse.State) (last : Option Token) : ¬ RefusesDevice (s.stuck last) := by
  rintro ⟨found, hfound⟩
  cases last with
  | none => cases hfound
  | some t =>
    unfold Parse.State.stuck at hfound
    dsimp only at hfound
    split at hfound
    · cases hfound
    · cases hfound
    · cases hfound
    · split at hfound <;> cases hfound

end Refusal

mutual

theorem value_refuses : ∀ (t : Token) (e : SyntaxError), value t = .error e → ¬ RefusesDevice e
  | .plain k text q sp, e, h => by
    rw [value] at h
    cases h
  | .compound k text q sp ps, e, h => by
    rw [value] at h
    split at h
    · cases h
      exact parts_refuses ps e ‹_›
    · cases h

theorem part_refuses : ∀ (p : Token) (e : SyntaxError), part p = .error e → ¬ RefusesDevice e
  | .plain k text q sp, e, h => by
    by_cases hk : (Token.plain k text q sp).kind = .interpolation
    · cases hk
      rw [part] at h
      cases h
      exact stuck_refuses _ none
    · rw [part_of_kind_ne hk] at h
      cases h
  | .compound k text q sp inner, e, h => by
    by_cases hk : (Token.compound k text q sp inner).kind = .interpolation
    · cases hk
      rw [part] at h
      exact run_refuses inner .start none e h
    · rw [part_of_kind_ne hk] at h
      cases h

theorem parts_refuses : ∀ (ps : List Token) (e : SyntaxError), parts ps = .error e →
    ¬ RefusesDevice e
  | [], e, h => by
    rw [parts] at h
    cases h
  | p :: ps, e, h => by
    rw [parts] at h
    split at h
    · cases h
      exact part_refuses p e ‹_›
    · split at h
      · cases h
        exact parts_refuses ps e ‹_›
      · cases h

/-- **No run refuses a device**: whatever the tokens and the state are, the check is always passed. -/
theorem run_refuses : ∀ (ts : List Token) (s : Parse.State) (last : Option Token) (e : SyntaxError),
    run s last ts = .error e → ¬ RefusesDevice e
  | [], s, last, e, h => by
    rw [run] at h
    cases h
    exact stuck_refuses s last
  | t :: ts, s, last, e, h => by
    rw [run] at h
    split at h
    · cases h
    · split at h
      · cases h
        obtain hown | ⟨-, hvalue⟩ := shift_error ‹_›
        · exact hown.other
        · exact value_refuses t e hvalue
      · exact run_refuses ts _ (some t) e h

end

/-- The wording that refuses a device. -/
def deviceRefusal (device : Segment) : String :=
  (SyntaxError.Cause.unexpectedDevice device.kindName).message

/-- The character after a word of ten letters and a blank. -/
def afterWord (s : String) : Option Char := s.toList[11]?

theorem afterWord_append {s : String} {c : Char} (t : String) (h : afterWord s = some c) :
    afterWord (s ++ t) = some c := by
  have hlt := (List.getElem?_eq_some_iff.mp h).1
  unfold afterWord at h ⊢
  rw [String.toList_append, List.getElem?_append_left hlt, h]

/-- The names of the kinds of nodes. -/
def kindNames : List String :=
  ["Command", "Pipe", "Redirection", "Sequence", "Text", "Variable", "StringInterpolation",
    "CommandInterpolation"]

theorem kindName_mem (s : Segment) : s.kindName ∈ kindNames := by
  cases s <;> simp [Segment.kindName, kindNames]

theorem afterWord_kindNames : ∀ name ∈ kindNames,
    (afterWord ("Unexpected " ++ name)).any Char.isUpper = true := by decide

theorem afterWord_deviceRefusal (device : Segment) :
    ∃ c, afterWord (deviceRefusal device) = some c ∧ c.isUpper = true := by
  have hany := afterWord_kindNames _ (kindName_mem device)
  cases h : afterWord ("Unexpected " ++ device.kindName) with
  | none => rw [h] at hany; cases hany
  | some c => rw [h] at hany; exact ⟨c, afterWord_append _ h, hany⟩

theorem afterWord_message {cause : SyntaxError.Cause}
    (h : ∀ found, cause ≠ .unexpectedDevice found) :
    ∃ c, afterWord cause.message = some c ∧ c.isUpper = false := by
  have hlit : ∀ {s : String} {c : Char}, afterWord s = some c → ∀ t u v,
      afterWord (s ++ t ++ u ++ v) = some c := fun h t u v =>
    afterWord_append v (afterWord_append u (afterWord_append t h))
  cases cause with
  | unexpectedCharacter c => exact ⟨'c', afterWord_append _ (hlit rfl _ _ _), rfl⟩
  | unterminatedString => exact ⟨'e', rfl, rfl⟩
  | unterminatedInterpolation => exact ⟨'e', rfl, rfl⟩
  | noTokens => exact ⟨'e', rfl, rfl⟩
  | unexpectedToken found expected => exact ⟨'t', hlit rfl _ _ _, rfl⟩
  | expectedSegment found => exact ⟨'h', afterWord_append _ rfl, rfl⟩
  | interpolatedName => exact ⟨'i', rfl, rfl⟩
  | unexpectedDevice found => exact absurd rfl (h found)

/-- Past its first word the refusal goes on with a capital, and no other message does. -/
theorem message_ne_deviceRefusal {e : SyntaxError} (hcause : ¬ RefusesDevice e) (device : Segment) :
    e.message ≠ deviceRefusal device := by
  intro h
  obtain ⟨c, hc, hupper⟩ := afterWord_deviceRefusal device
  obtain ⟨c', hc', hlower⟩ := afterWord_message fun found hfound => hcause ⟨found, hfound⟩
  rw [← h, SyntaxError.message, hc'] at hc
  cases hc
  rw [hupper] at hlower
  cases hlower

/-- **The parser accepts exactly its grammar.**  The trees that are read from a list of tokens are
those that the tokens before the first end mark derive; tokens derive at most one line; and a device
of the wrong kind is never met, so the check for one is always passed and its refusal is never
reported. -/
theorem ofTokens_exact (ts : List Token) :
    (∀ t, Segment.ofTokens ts = .ok t ↔
      ∃ before mark after, ts = before ++ mark :: after ∧ mark.kind = .endOfInput ∧
        (∀ x ∈ before, x.kind ≠ .endOfInput) ∧ Derives .line before t) ∧
    (∀ t t', Derives .line ts t → Derives .line ts t' → t = t') ∧
    (∀ s d, shiftAll .start ts = .ok s → s.level.wantsDevice = true →
      s.level.focus.operand? = some d → d.isValue = true) ∧
    (∀ e device, Segment.ofTokens ts = .error e → e.message ≠ deviceRefusal device) :=
  ⟨fun _ => ofTokens_accepts_iff, fun _ _ => Derives.line_unique, fun _ _ => device_isValue,
    fun e device h => message_ne_deviceRefusal (run_refuses ts .start none e h) device⟩

end CommandShell.Grammar
