import CommandShell.Proofs.Grammar.Completeness
import Mathlib.Order.Bounds.Defs

/-!
# Errors stand at the first token that fits no line

Tokens are viable if a line can begin with them.  A token that is refused makes the tokens up to it
unviable, and the tokens before it can always be completed: by a word where one is missing, and by a
parenthesis for each `$(` that is still open.

* `Grammar.Viable`          : some list that is accepted begins with the tokens;
* `Grammar.Completable`     : the tokens can be completed to a line that ends with its only end mark;
* `Parse.completable_of_shiftAll` : all tokens that are taken can be completed;
* `Parse.run_error`         : a run that fails has taken all tokens before one that it refuses;
* `ofTokens_error_first`    : an error stands at the first token that fits no line.
-/

namespace CommandShell

namespace Grammar

/-- Some list of tokens that is accepted begins with these. -/
def Viable (ts : List Token) : Prop := ∃ rest tree, Segment.ofTokens (ts ++ rest) = .ok tree

/-- The tokens can be completed to a line that ends with its only end mark. -/
def Completable (ts : List Token) : Prop :=
  NoEndMark ts ∧ ∃ rest, NoEndMark rest ∧ ∀ mark : Token, mark.kind = .endOfInput →
    ∃ tree, Segment.ofTokens (ts ++ rest ++ [mark]) = .ok tree

/-- The list ends with its only end mark. -/
def EndsOnce (ts : List Token) : Prop :=
  ∃ body mark, ts = body ++ [mark] ∧ mark.kind = .endOfInput ∧ NoEndMark body

/-- What is viable is so from its first tokens on. -/
theorem Viable.of_prefix {ts us : List Token} (h : Viable us) (hp : ts <+: us) : Viable ts := by
  obtain ⟨rest, tree, htree⟩ := h
  obtain ⟨more, rfl⟩ := hp
  exact ⟨more ++ rest, tree, by rw [← List.append_assoc]; exact htree⟩

theorem Completable.viable {ts : List Token} (h : Completable ts) : Viable ts := by
  obtain ⟨-, rest, -, hrest⟩ := h
  obtain ⟨tree, htree⟩ := hrest (.plain .endOfInput none false .nowhere) rfl
  exact ⟨_, tree, by rw [← List.append_assoc]; exact htree⟩

end Grammar

/-- Each interpolation among the pieces of a token holds a line. -/
def Token.HoldsLines (t : Token) : Prop :=
  ∀ ps, t.pieces = some ps → ∀ p ∈ ps, p.kind = .interpolation →
    ∃ tree, Segment.ofTokens (p.pieces.getD []) = .ok tree

namespace Parse

open Grammar

/-! ## Completing a line -/

/-- A word that fits wherever an operand or a value has to begin. -/
def filler : Token := .plain .string (some "") false .nowhere

/-- The token that ends a substitution. -/
def closing : Token := .plain .rightParen (some ")") false .nowhere

/-- Where a `$` waits, any value ends the statement. -/
theorem Level.statement?_filled {l : Level} (h : l.focus.waits = true) (v : Segment) :
    ∃ st, (l.filled v).statement? = some st := by
  unfold Level.filled
  cases hf : l.focus with
  | sigil start => exact ⟨_, rfl⟩
  | argument head args => exact ⟨_, rfl⟩
  | vacant => rw [hf] at h; cases h
  | word head interpolated => rw [hf] at h; cases h
  | command head args => rw [hf] at h; cases h
  | closed operand => rw [hf] at h; cases h

/-- Some tokens bring the statement under way to an end, on its own level. -/
def State.CanEnd (s : State) : Prop :=
  ∃ ts l st, NoEndMark ts ∧ shiftAll s ts = .ok ⟨l, s.outer⟩ ∧ l.statement? = some st

/-- **At most one word is missing to the end of a statement.** -/
theorem State.canEnd (s : State) : s.CanEnd := by
  have hword : NoEndMark [filler] := by simp [filler, Token.kind]
  have hdone : ∀ operand, s.level.focus.operand? = some operand → s.CanEnd := by
    intro operand ho
    exact ⟨[], s.level, bindLinked s.level.linked operand, noEndMark_nil, rfl,
      by rw [Level.statement?, ho, Option.map_some]⟩
  have hwaits : s.level.focus.waits = true → s.CanEnd := by
    intro hw
    obtain ⟨st, hst⟩ := Level.statement?_filled hw (variableOf "")
    exact ⟨[filler], _, st, hword, shiftAll_singleton (.name hw rfl rfl), hst⟩
  cases hf : s.level.focus with
  | vacant =>
    cases hd : s.level.wantsDevice with
    | true =>
      exact ⟨[filler], _, _, hword, shiftAll_singleton (.device hf hd rfl rfl), rfl⟩
    | false =>
      exact ⟨[filler], _, _, hword, shiftAll_singleton (.word hf hd rfl rfl), rfl⟩
  | sigil start => exact hwaits (by rw [hf]; rfl)
  | argument head args => exact hwaits (by rw [hf]; rfl)
  | word head interpolated => exact hdone _ (by rw [hf]; rfl)
  | command head args => exact hdone _ (by rw [hf]; rfl)
  | closed operand => exact hdone _ (by rw [hf]; rfl)

/-- Parentheses end the levels around a statement, one each. -/
theorem exists_finished {l : Level} {st : Segment} {outer : List Level}
    (hst : l.statement? = some st) (hwaits : ∀ around ∈ outer, around.focus.waits = true) :
    ∃ ts s tree, NoEndMark ts ∧ shiftAll ⟨l, outer⟩ ts = .ok s ∧ s.finished? = some tree := by
  induction outer generalizing l st with
  | nil =>
    refine ⟨[], ⟨l, []⟩, bindJoined l.joined st, noEndMark_nil, rfl, ?_⟩
    simp [State.finished?, Level.tree?, hst]
  | cons around outer ih =>
    obtain ⟨hw, hrest⟩ := List.forall_mem_cons.mp hwaits
    obtain ⟨st', hst'⟩ := Level.statement?_filled hw (.substitution (bindJoined l.joined st))
    obtain ⟨ts, s, tree, hno, hsh, hfin⟩ := ih hst' hrest
    have hleave : Step ⟨l, around :: outer⟩ closing
        ⟨around.filled (.substitution (bindJoined l.joined st)), outer⟩ := .leave hst rfl rfl
    refine ⟨closing :: ts, s, tree, ?_, shiftAll_cons_eq_ok_iff.mpr ⟨_, hleave, hsh⟩, hfin⟩
    rw [noEndMark_cons]
    exact ⟨by simp [closing, Token.kind], hno⟩

/-- The levels around the innermost one wait at a `$`. -/
theorem ReadsOuter.waits {outer : List Level} {ts : List Token} (h : ReadsOuter outer ts) :
    ∀ around ∈ outer, around.focus.waits = true := by
  induction outer generalizing ts with
  | nil => intro around hmem; cases hmem
  | cons l outer ih =>
    obtain ⟨us, vs, o, -, hus, -, hw, -⟩ := h
    exact List.forall_mem_cons.mpr ⟨hw, ih hus⟩

theorem noEndMark_of_shiftAll {s s' : State} {ts : List Token} (h : shiftAll s ts = .ok s') :
    NoEndMark ts := by
  induction ts generalizing s with
  | nil => exact noEndMark_nil
  | cons t ts ih =>
    obtain ⟨s₁, hstep, hsh⟩ := shiftAll_cons_eq_ok_iff.mp h
    exact noEndMark_cons.mpr ⟨hstep.kind_ne_endOfInput, ih hsh⟩

/-- **Tokens that are taken can be completed to a line.** -/
theorem completable_of_shiftAll {ts : List Token} {s : State} (h : shiftAll .start ts = .ok s) :
    Completable ts := by
  have hno := noEndMark_of_shiftAll h
  obtain ⟨us, vs, -, houter, -⟩ := shiftAll_reads State.start_reads h
  obtain ⟨word, l, st, hword, hsh, hst⟩ := s.canEnd
  obtain ⟨parens, s', tree, hparens, hsh', hfin⟩ := exists_finished hst houter.waits
  refine ⟨hno, word ++ parens, noEndMark_append.mpr ⟨hword, hparens⟩, fun mark hmark => ⟨tree, ?_⟩⟩
  have hall : shiftAll .start (ts ++ (word ++ parens)) = .ok s' :=
    shiftAll_append_eq_ok_iff.mpr ⟨s, h, shiftAll_append_eq_ok_iff.mpr ⟨_, hsh, hsh'⟩⟩
  exact run_eq_ok_iff.mpr ⟨_, mark, [], s', rfl, hmark, noEndMark_of_shiftAll hall, hall, hfin⟩

/-! ## Runs that fail -/

/-- A token at which the line does not end is taken or refused. -/
theorem run_cons_of_open {s : State} {t : Token} (h : t.kind = .endOfInput → s.finished? = none)
    (last : Option Token) (ts : List Token) :
    run s last (t :: ts) =
      match s.shift t (value t) with
      | .error e => .error e
      | .ok s' => run s' (some t) ts := by
  rw [run]
  split
  · rename_i tree hk hf
    rw [h hk] at hf
    cases hf
  · rfl

/-- A run goes on behind the tokens that are taken. -/
theorem run_append {s s' : State} {ts : List Token} (h : shiftAll s ts = .ok s')
    (last : Option Token) (us : List Token) : ∃ last', run s last (ts ++ us) = run s' last' us := by
  induction ts generalizing s last with
  | nil => cases h; exact ⟨last, rfl⟩
  | cons t ts ih =>
    obtain ⟨s₁, hstep, hsh⟩ := shiftAll_cons_eq_ok_iff.mp h
    obtain ⟨last', hrun⟩ := ih hsh (some t)
    have hopen : t.kind = .endOfInput → s.finished? = none := fun hk =>
      absurd hk hstep.kind_ne_endOfInput
    refine ⟨last', ?_⟩
    rw [List.cons_append, run_cons_of_open hopen, shift_eq_ok_iff.mpr hstep]
    exact hrun

/-- **A run that fails has taken all tokens before one that it refuses**, if an end mark comes last and
nowhere else. -/
theorem run_error {s : State} {last : Option Token} {body : List Token} {mark : Token}
    {e : SyntaxError} (hmark : mark.kind = .endOfInput) (hbody : NoEndMark body)
    (h : run s last (body ++ [mark]) = .error e) :
    ∃ before t after s', body ++ [mark] = before ++ t :: after ∧ shiftAll s before = .ok s' ∧
      (t.kind = .endOfInput → s'.finished? = none) ∧ s'.shift t (value t) = .error e := by
  induction body generalizing s last with
  | nil =>
    have hopen : s.finished? = none := by
      cases hfin : s.finished? with
      | none => rfl
      | some tree =>
        have hok : run s last [mark] = .ok tree := run_cons_eq_ok_iff.mpr (.inl ⟨hmark, hfin⟩)
        rw [List.nil_append, hok] at h
        cases h
    rw [List.nil_append, run_cons_of_open fun _ => hopen] at h
    cases hshift : s.shift mark (value mark) with
    | error e' =>
      rw [hshift] at h
      cases h
      exact ⟨[], mark, [], s, rfl, rfl, fun _ => hopen, hshift⟩
    | ok s' => exact absurd hmark (shift_eq_ok_iff.mp hshift).kind_ne_endOfInput
  | cons t body ih =>
    obtain ⟨ht, hbody⟩ := noEndMark_cons.mp hbody
    have hopen : t.kind = .endOfInput → s.finished? = none := fun hk => absurd hk ht
    rw [List.cons_append, run_cons_of_open hopen] at h
    cases hshift : s.shift t (value t) with
    | error e' =>
      rw [hshift] at h
      cases h
      exact ⟨[], t, body ++ [mark], s, rfl, rfl, hopen, hshift⟩
    | ok s₁ =>
      rw [hshift] at h
      obtain ⟨before, u, after, s', heq, hsh, hend, hrefused⟩ := ih hbody h
      refine ⟨t :: before, u, after, s', by rw [List.cons_append, heq]; rfl, ?_, hend, hrefused⟩
      exact shiftAll_cons_eq_ok_iff.mpr ⟨s₁, shift_eq_ok_iff.mp hshift, hsh⟩

/-- **No line begins with tokens the last of which is refused.** -/
theorem not_viable_of_refused {before : List Token} {t : Token} {s : State} {e : SyntaxError}
    (hsh : shiftAll .start before = .ok s) (hend : t.kind = .endOfInput → s.finished? = none)
    (hrefused : s.shift t (value t) = .error e) : ¬ Viable (before ++ [t]) := by
  rintro ⟨rest, tree, htree⟩
  obtain ⟨last, hrun⟩ := run_append hsh none (t :: rest)
  have hok : run s last (t :: rest) = .ok tree := by
    rw [← hrun, ← htree, List.append_assoc]
    rfl
  rw [run_cons_of_open hend, hrefused] at hok
  cases hok

/-! ## Strings that hold lines -/

theorem part_of_interpolation {p : Token} (h : p.kind = .interpolation) :
    part p = Segment.ofTokens (p.pieces.getD []) := by
  cases p with
  | plain k text q sp => cases h; simp [part, Token.pieces, Segment.ofTokens, run]
  | compound k text q sp ps => cases h; simp [part, Token.pieces, Segment.ofTokens]

/-- A token whose interpolations hold lines stands for a word. -/
theorem value_of_holdsLines {t : Token} (h : t.HoldsLines) : ∃ v, value t = .ok v := by
  cases hps : t.pieces with
  | none => exact ⟨_, value_of_no_pieces hps⟩
  | some ps =>
    have hlines := h ps hps
    suffices ∃ ss, parts ps = .ok ss by
      obtain ⟨ss, hss⟩ := this
      exact ⟨_, value_of_parts hps hss⟩
    clear hps h
    induction ps with
    | nil => exact ⟨[], by simp [parts]⟩
    | cons p ps ih =>
      obtain ⟨hp, hrest⟩ := List.forall_mem_cons.mp hlines
      obtain ⟨ss, hss⟩ := ih hrest
      have hpart : ∃ v, part p = .ok v := by
        by_cases hk : p.kind = .interpolation
        · rw [part_of_interpolation hk]; exact hp hk
        · exact ⟨_, part_of_kind_ne hk⟩
      obtain ⟨v, hv⟩ := hpart
      exact ⟨v :: ss, by simp [parts, hv, hss]⟩

end Parse

namespace Grammar

open Parse

/-- **An error stands at the first token that fits no line.** Take tokens that end with their only end
mark, and whose strings hold lines in their interpolations. If they are refused, the error has the
place of the token with the least index such that no accepted list begins with the tokens up to it; and
the tokens before it can be completed to a line. -/
theorem ofTokens_error_first {ts : List Token} {e : SyntaxError} (hends : EndsOnce ts)
    (hlines : ∀ t ∈ ts, t.kind = .string → t.HoldsLines) (h : Segment.ofTokens ts = .error e) :
    ∃ k t, ts[k]? = some t ∧ e.span = t.span ∧
      IsLeast {i | i < ts.length ∧ ¬ Viable (ts.take (i + 1))} k ∧ Completable (ts.take k) := by
  obtain ⟨body, mark, rfl, hmark, hbody⟩ := hends
  obtain ⟨before, t, after, s, heq, hsh, hend, hrefused⟩ := run_error hmark hbody h
  rw [heq] at hlines ⊢
  have hspan : e.span = t.span := by
    obtain hown | ⟨hk, herror⟩ := shift_error hrefused
    · exact hown.place
    · obtain ⟨v, hv⟩ := value_of_holdsLines (hlines t (by simp) hk)
      rw [herror] at hv
      cases hv
  have hcomplete : Completable before := completable_of_shiftAll hsh
  have htake : (before ++ t :: after).take before.length = before := List.take_left
  have htake' : (before ++ t :: after).take (before.length + 1) = before ++ [t] := by
    rw [List.take_length_add_append]
    rfl
  refine ⟨before.length, t, by simp, hspan, ⟨⟨by simp, ?_⟩, ?_⟩, ?_⟩
  · rw [htake']
    exact not_viable_of_refused hsh hend hrefused
  · rintro i ⟨-, hi⟩
    -- The tokens before the refused one are viable, and so are the first of them.
    refine Nat.le_of_not_lt fun hlt => hi ?_
    rw [List.take_append_of_le_length hlt]
    exact hcomplete.viable.of_prefix (List.take_prefix _ _)
  · rw [htake]
    exact hcomplete

/-- A stretch of one character of a line without line feeds. -/
def spot (n : Nat) : Span := ⟨⟨n, 1, n + 1⟩, ⟨n + 1, 1, n + 2⟩⟩

/-- The tokens of `$(a "{b}")) c`, where one parenthesis too many is closed. -/
def overclosed : List Token :=
  [.plain .dollar (some "$") false (spot 0), .plain .leftParen (some "(") false (spot 1),
    .plain .string (some "a") false (spot 2),
    .compound .string none true (spot 4)
      [.plain .string (some "") false (spot 5),
        .compound .interpolation none false (spot 5)
          [.plain .string (some "b") false (spot 6), .plain .endOfInput none false (spot 7)],
        .plain .string (some "") false (spot 8)],
    .plain .rightParen (some ")") false (spot 9), .plain .rightParen (some ")") false (spot 10),
    .plain .string (some "c") false (spot 12), .plain .endOfInput none false (spot 13)]

theorem ofTokens_error_first_overclosed :
    EndsOnce overclosed ∧ (∀ t ∈ overclosed, t.kind = .string → t.HoldsLines) ∧
      Segment.ofTokens overclosed =
        .error ⟨.unexpectedToken .rightParen .endOfInput, spot 10⟩ ∧
      IsLeast {i | i < overclosed.length ∧ ¬ Viable (overclosed.take (i + 1))} 5 ∧
      Completable (overclosed.take 5) := by
  have hends : EndsOnce overclosed :=
    ⟨overclosed.dropLast, _, rfl, rfl, by simp [overclosed, Token.kind]⟩
  have hb : Segment.ofTokens
      [.plain .string (some "b") false (spot 6), .plain .endOfInput none false (spot 7)] =
        .ok (.bare (.text "b")) := by rfl
  have hlines : ∀ t ∈ overclosed, t.kind = .string → t.HoldsLines := by
    simp [overclosed, Token.HoldsLines, Token.kind, Token.pieces, hb]
  have herror : Segment.ofTokens overclosed =
      .error ⟨.unexpectedToken .rightParen .endOfInput, spot 10⟩ := by rfl
  obtain ⟨k, t, hk, hspan, hleast, hcomplete⟩ := ofTokens_error_first hends hlines herror
  have hfive : k = 5 := by
    have hlt : k < 8 := (List.getElem?_eq_some_iff.mp hk).1
    have hspans : (overclosed.map Token.span)[k]? = some (spot 10) := by
      rw [List.getElem?_map, hk, Option.map_some, ← hspan]
    have honly : ∀ i < 8, (overclosed.map Token.span)[i]? = some (spot 10) → i = 5 := by decide
    exact honly k hlt hspans
  subst hfive
  exact ⟨hends, hlines, herror, hleast, hcomplete⟩

end Grammar

end CommandShell
