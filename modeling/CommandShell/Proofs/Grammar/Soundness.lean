import CommandShell.Proofs.Grammar.Step

/-!
# What the parser accepts is derived

Each state of the parser stands for the tokens that led to it: they are cut into the statements
before the last `;` or `&`, the left side of the last `|` or redirection, and the operand under way.

* `Parse.Level.Reads`, `Parse.State.Reads` : the tokens that a level and a state stand for;
* `Parse.Step.reads`   : a step adds its token;
* `Parse.accepts_of_run` : what a run accepts is derived by the grammar.
-/

namespace CommandShell.Parse

open Grammar

/-- The tokens of the statements before the last `;` or `&`. -/
def ReadsJoined : Option (Segment × Bool) → List Token → Prop
  | none, ts => ts = []
  | some (left, stop), ts => ∃ us op, ts = us ++ [op] ∧ Derives .line us left ∧
      op.kind = .joint stop

/-- The tokens of the left side of the last `|` or redirection. -/
def ReadsLinked : Option (Segment × Link) → List Token → Prop
  | none, ts => ts = []
  | some (left, link), ts => ∃ us op, ts = us ++ [op] ∧ Derives .statement us left ∧
      op.kind = link.kind

/-- The tokens of the operand under way, which has to be a device or may be any operand. An open
call is known by what it becomes with one more argument. -/
def Focus.Reads (device : Bool) : Focus → List Token → Prop
  | vacant, ts => ts = []
  | sigil _, ts => ∃ d, ts = [d] ∧ d.kind = .dollar
  | word head interpolated, ts => device = false ∧ ∃ t, ts = [t] ∧ Derives .word [t] head ∧
      t.isInterpolated = interpolated
  | command head args, ts => device = false ∧ Derives .call ts (.command head args)
  | argument head args, ts => device = false ∧ ∃ us d, ts = us ++ [d] ∧ d.kind = .dollar ∧
      ∀ vs v, Derives .value vs v → Derives .call (us ++ vs) (.command head (args ++ [v]))
  | closed operand, ts => Derives .value ts operand ∧
      (device = false → Derives .operand ts operand)

/-- The tokens of a level. -/
def Level.Reads (l : Level) (ts : List Token) : Prop :=
  ∃ js ls fs, ts = js ++ ls ++ fs ∧ ReadsJoined l.joined js ∧ ReadsLinked l.linked ls ∧
    l.focus.Reads l.wantsDevice fs

/-- The tokens of the levels around the innermost one, with the parenthesis that opens it. -/
def ReadsOuter : List Level → List Token → Prop
  | [], ts => ts = []
  | l :: outer, ts => ∃ us vs o, ts = us ++ vs ++ [o] ∧ ReadsOuter outer us ∧ l.Reads vs ∧
      l.focus.waits = true ∧ o.kind = .leftParen

/-- The tokens that led to a state. -/
def State.Reads (s : State) (ts : List Token) : Prop :=
  ∃ us vs, ts = us ++ vs ∧ ReadsOuter s.outer us ∧ s.level.Reads vs

theorem State.start_reads : State.start.Reads [] :=
  ⟨[], [], rfl, rfl, [], [], [], rfl, rfl, rfl, rfl⟩

/-! ## Phrases that end -/

/-- A lone word as an operand. -/
theorem derives_word_operand {t : Token} {head : Segment} (h : Derives .word [t] head) :
    Derives .operand [t] (if t.isInterpolated then head else .bare head) := by
  obtain ⟨u, hu, hk, ⟨hw, rfl⟩ | ⟨ps, ss, hps, rfl, -⟩⟩ := h.word_cases
  · cases hu
    simp only [Token.isInterpolated, hk, hw]
    exact .bare hk hw
  · cases hu
    simp only [Token.isInterpolated, hk, hps]
    exact .string hps h

theorem Focus.Reads.operand {f : Focus} {ts : List Token} {t : Segment} (hr : f.Reads false ts)
    (ho : f.operand? = some t) : Derives .operand ts t := by
  cases f with
  | vacant => cases ho
  | sigil start => cases ho
  | argument head args => cases ho
  | word head interpolated =>
    obtain ⟨-, u, rfl, hd, rfl⟩ := hr
    cases ho
    exact derives_word_operand hd
  | command head args =>
    obtain ⟨-, hd⟩ := hr
    cases ho
    exact .command hd
  | closed operand =>
    cases ho
    exact hr.2 rfl

/-- Where a device is wanted, the operand under way is a value. -/
theorem Focus.Reads.device {f : Focus} {ts : List Token} {t : Segment} (hr : f.Reads true ts)
    (ho : f.operand? = some t) : Derives .value ts t := by
  cases f with
  | vacant => cases ho
  | sigil start => cases ho
  | argument head args => cases ho
  | word head interpolated => cases hr.1
  | command head args => cases hr.1
  | closed operand =>
    cases ho
    exact hr.1

/-- The tokens of a level whose statement can end: the statements before it, and the statement. -/
theorem Level.Reads.statement {l : Level} {ts : List Token} {t : Segment} (hr : l.Reads ts)
    (hs : l.statement? = some t) :
    ∃ js us, ts = js ++ us ∧ ReadsJoined l.joined js ∧ Derives .statement us t := by
  obtain ⟨js, ls, fs, rfl, hj, hl, hf⟩ := hr
  simp only [Level.statement?, Option.map_eq_some_iff] at hs
  obtain ⟨operand, ho, rfl⟩ := hs
  refine ⟨js, ls ++ fs, by simp, hj, ?_⟩
  cases hk : l.linked with
  | none =>
    rw [hk] at hl
    obtain rfl : ls = [] := hl
    have hw : l.wantsDevice = false := by simp [Level.wantsDevice, hk]
    rw [hw] at hf
    exact .operand (hf.operand ho)
  | some p =>
    obtain ⟨left, link⟩ := p
    rw [hk] at hl
    obtain ⟨us, op, rfl, hleft, hop⟩ := hl
    rw [List.append_assoc, List.singleton_append]
    cases link with
    | pipe =>
      have hw : l.wantsDevice = false := by simp [Level.wantsDevice, hk]
      rw [hw] at hf
      exact .pipe hleft hop (hf.operand ho)
    | redirect mode =>
      have hw : l.wantsDevice = true := by simp [Level.wantsDevice, hk]
      rw [hw] at hf
      exact .redirect mode hleft hop (hf.device ho)

theorem derives_bindJoined {joined : Option (Segment × Bool)} {js us : List Token} {t : Segment}
    (hj : ReadsJoined joined js) (hs : Derives .statement us t) :
    Derives .line (js ++ us) (bindJoined joined t) := by
  cases joined with
  | none =>
    obtain rfl : js = [] := hj
    exact .single hs
  | some p =>
    obtain ⟨left, stop⟩ := p
    obtain ⟨vs, op, rfl, hleft, hop⟩ := hj
    rw [List.append_assoc, List.singleton_append]
    exact .join stop hleft hop hs

theorem Level.Reads.tree {l : Level} {ts : List Token} {t : Segment} (hr : l.Reads ts)
    (ht : l.tree? = some t) : Derives .line ts t := by
  simp only [Level.tree?, Option.map_eq_some_iff] at ht
  obtain ⟨statement, hs, rfl⟩ := ht
  obtain ⟨js, us, rfl, hj, hd⟩ := hr.statement hs
  exact derives_bindJoined hj hd

/-! ## One step -/

/-- The value after a `$` goes where the `$` waits for it. -/
theorem Level.Reads.filled {l : Level} {ts vs : List Token} {v : Segment} (hr : l.Reads ts)
    (hw : l.focus.waits = true)
    (hv : ∀ d : Token, d.kind = .dollar → Derives .reference (d :: vs) v) :
    (l.filled v).Reads (ts ++ vs) := by
  obtain ⟨js, ls, fs, rfl, hj, hl, hf⟩ := hr
  unfold Level.filled
  cases hfoc : l.focus with
  | sigil start =>
    rw [hfoc] at hf
    obtain ⟨d, rfl, hd⟩ := hf
    exact ⟨js, ls, d :: vs, by simp, hj, hl, .valueReference (hv d hd), fun _ => .reference (hv d hd)⟩
  | argument head args =>
    rw [hfoc] at hf
    obtain ⟨hdev, us, d, rfl, hd, hcall⟩ := hf
    refine ⟨js, ls, us ++ d :: vs, by simp, hj, hl, hdev, ?_⟩
    exact hcall _ _ (.valueReference (hv d hd))
  | vacant => rw [hfoc] at hw; cases hw
  | word head interpolated => rw [hfoc] at hw; cases hw
  | command head args => rw [hfoc] at hw; cases hw
  | closed operand => rw [hfoc] at hw; cases hw

/-- Another operand under way, after the same statements and left sides. -/
theorem State.Reads.focused {s : State} {ts us : List Token} {f : Focus} (hr : s.Reads ts)
    (hf : ∀ fs, s.level.focus.Reads s.level.wantsDevice fs → f.Reads s.level.wantsDevice (fs ++ us)) :
    (s.focused f).Reads (ts ++ us) := by
  obtain ⟨os, vs, rfl, ho, js, ls, fs, rfl, hj, hl, hfs⟩ := hr
  exact ⟨os, js ++ ls ++ (fs ++ us), by simp, ho, js, ls, fs ++ us, rfl, hj, hl, hf fs hfs⟩

/-- A word after `$` as a variable. -/
theorem derives_variableOf {d t : Token} {w : String} (hd : d.kind = .dollar)
    (hk : t.kind = .string) (ht : t.text = some w) : Derives .reference [d, t] (variableOf w) := by
  by_cases hmem : ':' ∈ w.toList
  · obtain ⟨scope, name, rfl, hscope⟩ := eq_scoped_of_mem hmem
    rw [variableOf_scoped name hscope]
    exact .inScope hd hk ht hscope
  · rw [variableOf_of_not_mem hmem]
    exact .inDefault hd hk ht hmem

/-- **A step adds its token to the tokens read.** -/
theorem Step.reads {s s' : State} {t : Token} {ts : List Token} (h : Step s t s')
    (hword : ∀ v, t.kind = .string → value t = .ok v → Derives .word [t] v) (hr : s.Reads ts) :
    s'.Reads (ts ++ [t]) := by
  cases h with
  | device hf hw hk hv =>
    refine hr.focused fun fs hfs => ?_
    rw [hf] at hfs
    obtain rfl : fs = [] := hfs
    rw [hw]
    exact ⟨.valueWord (hword _ hk hv), fun h => by cases h⟩
  | word hf hw hk hv =>
    refine hr.focused fun fs hfs => ?_
    rw [hf] at hfs
    obtain rfl : fs = [] := hfs
    exact ⟨hw, t, rfl, hword _ hk hv, rfl⟩
  | sigil hf hk =>
    refine hr.focused fun fs hfs => ?_
    rw [hf] at hfs
    obtain rfl : fs = [] := hfs
    exact ⟨t, rfl, hk⟩
  | enter hf hk =>
    obtain ⟨us, vs, rfl, ho, hl⟩ := hr
    exact ⟨us ++ vs ++ [t], [], by simp, ⟨us, vs, t, rfl, ho, hl, hf, hk⟩,
      [], [], [], rfl, rfl, rfl, rfl⟩
  | name hf hk ht =>
    obtain ⟨us, vs, rfl, ho, hl⟩ := hr
    exact ⟨us, vs ++ [t], by simp, ho, hl.filled hf fun d hd => derives_variableOf hd hk ht⟩
  | argument hc hk hv =>
    refine hr.focused fun fs hfs => ?_
    have hval : Derives .value [t] _ := .valueWord (hword _ hk hv)
    cases hfoc : s.level.focus <;> rw [hfoc] at hc hfs <;> cases hc
    · obtain ⟨hdev, u, rfl, hd, -⟩ := hfs
      exact ⟨hdev, .firstArgument hd hval⟩
    · exact ⟨hfs.1, .nextArgument hfs.2 hval⟩
  | argumentSigil hc hk =>
    refine hr.focused fun fs hfs => ?_
    cases hfoc : s.level.focus <;> rw [hfoc] at hc hfs <;> cases hc
    · obtain ⟨hdev, u, rfl, hd, -⟩ := hfs
      exact ⟨hdev, [u], t, rfl, hk, fun vs v hv => .firstArgument hd hv⟩
    · exact ⟨hfs.1, fs, t, rfl, hk, fun vs v hv => .nextArgument hfs.2 hv⟩
  | link k hs hk =>
    obtain ⟨us, vs, rfl, ho, hl⟩ := hr
    obtain ⟨js, ws, rfl, hj, hd⟩ := hl.statement hs
    exact ⟨us, js ++ (ws ++ [t]), by simp, ho, js, ws ++ [t], [], by simp, hj,
      ⟨ws, t, rfl, hd, hk⟩, rfl⟩
  | join stop hs hk =>
    obtain ⟨us, vs, rfl, ho, hl⟩ := hr
    obtain ⟨js, ws, rfl, hj, hd⟩ := hl.statement hs
    exact ⟨us, js ++ ws ++ [t], by simp, ho, js ++ ws ++ [t], [], [], by simp,
      ⟨js ++ ws, t, rfl, derives_bindJoined hj hd, hk⟩, rfl, rfl⟩
  | leave hs hn hk =>
    obtain ⟨us, vs, rfl, ho, hl⟩ := hr
    obtain ⟨js, ws, rfl, hj, hd⟩ := hl.statement hs
    rw [hn] at ho
    obtain ⟨us, as, o, rfl, ho, ha, hwaits, hopen⟩ := ho
    refine ⟨us, as ++ (o :: (js ++ ws ++ [t])), by simp, ho, ha.filled hwaits fun d hd' => ?_⟩
    exact .substitution hd' hopen (derives_bindJoined hj hd) hk

/-! ## Whole runs -/

/-- Every piece but an interpolation stands for its text. -/
theorem part_of_kind_ne {p : Token} (hk : p.kind ≠ .interpolation) :
    part p = .ok (.text p.literal) := by
  cases p with
  | plain k text q sp => cases k <;> first | rfl | exact absurd rfl hk
  | compound k text q sp ps => cases k <;> first | rfl | exact absurd rfl hk

mutual

/-- What a string stands for as a word is derived. -/
theorem derives_of_value : ∀ (t : Token) (v : Segment), t.kind = .string → value t = .ok v →
    Derives .word [t] v
  | .plain k text q sp, v, hk, h => by
    simp only [value, Except.ok.injEq] at h
    subst h
    exact .text hk rfl
  | .compound k text q sp ps, v, hk, h => by
    simp only [value] at h
    split at h
    · cases h
    · rename_i ss hps
      cases h
      exact .interpolation hk rfl (derives_of_parts ps ss hps)

/-- What the pieces of a string stand for is derived. -/
theorem derives_of_parts : ∀ (ps : List Token) (ss : List Segment), parts ps = .ok ss →
    Derives .pieces ps (.interpolation ss)
  | [], ss, h => by
    simp only [parts, Except.ok.injEq] at h
    subst h
    exact .noPieces
  | p :: ps, ss, h => by
    simp only [parts] at h
    split at h
    · cases h
    rename_i v hv
    split at h
    · cases h
    rename_i vs hvs
    cases h
    exact derives_of_part p v hv ps vs (derives_of_parts ps vs hvs)

/-- What one piece stands for can be put before the pieces after it. -/
theorem derives_of_part : ∀ (p : Token) (v : Segment), part p = .ok v → ∀ ps ss,
    Derives .pieces ps (.interpolation ss) → Derives .pieces (p :: ps) (.interpolation (v :: ss))
  | .plain k text q sp, v, h, ps, ss, hrest => by
    by_cases hk : (Token.plain k text q sp).kind = .interpolation
    · cases hk; simp [part] at h
    · rw [part_of_kind_ne hk] at h
      cases h
      exact .textPiece hk hrest
  | .compound k text q sp inner, v, h, ps, ss, hrest => by
    by_cases hk : (Token.compound k text q sp inner).kind = .interpolation
    · cases hk
      simp only [part] at h
      obtain ⟨before, mark, after, rfl, hm, hb, hd⟩ :=
        accepts_of_run inner .start none [] v State.start_reads h
      exact .linePiece rfl rfl hm hb hd hrest
    · rw [part_of_kind_ne hk] at h
      cases h
      exact .textPiece hk hrest

/-- **What a run accepts is derived**: the tokens that led to its state and those up to the first
end mark make a line. -/
theorem accepts_of_run : ∀ (ts : List Token) (s : State) (last : Option Token) (seen : List Token)
    (t : Segment), s.Reads seen → run s last ts = .ok t →
    ∃ before mark after, ts = before ++ mark :: after ∧ mark.kind = .endOfInput ∧
      NoEndMark before ∧ Derives .line (seen ++ before) t
  | [], s, last, seen, t, hr, h => by simp [run] at h
  | u :: us, s, last, seen, t, hr, h => by
    rcases run_cons_eq_ok_iff.mp h with ⟨hk, hf⟩ | ⟨s', hs, hrun⟩
    · obtain ⟨os, vs, rfl, ho, hl⟩ := hr
      simp only [State.finished?, List.isEmpty_iff] at hf
      split at hf
      · rename_i hempty
        rw [hempty] at ho
        obtain rfl : os = [] := ho
        exact ⟨[], u, us, rfl, hk, noEndMark_nil, by simpa using hl.tree hf⟩
      · cases hf
    · have hr' := hs.reads (fun v => derives_of_value u v) hr
      obtain ⟨before, mark, after, rfl, hm, hb, hd⟩ := accepts_of_run us s' (some u) _ t hr' hrun
      exact ⟨u :: before, mark, after, rfl, hm,
        noEndMark_cons.mpr ⟨hs.kind_ne_endOfInput, hb⟩, by simpa using hd⟩

end

end CommandShell.Parse
