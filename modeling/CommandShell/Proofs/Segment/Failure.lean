import CommandShell.Proofs.Segment.Trace

/-!
# Failures end a line

Where every sequence stops on failure, nothing is done any more once a command has failed: its outcome
is the outcome of the whole line, or, if it stands in the head of a command, the error that there is no
name.

* `Segment.stopsOnFailure` : there is no `;` in the tree;
* `Ending`                 : how a trace and a result belong together;
* `Halts`                  : an action ends with its first failure;
* `traced_halts`           : evaluation does;
* `eval_ends_with_failure` : the same, said of evaluation and of what it does.
-/

namespace CommandShell

namespace Segment

mutual

/-- Every sequence of the tree, wherever it stands, stops on failure. -/
def stopsOnFailure : Segment → Bool
  | .text _ | .reference _ _ => true
  | .bare head => stopsOnFailure head
  | .command head args => stopsOnFailure head && allStopOnFailure args
  | .pipe left right => stopsOnFailure left && stopsOnFailure right
  | .redirect left device _ => stopsOnFailure left && stopsOnFailure device
  | .sequence left right stop => stop && stopsOnFailure left && stopsOnFailure right
  | .interpolation parts => allStopOnFailure parts
  | .substitution inner => stopsOnFailure inner

/-- Every sequence of the trees stops on failure. -/
def allStopOnFailure : List Segment → Bool
  | [] => true
  | t :: ts => stopsOnFailure t && allStopOnFailure ts

end

end Segment

/-- The outcome of a failure. -/
def Outcome.failed? (o : Outcome) : Option Outcome := if o.isSuccess then none else some o

/-- The first failure among segments. -/
def firstFailure? {α : Type} : Except Outcome α → Option Outcome
  | .ok _ => none
  | .error o => some o

/-- The deed ended without an error and, if it ran a command, with exit code zero. -/
def Effect.succeeded (e : Effect) : Prop := ∃ o, e.result = .ok o ∧ o.isSuccess = true

/-- How the effects of an action in so many heads, its result and the state behind it belong together;
`failed?` tells which results stand for a failure. -/
inductive Ending {α : Type} (heads : Nat) (failed? : α → Option Outcome) :
    List Effect → Except EvalError α → State → Prop
  /-- All went well up to the result or to an error that no effect has. -/
  | whole {es : List Effect} {r : Except EvalError α} {s : State} (good : ∀ e ∈ es, e.succeeded)
    (noFailure : ∀ a, r = .ok a → failed? a = none) : Ending heads failed? es r s
  /-- The last effect ended with an error, which is the result. -/
  | broken {es : List Effect} {e : Effect} {err : EvalError} (good : ∀ e ∈ es, e.succeeded)
    (last : e.result = .error err) : Ending heads failed? (es ++ [e]) (.error err) e.after
  /-- The last effect failed, which is the result. -/
  | failed {es : List Effect} {e : Effect} {o : Outcome} {a : α} (good : ∀ e ∈ es, e.succeeded)
    (last : e.result = .ok o) (bad : o.isSuccess = false) (place : e.heads = heads)
    (result : failed? a = some o) : Ending heads failed? (es ++ [e]) (.ok a) e.after
  /-- The last effect failed in a further head, so that a name is missing. -/
  | headFailed {es : List Effect} {e : Effect} {o : Outcome} (good : ∀ e ∈ es, e.succeeded)
    (last : e.result = .ok o) (bad : o.isSuccess = false) (place : heads < e.heads) :
    Ending heads failed? (es ++ [e]) (.error (.unexpectedShape .commandName o.value)) e.after

/-- An action in so many heads ends with its first failure. -/
def Halts {α : Type} (heads : Nat) (failed? : α → Option Outcome) (m : Traced α) : Prop :=
  ∀ s es, ∃ new, (m (s, es)).2.2 = es ++ new ∧ Ending heads failed? new (m (s, es)).1 (m (s, es)).2.1

section Halts

variable {α β : Type} {heads : Nat} {f : α → Option Outcome} {g : β → Option Outcome}

theorem Ending.prepend {es fs : List Effect} {r : Except EvalError α} {s : State}
    (hes : ∀ e ∈ es, e.succeeded) (h : Ending heads f fs r s) : Ending heads f (es ++ fs) r s := by
  have happend : ∀ {gs : List Effect}, (∀ e ∈ gs, e.succeeded) → ∀ e ∈ es ++ gs, e.succeeded :=
    fun hgs e he => (List.mem_append.mp he).elim (hes e) (hgs e)
  cases h with
  | whole good no => exact .whole (happend good) no
  | broken good last => rw [← List.append_assoc]; exact .broken (happend good) last
  | failed good last bad place result =>
    rw [← List.append_assoc]; exact .failed (happend good) last bad place result
  | headFailed good last bad place =>
    rw [← List.append_assoc]; exact .headFailed (happend good) last bad place

theorem halts_lift {r : Except EvalError α} (h : ∀ a, r = .ok a → f a = none) :
    Halts heads f (Action.lift r) :=
  fun _ _ => ⟨[], by simp [Action.lift], .whole (by simp) h⟩

theorem halts_pure {a : α} (h : f a = none) : Halts heads f (pure a) :=
  halts_lift fun _ h' => by cases h'; exact h

/-- What does not note anything and has no failures. -/
theorem halts_quiet (m : Eval α) : Halts heads (fun _ => none) (Traced.quiet m) :=
  fun _ _ => ⟨[], by simp [Traced.quiet, Action.within], .whole (by simp) fun _ _ => rfl⟩

theorem halts_perform (ctx : Context) (d : Deed) :
    Halts heads Outcome.failed? (Traced.perform ctx heads d) := by
  intro s es
  refine ⟨[⟨d, heads, (d.perform ctx s).1, (d.perform ctx s).2⟩], rfl, ?_⟩
  show Ending heads _ _ (d.perform ctx s).1 (d.perform ctx s).2
  rcases d.perform ctx s with ⟨r, s'⟩
  cases r with
  | error err =>
    show Ending heads _ ([] ++ [_]) _ _
    exact .broken (by simp) rfl
  | ok o =>
    cases ho : o.isSuccess with
    | true =>
      refine .whole (by simpa [Effect.succeeded] using ho) ?_
      rintro a ⟨⟩
      simp [Outcome.failed?, ho]
    | false =>
      show Ending heads _ ([] ++ [_]) _ _
      exact .failed (by simp) rfl ho rfl (by simp [Outcome.failed?, ho])

/-- One action, perhaps in a further head, and another after it: a failure of the first is handed on
at once. -/
theorem Halts.followed {heads' : Nat} {m : Traced α} {k : α → Traced β} (hle : heads ≤ heads')
    (hm : Halts heads' f m) (hk : ∀ a, f a = none → Halts heads g (k a))
    (hfail : ∀ a o, f a = some o → o.isSuccess = false → ∃ r, k a = Action.lift r ∧
      ∀ (es : List Effect) (e : Effect), (∀ e ∈ es, e.succeeded) → e.result = .ok o →
        e.heads = heads' → Ending heads g (es ++ [e]) r e.after) :
    Halts heads g (m >>= k) := by
  intro s es
  obtain ⟨new, hnew, hend⟩ := hm s es
  rcases hms : m (s, es) with ⟨r, s', es'⟩
  simp only [hms] at hnew hend
  subst hnew
  -- Only a result that is no failure leads on to the second action with effects of its own.
  cases hend with
  | whole good no =>
    cases r with
    | error err =>
      rw [Action.bind_of_error hms]
      exact ⟨new, rfl, .whole good (by simp)⟩
    | ok a =>
      obtain ⟨more, hmore, hend'⟩ := hk a (no a rfl) s' (es ++ new)
      rw [Action.bind_of_ok hms]
      exact ⟨new ++ more, by simpa using hmore, hend'.prepend good⟩
  | broken good last =>
    rw [Action.bind_of_error hms]
    exact ⟨_, rfl, .broken good last⟩
  | failed good last bad place result =>
    obtain ⟨r, hr, hend'⟩ := hfail _ _ result bad
    rw [Action.bind_of_ok hms, hr]
    exact ⟨_, rfl, hend' _ _ good last place⟩
  | headFailed good last bad place =>
    rw [Action.bind_of_error hms]
    exact ⟨_, rfl, .headFailed good last bad (Nat.lt_of_le_of_lt hle place)⟩

theorem Halts.bind {m : Traced α} {k : α → Traced β} (hm : Halts heads f m)
    (hk : ∀ a, f a = none → Halts heads g (k a))
    (hfail : ∀ a o, f a = some o → o.isSuccess = false → ∃ b, k a = pure b ∧ g b = some o) :
    Halts heads g (m >>= k) := by
  refine hm.followed (Nat.le_refl _) hk fun a o ho bad => ?_
  obtain ⟨b, hb, hg⟩ := hfail a o ho bad
  exact ⟨.ok b, hb, fun es e good last place => .failed good last bad place hg⟩

/-- An action that has no failures before another. -/
theorem Halts.before {m : Traced α} {k : α → Traced β} (hm : Halts heads (fun _ => none) m)
    (hk : ∀ a, Halts heads g (k a)) : Halts heads g (m >>= k) :=
  hm.bind (fun a _ => hk a) fun _ _ h => by cases h

theorem failed?_eq_none {o : Outcome} : o.failed? = none ↔ o.isSuccess = true := by
  cases h : o.isSuccess <;> simp [Outcome.failed?, h]

theorem failed?_eq_some {o o' : Outcome} : o.failed? = some o' ↔ o.isSuccess = false ∧ o = o' := by
  cases h : o.isSuccess <;> simp [Outcome.failed?, h]

theorem failed?_of_failure {o : Outcome} (h : o.isSuccess = false) : o.failed? = some o :=
  failed?_eq_some.mpr ⟨h, rfl⟩

/-- Another action after the success of the first, and else the outcome of the first. -/
theorem Halts.ifSuccess {m : Traced Outcome} {k : Outcome → Traced β} {give : Outcome → β}
    (hm : Halts heads Outcome.failed? m) (hk : ∀ o, o.isSuccess = true → Halts heads g (k o))
    (hgive : ∀ o, o.isSuccess = false → g (give o) = some o) :
    Halts heads g (m >>= fun o => if o.isSuccess then k o else pure (give o)) := by
  refine hm.bind (fun o ho => ?_) fun o o' ho bad => ?_
  · have hs := failed?_eq_none.mp ho
    simpa only [hs, ↓reduceIte] using hk o hs
  · obtain ⟨-, rfl⟩ := failed?_eq_some.mp ho
    exact ⟨give o, by simp [bad], hgive o bad⟩

/-- Another action after the values of segments, and else the first failure among them. -/
theorem Halts.values {m : Traced (Except Outcome α)} {k : Except Outcome α → Traced β}
    (hm : Halts heads firstFailure? m) (hk : ∀ vs, Halts heads g (k (.ok vs)))
    (hfail : ∀ o, o.isSuccess = false → ∃ b, k (.error o) = pure b ∧ g b = some o) :
    Halts heads g (m >>= k) := by
  refine hm.bind (fun values hv => ?_) fun values o hv bad => ?_
  · cases values with
    | ok vs => exact hk vs
    | error o => cases hv
  · cases values with
    | ok vs => cases hv
    | error o => cases hv; exact hfail o bad

/-- A failure in the head of a command leaves the command without a name. -/
theorem Halts.head {m : Traced Outcome} (hm : Halts (heads + 1) Outcome.failed? m) :
    Halts heads (fun _ : String => none)
      (m >>= fun h => Action.lift (Segment.wordOf .commandName h)) := by
  refine hm.followed (Nat.le_succ _) (fun a _ => halts_lift fun _ _ => rfl) fun a o ho bad => ?_
  obtain ⟨-, rfl⟩ := failed?_eq_some.mp ho
  refine ⟨_, rfl, fun es e good last place => ?_⟩
  have hword : Segment.wordOf .commandName a = .error (.unexpectedShape .commandName a.value) := by
    simp [Segment.wordOf, bad]
  rw [hword]
  exact .headFailed good last bad (by omega)

end Halts

namespace Segment

mutual

/-- **Evaluation ends with its first failure**, where every sequence does. -/
theorem traced_halts (ctx : Context) : ∀ (heads : Nat) (t : Segment) (input : Value)
    (capture : Bool), t.stopsOnFailure = true →
      Halts heads Outcome.failed? (traced ctx heads t input capture)
  | heads, .text s, _, _, _ => by
    rw [traced]
    exact halts_pure rfl
  | heads, .bare head, input, capture, h => by
    rw [stopsOnFailure] at h
    rw [traced, ← bind_assoc]
    exact (traced_halts ctx (heads + 1) head _ _ h).head.before fun name => halts_perform ctx _
  | heads, .command head args, input, capture, h => by
    simp only [stopsOnFailure, Bool.and_eq_true] at h
    rw [traced, ← bind_assoc]
    refine (traced_halts ctx (heads + 1) head _ _ h.1).head.before fun name => ?_
    refine (tracedAll_halts ctx heads args h.2).values (fun vs => halts_perform ctx _) fun o bad => ?_
    exact ⟨o, rfl, failed?_of_failure bad⟩
  | heads, .pipe left right, input, capture, h => by
    simp only [stopsOnFailure, Bool.and_eq_true] at h
    rw [traced]
    exact (traced_halts ctx heads left _ _ h.1).ifSuccess
      (fun o _ => traced_halts ctx heads right _ _ h.2) fun _ => failed?_of_failure
  | heads, .sequence left right stop, _, _, h => by
    simp only [stopsOnFailure, Bool.and_eq_true] at h
    obtain ⟨⟨rfl, hl⟩, hr⟩ := h
    rw [traced]
    -- The value of a success is handed on before the right side, so this is not `ifSuccess`.
    refine (traced_halts ctx heads left _ _ hl).bind (fun o ho => ?_) fun o o' ho bad => ?_
    · simp only [failed?_eq_none.mp ho, Bool.not_true, Bool.and_false, Bool.false_eq_true, ↓reduceIte]
      exact (halts_quiet _).before fun _ => traced_halts ctx heads right _ _ hr
    · obtain ⟨-, rfl⟩ := failed?_eq_some.mp ho
      exact ⟨o, by simp [bad], ho⟩
  | heads, .redirect left device mode, input, capture, h => by
    simp only [stopsOnFailure, Bool.and_eq_true] at h
    rw [traced]
    refine (traced_halts ctx heads device _ _ h.2).ifSuccess (fun d _ => ?_)
      fun _ => failed?_of_failure
    refine (halts_lift fun _ _ => rfl).before fun path => ?_
    cases mode with
    | stdIn => exact (halts_quiet _).before fun ls => traced_halts ctx heads left _ _ h.1
    | stdOut | stdErr | stdOutAndErr =>
      exact (traced_halts ctx heads left _ _ h.1).ifSuccess (fun o _ => halts_perform ctx _)
        fun _ => failed?_of_failure
  | heads, .interpolation parts, _, _, h => by
    rw [stopsOnFailure] at h
    rw [traced]
    refine (tracedAll_halts ctx heads parts h).values (fun vs => halts_pure rfl) fun o bad => ?_
    exact ⟨o, rfl, failed?_of_failure bad⟩
  | heads, .substitution inner, input, capture, h => by
    rw [stopsOnFailure] at h
    rw [traced]
    exact traced_halts ctx heads inner input capture h
  | heads, .reference scope name, input, capture, _ => by
    rw [traced]
    refine (halts_quiet _).before fun s => (halts_lift fun _ _ => rfl).before fun scope => ?_
    split
    · exact (halts_lift fun _ _ => rfl).before fun v => halts_pure rfl
    · exact halts_perform ctx _

theorem tracedAll_halts (ctx : Context) : ∀ (heads : Nat) (ts : List Segment),
    allStopOnFailure ts = true → Halts heads firstFailure? (tracedAll ctx heads ts)
  | heads, [], _ => by
    rw [tracedAll]
    exact halts_pure rfl
  | heads, t :: ts, h => by
    simp only [allStopOnFailure, Bool.and_eq_true] at h
    rw [tracedAll]
    refine (traced_halts ctx heads t _ _ h.1).ifSuccess (fun o _ => ?_) fun o _ => rfl
    exact (tracedAll_halts ctx heads ts h.2).values (fun vs => halts_pure rfl) fun o _ => ⟨_, rfl, rfl⟩

end

end Segment

/-! ## What follows for evaluation -/

open Segment

theorem Effect.not_succeeded {e : Effect} {o : Outcome} (hr : e.result = .ok o)
    (ho : o.exitCode ≠ 0) : ¬e.succeeded := by
  rintro ⟨o', hr', hs⟩
  cases hr.symm.trans hr'
  simp [Outcome.isSuccess, ho] at hs

/-- An effect that did not succeed, among effects of which all but the last did, is the last. -/
theorem eq_last_of_not_succeeded {es before after : List Effect} {x e : Effect}
    (good : ∀ e ∈ es, e.succeeded) (h : es ++ [x] = before ++ e :: after) (he : ¬e.succeeded) :
    after = [] ∧ e = x := by
  rcases List.eq_nil_or_concat after with rfl | ⟨after', y, rfl⟩
  · obtain ⟨-, hx⟩ := List.append_inj' h rfl
    simp only [List.cons.injEq, and_true] at hx
    exact ⟨rfl, hx.symm⟩
  · have h' : es ++ [x] = (before ++ e :: after') ++ [y] := by simpa using h
    obtain ⟨rfl, -⟩ := List.append_inj' h' rfl
    exact absurd (good e (by simp)) he

/-- **The first failure ends everything.** -/
theorem Ending.of_failure {es before after : List Effect} {r : Except EvalError Outcome} {s : State}
    {e : Effect} {o : Outcome} (h : Ending 0 Outcome.failed? es r s) (hes : es = before ++ e :: after)
    (hr : e.result = .ok o) (ho : o.exitCode ≠ 0) :
    after = [] ∧ s = e.after ∧
      r = if e.heads = 0 then .ok o else .error (.unexpectedShape .commandName o.value) := by
  have he := Effect.not_succeeded hr ho
  cases h with
  | whole good no => exact absurd (good e (by simp [hes])) he
  | broken good last =>
    obtain ⟨-, rfl⟩ := eq_last_of_not_succeeded good hes he
    cases hr.symm.trans last
  | failed good last bad place result =>
    obtain ⟨hnil, rfl⟩ := eq_last_of_not_succeeded good hes he
    cases hr.symm.trans last
    obtain ⟨-, rfl⟩ := failed?_eq_some.mp result
    exact ⟨hnil, rfl, by simp [place]⟩
  | headFailed good last bad place =>
    obtain ⟨hnil, rfl⟩ := eq_last_of_not_succeeded good hes he
    cases hr.symm.trans last
    exact ⟨hnil, rfl, by simp [Nat.ne_of_gt place]⟩

/-- A success has no failure behind it. -/
theorem Ending.of_success {es : List Effect} {o : Outcome} {s : State}
    (h : Ending 0 Outcome.failed? es (.ok o) s) (ho : o.exitCode = 0) : ∀ e ∈ es, e.succeeded := by
  cases h with
  | whole good no => exact good
  | failed good last bad place result =>
    obtain ⟨hs, -⟩ := failed?_eq_some.mp result
    simp [Outcome.isSuccess, ho] at hs

/-- **A failure ends a line in which every sequence stops on failure.**  Evaluation comes with the
effects that it has: its trace, from which its states are replayed.  If one of them is a command that
returns another exit code than zero, it is the last of them, the state behind it is the last one, and
its outcome is the outcome, or, if it stands in the head of a command, a name is missing.  So a success
has effects only that succeeded. -/
theorem eval_ends_with_failure (ctx : Context) (t : Segment) (input : Value) (capture : Bool)
    (s : State) (h : t.stopsOnFailure = true) :
    ∃ es, t.traced ctx 0 input capture (s, []) =
        ((t.eval ctx input capture s).1, (t.eval ctx input capture s).2, es) ∧
      Replays ctx s es (t.eval ctx input capture s).2 ∧
      (∀ before e after o, es = before ++ e :: after → e.result = .ok o → o.exitCode ≠ 0 →
        after = [] ∧ t.eval ctx input capture s =
          (if e.heads = 0 then .ok o else .error (.unexpectedShape .commandName o.value), e.after)) ∧
      (∀ o, (t.eval ctx input capture s).1 = .ok o → o.exitCode = 0 →
        ∀ e ∈ es, ∃ o', e.result = .ok o' ∧ o'.exitCode = 0) := by
  obtain ⟨es, htraced, hreplay⟩ := traced_follows ctx 0 t input capture s []
  obtain ⟨new, hnew, hend⟩ := traced_halts ctx 0 t input capture h s []
  rw [htraced] at hnew hend
  cases hnew
  refine ⟨es, htraced, hreplay, ?_, ?_⟩
  · intro before e after o hes hr ho
    obtain ⟨hnil, hs, hresult⟩ := hend.of_failure hes hr ho
    exact ⟨hnil, Prod.ext hresult hs⟩
  · intro o hresult ho e he
    rw [hresult] at hend
    obtain ⟨o', hr, hs⟩ := hend.of_success ho e he
    exact ⟨o', hr, by simpa [Outcome.isSuccess] using hs⟩

/-- A command that fails in a string that is to be the name of a command. -/
theorem eval_ends_with_failure_in_head :
    let ctx : Context := ⟨Builtin.all, fun _ => none, [], true⟩
    let s : State := ⟨{}, ⟨.empty, [], [], none, []⟩, []⟩
    let name : Segment := .interpolation [.text "", .bare (.text "split"), .text ""]
    let t : Segment := .sequence (.command name [.text "x"]) (.bare (.text "pwd")) true
    let o : Outcome := .failure 1 "split: missing text to split"
    t.stopsOnFailure = true ∧ t.eval ctx .absent false s =
      (.error (.unexpectedShape .commandName o.value), { s with log := [.ran "split" o] }) := by
  intro ctx s name t o
  have ht : t.stopsOnFailure = true := by decide
  refine ⟨ht, ?_⟩
  obtain ⟨es, htraced, -, hfail, -⟩ := eval_ends_with_failure ctx t .absent false s ht
  obtain rfl : es = [⟨.run "split" [] .absent true, 1, .ok o, { s with log := [.ran "split" o] }⟩] := by
    have := congrArg (fun r => r.2.2) htraced
    exact this.symm
  exact (hfail [] _ [] o rfl rfl (by decide)).2

end CommandShell
