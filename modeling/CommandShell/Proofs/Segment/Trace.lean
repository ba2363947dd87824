import CommandShell.Segment.Eval

/-!
# Traces of evaluation

An evaluator that notes each command it runs, each device it writes to and each variable it sets,
with the result and with the state behind it.  It goes through a tree as `Segment.eval` does.

* `Deed`, `Effect`     : what evaluation can do, and a deed that was done;
* `Segment.traced`     : evaluation with a trace;
* `Replays`            : a state is reached by the effects of a trace and by handing values on;
* `stepsFrom`          : the effects of a trace, each with the state before it;
* `traced_follows`     : the trace leaves results and states as they are, and they are replayed by
  it.
-/

namespace CommandShell

/-- What evaluation does to the state. -/
inductive Deed where
  /-- Runs a built-in command or a program. -/
  | run (name : String) (args : List String) (input : Value) (capture : Bool)
  /-- Writes a value to a device. -/
  | write (mode : RedirectMode) (device : String) (value : Value)
  /-- Sets a variable. -/
  | assign (scope : Scope) (name : String) (input : Value) (capture : Bool)
  deriving DecidableEq, Repr

/-- Does it. -/
def Deed.perform (ctx : Context) : Deed → Eval Outcome
  | run name args input capture => Segment.runCommand ctx name args input capture
  | write mode device value => Segment.writeOutcome mode device ⟨0, value⟩
  | assign scope name input capture => do
    Variable.set ctx.watchers scope name input.joined
    return if capture then .scalar input.joined else .absent

/-- A deed that was done. -/
structure Effect where
  /-- What was done. -/
  deed : Deed
  /-- In how many heads of commands it was done, one inside the other. -/
  heads : Nat
  /-- How it ended. -/
  result : Except EvalError Outcome
  /-- The state behind it. -/
  after : State

/-- Actions that note what they do. -/
abbrev Traced (α : Type) := Action (State × List Effect) EvalError α

namespace Traced

/-- An action that leaves the trace as it is. -/
def quiet {α : Type} (m : Eval α) : Traced α :=
  Action.within Prod.fst (fun s t => (s, t.2)) m

/-- Does a deed and notes it. -/
def perform (ctx : Context) (heads : Nat) (d : Deed) : Traced Outcome := fun t =>
  match d.perform ctx t.1 with
  | (r, s) => (r, s, t.2 ++ [⟨d, heads, r, s⟩])

end Traced

namespace Segment

mutual

/-- The outcome of a segment that stands in so many heads of commands, with a trace. -/
def traced (ctx : Context) (heads : Nat) : Segment → Value → Bool → Traced Outcome
  | .text s, _, _ => return .scalar s
  | .bare head, input, capture => do
    let h ← traced ctx (heads + 1) head .absent true
    let name ← Action.lift (wordOf .commandName h)
    Traced.perform ctx heads (.run name [] input capture)
  | .command head args, input, capture => do
    let h ← traced ctx (heads + 1) head .absent true
    let name ← Action.lift (wordOf .commandName h)
    let values ← tracedAll ctx heads args
    match values with
    | .ok vs => Traced.perform ctx heads (.run name (vs.flatMap Value.arguments) input capture)
    | .error failed => return failed
  | .pipe left right, input, capture => do
    let o ← traced ctx heads left input true
    if o.isSuccess then traced ctx heads right o.value capture else return o
  | .sequence left right stop, _, _ => do
    let o ← traced ctx heads left .absent false
    if stop && !o.isSuccess then return o
    else
      Traced.quiet (emit ctx o.value)
      traced ctx heads right .absent false
  | .redirect left device mode, input, capture => do
    let d ← traced ctx heads device .absent true
    if d.isSuccess then
      let path ← Action.lift (wordOf .device d)
      match mode with
      | .stdIn => do
        let ls ← Traced.quiet (Device.read path)
        traced ctx heads left (.lines ls) capture
      | mode => do
        let o ← traced ctx heads left input true
        if o.isSuccess then Traced.perform ctx heads (.write mode path o.value) else return o
    else return d
  | .interpolation parts, _, _ => do
    let values ← tracedAll ctx heads parts
    match values with
    | .ok vs => return .scalar (String.join (vs.map Value.contribution))
    | .error failed => return failed
  | .substitution inner, input, capture => traced ctx heads inner input capture
  | .reference scope name, input, capture => do
    let s ← Traced.quiet Action.get
    let scope ← Action.lift (Variable.resolve scope s.config)
    if input.isAbsent then
      let v ← Action.lift (Variable.get s.config s.machine.env scope name)
      return ⟨0, v⟩
    else Traced.perform ctx heads (.assign scope name input capture)

/-- The values of segments, or the outcome of the first that fails, with a trace. -/
def tracedAll (ctx : Context) (heads : Nat) : List Segment → Traced (Except Outcome (List Value))
  | [] => return .ok []
  | s :: rest => do
    let o ← traced ctx heads s .absent true
    if o.isSuccess then
      let more ← tracedAll ctx heads rest
      match more with
      | .ok vs => return .ok (o.value :: vs)
      | .error failed => return .error failed
    else return .error o

end

end Segment

/-! ## Replay -/

/-- From one state to another by the effects, in their order, and by handing values on between
them. -/
inductive Replays (ctx : Context) : State → List Effect → State → Prop
  | done {s : State} : Replays ctx s [] s
  | emitted {s s' : State} {es : List Effect} (v : Value)
    (rest : Replays ctx { s with log := s.log ++ [.emitted v] } es s') : Replays ctx s es s'
  | effect {s s' : State} {e : Effect} {es : List Effect}
    (performed : e.deed.perform ctx s = (e.result, e.after)) (rest : Replays ctx e.after es s') :
    Replays ctx s (e :: es) s'

theorem Replays.append {ctx : Context} {s s' s'' : State} {es fs : List Effect}
    (h : Replays ctx s es s') (h' : Replays ctx s' fs s'') : Replays ctx s (es ++ fs) s'' := by
  induction h with
  | done => exact h'
  | emitted v _ ih => exact .emitted v (ih h')
  | effect hp _ ih => exact .effect hp (ih h')

/-- The effects of a trace, each with the state before it; the values that were handed on just before
are not in its log. -/
def stepsFrom : State → List Effect → List (State × Effect)
  | _, [] => []
  | s, e :: es => (s, e) :: stepsFrom e.after es

/-- A step of a trace that was done, from a state with some log. -/
def Performed (ctx : Context) (x : State × Effect) : Prop :=
  ∃ log, x.2.deed.perform ctx { x.1 with log := log } = (x.2.result, x.2.after)

/-- **What every step keeps, a run keeps**, where the log plays no part. -/
theorem Replays.keeps {ctx : Context} {I : State → Prop} {P : State × Effect → Prop}
    (hlog : ∀ s log, I s → I { s with log := log })
    (hstep : ∀ x : State × Effect, I x.1 → P x → Performed ctx x → I x.2.after)
    {s s' : State} {es : List Effect} (h : Replays ctx s es s') (hs : I s)
    (hes : ∀ x ∈ stepsFrom s es, P x) :
    I s' ∧ ∀ x ∈ stepsFrom s es, I x.1 ∧ Performed ctx x := by
  suffices ∀ b log, s = { b with log := log } → I b → (∀ x ∈ stepsFrom b es, P x) →
      I s' ∧ ∀ x ∈ stepsFrom b es, I x.1 ∧ Performed ctx x from this s s.log rfl hs hes
  clear hs hes
  -- Values that are handed on change the log only, so `b` stays the state before the next effect.
  induction h with
  | done =>
    intro b log hb hI _
    subst hb
    exact ⟨hlog b log hI, by simp [stepsFrom]⟩
  | emitted v _ ih =>
    intro b log hb hI hes
    exact ih b _ (by rw [hb]) hI hes
  | @effect s s' e es hp _ ih =>
    intro b log hb hI hes
    subst hb
    have hdone : Performed ctx (b, e) := ⟨log, hp⟩
    have hafter := hstep (b, e) hI (hes _ (by simp [stepsFrom])) hdone
    obtain ⟨hend, hmore⟩ := ih e.after _ rfl hafter fun x hx => hes x (by simp [stepsFrom, hx])
    refine ⟨hend, fun x hx => ?_⟩
    rcases List.mem_cons.mp hx with rfl | hx
    · exact ⟨hI, hdone⟩
    · exact hmore x hx

/-- The first action does what the second does, and its trace replays that. -/
def Follows {α : Type} (ctx : Context) (m : Traced α) (n : Eval α) : Prop :=
  ∀ s es, ∃ new, m (s, es) = ((n s).1, (n s).2, es ++ new) ∧ Replays ctx s new (n s).2

section Follows

variable {ctx : Context} {α β : Type}

theorem follows_lift (r : Except EvalError α) : Follows ctx (Action.lift r) (Action.lift r) :=
  fun _ es => ⟨[], by simp [Action.lift], .done⟩

theorem follows_pure (a : α) : Follows ctx (pure a) (pure a) :=
  follows_lift (.ok a)

/-- An action that leaves the state as it is needs no effects. -/
theorem follows_quiet {n : Eval α} (h : ∀ s, (n s).2 = s) : Follows ctx (Traced.quiet n) n := by
  intro s es
  refine ⟨[], by simp [Traced.quiet, Action.within], ?_⟩
  rw [h s]
  exact .done

theorem follows_emit (v : Value) :
    Follows ctx (Traced.quiet (Segment.emit ctx v)) (Segment.emit ctx v) := by
  intro s es
  refine ⟨[], by simp [Traced.quiet, Action.within], ?_⟩
  unfold Segment.emit
  split
  · exact .emitted v .done
  · exact .done

theorem follows_perform (heads : Nat) (d : Deed) :
    Follows ctx (Traced.perform ctx heads d) (d.perform ctx) := by
  intro s es
  exact ⟨[⟨d, heads, (d.perform ctx s).1, (d.perform ctx s).2⟩], rfl, .effect rfl .done⟩

theorem Follows.bind {m : Traced α} {n : Eval α} {f : α → Traced β} {g : α → Eval β}
    (h : Follows ctx m n) (hf : ∀ a, Follows ctx (f a) (g a)) :
    Follows ctx (m >>= f) (n >>= g) := by
  intro s es
  obtain ⟨new, hm, hr⟩ := h s es
  rcases hn : n s with ⟨r, s'⟩
  rw [hn] at hm hr
  cases r with
  | error e =>
    rw [Action.bind_of_error hm, Action.bind_of_error hn]
    exact ⟨new, rfl, hr⟩
  | ok a =>
    obtain ⟨more, hfa, hra⟩ := hf a s' (es ++ new)
    rw [Action.bind_of_ok hm, Action.bind_of_ok hn]
    exact ⟨new ++ more, by simpa using hfa, hr.append hra⟩

theorem Follows.ite {m m' : Traced α} {n n' : Eval α} (c : Prop) [Decidable c]
    (h : c → Follows ctx m n) (h' : ¬c → Follows ctx m' n') :
    Follows ctx (if c then m else m') (if c then n else n') := by
  split
  · rename_i hc; exact h hc
  · rename_i hc; exact h' hc

end Follows

namespace Segment

theorem read_state (device : String) (s : State) : (Device.read device s).2 = s := by
  unfold Device.read
  cases Device.classify device with
  | null => rfl
  | reserved => rfl
  | file =>
    simp only [Action.bind_apply, Eval.onMachine, Action.mapError, Action.within, Machine.readText]
    cases s.machine.tree.readText s.machine.cwd device <;> rfl

/-- The write of a success is a deed, and a failure is handed on without one. -/
theorem writeOutcome_eq (ctx : Context) (mode : RedirectMode) (device : String) (o : Outcome) :
    writeOutcome mode device o =
      if o.isSuccess then (Deed.write mode device o.value).perform ctx else return o := by
  obtain ⟨code, v⟩ := o
  by_cases h : code = 0
  · subst h; rfl
  · simp [writeOutcome, Outcome.isSuccess, h]

mutual

/-- **Evaluation with a trace follows evaluation.** -/
theorem traced_follows (ctx : Context) : ∀ (heads : Nat) (t : Segment) (input : Value)
    (capture : Bool), Follows ctx (traced ctx heads t input capture) (eval ctx t input capture)
  | _, .text s, _, _ => by
    rw [traced, eval]
    exact follows_pure _
  | heads, .bare head, input, capture => by
    rw [traced, eval]
    refine (traced_follows ctx (heads + 1) head _ _).bind fun h => (follows_lift _).bind fun name => ?_
    exact follows_perform heads (.run name [] input capture)
  | heads, .command head args, input, capture => by
    rw [traced, eval]
    refine (traced_follows ctx (heads + 1) head _ _).bind fun h => (follows_lift _).bind fun name =>
      (tracedAll_follows ctx heads args).bind fun values => ?_
    cases values with
    | ok vs => exact follows_perform heads (.run name (vs.flatMap Value.arguments) input capture)
    | error failed => exact follows_pure failed
  | heads, .pipe left right, input, capture => by
    rw [traced, eval]
    exact (traced_follows ctx heads left _ _).bind fun o =>
      .ite _ (fun _ => traced_follows ctx heads right _ _) fun _ => follows_pure o
  | heads, .sequence left right stop, _, _ => by
    rw [traced, eval]
    exact (traced_follows ctx heads left _ _).bind fun o =>
      .ite _ (fun _ => follows_pure o) fun _ =>
        (follows_emit o.value).bind fun _ => traced_follows ctx heads right _ _
  | heads, .redirect left device mode, input, capture => by
    rw [traced, eval]
    refine (traced_follows ctx heads device _ _).bind fun d => .ite _ (fun _ => ?_) fun _ =>
      follows_pure d
    refine (follows_lift _).bind fun path => ?_
    cases mode with
    | stdIn =>
      exact (follows_quiet (read_state path)).bind fun ls => traced_follows ctx heads left _ _
    | stdOut | stdErr | stdOutAndErr =>
      refine (traced_follows ctx heads left _ _).bind fun o => ?_
      rw [writeOutcome_eq ctx]
      exact .ite _ (fun _ => follows_perform heads _) fun _ => follows_pure o
  | heads, .interpolation parts, _, _ => by
    rw [traced, eval]
    refine (tracedAll_follows ctx heads parts).bind fun values => ?_
    cases values <;> exact follows_pure _
  | heads, .substitution inner, input, capture => by
    rw [traced, eval]
    exact traced_follows ctx heads inner input capture
  | heads, .reference scope name, input, capture => by
    rw [traced, eval]
    refine (follows_quiet fun _ => rfl).bind fun s => (follows_lift _).bind fun scope => ?_
    exact .ite _ (fun _ => (follows_lift _).bind fun v => follows_pure _) fun _ =>
      follows_perform heads (.assign scope name input capture)

theorem tracedAll_follows (ctx : Context) : ∀ (heads : Nat) (ts : List Segment),
    Follows ctx (tracedAll ctx heads ts) (evalAll ctx ts)
  | _, [] => by
    rw [tracedAll, evalAll]
    exact follows_pure _
  | heads, t :: ts => by
    rw [tracedAll, evalAll]
    refine (traced_follows ctx heads t _ _).bind fun o => .ite _ (fun _ => ?_) fun _ =>
      follows_pure _
    refine (tracedAll_follows ctx heads ts).bind fun more => ?_
    cases more <;> exact follows_pure _

end

end Segment

end CommandShell
