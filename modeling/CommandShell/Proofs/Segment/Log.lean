import CommandShell.Proofs.Builtin.Directory
import CommandShell.Proofs.Segment.Trace

/-!
# The log only grows

Evaluation adds events behind those of the log it begins with.  As a trace replays evaluation, this
has to be shown for the single deeds only.

* `Grows`         : an action keeps what is in the log;
* `grows_perform` : every deed does;
* `eval_grows`    : so does evaluation.
-/

namespace CommandShell

/-- An action that keeps the events that are in the log and may add others behind them. -/
def Grows {α : Type} (m : Eval α) : Prop := ∀ s, s.log <+: (m s).2.log

section Grows

variable {α β : Type}

theorem grows_lift (r : Except EvalError α) : Grows (Action.lift r) :=
  fun s => List.prefix_refl s.log

theorem grows_pure (a : α) : Grows (pure a : Eval α) :=
  grows_lift (.ok a)

theorem grows_get : Grows Action.get :=
  fun s => List.prefix_refl s.log

theorem grows_gets (f : State → α) : Grows (Action.gets f) :=
  fun s => List.prefix_refl s.log

/-- A change of something else. -/
theorem grows_modify {f : State → State} (h : ∀ s, (f s).log = s.log) : Grows (Action.modify f) := by
  intro s
  exact ⟨[], (List.append_nil s.log).trans (h s).symm⟩

theorem grows_record (e : Event) : Grows (Eval.record e) :=
  fun s => List.prefix_append s.log [e]

theorem grows_recordAll (es : List Event) : Grows (Eval.recordAll es) :=
  fun s => List.prefix_append s.log es

/-- What an action on the machine does is not in the log. -/
theorem grows_onMachine {ε : Type} (wrap : ε → EvalError) (m : Action Machine ε α) :
    Grows (Eval.onMachine wrap m) := by
  intro s
  simp only [Eval.onMachine, Action.mapError, Action.within]
  rcases m s.machine with ⟨r, machine⟩
  cases r <;> exact List.prefix_refl s.log

theorem Grows.bind {m : Eval α} {f : α → Eval β} (hm : Grows m) (hf : ∀ a, Grows (f a)) :
    Grows (m >>= f) := by
  intro s
  have hlog := hm s
  rcases hms : m s with ⟨r, s'⟩
  rw [hms] at hlog
  cases r with
  | error e => rw [Action.bind_of_error hms]; exact hlog
  | ok a => rw [Action.bind_of_ok hms]; exact hlog.trans (hf a s')

theorem Grows.ite {m m' : Eval α} (c : Prop) [Decidable c] (h : Grows m) (h' : Grows m') :
    Grows (if c then m else m') := by
  split
  · exact h
  · exact h'

end Grows

/-! ## Deeds -/

theorem Variable.grows_write (scope : Scope) (name : String) (value : Option String) :
    Grows (Variable.write scope name value) := by
  refine grows_get.bind fun s => (grows_lift _).bind fun r => ?_
  exact .bind (grows_modify fun _ => rfl) fun _ => grows_modify fun _ => rfl

theorem Variable.grows_saveConfig : Grows Variable.saveConfig :=
  grows_get.bind fun _ => grows_onMachine _ _

theorem Variable.grows_set (watchers : Watchers) (scope : Scope) (name value : String) :
    Grows (Variable.set watchers scope name value) := by
  refine (grows_lift _).bind fun _ => grows_get.bind fun s => (grows_write _ _ _).bind fun _ => ?_
  refine (grows_record _).bind fun _ => (grows_recordAll _).bind fun _ => ?_
  have hsave := Grows.ite (isSaved scope = true) grows_saveConfig (grows_pure ())
  exact .ite _ ((grows_write _ _ _).bind fun _ => hsave) hsave

theorem Builtin.grows_run (b : Builtin) (args : List String) (input : Value) :
    Grows (b.run args input) := by
  by_cases hb : b = .resetConfig
  · subst hb
    exact .bind (grows_modify fun _ => rfl) fun _ =>
      Variable.grows_saveConfig.bind fun _ => grows_pure _
  · intro s
    obtain ⟨place, hmoved⟩ := run_moves hb args input s
    rw [hmoved]

theorem Program.grows_call (tools : Toolbox) (name : String) (args : List String)
    (input : Option (List String)) (capture : Bool) :
    Grows (Program.call tools name args input capture) := by
  refine grows_get.bind fun s => ?_
  split
  · exact grows_lift (.error _)
  · refine .bind (grows_modify fun _ => rfl) fun _ => ?_
    have hran := fun o => (grows_record (.ran name o)).bind fun _ => grows_pure o
    exact .ite _ ((grows_record _).bind fun _ => hran _) (hran _)

theorem Segment.grows_runCommand (ctx : Context) (name : String) (args : List String)
    (input : Value) (capture : Bool) : Grows (Segment.runCommand ctx name args input capture) := by
  refine grows_get.bind fun s => ?_
  split
  · exact (Builtin.grows_run _ _ _).bind fun o => (grows_record _).bind fun _ => grows_pure o
  · exact Program.grows_call _ _ _ _ _

theorem Device.grows_write (device : String) (lines : List String) :
    Grows (Device.write device lines) := by
  unfold Device.write
  split
  · exact grows_pure ()
  · exact grows_lift (.error _)
  · exact grows_onMachine _ _

theorem Segment.grows_writeOutcome (mode : RedirectMode) (device : String) (o : Outcome) :
    Grows (Segment.writeOutcome mode device o) := by
  refine .ite _ ?_ (grows_pure o)
  exact (grows_gets _).bind fun cwd => (Device.grows_write _ _).bind fun _ =>
    (grows_record _).bind fun _ => grows_pure _

theorem grows_perform (ctx : Context) (d : Deed) : Grows (d.perform ctx) := by
  cases d with
  | run name args input capture => exact Segment.grows_runCommand ctx name args input capture
  | write mode device value => exact Segment.grows_writeOutcome mode device _
  | assign scope name input capture =>
    exact (Variable.grows_set _ _ _ _).bind fun _ => grows_pure _

/-! ## Evaluation -/

theorem Replays.log_prefix {ctx : Context} {s s' : State} {es : List Effect}
    (h : Replays ctx s es s') : s.log <+: s'.log := by
  induction h with
  | done => exact List.prefix_refl _
  | emitted v _ ih => exact (List.prefix_append _ _).trans ih
  | @effect s s' e es hp _ ih =>
    have hstep := grows_perform ctx e.deed s
    rw [hp] at hstep
    exact hstep.trans ih

/-- **Evaluation keeps the events that are in the log.** -/
theorem eval_grows (ctx : Context) (t : Segment) (input : Value) (capture : Bool) :
    Grows (t.eval ctx input capture) := by
  intro s
  obtain ⟨es, -, hreplay⟩ := Segment.traced_follows ctx 0 t input capture s []
  exact hreplay.log_prefix

end CommandShell
