import CommandShell.Proofs.Segment.Saving
import CommandShell.Proofs.Variable.Failure

/-!
# Reports of unknown variables

A reference that is read is the one place where evaluation reports a variable as unknown.  The line ends
there, so whoever gets the report finds the variable unknown in the state that is left.

* `EvalError.isUnknown`    : an error is the report of an unknown variable;
* `ReportsUnknown`         : an action reports a variable as unknown only if it leaves it so;
* `Deed.reports_perform`   : every deed does, as it makes no such report;
* `Segment.reports_eval`   : so does evaluation.
-/

namespace CommandShell

/-- An error is the report of an unknown variable. -/
def EvalError.isUnknown : EvalError → Bool
  | .unknownVariable _ _ => true
  | _ => false

/-- An action that reports a variable as unknown only if reading it from the state that it leaves behind
gives the same report. -/
def ReportsUnknown {α : Type} (m : Eval α) : Prop :=
  ∀ s scope name, (m s).1 = .error (.unknownVariable scope name) →
    Variable.get (m s).2.config (m s).2.machine.env scope name =
      .error (.unknownVariable scope name)

section ReportsUnknown

variable {α β : Type}

-- An action that makes other reports only satisfies this at once.
theorem reports_of_other {m : Eval α} (h : ∀ s e, (m s).1 = .error e → e.isUnknown = false) :
    ReportsUnknown m := by
  intro s scope name he
  cases h s _ he

theorem reports_of_ok {m : Eval α} (h : ∀ s, ∃ a, (m s).1 = .ok a) : ReportsUnknown m := by
  apply reports_of_other
  intro s e he
  obtain ⟨a, ha⟩ := h s
  rw [ha] at he
  cases he

theorem reports_pure (a : α) : ReportsUnknown (pure a : Eval α) :=
  reports_of_ok fun _ => ⟨a, rfl⟩

theorem reports_get : ReportsUnknown Action.get :=
  reports_of_ok fun s => ⟨s, rfl⟩

theorem reports_modify (f : State → State) : ReportsUnknown (Action.modify f) :=
  reports_of_ok fun _ => ⟨(), rfl⟩

theorem reports_fail {e : EvalError} (h : e.isUnknown = false) :
    ReportsUnknown (Action.fail e : Eval α) := by
  apply reports_of_other
  rintro s _ ⟨⟩
  exact h

theorem reports_onMachine {ε : Type} {wrap : ε → EvalError} (h : ∀ e, (wrap e).isUnknown = false)
    (m : Action Machine ε α) : ReportsUnknown (Eval.onMachine wrap m) := by
  apply reports_of_other
  intro s e
  simp only [Eval.onMachine, Action.mapError, Action.within]
  rcases m s.machine with ⟨cause | a, machine⟩
  · rintro ⟨⟩
    exact h cause
  · rintro ⟨⟩

theorem ReportsUnknown.bind {m : Eval α} {f : α → Eval β} (hm : ReportsUnknown m)
    (hf : ∀ a, ReportsUnknown (f a)) : ReportsUnknown (m >>= f) := by
  intro s scope name
  have hfirst := hm s scope name
  rcases hms : m s with ⟨e | a, s'⟩
  · rw [hms] at hfirst
    rw [Action.bind_of_error hms]
    rintro ⟨⟩
    exact hfirst rfl
  · rw [Action.bind_of_ok hms]
    exact hf a s' scope name

theorem ReportsUnknown.ite {m m' : Eval α} (c : Prop) [Decidable c] (h : ReportsUnknown m)
    (h' : ReportsUnknown m') : ReportsUnknown (if c then m else m') := by
  split
  · exact h
  · exact h'

end ReportsUnknown

/-! ## Deeds -/

theorem Variable.reports_saveConfig : ReportsUnknown saveConfig :=
  reports_get.bind fun _ => reports_onMachine (fun _ => rfl) _

/-- A write makes the variable that it writes, so it reports none as unknown. -/
theorem Variable.reports_set (watchers : Watchers) (scope : Scope) (name value : String) :
    ReportsUnknown (set watchers scope name value) := by
  have hput : ∀ {c env old e}, put c env scope name old = .error e → e.isUnknown = false := by
    intro c env old e h
    obtain rfl | ⟨refusal, rfl⟩ := put_error_cases h
    · rfl
    · rfl
  have hsave : ∀ {t t' : State} {e}, finish scope t = (.error e, t') → e.isUnknown = false := by
    intro t t' e h
    obtain hok | ⟨cause, herror⟩ := finish_result h
    · cases hok
    · cases herror
      rfl
  apply reports_of_other
  intro s e he
  rcases hset : set watchers scope name value s with ⟨r, s'⟩
  rw [hset] at he
  cases he
  cases set_ends hset with
  | barred h =>
    obtain rfl | rfl := check_error_cases h
    · rfl
    · rfl
  | refused h => exact hput h
  | stuck _ _ hback => exact hput hback
  | reverted _ _ _ hend => exact hsave hend
  | kept _ _ hend => exact hsave hend

theorem Builtin.reports_run (b : Builtin) (args : List String) (input : Value) :
    ReportsUnknown (b.run args input) := by
  cases b with
  | clear | echo | split => exact reports_pure _
  | pwd =>
    refine reports_get.bind fun s => ?_
    split
    · exact reports_fail rfl
    · exact reports_pure _
  | resetConfig =>
    exact (reports_modify _).bind fun _ => Variable.reports_saveConfig.bind fun _ => reports_pure _
  | exit =>
    simp only [run, runExit]
    split
    · exact reports_fail rfl
    · split
      · exact reports_fail rfl
      · exact reports_pure _
  | cd =>
    refine reports_get.bind fun s => ?_
    dsimp only
    split
    · exact reports_pure _
    · refine .ite _ (reports_pure _) (.ite _ (reports_pure _) ?_)
      split
      · exact reports_fail rfl
      · exact (reports_modify _).bind fun _ => reports_pure _

theorem Program.reports_call (tools : Toolbox) (name : String) (args : List String)
    (input : Option (List String)) (capture : Bool) :
    ReportsUnknown (call tools name args input capture) := by
  apply reports_of_other
  intro s e
  rw [call_apply]
  split
  · rintro ⟨⟩
    rfl
  · rintro ⟨⟩

namespace Device

theorem reports_write (device : String) (lines : List String) :
    ReportsUnknown (write device lines) := by
  unfold write
  split
  · exact reports_pure ()
  · exact reports_fail rfl
  · exact reports_onMachine (fun _ => rfl) _

theorem reports_read (device : String) : ReportsUnknown (read device) := by
  unfold read
  split
  · exact reports_pure []
  · exact reports_fail rfl
  · have hcause : ∀ cause, (readError device cause).isUnknown = false := by
      intro cause
      cases cause <;> rfl
    exact (reports_onMachine hcause _).bind fun _ => reports_pure _

end Device

theorem Deed.reports_perform (ctx : Context) (d : Deed) : ReportsUnknown (d.perform ctx) := by
  cases d with
  | run name args input capture =>
    refine reports_get.bind fun s => ?_
    split
    · exact (Builtin.reports_run _ args input).bind fun o =>
        (reports_modify _).bind fun _ => reports_pure o
    · exact Program.reports_call _ _ _ _ _
  | write mode device value =>
    refine .bind (reports_of_ok fun s => ⟨s.machine.cwd, rfl⟩) fun cwd => ?_
    exact (Device.reports_write _ _).bind fun _ => (reports_modify _).bind fun _ => reports_pure _
  | assign scope name input capture =>
    exact (Variable.reports_set _ _ _ _).bind fun _ => reports_pure _

/-! ## Evaluation -/

namespace Variable

theorem resolve_error {scope : Option String} {c : Config} {e : EvalError}
    (h : resolve scope c = .error e) : ∃ name, e = .unknownScope name := by
  unfold resolve at h
  split at h
  · cases h
  · split at h
    · cases h
    · cases h
      exact ⟨_, rfl⟩

/-- What is reported as unknown is what was looked up. -/
theorem get_unknown {c : Config} {env : Environment} {scope unknown : Scope} {name missing : String}
    (h : get c env scope name = .error (.unknownVariable unknown missing)) :
    unknown = scope ∧ missing = name := by
  cases scope with
  | config =>
    simp only [get] at h
    split at h <;> cases h
  | persistent | temporary =>
    simp only [get, stored] at h
    split at h
    · cases h
    · cases h; exact ⟨rfl, rfl⟩
  | system | user | process => cases h

end Variable

namespace Segment

theorem reports_wordOf (place : WordPlace) (o : Outcome) :
    ReportsUnknown (Action.lift (wordOf place o)) := by
  apply reports_of_other
  intro s e
  simp only [Action.lift, wordOf]
  split
  · rintro ⟨⟩
  · rintro ⟨⟩
    rfl

theorem reports_emit (ctx : Context) (v : Value) : ReportsUnknown (emit ctx v) :=
  .ite _ (reports_modify _) (reports_pure ())

/-- What a reference does, by the scope that it stands for. -/
theorem evalReference_apply (ctx : Context) (scope : Option String) (name : String) (input : Value)
    (capture : Bool) (s : State) :
    evalReference ctx scope name input capture s =
      match Variable.resolve scope s.config with
      | .error e => (.error e, s)
      | .ok target =>
        if input.isAbsent then
          ((Variable.get s.config s.machine.env target name).map fun v => ⟨0, v⟩, s)
        else (Deed.assign target name input capture).perform ctx s := by
  simp only [evalReference, Action.bind_apply, Action.get, Action.lift]
  cases Variable.resolve scope s.config with
  | error e => rfl
  | ok target =>
    dsimp only
    split
    · rw [Action.bind_apply]
      cases Variable.get s.config s.machine.env target name <;> rfl
    · rfl

theorem reports_evalReference (ctx : Context) (scope : Option String) (name : String) (input : Value)
    (capture : Bool) : ReportsUnknown (evalReference ctx scope name input capture) := by
  intro s unknown missing
  rw [evalReference_apply]
  split
  · rename_i hscope
    rintro ⟨⟩
    obtain ⟨_, ⟨⟩⟩ := Variable.resolve_error hscope
  · rename_i target hscope
    split
    · -- The variable is looked up in the state that stays behind.
      cases hget : Variable.get s.config s.machine.env target name with
      | ok v => rintro ⟨⟩
      | error e =>
        rintro ⟨⟩
        obtain ⟨rfl, rfl⟩ := Variable.get_unknown hget
        exact hget
    · exact Deed.reports_perform ctx _ s unknown missing

mutual

/-- **Evaluation reports a variable as unknown only if it is.** -/
theorem reports_eval (ctx : Context) : ∀ (t : Segment) (input : Value) (capture : Bool),
    ReportsUnknown (eval ctx t input capture)
  | .text s, _, _ => by
    rw [eval]
    exact reports_pure _
  | .bare head, input, capture => by
    rw [eval]
    exact (reports_eval ctx head _ _).bind fun h => (reports_wordOf _ h).bind fun name =>
      Deed.reports_perform ctx (.run name [] input capture)
  | .command head args, input, capture => by
    rw [eval]
    refine (reports_eval ctx head _ _).bind fun h => (reports_wordOf _ h).bind fun name =>
      (reports_evalAll ctx args).bind fun values => ?_
    cases values with
    | ok vs => exact Deed.reports_perform ctx (.run name (vs.flatMap Value.arguments) input capture)
    | error failed => exact reports_pure failed
  | .pipe left right, input, capture => by
    rw [eval]
    exact (reports_eval ctx left _ _).bind fun o => .ite _ (reports_eval ctx right _ _) (reports_pure o)
  | .sequence left right stop, _, _ => by
    rw [eval]
    exact (reports_eval ctx left _ _).bind fun o => .ite _ (reports_pure o)
      ((reports_emit ctx o.value).bind fun _ => reports_eval ctx right _ _)
  | .redirect left device mode, input, capture => by
    rw [eval]
    refine (reports_eval ctx device _ _).bind fun d => .ite _ ?_ (reports_pure d)
    refine (reports_wordOf _ d).bind fun path => ?_
    cases mode with
    | stdIn => exact (Device.reports_read path).bind fun ls => reports_eval ctx left _ _
    | stdOut | stdErr | stdOutAndErr =>
      refine (reports_eval ctx left _ _).bind fun o => ?_
      rw [writeOutcome_eq ctx]
      exact .ite _ (Deed.reports_perform ctx _) (reports_pure o)
  | .interpolation parts, _, _ => by
    rw [eval]
    refine (reports_evalAll ctx parts).bind fun values => ?_
    cases values <;> exact reports_pure _
  | .substitution inner, input, capture => by
    rw [eval]
    exact reports_eval ctx inner input capture
  | .reference scope name, input, capture => by
    rw [eval]
    exact reports_evalReference ctx scope name input capture

theorem reports_evalAll (ctx : Context) : ∀ ts : List Segment, ReportsUnknown (evalAll ctx ts)
  | [] => by
    rw [evalAll]
    exact reports_pure _
  | t :: ts => by
    rw [evalAll]
    refine (reports_eval ctx t _ _).bind fun o => .ite _ ?_ (reports_pure _)
    refine (reports_evalAll ctx ts).bind fun more => ?_
    cases more <;> exact reports_pure _

end

end Segment

end CommandShell
