import CommandShell.Segment.Eval

/-!
# Capture is observation only

Whether the output of programs is asked for decides where their output goes, and what value they have.
It decides nothing else: two evaluations that differ in this flag only end alike, and leave the same
settings, machine, calls of watchers and values that are handed on.

* `State.watcherCalls`, `State.emissions` : what watchers and the place for values have seen;
* `SameEnd`, `SameEffects` : what two evaluations have in common;
* `Observes`               : the first action is the second with output asked for;
* `eval_observes`          : evaluation with the flag and without it.
-/

namespace CommandShell

/-- The change that a watcher was asked about. -/
def Event.change? : Event → Option Change
  | watched change => some change
  | _ => none

/-- The value that was handed on. -/
def Event.emission? : Event → Option Value
  | emitted value => some value
  | _ => none

/-- The changes that watchers were asked about, in order. -/
def State.watcherCalls (s : State) : List Change := s.log.filterMap Event.change?

/-- The values that were handed on, in order. -/
def State.emissions (s : State) : List Value := s.log.filterMap Event.emission?

/-- What is left of an event where nobody looks at the output of programs: nothing goes to the
console, and a command has only an exit code. -/
def Event.muted : Event → Option Event
  | printed _ _ => none
  | ran name o => some (ran name ⟨o.exitCode, .absent⟩)
  | e => some e

/-- Two states that differ in the output of programs only. -/
structure SameEffects (s s' : State) : Prop where
  config : s.config = s'.config
  machine : s.machine = s'.machine
  log : s.log.filterMap Event.muted = s'.log.filterMap Event.muted

/-- A result with output asked for, and the result without: the same error, or the same exit code and,
unless it is left out, the same value. -/
inductive SameEnd : Except EvalError Outcome → Except EvalError Outcome → Prop
  | error (e : EvalError) : SameEnd (.error e) (.error e)
  | ok {o o' : Outcome} (code : o.exitCode = o'.exitCode)
    (value : o'.value = .absent ∨ o'.value = o.value) : SameEnd (.ok o) (.ok o')

/-- The first action does what the second does, with output asked for. -/
def Observes (m n : Eval Outcome) : Prop :=
  ∀ s, SameEnd (m s).1 (n s).1 ∧ SameEffects (m s).2 (n s).2

theorem SameEffects.refl (s : State) : SameEffects s s := ⟨rfl, rfl, rfl⟩

/-- What does not look at the output of programs sees the same in both logs. -/
theorem SameEffects.view_eq {β : Type} {s s' : State} (h : SameEffects s s')
    (view : Event → Option β) (hview : ∀ e, e.muted.bind view = view e) :
    s.log.filterMap view = s'.log.filterMap view := by
  have hmuted : ∀ log : List Event,
      (log.filterMap Event.muted).filterMap view = log.filterMap view := by
    intro log
    rw [List.filterMap_filterMap]
    exact congrArg (fun f => log.filterMap f) (funext hview)
  rw [← hmuted s.log, h.log, hmuted s'.log]

section Observes

variable {α : Type}

theorem Observes.refl (m : Eval Outcome) : Observes m m := by
  intro s
  refine ⟨?_, .refl _⟩
  cases (m s).1 with
  | error e => exact .error e
  | ok o => exact .ok rfl (.inr rfl)

theorem observes_pure {o o' : Outcome} (code : o.exitCode = o'.exitCode)
    (value : o'.value = .absent ∨ o'.value = o.value) : Observes (pure o) (pure o') :=
  fun s => ⟨.ok code value, .refl s⟩

/-- The same action before both. -/
theorem Observes.after (m : Eval α) {f g : α → Eval Outcome} (h : ∀ a, Observes (f a) (g a)) :
    Observes (m >>= f) (m >>= g) := by
  intro s
  rcases hm : m s with ⟨r, s'⟩
  cases r with
  | error e =>
    rw [Action.bind_of_error hm, Action.bind_of_error hm]
    exact ⟨.error e, .refl s'⟩
  | ok a =>
    rw [Action.bind_of_ok hm, Action.bind_of_ok hm]
    exact h a s'

theorem Observes.ite {m m' n n' : Eval Outcome} (c : Prop) [Decidable c] (h : Observes m n)
    (h' : Observes m' n') : Observes (if c then m else m') (if c then n else n') := by
  split
  · exact h
  · exact h'

end Observes

namespace Program

/-- What a program that was found leaves behind. -/
def called (program : Program) (name : String) (args : List String) (input : Option (List String))
    (s : State) : Completion :=
  program
    { name := name, args := args, env := s.machine.env, cwd := s.machine.cwd, tree := s.machine.tree
      input := (input.map feed).getD s.machine.input }

theorem call_apply (tools : Toolbox) (name : String) (args : List String)
    (input : Option (List String)) (capture : Bool) (s : State) :
    call tools name args input capture s =
      match find? tools s.machine name args with
      | none => (.error (.programNotFound name), s)
      | some program =>
        let c := called program name args input s
        let o : Outcome := ⟨c.status.code, if capture then captured c else .absent⟩
        (.ok o,
          { s with
            machine := { s.machine with
              tree := c.tree, input := if input.isSome then s.machine.input else c.unread }
            log := (if capture then s.log else s.log ++ [.printed c.output c.errors]) ++
              [.ran name o] }) := by
  simp only [call, Action.bind_apply, Action.get]
  cases find? tools s.machine name args with
  | none => rfl
  | some program => cases capture <;> rfl

/-- **A program is run in the same way whether its output is captured or not.** -/
theorem call_observes (tools : Toolbox) (name : String) (args : List String)
    (input : Option (List String)) :
    Observes (call tools name args input true) (call tools name args input false) := by
  intro s
  rw [call_apply, call_apply]
  cases find? tools s.machine name args with
  | none => exact ⟨.error _, .refl s⟩
  | some program =>
    refine ⟨.ok rfl (.inl rfl), rfl, rfl, ?_⟩
    simp [List.filterMap_cons, Event.muted]

end Program

namespace Segment

theorem runCommand_observes (ctx : Context) (name : String) (args : List String) (input : Value) :
    Observes (runCommand ctx name args input true) (runCommand ctx name args input false) := by
  refine .after _ fun s => ?_
  cases enabled? ctx s.config name with
  | some b => exact .refl _
  | none => exact Program.call_observes ctx.tools name args (inputLines input)

theorem evalReference_observes (ctx : Context) (scope : Option String) (name : String)
    (input : Value) :
    Observes (evalReference ctx scope name input true)
      (evalReference ctx scope name input false) := by
  refine .after _ fun s => .after _ fun scope => .ite _ (.refl _) (.after _ fun _ => ?_)
  exact observes_pure rfl (.inl rfl)

/-- **Evaluation with output asked for does what evaluation without does.**  Only the last part of a
tree that is evaluated gets the flag, so up to there both evaluations are one. -/
theorem eval_observes (ctx : Context) : ∀ (t : Segment) (input : Value),
    Observes (t.eval ctx input true) (t.eval ctx input false)
  | .text _, _ => by
    rw [eval, eval]
    exact .refl _
  | .bare head, input => by
    rw [eval, eval]
    exact .after _ fun h => .after _ fun name => runCommand_observes ctx name [] input
  | .command head args, input => by
    rw [eval, eval]
    refine .after _ fun h => .after _ fun name => .after _ fun values => ?_
    cases values with
    | ok vs => exact runCommand_observes ctx name _ input
    | error failed => exact .refl _
  | .pipe left right, input => by
    rw [eval, eval]
    exact .after _ fun o => .ite _ (eval_observes ctx right o.value) (.refl _)
  | .sequence left right stop, _ => by
    rw [eval, eval]
    exact .refl _
  | .redirect left device mode, input => by
    rw [eval, eval]
    refine .after _ fun d => .ite _ (.after _ fun path => ?_) (.refl _)
    cases mode with
    | stdIn => exact .after _ fun ls => eval_observes ctx left (.lines ls)
    | stdOut | stdErr | stdOutAndErr => exact .refl _
  | .interpolation parts, _ => by
    rw [eval, eval]
    exact .refl _
  | .substitution inner, input => by
    rw [eval, eval]
    exact eval_observes ctx inner input
  | .reference scope name, input => by
    rw [eval, eval]
    exact evalReference_observes ctx scope name input

end Segment

/-- **Capture is observation only.**  Whether the output of programs is asked for or not, evaluation
ends with the same error or with the same exit code, where the value is the same or left out; and it
leaves the same settings and machine, so the same files, environment and working directory, the same
calls of watchers and the same values handed on. -/
theorem eval_capture (ctx : Context) (t : Segment) (input : Value) (s : State) :
    let captured := t.eval ctx input true s
    let direct := t.eval ctx input false s
    SameEnd captured.1 direct.1 ∧ captured.2.config = direct.2.config ∧
      captured.2.machine = direct.2.machine ∧
      captured.2.watcherCalls = direct.2.watcherCalls ∧
      captured.2.emissions = direct.2.emissions := by
  obtain ⟨hend, heffects⟩ := t.eval_observes ctx input s
  have hcalls := heffects.view_eq Event.change? fun e => by cases e <;> rfl
  have hemissions := heffects.view_eq Event.emission? fun e => by cases e <;> rfl
  exact ⟨hend, heffects.config, heffects.machine, hcalls, hemissions⟩

end CommandShell
