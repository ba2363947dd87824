import CommandShell.Proofs.Segment.Trace
import CommandShell.Session

/-!
# Runs of a session

A session runs one line after the other on one state.  Its steps are those of its lines.

* `Session.effects`     : what a line does;
* `Session.exec_replays` : the state behind a line is reached by what it does;
* `Session.after`, `Session.steps` : the state behind lines, and the steps to it;
* `Session.after_keeps` : what every step keeps, a session keeps.
-/

namespace CommandShell.Session

variable {ctx : Context} {options : Options}

/-- What a line does: nothing if it is blank, cannot be read or is not to run. -/
def effects (ctx : Context) (options : Options) (line : String) (s : State) : List Effect :=
  if Text.trim line = "" then []
  else
    match read (options.under s.config) line with
    | .error _ => []
    | .ok (segment, _) =>
      if (options.under s.config).noExecute then []
      else (segment.traced ctx 0 .absent false (s, [])).2.2

theorem exec_of_blank {line : String} (h : Text.trim line = "") (s : State) :
    exec ctx options line s = (.ok ⟨.absent, []⟩, s) := by
  simp [exec, h]

/-- A line that is not blank is read, and then evaluated unless it is not to run. -/
theorem exec_of_text {line : String} (h : Text.trim line ≠ "") (s : State) :
    exec ctx options line s =
      match read (options.under s.config) line with
      | .error e => (.error (.malformed e), s)
      | .ok (segment, diagnostics) =>
        if (options.under s.config).noExecute then (.ok ⟨.absent, diagnostics⟩, s)
        else
          match segment.eval ctx .absent false s with
          | (.ok o, s') => (.ok ⟨o, diagnostics⟩, s')
          | (.error e, s') => (.error (.failed e), s') := by
  simp only [exec, if_neg h, Action.bind_apply, Action.get, Action.lift]
  cases read (options.under s.config) line with
  | error e => rfl
  | ok r =>
    obtain ⟨segment, diagnostics⟩ := r
    show (if (options.under s.config).noExecute then
        (return ⟨.absent, diagnostics⟩ : Action State LineError Report)
      else do
        let outcome ← (segment.eval ctx .absent false).mapError .failed
        return ⟨outcome, diagnostics⟩) s = _
    split
    · rfl
    · simp only [Action.bind_apply, Action.mapError]
      rcases segment.eval ctx .absent false s with ⟨e | o, s'⟩ <;> rfl

/-- **The state behind a line is reached by what the line does.** -/
theorem exec_replays (ctx : Context) (options : Options) (line : String) (s : State) :
    Replays ctx s (effects ctx options line s) (exec ctx options line s).2 := by
  by_cases hblank : Text.trim line = ""
  · rw [effects, if_pos hblank, exec_of_blank hblank]
    exact .done
  rw [effects, if_neg hblank, exec_of_text hblank]
  cases read (options.under s.config) line with
  | error e => exact .done
  | ok r =>
    obtain ⟨segment, diagnostics⟩ := r
    dsimp only
    split
    · exact .done
    obtain ⟨es, htrace, hreplay⟩ := Segment.traced_follows ctx 0 segment .absent false s []
    rw [htrace, List.nil_append]
    rcases heval : segment.eval ctx .absent false s with ⟨e | o, s'⟩ <;>
    · rw [heval] at hreplay
      exact hreplay

/-- The state behind lines. -/
def after (ctx : Context) (options : Options) : List String → State → State
  | [], s => s
  | line :: rest, s => after ctx options rest (exec ctx options line s).2

/-- The steps of lines, each with the state before it. -/
def steps (ctx : Context) (options : Options) : List String → State → List (State × Effect)
  | [], _ => []
  | line :: rest, s =>
    stepsFrom s (effects ctx options line s) ++ steps ctx options rest (exec ctx options line s).2

/-- **What every step keeps, a session keeps**, where the log plays no part. -/
theorem after_keeps {I : State → Prop} {P : State × Effect → Prop}
    (hlog : ∀ s log, I s → I { s with log := log })
    (hstep : ∀ x : State × Effect, I x.1 → P x → Performed ctx x → I x.2.after)
    (lines : List String) {s : State} (hs : I s) (hsteps : ∀ x ∈ steps ctx options lines s, P x) :
    I (after ctx options lines s) ∧
      ∀ x ∈ steps ctx options lines s, I x.1 ∧ Performed ctx x := by
  induction lines generalizing s with
  | nil => exact ⟨hs, by simp [steps]⟩
  | cons line rest ih =>
    simp only [steps, List.mem_append] at hsteps ⊢
    obtain ⟨hline, hfirst⟩ := (exec_replays ctx options line s).keeps hlog hstep hs
      fun x hx => hsteps x (.inl hx)
    obtain ⟨hend, hmore⟩ := ih hline fun x hx => hsteps x (.inr hx)
    exact ⟨hend, fun x hx => hx.elim (hfirst x) (hmore x)⟩

end CommandShell.Session
