import CommandShell.Proofs.Builtin.Directory
import CommandShell.Proofs.Segment.Capture
import CommandShell.Proofs.Segment.Trace
import CommandShell.Proofs.Variable.Access

/-!
# Deeds that save

The file behind a configuration is written by a write to a saved scope and by `reset-config`.  Any
other deed leaves what is saved alone.

* `Deed.Saves`, `Saved` : a deed that saves the configuration if it succeeds, and a step that did;
* `Deed.perform_config` : what a deed does to the configuration;
* `Deed.perform_path`   : no deed changes which file backs the configuration;
* `Deed.perform_saves`  : a deed that saves and succeeds leaves the file of its configuration behind.
-/

namespace CommandShell

/-! ## Single actions -/

/-- No built-in command but `reset-config` changes the configuration or a file. -/
theorem Builtin.run_leaves {b : Builtin} (hb : b ≠ .resetConfig) (args : List String)
    (input : Value) (s : State) :
    (b.run args input s).2.config = s.config ∧
      (b.run args input s).2.machine.tree = s.machine.tree := by
  obtain ⟨place, hmoved⟩ := run_moves hb args input s
  rw [hmoved]
  exact ⟨rfl, rfl⟩

theorem Builtin.runResetConfig_apply {s s' : State} {r : Except EvalError Unit}
    (h : Variable.saveConfig { s with config := s.config.cleared } = (r, s')) :
    runResetConfig s = (r.map fun _ => .absent, s') := by
  have hcleared : runResetConfig s = (Variable.saveConfig >>= fun _ => pure Outcome.absent)
      { s with config := s.config.cleared } := rfl
  rw [hcleared]
  cases r with
  | error e => rw [Action.bind_of_error h]; rfl
  | ok u => rw [Action.bind_of_ok h]; rfl

/-- **The defaults are put back and saved**, or the action ends with the reason why they are not. -/
theorem Builtin.runResetConfig_cases {path : String} {s s' : State} {r : Except EvalError Outcome}
    (hpath : s.config.path = some path) (h : runResetConfig s = (r, s')) :
    s'.config = s.config.cleared ∧
      ((∃ o, r = .ok o) ∧ s.config.cleared.saveTo path s.machine = (.ok (), s'.machine) ∨
        ∃ cause, r = .error (.config cause)) := by
  have hcleared : ({ s with config := s.config.cleared } : State).config.path = some path := hpath
  rcases hsave : Variable.saveConfig { s with config := s.config.cleared } with ⟨r', s₁⟩
  rw [runResetConfig_apply hsave] at h
  cases h
  obtain ⟨hconfig, ⟨rfl, hsaved⟩ | ⟨cause, rfl⟩⟩ := Variable.saveConfig_cases hcleared hsave
  · exact ⟨hconfig, .inl ⟨⟨_, rfl⟩, hsaved⟩⟩
  · exact ⟨hconfig, .inr ⟨cause, rfl⟩⟩

namespace Program

/-- A program changes no configuration. -/
theorem call_config (tools : Toolbox) (name : String) (args : List String)
    (input : Option (List String)) (capture : Bool) (s : State) :
    (call tools name args input capture s).2.config = s.config := by
  rw [call_apply]
  cases find? tools s.machine name args <;> rfl

end Program

namespace Device

/-- A write to a device changes no configuration, and no file but the one it leads to. -/
theorem write_cases (device : String) (lines : List String) (s : State) :
    (write device lines s).2.config = s.config ∧
      ((write device lines s).2.machine.tree = s.machine.tree ∨
        classify device = .file ∧ ∃ p content,
          s.machine.tree.writePlace s.machine.cwd device = .ok p ∧
          (write device lines s).2.machine.tree = s.machine.tree.putFile p content) := by
  cases hclass : classify device with
  | null | reserved =>
    simp only [write, hclass]
    exact ⟨rfl, .inl rfl⟩
  | file =>
    simp only [write, hclass, Eval.onMachine, Action.mapError, Action.within, Machine.writeText]
    rcases hwrite : s.machine.tree.write s.machine.cwd device (Utf8.encode (Text.unlines lines)) with
      e | tree
    · exact ⟨rfl, .inl rfl⟩
    · obtain ⟨p, hplace, rfl⟩ := FileTree.write_eq_ok_iff.mp hwrite
      exact ⟨rfl, .inr ⟨trivial, p, _, hplace, rfl⟩⟩

end Device

namespace Segment

/-- A built-in command that is run under a name does what it does, and is recorded. -/
theorem runBuiltin_apply (b : Builtin) (name : String) (args : List String) (input : Value)
    (s : State) : ∃ log, runBuiltin b name args input s =
      ((b.run args input s).1, { (b.run args input s).2 with log := log }) := by
  rcases hrun : b.run args input s with ⟨_ | o, s'⟩
  · exact ⟨s'.log, Action.bind_of_error hrun⟩
  · exact ⟨s'.log ++ [.ran name o], Action.bind_of_ok hrun⟩

end Segment

/-! ## Deeds -/

namespace Deed

/-- A deed that saves the configuration if it succeeds: a write to a saved scope, or
`reset-config`. -/
def Saves (ctx : Context) (s : State) : Deed → Prop
  | run name _ _ _ => Segment.enabled? ctx s.config name = some .resetConfig
  | assign scope _ _ _ => Variable.isSaved scope = true
  | write _ _ _ => False

section Perform

variable {ctx : Context} {s s' : State} {r : Except EvalError Outcome}

theorem perform_run_builtin {name : String} {args : List String} {input : Value} {capture : Bool}
    {b : Builtin} (hb : Segment.enabled? ctx s.config name = some b)
    (h : (run name args input capture).perform ctx s = (r, s')) :
    ∃ log, r = (b.run args input s).1 ∧ s' = { (b.run args input s).2 with log := log } := by
  obtain ⟨log, hrun⟩ := Segment.runBuiltin_apply b name args input s
  simp only [perform, Segment.runCommand, Action.bind_apply, Action.get, hb, hrun] at h
  cases h
  exact ⟨log, rfl, rfl⟩

theorem perform_run_program {name : String} {args : List String} {input : Value} {capture : Bool}
    (hb : Segment.enabled? ctx s.config name = none)
    (h : (run name args input capture).perform ctx s = (r, s')) : s'.config = s.config := by
  simp only [perform, Segment.runCommand, Action.bind_apply, Action.get, hb] at h
  have hconfig := Program.call_config ctx.tools name args (Segment.inputLines input) capture s
  rw [h] at hconfig
  exact hconfig

theorem perform_write {mode : RedirectMode} {device : String} {value : Value}
    (h : (write mode device value).perform ctx s = (r, s')) :
    s'.config = s.config ∧ (s'.machine.tree = s.machine.tree ∨
      Device.classify device = .file ∧ ∃ p content,
        s.machine.tree.writePlace s.machine.cwd device = .ok p ∧
        s'.machine.tree = s.machine.tree.putFile p content) := by
  have hwrite := Device.write_cases device (value.select mode) s
  rcases hdevice : Device.write device (value.select mode) s with ⟨e | u, s₁⟩
  · have hdone : (write mode device value).perform ctx s = (.error e, s₁) :=
      (Action.bind_of_ok (m := Action.gets _) rfl).trans (Action.bind_of_error hdevice)
    rw [hdevice] at hwrite
    rw [hdone] at h
    cases h
    exact hwrite
  · have hdone : (write mode device value).perform ctx s = (.ok .absent, { s₁ with
        log := s₁.log ++ [.wrote s.machine.cwd device (value.select mode)] }) :=
      (Action.bind_of_ok (m := Action.gets _) rfl).trans (Action.bind_of_ok hdevice)
    rw [hdevice] at hwrite
    rw [hdone] at h
    cases h
    exact hwrite

theorem perform_assign {scope : Scope} {name : String} {input : Value} {capture : Bool}
    (h : (assign scope name input capture).perform ctx s = (r, s')) :
    ∃ r', Variable.set ctx.watchers scope name input.joined s = (r', s') ∧
      ((∃ o, r = .ok o ∧ r' = .ok ()) ∨ ∃ e, r = .error e ∧ r' = .error e) := by
  simp only [perform, Action.bind_apply] at h
  rcases hset : Variable.set ctx.watchers scope name input.joined s with ⟨e | u, s₁⟩
  · rw [hset] at h
    cases h
    exact ⟨_, rfl, .inr ⟨e, rfl, rfl⟩⟩
  · rw [hset] at h
    cases h
    exact ⟨_, rfl, .inl ⟨_, rfl, rfl⟩⟩

/-- **What a deed does to the configuration**: nothing, unless it puts the defaults back or sets a
variable. -/
theorem perform_config {d : Deed} (h : d.perform ctx s = (r, s')) :
    s'.config = s.config ∨ s'.config = s.config.cleared ∨
      ∃ scope name value r', Variable.set ctx.watchers scope name value s = (r', s') := by
  cases d with
  | write mode device value => exact .inl (perform_write h).1
  | run name args input capture =>
    cases hb : Segment.enabled? ctx s.config name with
    | none => exact .inl (perform_run_program hb h)
    | some b =>
      obtain ⟨log, -, rfl⟩ := perform_run_builtin hb h
      by_cases hreset : b = .resetConfig
      · subst hreset
        refine .inr (.inl ?_)
        have hconfig := Variable.saveConfig_config { s with config := s.config.cleared }
        rw [Builtin.run, Builtin.runResetConfig_apply (Prod.eta _).symm, hconfig]
      · exact .inl (Builtin.run_leaves hreset args input s).1
  | assign scope name input capture =>
    obtain ⟨r', hset, -⟩ := perform_assign h
    exact .inr (.inr ⟨scope, name, _, r', hset⟩)

/-- **No deed changes which file backs the configuration.** -/
theorem perform_path {d : Deed} (h : d.perform ctx s = (r, s')) :
    s'.config.path = s.config.path := by
  obtain hsame | hcleared | ⟨scope, name, value, r', hset⟩ := perform_config h
  · rw [hsame]
  · rw [hcleared]
    rfl
  · rcases Variable.set_cases hset with ⟨e, -, rfl⟩ | ⟨c, env, e, hput, -, -, hconfig⟩ |
      ⟨c, env, log, hkeeps, hfinish⟩
    · rfl
    · rw [hconfig, (Variable.put_keeps hput).path]
    · have hconfig := Variable.finish_config scope { Variable.settle s c env with log := log }
      rw [hfinish] at hconfig
      rw [hconfig]
      exact hkeeps.path

/-- **A deed that saves and succeeds has written its configuration** to the file behind it, as the
path is followed from the working directory of that moment. -/
theorem perform_saves {d : Deed} {o : Outcome} {path : String} (hpath : s.config.path = some path)
    (hsaves : d.Saves ctx s) (h : d.perform ctx s = (.ok o, s')) :
    s'.config.saveTo path s.machine = (.ok (), s'.machine) := by
  cases d with
  | write mode device value => cases hsaves
  | run name args input capture =>
    obtain ⟨log, hresult, rfl⟩ := perform_run_builtin hsaves h
    obtain ⟨hconfig, ⟨-, hsaved⟩ | ⟨cause, herror⟩⟩ :=
      Builtin.runResetConfig_cases hpath (Prod.eta (Builtin.runResetConfig s)).symm
    · rw [← hconfig] at hsaved; exact hsaved
    · rw [Builtin.run, herror] at hresult; cases hresult
  | assign scope name input capture =>
    obtain ⟨r', hset, ⟨o', -, rfl⟩ | ⟨e, herror, -⟩⟩ := perform_assign h
    · rcases Variable.set_cases hset with ⟨e, herror, -⟩ | ⟨-, -, e, -, -, herror, -⟩ |
        ⟨c, env, log, hkeeps, hfinish⟩
      · cases herror
      · cases herror
      · obtain ⟨rfl, ⟨-, hsaved⟩ | ⟨cause, herror⟩⟩ :=
          Variable.finish_cases hsaves hkeeps hpath hfinish
        · exact hsaved
        · cases herror
    · cases herror

end Perform

end Deed

/-- A step that saved the configuration. -/
def Saved (ctx : Context) (x : State × Effect) : Prop :=
  x.2.deed.Saves ctx x.1 ∧ ∃ o, x.2.result = .ok o

/-- **A step that saved has written its configuration** to the file behind it. -/
theorem Performed.saveTo {ctx : Context} {x : State × Effect} {path : String}
    (h : Performed ctx x) (hpath : x.1.config.path = some path) (hsaved : Saved ctx x) :
    x.2.after.config.saveTo path x.1.machine = (.ok (), x.2.after.machine) := by
  obtain ⟨log, hdone⟩ := h
  obtain ⟨hsaves, o, hok⟩ := hsaved
  rw [hok] at hdone
  exact Deed.perform_saves (s := { x.1 with log := log }) hpath hsaves hdone

end CommandShell
