import CommandShell.Proofs.Variable.Access

/-!
# Writes that fail

A write that is refused changes nothing.  One whose save fails stays in memory as if there were no
file behind the configuration.

* `Variable.RevertRefused`      : a watcher takes a write back, but the old value is not taken;
* `Variable.put_path`           : which file backs a configuration plays no part when a value is put;
* `Variable.set_unsaved`        : a write whose save fails, in memory;
* `Variable.set_failure`        : what a write that fails leaves behind;
* `Variable.set_failure_memory` : a save that fails leaves the new value in memory.
-/

namespace CommandShell.Variable

variable {watchers : Watchers} {scope : Scope} {name value : String} {s s' : State} {e : EvalError}

/-! ## Errors -/

/-- What a check ends with: the environment cannot hold the name or the value. -/
theorem check_error_cases (h : check scope name value = .error e) :
    e = .invalidName name ∨ e = .invalidValue name := by
  unfold check at h
  split at h
  · cases h; exact .inl rfl
  split at h
  · cases h; exact .inr rfl
  · cases h

/-- What putting a value ends with: no setting has the name, or it does not take the value. -/
theorem put_error_cases {c : Config} {env : Environment} {old : Option String}
    (h : put c env scope name old = .error e) :
    e = .unknownProperty name ∨ ∃ refusal, e = .invalidSetting refusal := by
  cases scope with
  | config =>
    simp only [put] at h
    split at h
    · cases h
    split at h
    · cases h; exact .inl rfl
    split at h
    · cases h
    · cases h; exact .inr ⟨_, rfl⟩
  | persistent | temporary | system | user | process => cases h

/-- A check never ends with a save that fails. -/
theorem check_error (h : check scope name value = .error e) (cause : ConfigError) :
    e ≠ .config cause := by
  obtain rfl | rfl := check_error_cases h <;> simp

/-- Putting a value never ends with a save that fails. -/
theorem put_error {c : Config} {env : Environment} {old : Option String}
    (h : put c env scope name old = .error e) (cause : ConfigError) : e ≠ .config cause := by
  obtain rfl | ⟨refusal, rfl⟩ := put_error_cases h <;> simp

/-- A watcher takes a write back, but the setting does not take the value that it had. -/
def RevertRefused (watchers : Watchers) (scope : Scope) (name value : String) (s : State) : Prop :=
  reverts watchers scope name value s = true ∧
    ∃ c env e, put s.config s.machine.env scope name (some value) = .ok (c, env) ∧
      put c env scope name (current? s.config s.machine.env scope name) = .error e

/-- **Only a default scope that names no scope is not taken back.** -/
theorem RevertRefused.unknown (h : RevertRefused watchers scope name value s) :
    scope = .config ∧ Property.find? name = some .defaultScope ∧
      ¬ s.config.settings.HasKnownScope := by
  obtain ⟨-, c, env, e, hput, hback⟩ := h
  have hrefused : ¬ (scope = .config → Property.find? name = some .defaultScope →
      s.config.settings.HasKnownScope) := by
    intro hknown
    obtain ⟨r, hok⟩ := put_current hknown hput
    rw [hok] at hback
    cases hback
  simpa only [Classical.not_imp] using hrefused

/-! ## Memory without a file -/

/-- The state with no file behind its configuration. -/
def unbacked (s : State) : State := { s with config := { s.config with path := none } }

theorem current?_path (c : Config) (env : Environment) (scope : Scope) (name : String)
    (path : Option String) :
    current? { c with path := path } env scope name = current? c env scope name := by
  cases scope <;> rfl

/-- Which file backs a configuration plays no part when a value is put. -/
theorem put_path {c c' : Config} {env env' : Environment} {old : Option String}
    (h : put c env scope name old = .ok (c', env')) (path : Option String) :
    put { c with path := path } env scope name old = .ok ({ c' with path := path }, env') := by
  cases scope with
  | config =>
    simp only [put] at h ⊢
    split at h
    · cases h; rfl
    split at h
    · cases h
    split at h
    · cases h; rfl
    · cases h
  | persistent | temporary | system | user | process => cases h; rfl

theorem reverts_unbacked : reverts watchers scope name value (unbacked s) =
    reverts watchers scope name value s := by
  simp only [reverts, unbacked, current?_path]

/-- Without a file, nothing is saved. -/
theorem finish_of_no_path (h : s.config.path = none) : finish scope s = (.ok (), s) := by
  unfold finish
  split
  · rw [saveConfig_apply]
    simp only [Config.save, h]
    rfl
  · rfl

/-- Only a write to a saved scope ends with a save that fails; it leaves the environment alone. -/
theorem finish_error {c : Config} {env : Environment} {log : List Event}
    (hkeeps : PutKeeps scope s.config s.machine.env c env)
    (h : finish scope { settle s c env with log := log } = (.error e, s')) :
    s'.config = c ∧ s'.machine.env = s.machine.env := by
  have hconfig := finish_config scope { settle s c env with log := log }
  have henv := finish_environment scope { settle s c env with log := log }
  rw [h] at hconfig henv
  have hsaved : isSaved scope = true := by
    by_contra hscope
    rw [finish, if_neg hscope] at h
    cases h
  exact ⟨hconfig, henv.trans (hkeeps.environment hsaved)⟩

/-- What a write settles on in memory, before it is saved. -/
def settled (watchers : Watchers) (scope : Scope) (name value : String) (s : State) :
    Except EvalError (Config × Environment) :=
  match check scope name value, put s.config s.machine.env scope name (some value) with
  | .error e, _ => .error e
  | .ok (), .error e => .error e
  | .ok (), .ok (c, env) =>
    if reverts watchers scope name value s then
      put c env scope name (current? s.config s.machine.env scope name)
    else .ok (c, env)

theorem set_of_settled {c : Config} {env : Environment}
    (h : settled watchers scope name value s = .ok (c, env)) :
    set watchers scope name value s =
      finish scope { settle s c env with log := logOf watchers scope name value s } := by
  rw [set_apply]
  unfold settled at h
  rcases hcheck : check scope name value with e | u
  · rw [hcheck] at h; cases h
  rcases hput : put s.config s.machine.env scope name (some value) with e | ⟨c, env⟩
  · rw [hcheck, hput] at h; cases h
  rw [hcheck, hput] at h
  dsimp only at h ⊢
  split at h
  · rw [if_pos ‹_›, h]
  · rw [if_neg ‹_›]
    cases h
    rfl

theorem settled_keeps {c : Config} {env : Environment}
    (h : settled watchers scope name value s = .ok (c, env)) :
    PutKeeps scope s.config s.machine.env c env := by
  unfold settled at h
  split at h
  · cases h
  · cases h
  · rename_i hput
    split at h
    · exact (put_keeps hput).trans (put_keeps h)
    · cases h
      exact put_keeps hput

/-- A write that settles on nothing changes nothing, unless a watcher takes it back and the old value
is refused. Neither is a save that fails. -/
theorem set_of_unsettled (h : settled watchers scope name value s = .error e) :
    ∃ t, set watchers scope name value s = (.error e, t) ∧ (∀ cause, e ≠ .config cause) ∧
      (t = s ∨ RevertRefused watchers scope name value s) := by
  rw [set_apply]
  unfold settled at h
  rcases hcheck : check scope name value with e' | u
  · rw [hcheck] at h
    cases h
    exact ⟨s, rfl, check_error hcheck, .inl rfl⟩
  rcases hput : put s.config s.machine.env scope name (some value) with e' | ⟨c, env⟩
  · rw [hcheck, hput] at h
    cases h
    exact ⟨s, rfl, put_error hput, .inl rfl⟩
  rw [hcheck, hput] at h
  dsimp only at h ⊢
  split at h
  · rename_i hrevert
    rw [if_pos hrevert, h]
    exact ⟨_, rfl, put_error h, .inr ⟨hrevert, c, env, e, hput, h⟩⟩
  · cases h

/-- Which file is behind the configuration plays no part until it is saved. -/
theorem settled_unbacked {c : Config} {env : Environment}
    (h : settled watchers scope name value s = .ok (c, env)) :
    settled watchers scope name value (unbacked s) = .ok ({ c with path := none }, env) := by
  unfold settled at h
  split at h
  · cases h
  · cases h
  · rename_i c₁ env₁ hcheck hput
    have hput' : put (unbacked s).config (unbacked s).machine.env scope name (some value) =
        .ok ({ c₁ with path := none }, env₁) := put_path hput none
    rw [settled, hcheck, hput', reverts_unbacked]
    dsimp only
    split at h
    · rw [if_pos ‹_›]
      exact (congrArg (put _ _ _ _) (current?_path _ _ _ _ _)).trans (put_path h none)
    · rw [if_neg ‹_›]
      cases h
      rfl

/-- **A write whose save fails stays in memory**: it leaves what the same write leaves where no file
is behind the configuration, and there it succeeds. -/
theorem set_unsaved {cause : ConfigError}
    (h : set watchers scope name value s = (.error (.config cause), s')) :
    s'.machine.env = s.machine.env ∧
      (set watchers scope name value (unbacked s)).1 = .ok () ∧
      s'.config =
        { (set watchers scope name value (unbacked s)).2.config with path := s.config.path } := by
  rcases hsettled : settled watchers scope name value s with e | ⟨c, env⟩
  · obtain ⟨t, hset, hcause, -⟩ := set_of_unsettled hsettled
    rw [hset] at h
    cases h
    exact absurd rfl (hcause cause)
  · have hkeeps := settled_keeps hsettled
    rw [set_of_settled hsettled] at h
    obtain ⟨hconfig, henv⟩ := finish_error hkeeps h
    rw [set_of_settled (settled_unbacked hsettled), finish_of_no_path rfl]
    refine ⟨henv, rfl, ?_⟩
    rw [hconfig, ← hkeeps.path]
    rfl

/-! ## What is left behind -/

/-- **What a write that fails leaves behind.** Take any state, watchers, scope, name and value, and a
write that ends with an error.
* If no save failed and no watcher's revert was refused, nothing has changed at all.
* If the save failed, the environment is as it was, and memory holds what the same write leaves, with
  success, where no file is behind the configuration.
* A revert is refused only for a default scope that names no scope. -/
theorem set_failure (h : set watchers scope name value s = (.error e, s')) :
    ((∀ cause, e ≠ .config cause) → ¬ RevertRefused watchers scope name value s → s' = s) ∧
    (∀ cause, e = .config cause →
      s'.machine.env = s.machine.env ∧
      (set watchers scope name value (unbacked s)).1 = .ok () ∧
      s'.config =
        { (set watchers scope name value (unbacked s)).2.config with path := s.config.path }) ∧
    (RevertRefused watchers scope name value s →
      scope = .config ∧ Property.find? name = some .defaultScope ∧
        ¬ s.config.settings.HasKnownScope) := by
  refine ⟨fun hcause hrevert => ?_, ?_, RevertRefused.unknown⟩
  · rcases hsettled : settled watchers scope name value s with e' | ⟨c, env⟩
    · obtain ⟨t, hset, -, hsame⟩ := set_of_unsettled hsettled
      rw [hset] at h
      cases h
      exact hsame.resolve_right hrevert
    · rw [set_of_settled hsettled] at h
      rcases finish_result h with hok | ⟨cause, herror⟩
      · cases hok
      · cases herror
        exact absurd rfl (hcause cause)
  · rintro cause rfl
    exact set_unsaved h

/-- A file where a directory is wanted. -/
def blockedTree : FileTree := ⟨[(["sub"], .directory), (["sub", "conf"], .file [])]⟩

/-- The defaults, behind a path that can be loaded from the root and not be saved from a directory
below. -/
def blockedState : State :=
  ⟨{ path := some "conf/lumi.toml" }, ⟨blockedTree, ["sub"], [("A", "1")], none, []⟩, []⟩

theorem set_failure_blocked :
    set [] .config "UseTilde" "maybe" blockedState =
        (.error (.invalidSetting ⟨.useTilde, "maybe"⟩), blockedState) ∧
      (set [] .persistent "x" "1" blockedState).1 =
        .error (.config (.write "conf" .alreadyExists)) ∧
      (set [] .persistent "x" "1" blockedState).2.machine.env = [("A", "1")] ∧
      (set [] .persistent "x" "1" blockedState).2.config =
        { (set [] .persistent "x" "1" (unbacked blockedState)).2.config with
          path := some "conf/lumi.toml" } := by
  have hrefused : (set [] .config "UseTilde" "maybe" blockedState).1 =
      .error (.invalidSetting ⟨.useTilde, "maybe"⟩) := by decide +kernel
  have hblocked : (set [] .persistent "x" "1" blockedState).1 =
      .error (.config (.write "conf" .alreadyExists)) := by decide +kernel
  have hsame := (set_failure (Prod.ext hrefused rfl)).1 nofun fun hrevert => nomatch hrevert.1
  obtain ⟨henv, -, hconfig⟩ := (set_failure (Prod.ext hblocked rfl)).2.1 _ rfl
  exact ⟨Prod.ext hrefused hsame, hblocked, henv, hconfig⟩

/-- **A save that fails leaves the new value in memory**: a configuration that was loaded holds a
variable after a write that ended with an error. -/
theorem set_failure_memory :
    (Config.load "conf/lumi.toml" ⟨blockedTree, [], [("A", "1")], none, []⟩).1 =
        .ok blockedState.config ∧
      (set [] .persistent "x" "1" blockedState).1 =
        .error (.config (.write "conf" .alreadyExists)) ∧
      blockedState.config.persistent.entries = [] ∧
      (set [] .persistent "x" "1" blockedState).2.config.persistent.entries = [("x", "1")] :=
  ⟨by decide +kernel, by decide +kernel, rfl, by decide +kernel⟩

end CommandShell.Variable
