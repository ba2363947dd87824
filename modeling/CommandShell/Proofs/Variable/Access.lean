import CommandShell.Proofs.Config.File
import CommandShell.Proofs.Config.Property
import CommandShell.Variable.Access

/-!
# What a write to a variable changes

* `Variable.PutKeeps`      : what stays when a value is put into a scope;
* `Watchers.named_ofList`  : which watchers are asked about a name;
* `Variable.set_apply`     : what a write does, step by step;
* `Variable.Ends`          : how a write ends, with what it leaves behind;
* `Variable.set_ends`      : every write ends in one of these ways.
-/

namespace CommandShell.Variable

/-! ## Putting values -/

/-- What stays when a value is put into a scope or taken out. -/
structure PutKeeps (scope : Scope) (c : Config) (env : Environment) (c' : Config)
    (env' : Environment) : Prop where
  /-- The file that backs the configuration. -/
  path : c'.path = c.path
  /-- What is saved, if the scope is not. -/
  saved : isSaved scope = false → c'.settings = c.settings ∧ c'.persistent = c.persistent
  /-- The environment, if the scope is saved. -/
  environment : isSaved scope = true → env' = env
  /-- A known default scope. -/
  known : c.settings.HasKnownScope → c'.settings.HasKnownScope
  /-- Normal settings. -/
  normal : c.settings.Normal → c'.settings.Normal

theorem PutKeeps.trans {scope : Scope} {c₁ c₂ c₃ : Config} {env₁ env₂ env₃ : Environment}
    (h : PutKeeps scope c₁ env₁ c₂ env₂) (h' : PutKeeps scope c₂ env₂ c₃ env₃) :
    PutKeeps scope c₁ env₁ c₃ env₃ where
  path := h'.path.trans h.path
  saved hscope := ⟨(h'.saved hscope).1.trans (h.saved hscope).1,
    (h'.saved hscope).2.trans (h.saved hscope).2⟩
  environment hscope := (h'.environment hscope).trans (h.environment hscope)
  known hc := h'.known (h.known hc)
  normal hc := h'.normal (h.normal hc)

theorem put_keeps {c c' : Config} {env env' : Environment} {scope : Scope} {name : String}
    {value : Option String} (h : put c env scope name value = .ok (c', env')) :
    PutKeeps scope c env c' env' := by
  cases scope with
  | config =>
    simp only [put] at h
    split at h
    · cases h; exact ⟨rfl, fun _ => ⟨rfl, rfl⟩, fun _ => rfl, id, id⟩
    split at h
    · cases h
    split at h
    · rename_i hwrite
      cases h
      exact ⟨rfl, nofun, fun _ => rfl, Property.write_known hwrite, Property.write_normal hwrite⟩
    · cases h
  | persistent => cases h; exact ⟨rfl, nofun, fun _ => rfl, id, id⟩
  | temporary | system | user | process =>
    cases h; exact ⟨rfl, fun _ => ⟨rfl, rfl⟩, nofun, id, id⟩

/-- **The old value can be put back**: no setting refuses it, an unknown default scope apart. -/
theorem put_current {c c' : Config} {env env' : Environment} {scope : Scope} {name value : String}
    (hc : scope = .config → Property.find? name = some .defaultScope → c.settings.HasKnownScope)
    (h : put c env scope name (some value) = .ok (c', env')) :
    ∃ r, put c' env' scope name (current? c env scope name) = .ok r := by
  cases scope with
  | config =>
    cases hproperty : Property.find? name with
    | none => simp [put, hproperty] at h
    | some p =>
      obtain ⟨settings, hwrite⟩ := p.write_read (fun hp => hc rfl (hp ▸ hproperty)) c'.settings
      exact ⟨_, by simp only [put, current?, get, hproperty, hwrite]; rfl⟩
  | persistent | temporary | system | user | process => exact ⟨_, rfl⟩

/-! ## Writes -/

/-- A state with another configuration and another environment. -/
def settle (s : State) (c : Config) (env : Environment) : State :=
  { s with config := c, machine := { s.machine with env := env } }

theorem write_of_ok {scope : Scope} {name : String} {value : Option String} {s : State}
    {c : Config} {env : Environment}
    (h : put s.config s.machine.env scope name value = .ok (c, env)) :
    write scope name value s = (.ok (), settle s c env) := by
  simp only [write, Action.bind_apply, Action.get, Action.lift, h]
  rfl

theorem write_of_error {scope : Scope} {name : String} {value : Option String} {s : State}
    {e : EvalError} (h : put s.config s.machine.env scope name value = .error e) :
    write scope name value s = (.error e, s) := by
  simp only [write, Action.bind_apply, Action.get, Action.lift, h]

/-- Saves what a write to a scope has changed. -/
def finish (scope : Scope) : Eval Unit := if isSaved scope then saveConfig else pure ()

/-! ## Saving -/

/-- **A save**: the file is written, or the action ends with the reason why it is not. -/
theorem saveConfig_apply (s : State) :
    saveConfig s =
      ((s.config.save s.machine).1.mapError .config,
        { s with machine := (s.config.save s.machine).2 }) := by
  simp only [saveConfig, Action.bind_apply, Action.get, Eval.onMachine, Action.mapError,
    Action.within]
  rcases s.config.save s.machine with ⟨e | u, m⟩ <;> rfl

theorem saveConfig_cases {path : String} {s s' : State} {r : Except EvalError Unit}
    (hpath : s.config.path = some path) (h : saveConfig s = (r, s')) :
    s'.config = s.config ∧
      (r = .ok () ∧ s.config.saveTo path s.machine = (.ok (), s'.machine) ∨
        ∃ cause, r = .error (.config cause)) := by
  rw [saveConfig_apply, Config.save_of_path hpath] at h
  rcases hsave : s.config.saveTo path s.machine with ⟨_ | u, m⟩
  · rw [hsave] at h
    cases h
    exact ⟨rfl, .inr ⟨_, rfl⟩⟩
  · rw [hsave] at h
    cases h
    exact ⟨rfl, .inl ⟨rfl, rfl⟩⟩

/-- A save changes no configuration, whether a file backs it or not. -/
theorem saveConfig_config (s : State) : (saveConfig s).2.config = s.config := by
  rw [saveConfig_apply]

/-- The end of a write to a saved scope. -/
theorem finish_cases {path : String} {scope : Scope} {s s' : State} {c : Config}
    {env : Environment} {log : List Event} {r : Except EvalError Unit}
    (hscope : isSaved scope = true) (hkeeps : PutKeeps scope s.config s.machine.env c env)
    (hpath : s.config.path = some path)
    (h : finish scope { settle s c env with log := log } = (r, s')) :
    s'.config = c ∧ (r = .ok () ∧ c.saveTo path s.machine = (.ok (), s'.machine) ∨
      ∃ cause, r = .error (.config cause)) := by
  obtain rfl := hkeeps.environment hscope
  rw [finish, if_pos hscope] at h
  exact saveConfig_cases (hkeeps.path.trans hpath) h

theorem finish_config (scope : Scope) (s : State) : (finish scope s).2.config = s.config := by
  unfold finish
  split
  · exact saveConfig_config s
  · rfl

/-- A save changes no environment. -/
theorem finish_environment (scope : Scope) (s : State) :
    (finish scope s).2.machine.env = s.machine.env := by
  unfold finish
  split
  · obtain ⟨tree, hmachine⟩ := Config.save_machine s.config s.machine
    rw [saveConfig_apply, hmachine]
  · rfl

/-- A save succeeds, or it is what the write ends with. -/
theorem finish_result {scope : Scope} {s s' : State} {r : Except EvalError Unit}
    (h : finish scope s = (r, s')) : r = .ok () ∨ ∃ cause, r = .error (.config cause) := by
  unfold finish at h
  split at h
  · rw [saveConfig_apply] at h
    obtain ⟨rfl, -⟩ := Prod.mk.inj h
    rcases s.config.save s.machine with ⟨e | u, m⟩
    · exact .inr ⟨e, rfl⟩
    · exact .inl rfl
  · obtain ⟨rfl, -⟩ := Prod.mk.inj h
    exact .inl rfl

end CommandShell.Variable

/-! ## Registered watchers -/

namespace CommandShell.Watchers

theorem named_watch (ws : Watchers) (n name : String) (w : Watcher) :
    (ws.watch n w).named name =
      ws.named name ++ if Text.sameFold n name then [w] else [] := by
  rw [named, watch, Rows.lookup_upsert, named]
  by_cases hkey : Text.fold name = Text.fold n
  · have hsame : Text.sameFold n name = true := Text.sameFold_iff.mpr hkey.symm
    rw [if_pos hkey, if_pos hsame, hkey]
    cases ws.lookup (Text.fold n) <;> rfl
  · have hother : ¬ Text.sameFold n name = true := fun h => hkey (Text.sameFold_iff.mp h).symm
    rw [if_neg hkey, if_neg hother, List.append_nil]

/-- **The watchers of a name are those registered under it**, in any case and in the order of their
registration. -/
theorem named_ofList (registered : List (String × Watcher)) (name : String) :
    (ofList registered).named name =
      (registered.filter fun w => Text.sameFold w.1 name).map (·.2) := by
  suffices ∀ ws : Watchers, named (registered.foldl (fun ws w => ws.watch w.1 w.2) ws) name =
      ws.named name ++ (registered.filter fun w => Text.sameFold w.1 name).map (·.2) from
    (this []).trans (List.nil_append _)
  induction registered with
  | nil => exact fun ws => (List.append_nil _).symm
  | cons w registered ih =>
    intro ws
    rw [List.foldl_cons, ih, named_watch, List.append_assoc, List.filter_cons]
    by_cases hsame : Text.sameFold w.1 name = true
    · rw [if_pos hsame, if_pos hsame, List.map_cons, List.singleton_append]
    · rw [if_neg hsame, if_neg hsame, List.nil_append]

end CommandShell.Watchers

namespace CommandShell.Variable

/-! ## How writes end -/

/-- A watcher takes a write back. -/
def reverts (watchers : Watchers) (scope : Scope) (name value : String) (s : State) : Bool :=
  (watchers.ask ⟨scope, name, current? s.config s.machine.env scope name, value, false⟩).2

/-- The log of a write that was put: the new value, and what the watchers were asked. -/
def logOf (watchers : Watchers) (scope : Scope) (name value : String) (s : State) : List Event :=
  s.log ++ [.assigned scope name value] ++
    (watchers.ask
      ⟨scope, name, current? s.config s.machine.env scope name, value, false⟩).1.map .watched

/-- **What a write does**, step by step. -/
theorem set_apply (watchers : Watchers) (scope : Scope) (name value : String) (s : State) :
    set watchers scope name value s =
      match check scope name value, put s.config s.machine.env scope name (some value) with
      | .error e, _ => (.error e, s)
      | .ok (), .error e => (.error e, s)
      | .ok (), .ok (c, env) =>
        if reverts watchers scope name value s then
          match put c env scope name (current? s.config s.machine.env scope name) with
          | .error e => (.error e, { settle s c env with log := logOf watchers scope name value s })
          | .ok (c', env') =>
            finish scope { settle s c' env' with log := logOf watchers scope name value s }
        else finish scope { settle s c env with log := logOf watchers scope name value s } := by
  rcases hcheck : check scope name value with e | u
  · simp only [set, Action.bind_apply, Action.lift, hcheck]
  rcases hput : put s.config s.machine.env scope name (some value) with e | ⟨c, env⟩
  · simp only [set, Action.bind_apply, Action.lift, hcheck, Action.get, write_of_error hput]
  simp only [set, Action.bind_apply, Action.lift, hcheck, Action.get, write_of_ok hput, Eval.record,
    Eval.recordAll, Action.modify]
  split
  · rename_i hrevert
    rw [if_pos (show reverts watchers scope name value s = true from hrevert)]
    rcases hback : put c env scope name (current? s.config s.machine.env scope name) with
      e | ⟨c', env'⟩
    · exact Action.bind_of_error (write_of_error hback)
    · exact Action.bind_of_ok (write_of_ok hback)
  · rename_i hkeep
    rw [if_neg (show ¬ reverts watchers scope name value s = true from hkeep)]
    rfl

/-- How a write ends, with what it leaves behind. -/
inductive Ends (watchers : Watchers) (scope : Scope) (name value : String) (s : State) :
    Except EvalError Unit → State → Prop where
  /-- The scope cannot hold the name or the value. -/
  | barred {e : EvalError} (h : check scope name value = .error e) :
    Ends watchers scope name value s (.error e) s
  /-- No setting has the name, or it does not take the value. -/
  | refused {e : EvalError} (h : put s.config s.machine.env scope name (some value) = .error e) :
    Ends watchers scope name value s (.error e) s
  /-- A watcher takes the write back, but the old value is not taken. -/
  | stuck {c : Config} {env : Environment} {e : EvalError} {log : List Event}
    (hput : put s.config s.machine.env scope name (some value) = .ok (c, env))
    (hrevert : reverts watchers scope name value s = true)
    (hback : put c env scope name (current? s.config s.machine.env scope name) = .error e) :
    Ends watchers scope name value s (.error e) { settle s c env with log := log }
  /-- A watcher takes the write back, and the old value is put. -/
  | reverted {c c' : Config} {env env' : Environment} {log : List Event}
    {r : Except EvalError Unit} {s' : State}
    (hput : put s.config s.machine.env scope name (some value) = .ok (c, env))
    (hrevert : reverts watchers scope name value s = true)
    (hback : put c env scope name (current? s.config s.machine.env scope name) = .ok (c', env'))
    (hfinish : finish scope { settle s c' env' with log := log } = (r, s')) :
    Ends watchers scope name value s r s'
  /-- The new value stays. -/
  | kept {c : Config} {env : Environment} {log : List Event} {r : Except EvalError Unit} {s' : State}
    (hput : put s.config s.machine.env scope name (some value) = .ok (c, env))
    (hrevert : reverts watchers scope name value s = false)
    (hfinish : finish scope { settle s c env with log := log } = (r, s')) :
    Ends watchers scope name value s r s'

section Set

variable {watchers : Watchers} {scope : Scope} {name value : String} {s s' : State}
  {r : Except EvalError Unit}

/-- **How a write ends.** -/
theorem set_ends (h : set watchers scope name value s = (r, s')) :
    Ends watchers scope name value s r s' := by
  rw [set_apply] at h
  split at h
  · cases h
    exact .barred ‹_›
  · cases h
    exact .refused ‹_›
  · split at h
    · split at h
      · cases h
        exact .stuck ‹_› ‹_› ‹_›
      · exact .reverted ‹_› ‹_› ‹_› h
    · exact .kept ‹_› (eq_false_of_ne_true ‹_›) h

/-- **How a write ends, in short**: refused with nothing changed; stuck, when the old value is refused;
or with the new value or the old one put, and saved if the scope is. -/
theorem set_cases (h : set watchers scope name value s = (r, s')) :
    (∃ e, r = .error e ∧ s' = s) ∨
    (∃ c env e, put s.config s.machine.env scope name (some value) = .ok (c, env) ∧
      put c env scope name (current? s.config s.machine.env scope name) = .error e ∧
      r = .error e ∧ s'.config = c) ∨
    ∃ c env log, PutKeeps scope s.config s.machine.env c env ∧
      finish scope { settle s c env with log := log } = (r, s') := by
  cases set_ends h with
  | barred | refused => exact .inl ⟨_, rfl, rfl⟩
  | stuck hput hrevert hback => exact .inr (.inl ⟨_, _, _, hput, hback, rfl, rfl⟩)
  | reverted hput hrevert hback hfinish =>
    exact .inr (.inr ⟨_, _, _, (put_keeps hput).trans (put_keeps hback), hfinish⟩)
  | kept hput hrevert hfinish => exact .inr (.inr ⟨_, _, _, put_keeps hput, hfinish⟩)

end Set

end CommandShell.Variable
