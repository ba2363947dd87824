import CommandShell.Proofs.Variable.Lens

/-!
# Vetoes on settings

When a watcher votes against a write to a setting, the text that the setting was read as before is
written again.  That brings the setting back exactly if the text tells all that it held.  A file can
hold settings of which this is not true, as nothing checks them when they are loaded.

* `Watchers.poll_reverted`    : when watchers that are asked in turn take a write back;
* `Variable.reverts_iff`      : which writes are taken back;
* `Variable.set_reverted`, `Variable.set_reverted_refused` : what is left of a write that is taken
  back;
* `Variable.set_vetoed`       : a veto restores the settings exactly if the text told what was held;
* `Variable.set_vetoed_scope` : a veto that is refused.
-/

namespace CommandShell

namespace Watchers

/-- **Watchers take a write back** if one of them votes so when it is asked first. -/
theorem poll_reverted (ws : List Watcher) (c : Change) :
    (poll ws c).2 = true ↔ c.reverted = true ∨ ∃ w ∈ ws, w c = .revert := by
  induction ws generalizing c with
  | nil => simp [poll]
  | cons w ws ih =>
    have hrest : (poll (w :: ws) c).2 =
        (poll ws { c with reverted := c.reverted || w c == .revert }).2 := rfl
    rw [hrest, ih, List.exists_mem_cons_iff]
    by_cases hvote : c.reverted = true ∨ w c = .revert
    · rcases hvote with hold | hnew
      · simp [hold]
      · simp [hnew]
    · -- The next watcher is asked about the same change.
      obtain ⟨hold, hnew⟩ := not_or.mp hvote
      have hsame : { c with reverted := c.reverted || w c == .revert } = c := by
        have hflag : (w c == .revert) = false := by simpa using hnew
        rw [hflag, Bool.or_false]
      rw [hsame]
      simp [hold, hnew]

end Watchers

namespace Variable

variable {watchers : Watchers} {scope : Scope} {name value : String} {p : Property} {s : State}
  {settings back : Settings}

theorem reverts_iff {registered : List (String × Watcher)} :
    reverts (.ofList registered) scope name value s = true ↔
      ∃ w ∈ registered, Text.fold w.1 = Text.fold name ∧
        w.2 ⟨scope, name, current? s.config s.machine.env scope name, value, false⟩ = .revert := by
  rw [reverts, Watchers.ask, Watchers.poll_reverted, Watchers.named_ofList]
  constructor
  · rintro (hold | ⟨vote, hvote, hrevert⟩)
    · cases hold
    · obtain ⟨w, hw, rfl⟩ := List.mem_map.mp hvote
      obtain ⟨hmem, hfold⟩ := List.mem_filter.mp hw
      exact ⟨w, hmem, Text.sameFold_iff.mp hfold, hrevert⟩
  · rintro ⟨w, hmem, hfold, hrevert⟩
    have hw : w ∈ registered.filter fun w => Text.sameFold w.1 name :=
      List.mem_filter.mpr ⟨hmem, Text.sameFold_iff.mpr hfold⟩
    exact .inr ⟨w.2, List.mem_map.mpr ⟨w, hw, rfl⟩, hrevert⟩

theorem current?_config (hname : Property.find? name = some p) (c : Config) (env : Environment) :
    current? c env .config name = some (p.read c.settings) := by
  rw [current?, get_config hname]

/-- A second write to a setting hides the first one. -/
theorem put_config_put {c : Config} (hname : Property.find? name = some p)
    (htaken : p.write value c.settings = .ok settings) (env : Environment) (text : String) :
    put { c with settings := settings } env .config name (some text) =
      put c env .config name (some text) := by
  have hsame := Property.write_write htaken text
  cases hwrite : p.write text c.settings with
  | ok last =>
    rw [hwrite] at hsame
    rw [put_config hname hwrite, put_config (c := { c with settings := settings }) hname hsame]
  | error refusal =>
    rw [hwrite] at hsame
    rw [put_config_refused hname hwrite,
      put_config_refused (c := { c with settings := settings }) hname hsame]

/-- The text that the setting was read as is written again, and hides the write before it. -/
theorem set_reverted (hname : Property.find? name = some p)
    (htaken : p.write value s.config.settings = .ok settings)
    (hreverts : reverts watchers .config name value s = true)
    (hback : p.write (p.read s.config.settings) s.config.settings = .ok back) :
    set watchers .config name value s = finish .config { s with
      config := { s.config with settings := back }
      log := logOf watchers .config name value s } := by
  have hcheck : check .config name value = .ok () := rfl
  rw [set_apply, hcheck, put_config hname htaken]
  dsimp only
  rw [if_pos hreverts, current?_config hname, put_config_put hname htaken, put_config hname hback]
  rfl

/-- If the setting does not take that text, the new value stays. -/
theorem set_reverted_refused {refusal : Property.Refusal} (hname : Property.find? name = some p)
    (htaken : p.write value s.config.settings = .ok settings)
    (hreverts : reverts watchers .config name value s = true)
    (hback : p.write (p.read s.config.settings) s.config.settings = .error refusal) :
    set watchers .config name value s = (.error (.invalidSetting refusal), { s with
      config := { s.config with settings := settings }
      log := logOf watchers .config name value s }) := by
  have hcheck : check .config name value = .ok () := rfl
  rw [set_apply, hcheck, put_config hname htaken]
  dsimp only
  rw [if_pos hreverts, current?_config hname, put_config_put hname htaken,
    put_config_refused hname hback]
  rfl

/-- **Settings that are taken back are in place** whether they can be saved or not. -/
theorem set_reverted_ends {r : Except EvalError Unit × State}
    (hset : set watchers .config name value s = r) (hname : Property.find? name = some p)
    (htaken : p.write value s.config.settings = .ok settings)
    (hreverts : reverts watchers .config name value s = true)
    (hback : p.write (p.read s.config.settings) s.config.settings = .ok back) :
    r.2.config = { s.config with settings := back } ∧ r.2.machine.env = s.machine.env ∧
      (r.1 = .ok () ∨ ∃ cause, r.1 = .error (.config cause)) := by
  rw [set_reverted hname htaken hreverts hback] at hset
  subst hset
  exact ⟨finish_config .config _, finish_environment .config _, finish_result (Prod.eta _).symm⟩

/-- **A veto restores the settings exactly if their text told what they held.** Take any state, a
setting by one of its names, a text that it takes, and watchers of which one votes against the write.
* The write ends without a refusal and with all settings as they were exactly if the text that the
  setting was read as tells what it held: always, but for a default scope that names no scope and for
  disabled commands that are no entries of a list.
* Then the configuration and the environment are exactly as before, and the write fails only if the
  configuration cannot be saved.
* In every case the other settings are read as before, and both stores, the file behind the
  configuration and the environment are as before. -/
theorem set_vetoed {registered : List (String × Watcher)} (hname : Property.find? name = some p)
    (htaken : p.write value s.config.settings = .ok settings)
    (hveto : ∃ w ∈ registered, Text.fold w.1 = Text.fold name ∧
      w.2 ⟨.config, name, some (p.read s.config.settings), value, false⟩ = .revert) :
    let r := set (.ofList registered) .config name value s
    ((∀ refusal, r.1 ≠ .error (.invalidSetting refusal)) ∧
        r.2.config.settings = s.config.settings ↔ p.Faithful s.config.settings) ∧
      (p.Faithful s.config.settings →
        r.2.config = s.config ∧ (r.1 = .ok () ∨ ∃ cause, r.1 = .error (.config cause))) ∧
      (∀ q, q ≠ p → q.read r.2.config.settings = q.read s.config.settings) ∧
      r.2.config = { s.config with settings := r.2.config.settings } ∧
      r.2.machine.env = s.machine.env := by
  intro r
  have hset : set (.ofList registered) .config name value s = r := rfl
  clear_value r
  have hreverts : reverts (.ofList registered) .config name value s = true := by
    rw [reverts_iff, current?_config hname]
    exact hveto
  cases hback : p.write (p.read s.config.settings) s.config.settings with
  | error refusal =>
    rw [set_reverted_refused hname htaken hreverts hback] at hset
    have hunfaithful : ¬ p.Faithful s.config.settings := by
      intro hfaithful
      rw [Property.write_read_iff.mpr hfaithful] at hback
      cases hback
    subst hset
    refine ⟨⟨fun hsame => absurd rfl (hsame.1 refusal), (absurd · hunfaithful)⟩,
      (absurd · hunfaithful), ?_, rfl, rfl⟩
    intro q hq
    exact Property.read_write_of_ne htaken hq
  | ok back =>
    obtain ⟨hconfig, henv, hresult⟩ := set_reverted_ends hset hname htaken hreverts hback
    have hrefused : ∀ refusal, r.1 ≠ .error (.invalidSetting refusal) := by
      intro refusal herror
      rcases hresult with hok | ⟨cause, hcause⟩
      · rw [hok] at herror
        cases herror
      · rw [hcause] at herror
        cases herror
    have hsame : back = s.config.settings ↔ p.Faithful s.config.settings := by
      rw [← Property.write_read_iff, hback, Except.ok.injEq]
    rw [hconfig]
    refine ⟨⟨fun h => hsame.mp h.2, fun h => ⟨hrefused, hsame.mpr h⟩⟩, ?_, ?_, rfl, henv⟩
    · intro hfaithful
      rw [hsame.mpr hfaithful]
      exact ⟨rfl, hresult⟩
    · intro q hq
      exact Property.read_write_of_ne hback hq

/-- A watcher of the default scope that votes against every write. -/
def scopeGuard : List (String × Watcher) := [("defaultvariablescope", fun _ => .revert)]

/-- A machine with a configuration file. -/
def withFile (text : String) : Machine :=
  ⟨⟨[(["lumi.toml"], .file (Utf8.encode text))]⟩, [], [], none, []⟩

theorem set_vetoed_known_scope :
    let m := withFile "default_variable_scope = \"Env\"\ndisabled_commands = [\"a,b\"]\n"
    let c : Config :=
      { settings := { defaultScope := some "Env", disabledCommands := ["a,b"] }
        path := some "lumi.toml" }
    Config.load "lumi.toml" m = (.ok c, m) ∧
      (set (.ofList scopeGuard) .config "DefaultVariableScope" "tmp" ⟨c, m, []⟩).2.config = c := by
  intro m c
  have hload : Config.load "lumi.toml" m = (.ok c, m) := by decide +kernel
  have hname : Property.find? "DefaultVariableScope" = some .defaultScope :=
    Property.find?_eq_some_iff.mpr rfl
  have htaken : Property.write .defaultScope "tmp" c.settings =
      .ok { c.settings with defaultScope := some "tmp" } := by decide +kernel
  have hfaithful : Property.Faithful .defaultScope c.settings := by
    intro name hscope
    obtain rfl : "Env" = name := Option.some.inj hscope
    decide +kernel
  have hveto : ∃ w ∈ scopeGuard, Text.fold w.1 = Text.fold "DefaultVariableScope" ∧
      w.2 ⟨.config, "DefaultVariableScope", some (Property.read .defaultScope c.settings), "tmp",
        false⟩ = .revert :=
    ⟨_, List.mem_singleton.mpr rfl, by decide +kernel, rfl⟩
  have hvetoed := @set_vetoed _ _ _ ⟨c, m, []⟩ _ scopeGuard hname htaken hveto
  exact ⟨hload, (hvetoed.2.1 hfaithful).1⟩

/-- **A veto can be refused.** A scope that is not known is loaded from a file. When a watcher votes
against a new scope, the old one is not taken back: the write ends with a refusal, and the new scope
stays. -/
theorem set_vetoed_scope :
    let m := withFile "default_variable_scope = \"bogus\"\n"
    let c : Config := { settings := { defaultScope := some "bogus" }, path := some "lumi.toml" }
    Config.load "lumi.toml" m = (.ok c, m) ∧
      Property.write .defaultScope "tmp" c.settings =
        .ok { c.settings with defaultScope := some "tmp" } ∧
      (set (.ofList scopeGuard) .config "DefaultVariableScope" "tmp" ⟨c, m, []⟩).1 =
        .error (.invalidSetting ⟨.defaultScope, "bogus"⟩) ∧
      (set (.ofList scopeGuard) .config "DefaultVariableScope" "tmp" ⟨c, m, []⟩).2.config.settings.defaultScope =
        some "tmp" := by
  decide +kernel

end Variable

end CommandShell
