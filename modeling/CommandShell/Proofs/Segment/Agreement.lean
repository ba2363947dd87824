import CommandShell.Proofs.Segment.Saving
import Mathlib.Control.Monad.Basic

/-!
# Memory and the configuration file agree

Every change to what is saved is saved at once, so the file behind a configuration gives back the
settings and the persistent variables that are in memory, whatever a line does and however it ends.
Only what writes to that file from elsewhere, and a save that fails, can part the two.

* `Restores`     : a path gives back what is in memory;
* `Agrees`       : the file behind the configuration gives back what is in memory;
* `Undisturbed`  : a step leaves the file, and the way to it, to the configuration, and saves if it has
  to;
* `Agrees.step`  : such a step keeps the agreement;
* `eval_agrees`  : evaluation by such steps keeps it.
-/

namespace CommandShell

/-- A path that is loaded from a directory gives back the settings and the persistent variables that
are in memory. -/
def Restores (dir : Place) (path : String) (s : State) : Prop :=
  ∃ c, (Config.load path { s.machine with cwd := dir }).1 = .ok c ∧
    c.settings = s.config.settings ∧ c.persistent = s.config.persistent

/-- The file behind the configuration, as its path is followed from a directory, gives back what is in
memory. -/
structure Agrees (dir : Place) (path : String) (s : State) : Prop where
  /-- The path backs the configuration. -/
  backed : s.config.path = some path
  /-- It leads to a file that may be read: to no directory and no device. -/
  regular : ∃ p content, s.machine.tree.stat dir path = .ok (p, .file content)
  /-- They are loaded as what is in memory. -/
  restores : Restores dir path s
  /-- The default scope is not set or names a scope. -/
  known : s.config.settings.HasKnownScope

/-- Loading a file that holds the document of the configuration. -/
theorem restores_of_stat {dir p : Place} {path : String} {s : State}
    (h : s.machine.tree.stat dir path = .ok (p, .file (Utf8.encode s.config.toDocument))) :
    Restores dir path s := by
  rw [Restores, Config.load_of_stat (m := { s.machine with cwd := dir }) h,
    Config.ofEntry_toDocument]
  exact ⟨_, rfl, rfl, rfl⟩

namespace Agrees

variable {dir : Place} {path : String} {s s' : State}

/-- What is saved stays in memory and in the file. -/
theorem kept {dir' : Place} (hs : Agrees dir path s) (hpath : s'.config.path = s.config.path)
    (hsettings : s'.config.settings = s.config.settings)
    (hpersistent : s'.config.persistent = s.config.persistent)
    (hstat : s'.machine.tree.stat dir' path = s.machine.tree.stat dir path) :
    Agrees dir' path s' := by
  obtain ⟨p, content, hfile⟩ := hs.regular
  obtain ⟨c, hload, hsame⟩ := hs.restores
  rw [Config.load_of_stat (m := { s.machine with cwd := dir }) hfile] at hload
  rw [← hstat] at hfile
  refine ⟨hpath.trans hs.backed, ⟨p, content, hfile⟩, ⟨c, ?_, ?_⟩, ?_⟩
  · rw [Config.load_of_stat (m := { s'.machine with cwd := dir' }) hfile, hload]
  · rw [hsettings, hpersistent]; exact hsame
  · rw [hsettings]; exact hs.known

/-- An absolute path is followed alike from every directory. -/
theorem of_absolute (hs : Agrees dir path s) (h : Path.isAbsolute path = true) (dir' : Place) :
    Agrees dir' path s :=
  hs.kept rfl rfl rfl (FileTree.stat_eq (.inl h) _)

/-- The log plays no part. -/
theorem withLog (hs : Agrees dir path s) (log : List Event) : Agrees dir path { s with log := log } :=
  hs.kept rfl rfl rfl rfl

/-- What is in memory was saved, and the path was followed as from the directory. -/
theorem saved (hs : Agrees dir path s) (hpath : s'.config.path = some path)
    (hknown : s'.config.settings.HasKnownScope)
    (hfrom : Path.isAbsolute path = true ∨ s.machine.cwd = dir)
    (hsave : s'.config.saveTo path s.machine = (.ok (), s'.machine)) : Agrees dir path s' := by
  obtain ⟨p, content, hfile⟩ := hs.regular
  have hplain : s.machine.tree.IsPlainFile s.machine.cwd path := by
    obtain ⟨-, -, -, -, -, hentry⟩ := (FileTree.stat_file_iff rfl).mp hfile
    rw [FileTree.IsPlainFile, FileTree.place_eq hfrom, ← FileTree.stat_place rfl hfile, hentry]
    rfl
  have hstat := Config.stat_saveTo_plain hsave hplain
  have hcwd : s'.machine.cwd = s.machine.cwd := by
    obtain ⟨tree, -, -, hmachine⟩ := Config.saveTo_ok hsave
    rw [hmachine]
  rw [hcwd, FileTree.stat_eq hfrom] at hstat
  exact ⟨hpath, ⟨_, _, hstat⟩, restores_of_stat hstat, hknown⟩

end Agrees

/-! ## Steps -/

/-- A deed leaves to the configuration what a path leads to: a redirection goes elsewhere, and after a
program the path leads to the same as before, so that the directories on its way have stayed as well. -/
def Deed.Spares (ctx : Context) (dir : Place) (path : String) (before after : State) : Deed → Prop
  | run name _ _ _ => Segment.enabled? ctx before.config name = none →
    after.machine.tree.stat dir path = before.machine.tree.stat dir path
  | write _ device _ => Device.classify device = .file →
    before.machine.tree.writePlace before.machine.cwd device ≠ .ok (FileTree.place dir path)
  | assign _ _ _ _ => True

instance (ctx : Context) (dir : Place) (path : String) (before after : State) (d : Deed) :
    Decidable (d.Spares ctx dir path before after) :=
  match d with
  | .run name _ _ _ => inferInstanceAs (Decidable (Segment.enabled? ctx before.config name = none →
      after.machine.tree.stat dir path = before.machine.tree.stat dir path))
  | .write _ device _ => inferInstanceAs (Decidable (Device.classify device = .file →
      before.machine.tree.writePlace before.machine.cwd device ≠ .ok (FileTree.place dir path)))
  | .assign _ _ _ _ => isTrue trivial

/-- The configuration could not be saved. -/
def Effect.saveFailed (e : Effect) : Bool :=
  match e.result with
  | .error (.config _) => true
  | _ => false

/-- A step that leaves to the configuration what a path leads to, and saves if it has to. -/
structure Undisturbed (ctx : Context) (dir : Place) (path : String) (x : State × Effect) : Prop where
  saves : x.2.saveFailed = false
  spares : x.2.deed.Spares ctx dir path x.1 x.2.after

instance (ctx : Context) (dir : Place) (path : String) (x : State × Effect) :
    Decidable (Undisturbed ctx dir path x) :=
  decidable_of_iff (x.2.saveFailed = false ∧ x.2.deed.Spares ctx dir path x.1 x.2.after)
    ⟨fun h => ⟨h.1, h.2⟩, fun h => ⟨h.saves, h.spares⟩⟩

theorem Undisturbed.result_ne {ctx : Context} {dir : Place} {path : String} {x : State × Effect}
    (h : Undisturbed ctx dir path x) (cause : ConfigError) : x.2.result ≠ .error (.config cause) := by
  intro herror
  have hsaves := h.saves
  rw [Effect.saveFailed, herror] at hsaves
  cases hsaves

section Perform

variable {ctx : Context} {dir : Place} {path : String} {s s' : State} {r : Except EvalError Outcome}

/-- A redirection that goes elsewhere. -/
theorem Agrees.write (hs : Agrees dir path s) {mode : RedirectMode} {device : String} {value : Value}
    (h : (Deed.write mode device value).perform ctx s = (r, s'))
    (helsewhere : Device.classify device = .file →
      s.machine.tree.writePlace s.machine.cwd device ≠ .ok (FileTree.place dir path)) :
    Agrees dir path s' := by
  obtain ⟨hconfig, htree⟩ := Deed.perform_write h
  refine hs.kept (by rw [hconfig]) (by rw [hconfig]) (by rw [hconfig]) ?_
  rcases htree with htree | ⟨hclass, q, content, hplace, htree⟩
  · rw [htree]
  · obtain ⟨p, old, hfile⟩ := hs.regular
    have hne : q ≠ p := by
      rintro rfl
      exact helsewhere hclass (FileTree.stat_place rfl hfile ▸ hplace)
    rw [htree, hfile, FileTree.stat_write_elsewhere rfl hfile hplace hne]

/-- A built-in command. -/
theorem Agrees.runBuiltin (hs : Agrees dir path s) {name : String} {args : List String}
    {input : Value} {capture : Bool} {b : Builtin}
    (hb : Segment.enabled? ctx s.config name = some b)
    (hfrom : b = .resetConfig → (∃ o, r = .ok o) →
      Path.isAbsolute path = true ∨ s.machine.cwd = dir)
    (h : (Deed.run name args input capture).perform ctx s = (r, s'))
    (hsaves : ∀ cause, r ≠ .error (.config cause)) : Agrees dir path s' := by
  obtain ⟨log, hresult, rfl⟩ := Deed.perform_run_builtin hb h
  by_cases hreset : b = .resetConfig
  · subst hreset
    obtain ⟨hconfig, ⟨⟨o, hok⟩, hsaved⟩ | ⟨cause, herror⟩⟩ :=
      Builtin.runResetConfig_cases hs.backed (Prod.eta (Builtin.runResetConfig s)).symm
    · have hpath : (Builtin.runResetConfig s).2.config.path = some path := by
        rw [hconfig]; exact hs.backed
      have hknown : (Builtin.runResetConfig s).2.config.settings.HasKnownScope := by
        rw [hconfig]; exact nofun
      rw [← hconfig] at hsaved
      exact hs.saved hpath hknown (hfrom rfl ⟨o, hresult.trans hok⟩) hsaved
    · exact absurd (hresult.trans herror) (hsaves cause)
  · obtain ⟨hconfig, htree⟩ := Builtin.run_leaves hreset args input s
    exact hs.kept (congrArg Config.path hconfig) (congrArg Config.settings hconfig)
      (congrArg Config.persistent hconfig) (congrArg (·.stat dir path) htree)

/-- A write to a variable: a change to a saved scope is saved, and the old value is never
refused. -/
theorem Agrees.assign (hs : Agrees dir path s) {scope : Scope} {name : String} {input : Value}
    {capture : Bool} (h : (Deed.assign scope name input capture).perform ctx s = (r, s'))
    (hfrom : Variable.isSaved scope = true → (∃ o, r = .ok o) →
      Path.isAbsolute path = true ∨ s.machine.cwd = dir)
    (hsaves : ∀ cause, r ≠ .error (.config cause)) : Agrees dir path s' := by
  obtain ⟨r', hset, hresult⟩ := Deed.perform_assign h
  have hsaves' : ∀ cause, r' ≠ .error (.config cause) := by
    rintro cause rfl
    obtain ⟨o, -, hok⟩ | ⟨e, hr, herror⟩ := hresult
    · cases hok
    · cases herror; exact hsaves cause hr
  have hdone : r' = .ok () → ∃ o, r = .ok o := by
    rintro rfl
    obtain ⟨o, hr, -⟩ | ⟨e, -, herror⟩ := hresult
    · exact ⟨o, hr⟩
    · cases herror
  rcases Variable.set_cases hset with ⟨e, -, rfl⟩ | ⟨c, env, e, hput, hback, -, -⟩ |
    ⟨c, env, log, hkeeps, hfinish⟩
  · exact hs
  · obtain ⟨back, hok⟩ := Variable.put_current (fun _ _ => hs.known) hput
    rw [hok] at hback
    cases hback
  · cases hscope : Variable.isSaved scope with
    | true =>
      obtain ⟨rfl, ⟨hok, hsaved⟩ | ⟨cause, herror⟩⟩ :=
        Variable.finish_cases hscope hkeeps hs.backed hfinish
      · exact hs.saved (hkeeps.path.trans hs.backed) (hkeeps.known hs.known)
          (hfrom hscope (hdone hok)) hsaved
      · exact absurd herror (hsaves' cause)
    | false =>
      rw [Variable.finish, hscope] at hfinish
      cases hfinish
      obtain ⟨hsettings, hpersistent⟩ := hkeeps.saved hscope
      exact hs.kept hkeeps.path hsettings hpersistent rfl

end Perform

/-- **A step that leaves the file to the configuration keeps the agreement**, if it saves where the
path leads from the directory. -/
theorem Agrees.step {ctx : Context} {dir : Place} {path : String} {x : State × Effect}
    (hs : Agrees dir path x.1) (hx : Undisturbed ctx dir path x)
    (hfrom : Saved ctx x → Path.isAbsolute path = true ∨ x.1.machine.cwd = dir)
    (hperformed : Performed ctx x) : Agrees dir path x.2.after := by
  obtain ⟨log, hdone⟩ := hperformed
  have hlog := hs.withLog log
  have hspares := hx.spares
  cases hdeed : x.2.deed with
  | write mode device value =>
    rw [hdeed] at hdone hspares
    exact hlog.write hdone hspares
  | assign scope name input capture =>
    rw [Saved, hdeed] at hfrom
    rw [hdeed] at hdone
    exact hlog.assign hdone (fun hscope hok => hfrom ⟨hscope, hok⟩) hx.result_ne
  | run name args input capture =>
    rw [Saved, hdeed] at hfrom
    rw [hdeed] at hdone hspares
    cases hb : Segment.enabled? ctx x.1.config name with
    | some b =>
      refine hlog.runBuiltin hb (fun hreset hok => ?_) hdone hx.result_ne
      subst hreset
      exact hfrom ⟨hb, hok⟩
    | none =>
      have hconfig := Deed.perform_run_program (s := { x.1 with log := log }) hb hdone
      exact hs.kept (congrArg Config.path hconfig) (congrArg Config.settings hconfig)
        (congrArg Config.persistent hconfig) (hspares hb)

/-! ## Evaluation -/

/-- **Evaluation keeps memory and the configuration file in agreement**, with an outcome as well as
with an error: whatever the segment, its input and the watchers are, if no save fails, no redirection
goes to the file and no program changes what the path leads to, then the file still gives back what is in
memory. -/
theorem eval_agrees (ctx : Context) (t : Segment) (input : Value) (capture : Bool) {path : String}
    {s : State} (habsolute : Path.isAbsolute path = true) (hs : Agrees s.machine.cwd path s)
    (hrun : ∀ x ∈ stepsFrom s (t.traced ctx 0 input capture (s, [])).2.2,
      Undisturbed ctx s.machine.cwd path x) :
    Agrees (t.eval ctx input capture s).2.machine.cwd path (t.eval ctx input capture s).2 := by
  obtain ⟨es, htrace, hreplay⟩ := Segment.traced_follows ctx 0 t input capture s []
  rw [htrace, List.nil_append] at hrun
  -- The working directory may change on the way, so the file is followed from the first one.
  have hend : Agrees s.machine.cwd path (t.eval ctx input capture s).2 := by
    refine (hreplay.keeps (I := Agrees s.machine.cwd path)
      (P := Undisturbed ctx s.machine.cwd path) ?_ ?_ hs hrun).1
    · exact fun s log hs => hs.withLog log
    · exact fun x hs hx hperformed => hs.step hx (fun _ => .inl habsolute) hperformed
  exact hend.of_absolute habsolute _

/-- The built-in commands and nothing else. -/
def plainContext : Context := ⟨Builtin.all, fun _ => none, [], false⟩

/-- A session on a tree, with the defaults in memory and a file behind them. -/
def freshState (path : String) (tree : FileTree) : State :=
  { config := { path := some path }, machine := ⟨tree, [], [], none, []⟩, log := [] }

/-- A line that sets a persistent variable, writes a file and ends with an error. -/
def settingLine : Segment :=
  .sequence (.pipe (.text "1") (.reference (some "persistent") "x"))
    (.sequence (.redirect (.text "y") (.text "/notes") .stdOut) (.bare (.text "exit")) false) false

/-- A file that holds the defaults. -/
def defaultsTree : FileTree :=
  ⟨[(["lumi.toml"], .file (Utf8.encode (Config.toDocument {})))]⟩

theorem agrees_defaultsTree : Agrees [] "/lumi.toml" (freshState "/lumi.toml" defaultsTree) := by
  have hstat : (freshState "/lumi.toml" defaultsTree).machine.tree.stat [] "/lumi.toml" =
      .ok (["lumi.toml"], .file (Utf8.encode
        (freshState "/lumi.toml" defaultsTree).config.toDocument)) :=
    (FileTree.stat_file_iff rfl).mpr
      ⟨[], "lumi.toml", by decide +kernel, by decide +kernel, rfl, rfl⟩
  exact ⟨rfl, ⟨_, _, hstat⟩, restores_of_stat hstat, nofun⟩

theorem eval_agrees_setting :
    Agrees [] "/lumi.toml" (freshState "/lumi.toml" defaultsTree) ∧
      Agrees (settingLine.eval plainContext .absent false
          (freshState "/lumi.toml" defaultsTree)).2.machine.cwd "/lumi.toml"
        (settingLine.eval plainContext .absent false (freshState "/lumi.toml" defaultsTree)).2 :=
  ⟨agrees_defaultsTree,
    eval_agrees plainContext settingLine .absent false (by decide) agrees_defaultsTree
      (by decide +kernel)⟩

/-- The null device. -/
def nullTree : FileTree := ⟨[(["dev"], .directory), (["dev", "null"], .null)]⟩

/-- **The null device gives nothing back.** It is loaded as the defaults and takes every save, and
then memory holds a variable that it does not give back. -/
theorem eval_null_device :
    (freshState "/dev/null" nullTree).config.settings.HasKnownScope ∧
      (Config.load "/dev/null" (freshState "/dev/null" nullTree).machine).1 =
        .ok (freshState "/dev/null" nullTree).config ∧
      (∀ x ∈ stepsFrom (freshState "/dev/null" nullTree)
          (settingLine.traced plainContext 0 .absent false
            (freshState "/dev/null" nullTree, [])).2.2,
        Undisturbed plainContext [] "/dev/null" x) ∧
      (settingLine.eval plainContext .absent false
        (freshState "/dev/null" nullTree)).2.config.persistent.entries = [("x", "1")] ∧
      (Config.load "/dev/null" (settingLine.eval plainContext .absent false
          (freshState "/dev/null" nullTree)).2.machine).1 =
        .ok (freshState "/dev/null" nullTree).config :=
  ⟨nofun, by decide +kernel, by decide +kernel, by decide +kernel, by decide +kernel⟩

end CommandShell
