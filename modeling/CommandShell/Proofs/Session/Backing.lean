import CommandShell.Proofs.Segment.Agreement
import CommandShell.Proofs.Session.Run

/-!
# The file behind a session

A session keeps the path that its configuration was loaded from, and follows it anew at each save.  An
absolute path leads to the file that was loaded from every working directory; a relative one does so
from the directory of the load.

* `Session.start`          : the state that a session starts with;
* `Session.steps_backed`   : the path stays behind the configuration all along;
* `SavedAt`                : a step wrote its configuration to a place;
* `Session.saves_where_path_leads` : where a session saves, and when a fresh load finds what it saved;
* `Session.saves_elsewhere` : a save that the fresh load does not find.
-/

namespace CommandShell

/-- A step has written its configuration to a place. New directories apart, that is all it has done
to the machine. -/
def SavedAt (p : Place) (x : State × Effect) : Prop :=
  ∃ tree, FileTree.Adds x.1.machine.tree tree ∧
    x.2.after.machine =
      { x.1.machine with tree := tree.putFile p (Utf8.encode x.2.after.config.toDocument) }

namespace Session

variable {ctx : Context} {options : Options} {path : String} {m m₀ : Machine} {c : Config}

/-- The state that a session starts with. -/
def start (c : Config) (m : Machine) : State := ⟨prepare c, m, []⟩

/-- **The path stays behind the configuration all along**, and every step was done. -/
theorem steps_backed (lines : List String) {s : State} (h : s.config.path = some path) :
    ∀ x ∈ steps ctx options lines s, x.1.config.path = some path ∧ Performed ctx x := by
  refine (after_keeps (I := fun s => s.config.path = some path) (P := fun _ => True)
    (fun _ _ h => h) ?_ lines h fun _ _ => trivial).2
  rintro x hx - ⟨log, hdone⟩
  exact (Deed.perform_path hdone).trans hx

/-- A session starts in agreement with the file that was loaded, if that holds bytes. -/
theorem agrees_start (hload : Config.load path m = (.ok c, m₀)) (hknown : c.settings.HasKnownScope)
    (hfile : ∃ p content, m₀.tree.stat m.cwd path = .ok (p, .file content)) :
    Agrees m.cwd path (start c m₀) := by
  obtain ⟨p, content, hstat⟩ := hfile
  have hagain := Config.load_of_load hload hstat
  have hhere : { m₀ with cwd := m.cwd } = m₀ := by rw [← Config.load_cwd hload]
  refine ⟨(Config.load_cases hload).1, ⟨p, content, hstat⟩, ⟨c, ?_, rfl, rfl⟩, hknown⟩
  show (Config.load path { m₀ with cwd := m.cwd }).1 = .ok c
  rw [hhere, hagain]

/-- A step that saved went to the place that the path led to at that moment. -/
theorem savedAt_place {x : State × Effect} (hpath : x.1.config.path = some path)
    (hdone : Performed ctx x) (hsaved : Saved ctx x) :
    SavedAt (FileTree.place x.1.machine.cwd path) x := by
  obtain ⟨tree, hadds, -, hafter⟩ := Config.saveTo_ok (hdone.saveTo hpath hsaved)
  exact ⟨tree, hadds, hafter⟩

/-- What was saved is found from a directory that the path is followed alike from. -/
theorem restores_saved {x : State × Effect} {dir : Place} (hpath : x.1.config.path = some path)
    (hdone : Performed ctx x) (hsaved : Saved ctx x)
    (hfrom : Path.isAbsolute path = true ∨ x.1.machine.cwd = dir)
    (hplain : x.1.machine.tree.IsPlainFile dir path) : Restores dir path x.2.after := by
  rw [FileTree.IsPlainFile, ← FileTree.place_eq hfrom] at hplain
  have hsave := hdone.saveTo hpath hsaved
  have hstat := Config.stat_saveTo_plain hsave hplain
  have hcwd : x.2.after.machine.cwd = x.1.machine.cwd := by
    obtain ⟨tree, -, -, hmachine⟩ := Config.saveTo_ok hsave
    rw [hmachine]
  rw [hcwd, FileTree.stat_eq hfrom] at hstat
  exact restores_of_stat hstat

/-- **A session saves where its path leads at that moment.** Take a configuration that was loaded from a
path, and any lines.
* What was loaded is the file that the path leads to from the working directory of the load.
* Each save goes to the place that the path leads to from the working directory of the save. For a
  path without `.` and `..` that is the file that was loaded exactly if the path is absolute or the
  working directory is the same. Then a fresh load from the first directory finds what was saved, if
  the file is one that may be read and keeps what is written.
* So it does at the end of the session, if all saves went there, none failed and nothing else changed
  what the path leads to. -/
theorem saves_where_path_leads (ctx : Context) (options : Options) (lines : List String)
    {path : String} {m m₀ : Machine} {c : Config} (hload : Config.load path m = (.ok c, m₀)) :
    (∃ e, e.isDirectory = false ∧ m₀.tree.stat m.cwd path = .ok (FileTree.place m.cwd path, e)) ∧
    (∀ x ∈ steps ctx options lines (start c m₀), Saved ctx x →
      SavedAt (FileTree.place x.1.machine.cwd path) x ∧
      ((∀ n ∈ FileTree.namesOf path, n ≠ "." ∧ n ≠ "..") →
        (FileTree.place x.1.machine.cwd path = FileTree.place m.cwd path ↔
          Path.isAbsolute path = true ∨ x.1.machine.cwd = m.cwd)) ∧
      (Path.isAbsolute path = true ∨ x.1.machine.cwd = m.cwd →
        SavedAt (FileTree.place m.cwd path) x ∧
        (x.1.machine.tree.IsPlainFile m.cwd path → Restores m.cwd path x.2.after))) ∧
    ((∃ p content, m₀.tree.stat m.cwd path = .ok (p, .file content)) →
      c.settings.HasKnownScope →
      (∀ x ∈ steps ctx options lines (start c m₀), Undisturbed ctx m.cwd path x ∧
        (Saved ctx x → Path.isAbsolute path = true ∨ x.1.machine.cwd = m.cwd)) →
      Restores m.cwd path (after ctx options lines (start c m₀))) := by
  refine ⟨Config.stat_of_load hload, ?_, ?_⟩
  · intro x hx hsaved
    have hbacked : (start c m₀).config.path = some path := (Config.load_cases hload).1
    obtain ⟨hpath, hdone⟩ := steps_backed lines hbacked x hx
    have hat := savedAt_place hpath hdone hsaved
    refine ⟨hat, FileTree.place_eq_iff, fun hfrom => ⟨?_, ?_⟩⟩
    · rw [← FileTree.place_eq hfrom]; exact hat
    · exact restores_saved hpath hdone hsaved hfrom
  · intro hfile hknown hsteps
    have hend := after_keeps (I := Agrees m.cwd path) (fun _ log hs => hs.withLog log)
      (fun _ hs hx hdone => hs.step hx.1 hx.2 hdone) lines
      (agrees_start hload hknown hfile) hsteps
    exact hend.1.restores

/-- An empty configuration file beside a directory. -/
def besideTree : FileTree := ⟨[(["lumi.toml"], .file []), (["sub"], .directory)]⟩

/-- A machine on that tree, at its root. -/
def besideMachine : Machine := ⟨besideTree, [], [], none, []⟩

/-- Goes into the directory, sets a persistent variable there and comes back. -/
def roundTrip : List String := ["cd sub", "echo 1 | $persistent:x", "cd .."]

theorem saves_where_path_leads_absolute :
    Config.load "/lumi.toml" besideMachine = (.ok { path := some "/lumi.toml" }, besideMachine) ∧
      (after plainContext {} roundTrip
        (start { path := some "/lumi.toml" } besideMachine)).config.persistent.entries =
          [("x", "1")] ∧
      Restores [] "/lumi.toml" (after plainContext {} roundTrip
        (start { path := some "/lumi.toml" } besideMachine)) := by
  have hload : Config.load "/lumi.toml" besideMachine =
      (.ok { path := some "/lumi.toml" }, besideMachine) := by decide +kernel
  have hstat : besideMachine.tree.stat besideMachine.cwd "/lumi.toml" =
      .ok (["lumi.toml"], .file []) := by decide +kernel
  have hsteps : ∀ x ∈ steps plainContext {} roundTrip
      (start { path := some "/lumi.toml" } besideMachine),
      Undisturbed plainContext [] "/lumi.toml" x := by decide +kernel
  exact ⟨hload, by decide +kernel, (saves_where_path_leads plainContext {} roundTrip hload).2.2
    ⟨_, _, hstat⟩ nofun fun x hx => ⟨hsteps x hx, fun _ => .inl (by decide)⟩⟩

/-- The state behind those lines for a path that is relative. -/
def strayed : State :=
  after plainContext {} roundTrip (start { path := some "lumi.toml" } besideMachine)

/-- **A relative path does not hold a session to the file that was loaded.** Every step of the lines
succeeds and memory holds the variable, but a fresh load from the first directory gives the defaults. -/
theorem saves_elsewhere :
    Config.load "lumi.toml" besideMachine = (.ok { path := some "lumi.toml" }, besideMachine) ∧
      (∀ x ∈ steps plainContext {} roundTrip (start { path := some "lumi.toml" } besideMachine),
        x.2.result.isOk = true) ∧
      strayed.config.persistent.entries = [("x", "1")] ∧
      strayed.machine.cwd = besideMachine.cwd ∧
      (Config.load "lumi.toml" strayed.machine).1 = .ok { path := some "lumi.toml" } :=
  ⟨by decide +kernel, by decide +kernel, by decide +kernel, by decide +kernel, by decide +kernel⟩

end Session

end CommandShell
