import CommandShell.Proofs.Variable.Access
import CommandShell.Proofs.Variable.Store

/-!
# Variables as cells

The scopes share four kinds of cells: settings, the two stores with their names up to case, and the
environment.  Each cell holds what was last written to it, whatever is written to the others.

* `Cell.of?`          : the cell of a name in a scope;
* `Cell.content`      : what a cell holds;
* `Cell.content_put`, `Cell.content_put_other` : what cells hold after a value was put;
* `Variable.content_set` : what cells hold after a write;
* `Config.Reachable`  : configurations that come from the defaults;
* `Assignment.lastKept`  : the last value that a run has written to a cell;
* `Assignment.get_after` : after a run, a cell is read as that value.
-/

namespace CommandShell

/-! ## The environment -/

namespace Environment

theorem get?_cons (m v : String) (env : Environment) (n : String) :
    get? ((m, v) :: env) n = if n = m then some v else env.get? n := by
  by_cases h : n = m
  · simp [get?, h]
  · simp [get?, List.lookup_cons, beq_false_of_ne h, h]

theorem unset_cons (m v : String) (env : Environment) (name : String) :
    unset name ((m, v) :: env) = if m = name then env.unset name else (m, v) :: env.unset name := by
  by_cases h : m = name <;> simp [unset, h]

theorem get?_set (env : Environment) (name value n : String) :
    (env.set name value).get? n = if n = name then some value else env.get? n := by
  induction env with
  | nil => rw [set, get?_cons]
  | cons e env ih =>
    obtain ⟨m, v⟩ := e
    rw [set]
    by_cases hm : m = name
    · rw [if_pos hm, get?_cons, get?_cons, hm]
      by_cases h : n = name
      · rw [if_pos h, if_pos h]
      · rw [if_neg h, if_neg h, if_neg h]
    · rw [if_neg hm, get?_cons, get?_cons, ih]
      by_cases h : n = m
      · rw [if_pos h, if_pos h, if_neg fun hn => hm (h.symm.trans hn)]
      · rw [if_neg h, if_neg h]

theorem get?_unset (env : Environment) (name n : String) :
    (env.unset name).get? n = if n = name then none else env.get? n := by
  induction env with
  | nil => simp [unset, get?]
  | cons e env ih =>
    obtain ⟨m, v⟩ := e
    rw [unset_cons, get?_cons]
    by_cases hm : m = name
    · rw [if_pos hm, ih, hm]
      by_cases h : n = name
      · rw [if_pos h, if_pos h]
      · rw [if_neg h, if_neg h, if_neg h]
    · rw [if_neg hm, get?_cons, ih]
      by_cases h : n = m
      · rw [if_pos h, if_pos h, if_neg fun hn => hm (h.symm.trans hn)]
      · rw [if_neg h, if_neg h]

end Environment

/-! ## Cells -/

/-- Where the value of a variable is kept. -/
inductive Cell where
  /-- A setting. -/
  | setting (p : Property)
  /-- A name, up to case, of the store that is saved. -/
  | persistent (key : String)
  /-- A name, up to case, of the store that ends with the session. -/
  | temporary (key : String)
  /-- A name of the environment. -/
  | environment (name : String)
  deriving DecidableEq, Repr

namespace Cell

/-- The cell of a name in a scope. No setting, and no name that the environment cannot hold, has
none. -/
def of? (scope : Scope) (name : String) : Option Cell :=
  match scope with
  | .config => (Property.find? name).map setting
  | .persistent => some (persistent (Text.fold name))
  | .temporary => some (temporary (Text.fold name))
  | .system | .user | .process =>
    if Environment.isName name then some (environment name) else none

/-- The form in which a cell keeps a text. -/
def normal : Cell → String → String
  | setting p, value => p.normal value
  | persistent _, value | temporary _, value | environment _, value => value

/-- What a cell holds. -/
def content (cell : Cell) (c : Config) (env : Environment) : Option String :=
  match cell with
  | setting p => some (p.read c.settings)
  | persistent key => c.persistent.keyed? key
  | temporary key => c.temporary.keyed? key
  | environment name => if Environment.isName name then env.get? name else none

/-- What a name is read as where its cell holds nothing. -/
def missing (scope : Scope) (name : String) : Except EvalError Value :=
  match scope with
  | .persistent | .temporary => .error (.unknownVariable scope name)
  | .config | .system | .user | .process => .ok .absent

variable {scope : Scope} {name value : String} {cell : Cell} {c c' c₁ c₂ : Config}
  {env env' env₁ env₂ : Environment}

/-- **A variable is read from its cell.** -/
theorem get_eq_content (hcell : of? scope name = some cell) (c : Config) (env : Environment) :
    Variable.get c env scope name =
      match cell.content c env with
      | some v => .ok (.scalar v)
      | none => missing scope name := by
  cases scope with
  | config =>
    obtain ⟨p, hp, rfl⟩ := Option.map_eq_some_iff.mp hcell
    simp only [Variable.get, hp, content]
  | persistent | temporary =>
    obtain rfl := Option.some.inj hcell
    simp only [Variable.get, Variable.stored, Store.get?_eq_keyed?]
    rfl
  | system | user | process =>
    simp only [of?] at hcell
    split at hcell
    · rename_i hname
      obtain rfl := Option.some.inj hcell
      simp only [Variable.get, Variable.fromEnvironment, content, hname, ↓reduceIte]
      cases env.get? name <;> rfl
    · cases hcell

theorem current?_eq_content (hcell : of? scope name = some cell) (c : Config) (env : Environment) :
    Variable.current? c env scope name = cell.content c env := by
  rw [Variable.current?, get_eq_content hcell]
  cases cell.content c env with
  | some v => rfl
  | none => cases scope <;> rfl

/-! ## Putting values into cells -/

/-- **A value that was put into a cell is there**, in its normal form. -/
theorem content_put (hcell : of? scope name = some cell)
    (h : Variable.put c env scope name (some value) = .ok (c', env')) :
    cell.content c' env' = some (cell.normal value) := by
  cases scope with
  | config =>
    obtain ⟨p, hp, rfl⟩ := Option.map_eq_some_iff.mp hcell
    simp only [Variable.put, hp] at h
    split at h
    · rename_i hwrite
      cases h
      exact congrArg some (Property.read_write hwrite)
    · cases h
  | persistent | temporary =>
    obtain rfl := Option.some.inj hcell
    cases h
    exact (Store.keyed?_insert _ name value _).trans (if_pos rfl)
  | system | user | process =>
    simp only [of?] at hcell
    split at hcell
    · rename_i hname
      obtain rfl := Option.some.inj hcell
      cases h
      rw [content, if_pos hname]
      exact (Environment.get?_set env name value name).trans (if_pos rfl)
    · cases hcell

/-- A cell that a value was taken out of is empty; settings always have a value. -/
theorem content_put_none (hcell : of? scope name = some cell) (hsetting : ∀ p, cell ≠ setting p)
    (h : Variable.put c env scope name none = .ok (c', env')) : cell.content c' env' = none := by
  cases scope with
  | config =>
    obtain ⟨p, -, rfl⟩ := Option.map_eq_some_iff.mp hcell
    exact absurd rfl (hsetting p)
  | persistent | temporary =>
    obtain rfl := Option.some.inj hcell
    cases h
    exact (Store.keyed?_erase _ name _).trans (if_pos rfl)
  | system | user | process =>
    simp only [of?] at hcell
    split at hcell
    · rename_i hname
      obtain rfl := Option.some.inj hcell
      cases h
      rw [content, if_pos hname]
      exact (Environment.get?_unset env name name).trans (if_pos rfl)
    · cases hcell

theorem keyed?_putStore_of_ne {key : String} (hkey : key ≠ Text.fold name) (value : Option String)
    (store : Store) : (Variable.putStore name value store).keyed? key = store.keyed? key := by
  cases value with
  | none => exact (Store.keyed?_erase store name key).trans (if_neg hkey)
  | some v => exact (Store.keyed?_insert store name v key).trans (if_neg hkey)

theorem get?_putEnvironment_of_ne {n : String} (hn : n ≠ name) (value : Option String)
    (env : Environment) : (Variable.putEnvironment name value env).get? n = env.get? n := by
  cases value with
  | none => exact (Environment.get?_unset env name n).trans (if_neg hn)
  | some v => exact (Environment.get?_set env name v n).trans (if_neg hn)

/-- **The other cells hold what they held**, whether a value was put or taken out. -/
theorem content_put_other {value : Option String} (hother : of? scope name ≠ some cell)
    (h : Variable.put c env scope name value = .ok (c', env')) :
    cell.content c' env' = cell.content c env := by
  cases scope with
  | config =>
    simp only [Variable.put] at h
    split at h
    · cases h; rfl
    split at h
    · cases h
    rename_i p hp
    split at h
    · rename_i hwrite
      cases h
      cases cell with
      | setting q =>
        have hne : q ≠ p := by
          rintro rfl
          exact hother (congrArg (Option.map setting) hp)
        exact congrArg some (Property.read_write_of_ne hwrite hne)
      | persistent | temporary | environment => rfl
    · cases h
  | persistent =>
    cases h
    cases cell with
    | persistent key =>
      refine keyed?_putStore_of_ne ?_ value c.persistent
      rintro rfl
      exact hother rfl
    | setting | temporary | environment => rfl
  | temporary =>
    cases h
    cases cell with
    | temporary key =>
      refine keyed?_putStore_of_ne ?_ value c.temporary
      rintro rfl
      exact hother rfl
    | setting | persistent | environment => rfl
  | system | user | process =>
    cases h
    cases cell with
    | environment n =>
      simp only [content]
      split
      · rename_i hname
        refine get?_putEnvironment_of_ne ?_ value env
        rintro rfl
        exact hother (if_pos hname)
      · rfl
    | setting | persistent | temporary => rfl

/-- Where the settings are normal, a cell holds a normal form. -/
theorem normal_content {v : String} (hc : c.settings.Normal) (h : cell.content c env = some v) :
    cell.normal v = v := by
  cases cell with
  | setting p =>
    obtain rfl := Option.some.inj h
    exact Property.normal_read hc p
  | persistent | temporary | environment => rfl

/-- **A value that is put back leaves all cells as they were.** -/
theorem content_put_back (hc : c.settings.Normal)
    (hput : Variable.put c env scope name (some value) = .ok (c₁, env₁))
    (hback : Variable.put c₁ env₁ scope name (Variable.current? c env scope name) = .ok (c₂, env₂)) :
    cell.content c₂ env₂ = cell.content c env := by
  by_cases hcell : of? scope name = some cell
  · rw [current?_eq_content hcell] at hback
    cases hold : cell.content c env with
    | some v =>
      rw [hold] at hback
      rw [content_put hcell hback, normal_content hc hold]
    | none =>
      rw [hold] at hback
      refine content_put_none hcell ?_ hback
      rintro p rfl
      cases hold
  · rw [content_put_other hcell hback, content_put_other hcell hput]

end Cell

/-! ## Writes -/

namespace Variable

variable {watchers : Watchers} {scope : Scope} {name value : String} {cell : Cell} {s s' : State}
  {r : Except EvalError Unit}

/-- What is saved at the end of a write is what the cells hold by then. -/
theorem content_finish {c : Config} {env : Environment} {log : List Event}
    (h : finish scope { settle s c env with log := log } = (r, s')) :
    cell.content s'.config s'.machine.env = cell.content c env := by
  have hconfig := finish_config scope { settle s c env with log := log }
  have henv := finish_environment scope { settle s c env with log := log }
  rw [h] at hconfig henv
  rw [hconfig, henv]
  rfl

/-- **A write leaves the other cells alone**, however it ends. -/
theorem content_set_other (hother : Cell.of? scope name ≠ some cell)
    (h : set watchers scope name value s = (r, s')) :
    cell.content s'.config s'.machine.env = cell.content s.config s.machine.env := by
  cases set_ends h with
  | barred | refused => rfl
  | stuck hput hrevert hback => exact Cell.content_put_other hother hput
  | reverted hput hrevert hback hfinish =>
    rw [content_finish hfinish, Cell.content_put_other hother hback,
      Cell.content_put_other hother hput]
  | kept hput hrevert hfinish => rw [content_finish hfinish, Cell.content_put_other hother hput]

/-- **What a write does to the cells**, if no save fails: the cell of its name holds the new value if
the write succeeds and no watcher takes it back, and all else stays as it was. -/
theorem content_set (hnormal : s.config.settings.Normal)
    (h : set watchers scope name value s = (r, s')) (hsave : ∀ cause, r ≠ .error (.config cause)) :
    cell.content s'.config s'.machine.env =
      if Cell.of? scope name = some cell ∧ r = .ok () ∧ reverts watchers scope name value s = false
      then some (cell.normal value)
      else cell.content s.config s.machine.env := by
  by_cases hcell : Cell.of? scope name = some cell
  · cases set_ends h with
    | barred | refused => simp
    | stuck hput hrevert hback =>
      obtain ⟨back, hok⟩ := put_current (fun _ _ => hnormal.known) hput
      rw [hok] at hback
      cases hback
    | reverted hput hrevert hback hfinish =>
      rw [content_finish hfinish, Cell.content_put_back hnormal hput hback, if_neg (by simp [hrevert])]
    | kept hput hrevert hfinish =>
      have hok : r = .ok () :=
        (finish_result hfinish).resolve_right fun ⟨cause, herror⟩ => hsave cause herror
      rw [content_finish hfinish, Cell.content_put hcell hput, if_pos ⟨hcell, hok, hrevert⟩]
  · rw [content_set_other hcell h, if_neg fun hall => hcell hall.1]

/-- A write leaves normal settings behind, however it ends. -/
theorem set_normal (hnormal : s.config.settings.Normal)
    (h : set watchers scope name value s = (r, s')) : s'.config.settings.Normal := by
  rcases set_cases h with ⟨e, -, rfl⟩ | ⟨c, env, e, hput, -, -, hconfig⟩ |
    ⟨c, env, log, hkeeps, hfinish⟩
  · exact hnormal
  · rw [hconfig]
    exact (put_keeps hput).normal hnormal
  · have hconfig := finish_config scope { settle s c env with log := log }
    rw [hfinish] at hconfig
    rw [hconfig]
    exact hkeeps.normal hnormal

end Variable

/-- Configurations that come from the defaults: by writes to variables, however they end, by a reset,
and with any variables in the two stores and any file behind them. -/
inductive Config.Reachable : Config → Prop where
  | defaults : Reachable {}
  | set {s : State} (h : Reachable s.config) (watchers : Watchers) (scope : Scope)
    (name value : String) : Reachable (Variable.set watchers scope name value s).2.config
  | reset {c : Config} (h : Reachable c) : Reachable c.cleared
  | hold {c : Config} (h : Reachable c) (persistent temporary : Store) (path : Option String) :
    Reachable { c with persistent := persistent, temporary := temporary, path := path }

/-- **The settings of a reachable configuration are normal.** -/
theorem Config.Reachable.normal {c : Config} (h : c.Reachable) : c.settings.Normal := by
  induction h with
  | defaults => exact Settings.normal_defaults
  | set h watchers scope name value ih => exact Variable.set_normal ih (Prod.eta _).symm
  | reset h ih => exact Settings.normal_defaults
  | hold h persistent temporary path ih => exact ih

/-! ## Runs of writes -/

/-- A write, with the watchers that are asked about it. -/
structure Assignment where
  watchers : Watchers
  scope : Scope
  name : String
  value : String

namespace Assignment

/-- Writes the value. -/
def run (a : Assignment) : Eval Unit := Variable.set a.watchers a.scope a.name a.value

/-- The cell that is written to. -/
def cell? (a : Assignment) : Option Cell := Cell.of? a.scope a.name

/-- The write succeeds, and no watcher takes it back. -/
def keeps (a : Assignment) (s : State) : Bool :=
  (a.run s).1.isOk && !Variable.reverts a.watchers a.scope a.name a.value s

/-- The write ends with a save that fails. -/
def saveFails (a : Assignment) (s : State) : Bool :=
  match (a.run s).1 with
  | .error (.config _) => true
  | _ => false

/-- The state after writes. -/
def after : List Assignment → State → State
  | [], s => s
  | a :: as, s => after as (a.run s).2

/-- Writes, each with the state before it. -/
def steps : List Assignment → State → List (State × Assignment)
  | [], _ => []
  | a :: as, s => (s, a) :: steps as (a.run s).2

/-- The value of the last write to a cell that succeeded and was not taken back. -/
def lastKept (cell : Cell) (xs : List (State × Assignment)) : Option String :=
  ((xs.filter fun x => x.2.cell? == some cell && x.2.keeps x.1).getLast?).map (·.2.value)

theorem lastKept_cons (cell : Cell) (x : State × Assignment) (xs : List (State × Assignment)) :
    lastKept cell (x :: xs) =
      (lastKept cell xs).or
        (if x.2.cell? = some cell ∧ x.2.keeps x.1 = true then some x.2.value else none) := by
  rw [lastKept, lastKept, List.filter_cons]
  by_cases hx : x.2.cell? = some cell ∧ x.2.keeps x.1 = true
  · have hkeep : (x.2.cell? == some cell && x.2.keeps x.1) = true := by simp [hx]
    rw [if_pos hkeep, if_pos hx, List.getLast?_cons]
    cases (xs.filter fun x => x.2.cell? == some cell && x.2.keeps x.1).getLast? <;> rfl
  · have hdrop : ¬ (x.2.cell? == some cell && x.2.keeps x.1) = true := by simpa using hx
    rw [if_neg hdrop, if_neg hx, Option.or_none]

/-- **One write**: its cell holds the new value if the write is kept, and all else stays. -/
theorem content_run {a : Assignment} {s : State} (hreach : s.config.Reachable)
    (hsave : a.saveFails s = false) (cell : Cell) :
    cell.content (a.run s).2.config (a.run s).2.machine.env =
      if a.cell? = some cell ∧ a.keeps s = true then some (cell.normal a.value)
      else cell.content s.config s.machine.env := by
  have hresult : ∀ cause, (a.run s).1 ≠ .error (.config cause) := by
    intro cause herror
    rw [saveFails, herror] at hsave
    cases hsave
  have hkeeps : a.keeps s = true ↔
      (a.run s).1 = .ok () ∧ Variable.reverts a.watchers a.scope a.name a.value s = false := by
    rw [keeps, Bool.and_eq_true, Bool.not_eq_true']
    cases (a.run s).1 with
    | error e => simp [Except.isOk, Except.toBool]
    | ok u => simp [Except.isOk, Except.toBool]
  simp only [hkeeps]
  exact Variable.content_set hreach.normal (Prod.eta (a.run s)).symm hresult

/-- **After a run, a cell holds the value of the last write to it that was kept**, or what it held
before. -/
theorem content_after (as : List Assignment) {s : State} (hreach : s.config.Reachable)
    (hsaves : ∀ x ∈ steps as s, x.2.saveFails x.1 = false) (cell : Cell) :
    cell.content (after as s).config (after as s).machine.env =
      ((lastKept cell (steps as s)).map cell.normal).or (cell.content s.config s.machine.env) := by
  induction as generalizing s with
  | nil => rfl
  | cons a as ih =>
    have hfirst : cell.content (a.run s).2.config (a.run s).2.machine.env =
        if a.cell? = some cell ∧ a.keeps s = true then some (cell.normal a.value)
        else cell.content s.config s.machine.env :=
      content_run hreach (hsaves (s, a) List.mem_cons_self) cell
    have hreach' : (a.run s).2.config.Reachable := .set hreach a.watchers a.scope a.name a.value
    have hrest := ih hreach' fun x hx => hsaves x (List.mem_cons_of_mem _ hx)
    rw [after, steps, lastKept_cons, hrest, hfirst]
    -- A later write to the cell hides this one.
    cases lastKept cell (steps as (a.run s).2) with
    | some value => rfl
    | none => split <;> rfl

/-- **Variables are cells that keep what was last written to them.** Take a configuration that comes
from the defaults, any environment and any writes, of which no save fails. A name that has a cell is
then read as the value of the last write to that cell that succeeded and was not taken back by a
watcher, in the normal form of the cell, or as before if there is none. And a write to another cell,
or to none, never changes what the name is read as, however it ends. -/
theorem get_after (as : List Assignment) {s : State} (hreach : s.config.Reachable)
    (hsaves : ∀ x ∈ steps as s, x.2.saveFails x.1 = false) {scope : Scope} {name : String}
    {cell : Cell} (hcell : Cell.of? scope name = some cell) :
    (Variable.get (after as s).config (after as s).machine.env scope name =
      match lastKept cell (steps as s) with
      | some value => .ok (.scalar (cell.normal value))
      | none => Variable.get s.config s.machine.env scope name) ∧
    ∀ (a : Assignment) (t : State), a.cell? ≠ some cell →
      Variable.get (a.run t).2.config (a.run t).2.machine.env scope name =
        Variable.get t.config t.machine.env scope name := by
  refine ⟨?_, fun a t hother => ?_⟩
  · rw [Cell.get_eq_content hcell, content_after as hreach hsaves, Cell.get_eq_content hcell]
    cases lastKept cell (steps as s) <;> rfl
  · rw [Cell.get_eq_content hcell, Cell.get_eq_content hcell,
      Variable.content_set_other hother (Prod.eta (a.run t)).symm]

/-- The defaults on an empty machine. -/
def blankState : State := ⟨{}, ⟨.empty, [], [], none, []⟩, []⟩

/-- Four writes to one setting, of which one is refused and one is taken back, with writes to a
variable of the same name and to the environment in between. -/
def mixedRun : List Assignment :=
  [⟨[], .config, "useTilde", "on"⟩, ⟨[], .temporary, "UseTilde", "x"⟩,
    ⟨[], .config, "USETILDE", " Off "⟩, ⟨[], .config, "UseTilde", "maybe"⟩,
    ⟨[], .user, "UseTilde", "y"⟩,
    ⟨.ofList [("usetilde", fun _ => .revert)], .config, "UseTilde", "yes"⟩]

theorem get_after_mixedRun :
    blankState.config.Reachable ∧ (∀ x ∈ steps mixedRun blankState, x.2.saveFails x.1 = false) ∧
      Cell.of? .config "usetilde" = some (.setting .useTilde) ∧
      Variable.get (after mixedRun blankState).config (after mixedRun blankState).machine.env
        .config "usetilde" = .ok (.scalar "false") := by
  have hsaves : ∀ x ∈ steps mixedRun blankState, x.2.saveFails x.1 = false := by decide +kernel
  have hcell : Cell.of? .config "usetilde" = some (.setting .useTilde) := by decide +kernel
  have hlast : lastKept (.setting .useTilde) (steps mixedRun blankState) = some " Off " := by
    decide +kernel
  have hnormal : (Cell.setting .useTilde).normal " Off " = "false" := by decide +kernel
  have hread := (get_after mixedRun .defaults hsaves hcell).1
  rw [hlast] at hread
  exact ⟨.defaults, hsaves, hcell, hread.trans (by rw [← hnormal])⟩

end Assignment

end CommandShell
