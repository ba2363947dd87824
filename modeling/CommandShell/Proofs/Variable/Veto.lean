import CommandShell.Proofs.Variable.Cell
import Mathlib.Data.List.Nodup

/-!
# Watchers and their vetoes

A write outside of the settings asks each watcher of its name once.  If one of them votes against it,
the old value is put back where it was, or the name is taken out again, and nothing is left of the
write but what the log says.

* `Store.insert_of_get?`, `Store.erase_insert_of_new` : a store after its old value is put back;
* `Variable.put_back`   : a value that is put back leaves configuration and environment as they were;
* `Watchers.poll_votes` : what watchers see that are asked in turn;
* `Variable.set_watched`: who is asked about a write, and what is left of it.
-/

namespace CommandShell

/-! ## Old values that are put back -/

namespace Store

theorem contains_insert (s : Store) (name value : String) :
    (s.insert name value).contains name = true := by
  rw [contains_eq_isSome, get?_eq_keyed?, keyed?_insert, if_pos rfl]
  rfl

theorem replace_comp_replace (name v w : String) :
    replace name w ∘ replace name v = replace name w := by
  funext e
  by_cases he : Text.sameFold e.1 name = true
  · simp [replace, he]
  · simp [replace, he]

/-- Of two values that a name is given, the last one counts. -/
theorem insert_insert (s : Store) (name v w : String) :
    (s.insert name v).insert name w = s.insert name w := by
  apply ext_entries
  rw [entries_insert_of_known (contains_insert s name v)]
  cases hknown : s.contains name with
  | true =>
    rw [entries_insert_of_known hknown, entries_insert_of_known hknown, List.map_map,
      replace_comp_replace]
  | false =>
    have hlast : replace name w (name, v) = (name, w) := if_pos (Text.sameFold_iff.mpr rfl)
    rw [entries_insert_of_new hknown, entries_insert_of_new hknown, List.map_append,
      map_replace_of_absent (absent_of_new hknown), List.map_singleton, hlast]

/-- The value that a name has changes nothing when it is put again. -/
theorem insert_of_get? {s : Store} {name value : String} (h : s.get? name = some value) :
    s.insert name value = s := by
  have hknown : s.contains name = true := by rw [contains_eq_isSome, h]; rfl
  apply ext_entries
  rw [entries_insert_of_known hknown]
  rw [get?_eq_keyed?] at h
  obtain ⟨found, hfind, hvalue⟩ := Option.map_eq_some_iff.mp h
  have hfound : Text.fold found.1 = Text.fold name :=
    Text.sameFold_iff.mp
      (List.find?_some (p := fun e : String × String => Text.sameFold e.1 name) hfind)
  -- No other entry has the name, as no two names agree up to case.
  have hsame : ∀ e ∈ s.entries, replace name value e = id e := by
    intro e he
    unfold replace
    split
    · rename_i hfold
      have heq : e = found :=
        List.inj_on_of_nodup_map s.distinct_entries he (List.mem_of_find?_eq_some hfind)
          ((Text.sameFold_iff.mp hfold).trans hfound.symm)
      rw [heq, ← hvalue, id]
    · rfl
  rw [List.map_congr_left hsame, List.map_id]

/-- A new name that is taken out again leaves nothing behind. -/
theorem erase_insert_of_new {s : Store} {name : String} (h : s.contains name = false)
    (value : String) : (s.insert name value).erase name = s := by
  apply ext_entries
  have hlast : Text.sameFold name name = true := Text.sameFold_iff.mpr rfl
  rw [entries_erase, entries_insert_of_new h, List.filter_append,
    filter_of_absent (absent_of_new h)]
  simp [hlast]

/-- **A store is as it was once the old value is put back.** -/
theorem putStore_back (s : Store) (name value : String) :
    Variable.putStore name (s.get? name) (Variable.putStore name (some value) s) = s := by
  cases hold : s.get? name with
  | some old =>
    rw [Variable.putStore, Variable.putStore, insert_insert, insert_of_get? hold]
  | none =>
    rw [Variable.putStore, Variable.putStore, erase_insert_of_new (contains_eq_false_iff.mpr hold)]

end Store

namespace Environment

theorem set_set (env : Environment) (name v w : String) :
    (env.set name v).set name w = env.set name w := by
  induction env with
  | nil => simp [set]
  | cons e env ih =>
    obtain ⟨n, u⟩ := e
    by_cases hn : n = name
    · simp [set, hn]
    · simp [set, hn, ih]

theorem set_of_get? {env : Environment} {name value : String} (h : env.get? name = some value) :
    env.set name value = env := by
  induction env with
  | nil => cases h
  | cons e env ih =>
    obtain ⟨n, u⟩ := e
    rw [get?_cons] at h
    by_cases hn : n = name
    · rw [if_pos hn.symm] at h
      obtain rfl := Option.some.inj h
      simp [set, hn]
    · rw [if_neg (Ne.symm hn)] at h
      simp [set, hn, ih h]

theorem unset_set_of_new {env : Environment} {name : String} (h : env.get? name = none)
    (value : String) : (env.set name value).unset name = env := by
  induction env with
  | nil => simp [set, unset]
  | cons e env ih =>
    obtain ⟨n, u⟩ := e
    rw [get?_cons] at h
    by_cases hn : n = name
    · rw [if_pos hn.symm] at h
      cases h
    · rw [if_neg (Ne.symm hn)] at h
      rw [set, if_neg hn, unset_cons, if_neg hn, ih h]

/-- **An environment is as it was once the old value is put back.** -/
theorem putEnvironment_back (env : Environment) (name value : String) :
    Variable.putEnvironment name (env.get? name)
      (Variable.putEnvironment name (some value) env) = env := by
  cases hold : env.get? name with
  | some old =>
    rw [Variable.putEnvironment, Variable.putEnvironment, set_set, set_of_get? hold]
  | none => rw [Variable.putEnvironment, Variable.putEnvironment, unset_set_of_new hold]

end Environment

/-! ## Asking watchers -/

namespace Watchers

/-- **What watchers see that are asked in turn**: each is asked once, about the change as it was
written; it is shown as reverted from the first vote against it on, and taken back if there is one. -/
theorem poll_votes (ws : List Watcher) (c : Change) :
    ∃ calls : List (Watcher × Change), calls.map (·.1) = ws ∧ calls.map (·.2) = (poll ws c).1 ∧
      (∀ (i : Nat) (x : Watcher × Change), calls[i]? = some x →
        x.2 = { c with reverted := x.2.reverted } ∧
        (x.2.reverted = true ↔ c.reverted = true ∨ ∃ y ∈ calls.take i, y.1 y.2 = .revert)) ∧
      ((poll ws c).2 = true ↔ c.reverted = true ∨ ∃ y ∈ calls, y.1 y.2 = .revert) := by
  induction ws generalizing c with
  | nil => exact ⟨[], rfl, rfl, by simp, by simp [poll]⟩
  | cons w ws ih =>
    obtain ⟨calls, hasked, hseen, hsees, hverdict⟩ :=
      ih { c with reverted := c.reverted || w c == .revert }
    -- For all later watchers, the vote of the first one is as good as an old revert.
    have hvote : (c.reverted || w c == .revert) = true ↔ c.reverted = true ∨ w c = .revert := by
      simp
    refine ⟨(w, c) :: calls, by simp [hasked], by simp [poll, hseen], ?_, ?_⟩
    · intro i x hi
      cases i with
      | zero =>
        obtain rfl := Option.some.inj hi
        simp
      | succ i =>
        obtain ⟨hchange, hreverted⟩ := hsees i x hi
        refine ⟨hchange, hreverted.trans ?_⟩
        rw [hvote, List.take_succ_cons, List.exists_mem_cons_iff]
        exact or_assoc
    · have hrest : (poll (w :: ws) c).2 =
          (poll ws { c with reverted := c.reverted || w c == .revert }).2 := rfl
      rw [hrest, hverdict, hvote, List.exists_mem_cons_iff]
      exact or_assoc

end Watchers

/-! ## Writes -/

namespace Variable

variable {scope : Scope} {name value : String} {c c₁ : Config} {env env₁ : Environment} {s : State}

theorem isName_of_check (h : check scope name value = .ok ()) (henv : scope.isEnvironment = true) :
    Environment.isName name = true := by
  unfold check at h
  split at h
  · cases h
  · rename_i hname
    simpa [henv] using hname

/-- A name that passes the checks has a cell, which keeps texts as they are, settings apart. -/
theorem exists_cell (hscope : scope ≠ .config) (hcheck : check scope name value = .ok ()) :
    ∃ cell, Cell.of? scope name = some cell ∧ ∀ v, cell.normal v = v := by
  cases scope with
  | config => exact absurd rfl hscope
  | persistent | temporary => exact ⟨_, rfl, fun _ => rfl⟩
  | system | user | process =>
    exact ⟨.environment name, if_pos (isName_of_check hcheck rfl), fun _ => rfl⟩

theorem current?_environment (henv : scope.isEnvironment = true)
    (hname : Environment.isName name = true) (c : Config) (env : Environment) :
    current? c env scope name = env.get? name := by
  have hcell : Cell.of? scope name = some (.environment name) := by
    cases scope with
    | config | persistent | temporary => cases henv
    | system | user | process => exact if_pos hname
  rw [Cell.current?_eq_content hcell, Cell.content, if_pos hname]

theorem current?_persistent (c : Config) (env : Environment) (name : String) :
    current? c env .persistent name = c.persistent.get? name := by
  have hcell : Cell.of? .persistent name = some (.persistent (Text.fold name)) := rfl
  exact (Cell.current?_eq_content hcell c env).trans (Store.get?_eq_keyed? _ _).symm

theorem current?_temporary (c : Config) (env : Environment) (name : String) :
    current? c env .temporary name = c.temporary.get? name := by
  have hcell : Cell.of? .temporary name = some (.temporary (Text.fold name)) := rfl
  exact (Cell.current?_eq_content hcell c env).trans (Store.get?_eq_keyed? _ _).symm

/-- A scope that is no setting takes every value. -/
theorem put_ok (hscope : scope ≠ .config) (c : Config) (env : Environment) (name : String)
    (value : Option String) : ∃ r, put c env scope name value = .ok r := by
  cases scope with
  | config => exact absurd rfl hscope
  | persistent | temporary | system | user | process => exact ⟨_, rfl⟩

/-- **A value that is put back leaves configuration and environment exactly as they were**, settings
apart. -/
theorem put_back (hscope : scope ≠ .config) (hcheck : check scope name value = .ok ())
    (h : put c env scope name (some value) = .ok (c₁, env₁)) :
    put c₁ env₁ scope name (current? c env scope name) = .ok (c, env) := by
  cases scope with
  | config => exact absurd rfl hscope
  | persistent =>
    rw [current?_persistent]
    cases h
    exact congrArg (fun store => Except.ok ({ c with persistent := store }, env))
      (Store.putStore_back c.persistent name value)
  | temporary =>
    rw [current?_temporary]
    cases h
    exact congrArg (fun store => Except.ok ({ c with temporary := store }, env))
      (Store.putStore_back c.temporary name value)
  | system | user | process =>
    rw [current?_environment rfl (isName_of_check hcheck rfl)]
    cases h
    exact congrArg (fun back => Except.ok (c, back)) (Environment.putEnvironment_back env name value)

theorem current?_eq_some_iff {old : String} :
    current? c env scope name = some old ↔ get c env scope name = .ok (.scalar old) := by
  unfold current?
  split
  · rename_i v hget
    rw [hget, Option.some.injEq, Except.ok.injEq, Value.scalar.injEq]
  · rename_i hget
    constructor
    · rintro ⟨⟩
    · exact fun h => absurd h (hget old)

theorem finish_log (scope : Scope) (s : State) : (finish scope s).2.log = s.log := by
  unfold finish
  split
  · rw [saveConfig_apply]
  · rfl

/-- **A write outside of the settings** leaves the new value, or what was there before if a watcher takes
it back; then it is saved if the scope is. -/
theorem set_outside (watchers : Watchers) (hscope : scope ≠ .config)
    (hcheck : check scope name value = .ok ()) (s : State) :
    ∃ c env, put s.config s.machine.env scope name (some value) = .ok (c, env) ∧
      set watchers scope name value s = finish scope
        (if reverts watchers scope name value s
          then { s with log := logOf watchers scope name value s }
          else { settle s c env with log := logOf watchers scope name value s }) := by
  obtain ⟨⟨c, env⟩, hput⟩ := put_ok hscope s.config s.machine.env name (some value)
  refine ⟨c, env, hput, ?_⟩
  rw [set_apply, hcheck, hput]
  dsimp only
  rw [put_back hscope hcheck hput]
  dsimp only
  split
  · rfl
  · rfl

/-- **Watchers and their vetoes.** Take a write outside of the settings that passes the checks.
* The watchers that are asked are those registered under its name up to case, each once, in the order of
  their registration.
* Each sees the value before, if there was one, the new value, and the change as reverted exactly if
  one that was asked before it voted so; the log lists what they saw.
* If none votes to revert, the variable has the new value; if one does, the configuration with both of
  its stores and the environment are exactly as before.
* The write fails only if a persistent variable cannot be saved. -/
theorem set_watched (registered : List (String × Watcher)) (s : State) (hscope : scope ≠ .config)
    (hcheck : check scope name value = .ok ()) :
    let watchers := Watchers.ofList registered
    ∃ calls : List (Watcher × Change),
      calls.map (·.1) = (registered.filter fun w => Text.fold w.1 = Text.fold name).map (·.2) ∧
      (∀ (i : Nat) (x : Watcher × Change), calls[i]? = some x →
        x.2.scope = scope ∧ x.2.name = name ∧ x.2.new = value ∧
        (∀ old, x.2.old = some old ↔
          get s.config s.machine.env scope name = .ok (.scalar old)) ∧
        (x.2.reverted = true ↔ ∃ y ∈ calls.take i, y.1 y.2 = .revert)) ∧
      (set watchers scope name value s).2.log =
        s.log ++ .assigned scope name value :: calls.map (.watched ·.2) ∧
      ((∀ x ∈ calls, x.1 x.2 ≠ .revert) →
        get (set watchers scope name value s).2.config
          (set watchers scope name value s).2.machine.env scope name = .ok (.scalar value)) ∧
      ((∃ x ∈ calls, x.1 x.2 = .revert) →
        (set watchers scope name value s).2.config = s.config ∧
        (set watchers scope name value s).2.machine.env = s.machine.env) ∧
      ((set watchers scope name value s).1 = .ok () ∨
        scope = .persistent ∧ ∃ cause, (set watchers scope name value s).1 = .error (.config cause)) := by
  intro watchers
  have hnamed : watchers.named name =
      (registered.filter fun w => Text.fold w.1 = Text.fold name).map (·.2) := by
    rw [Watchers.named_ofList]
    simp only [Text.sameFold, beq_eq_decide]
  clear_value watchers
  rw [← hnamed]
  obtain ⟨c, env, hput, hset⟩ := set_outside watchers hscope hcheck s
  obtain ⟨calls, hasked, hseen, hsees, hverdict⟩ := Watchers.poll_votes (watchers.named name)
    ⟨scope, name, current? s.config s.machine.env scope name, value, false⟩
  have hreverts : reverts watchers scope name value s = true ↔
      ∃ y ∈ calls, y.1 y.2 = .revert := by
    rw [reverts, Watchers.ask, hverdict]
    simp
  have hlog : logOf watchers scope name value s =
      s.log ++ .assigned scope name value :: calls.map (.watched ·.2) := by
    rw [logOf, Watchers.ask, ← hseen, List.map_map, List.append_assoc]
    rfl
  refine ⟨calls, hasked, ?_, ?_, ?_, ?_, ?_⟩
  · intro i x hi
    obtain ⟨hchange, hreverted⟩ := hsees i x hi
    rw [hchange]
    refine ⟨rfl, rfl, rfl, fun old => current?_eq_some_iff, ?_⟩
    simpa using hreverted
  · rw [hset, finish_log, ← hlog]
    split
    · rfl
    · rfl
  · intro hkeep
    have hno : ¬ reverts watchers scope name value s = true := by
      rw [hreverts]
      rintro ⟨x, hx, hrevert⟩
      exact hkeep x hx hrevert
    obtain ⟨cell, hcell, hnormal⟩ := exists_cell hscope hcheck
    rw [hset, if_neg hno, finish_config, finish_environment, Cell.get_eq_content hcell]
    have hnew : cell.content c env = some value := by
      rw [Cell.content_put hcell hput, hnormal]
    dsimp only [settle]
    rw [hnew]
  · intro hveto
    rw [hset, if_pos (hreverts.mpr hveto)]
    exact ⟨finish_config scope _, finish_environment scope _⟩
  · rw [hset]
    cases scope with
    | config => exact absurd rfl hscope
    | persistent => exact (finish_result (Prod.eta _).symm).imp_right fun h => ⟨rfl, h⟩
    | temporary | system | user | process => exact .inl rfl

/-- Votes against one value. -/
def refuses (bad : String) : Watcher := fun c => if c.new = bad then .revert else .keep

/-- Votes against what was voted against before. -/
def joinsIn : Watcher := fun c => if c.reverted then .revert else .keep

/-- Three watchers of one name, in two spellings, and one of another name. -/
def guards : List (String × Watcher) :=
  [("x", fun _ => .keep), ("X", refuses "bad"), ("y", fun _ => .revert), ("x", joinsIn)]

/-- A state whose stores and environment all have the name. -/
def guardedState : State :=
  ⟨{ persistent := .ofList [("x", "1")], temporary := .ofList [("a", "1"), ("X", "2"), ("b", "3")] },
    ⟨.empty, [], [("x", "4")], none, []⟩, []⟩

theorem set_watched_guards :
    Scope.temporary ≠ .config ∧ check .temporary "x" "bad" = .ok () ∧
      (set (.ofList guards) .temporary "x" "bad" guardedState).2.config = guardedState.config ∧
      (set (.ofList guards) .temporary "x" "bad" guardedState).2.machine.env = [("x", "4")] := by
  have hscope : Scope.temporary ≠ .config := by decide
  have hcheck : check .temporary "x" "bad" = .ok () := by decide
  obtain ⟨calls, hasked, hsees, -, -, hveto, -⟩ := set_watched guards guardedState hscope hcheck
  have hnamed : (guards.filter fun w => Text.fold w.1 = Text.fold "x").map (·.2) =
      [fun _ => .keep, refuses "bad", joinsIn] := by
    have hupper : Text.fold "X" = Text.fold "x" := by decide +kernel
    have hother : Text.fold "y" ≠ Text.fold "x" := by decide +kernel
    simp [guards, hupper, hother]
  rw [hnamed] at hasked
  obtain ⟨first, rest, rfl, -, hrest⟩ := List.map_eq_cons_iff.mp hasked
  obtain ⟨second, last, rfl, hsecond, -⟩ := List.map_eq_cons_iff.mp hrest
  -- The second watcher sees the value that it refuses.
  have hnew : second.2.new = "bad" := (hsees 1 second rfl).2.2.1
  obtain ⟨hconfig, henv⟩ := hveto ⟨second, by simp, by simp [hsecond, refuses, hnew]⟩
  exact ⟨hscope, hcheck, hconfig, henv⟩

end Variable

end CommandShell
