import CommandShell.Proofs.Segment.Saving
import CommandShell.Proofs.Variable.Veto

/-!
# Temporary variables stay

A temporary variable that is there stays there, in its place and in its spelling.  A write can only add
a name behind the others, and what a watcher takes back is taken out again before anything else happens;
`reset-config` leaves temporary variables alone.

* `Store.names`                   : the names of a store, in order;
* `Variable.set_temporary_names`  : a write keeps the names that are there;
* `Deed.perform_temporary_names`  : every deed does;
* `Segment.eval_temporary_names`  : so does evaluation, however it ends.
-/

namespace CommandShell

/-! ## Names of a store -/

namespace Store

/-- The names of a store, as they are spelled and in their order. -/
def names (s : Store) : List String := s.entries.map (·.1)

theorem names_prefix_of_eq {s t : Store} (h : t = s) : s.names <+: t.names :=
  h ▸ List.prefix_refl s.names

theorem contains_iff_names {s : Store} {name : String} :
    s.contains name = true ↔ ∃ n ∈ s.names, Text.fold n = Text.fold name := by
  simp only [contains_eq_any, List.any_eq_true, Text.sameFold_iff, names, List.mem_map]
  constructor
  · rintro ⟨e, he, hfold⟩
    exact ⟨e.1, ⟨e, he, rfl⟩, hfold⟩
  · rintro ⟨n, ⟨e, he, rfl⟩, hfold⟩
    exact ⟨e, he, hfold⟩

/-- A store whose names come first in those of another holds no name that the other lacks. -/
theorem contains_of_prefix {s t : Store} (h : s.names <+: t.names) {name : String}
    (hname : s.contains name = true) : t.contains name = true := by
  obtain ⟨n, hn, hfold⟩ := contains_iff_names.mp hname
  exact contains_iff_names.mpr ⟨n, h.subset hn, hfold⟩

/-- A name that is given a value stays where it is, or comes last. -/
theorem names_prefix_insert (s : Store) (name value : String) :
    s.names <+: (s.insert name value).names := by
  cases hknown : s.contains name with
  | true =>
    have hsame : s.names = (s.insert name value).names := by
      rw [names, names, entries_insert_of_known hknown, List.map_map]
      exact List.map_congr_left fun e _ => (replace_fst name value e).symm
    exact ⟨[], by rw [List.append_nil, hsame]⟩
  | false =>
    rw [names, names, entries_insert_of_new hknown, List.map_append]
    exact List.prefix_append _ _

end Store

/-! ## Writes -/

namespace Variable

variable {scope : Scope} {name value : String} {c c₁ c₂ : Config} {env env₁ env₂ : Environment}

/-- Only the temporary scope changes temporary variables. -/
theorem put_temporary {old : Option String} (hscope : scope ≠ .temporary)
    (h : put c env scope name old = .ok (c₁, env₁)) : c₁.temporary = c.temporary := by
  cases scope with
  | temporary => exact absurd rfl hscope
  | config =>
    simp only [put] at h
    split at h
    · cases h; rfl
    split at h
    · cases h
    split at h
    · cases h; rfl
    · cases h
  | persistent | system | user | process => cases h; rfl

theorem put_temporary_names (h : put c env scope name (some value) = .ok (c₁, env₁)) :
    c.temporary.names <+: c₁.temporary.names := by
  by_cases hscope : scope = .temporary
  · subst hscope
    cases h
    exact Store.names_prefix_insert c.temporary name value
  · exact Store.names_prefix_of_eq (put_temporary hscope h)

/-- A write that is taken back leaves temporary variables as they were. -/
theorem put_back_temporary (h : put c env scope name (some value) = .ok (c₁, env₁))
    (hback : put c₁ env₁ scope name (current? c env scope name) = .ok (c₂, env₂)) :
    c₂.temporary = c.temporary := by
  by_cases hscope : scope = .temporary
  · subst hscope
    have hcheck : check .temporary name value = .ok () := rfl
    rw [put_back (by decide) hcheck h] at hback
    cases hback
    rfl
  · rw [put_temporary hscope hback, put_temporary hscope h]

/-- **A write keeps the temporary names that are there**, whether it stays, is taken back or fails. -/
theorem set_temporary_names {watchers : Watchers} {s s' : State} {r : Except EvalError Unit}
    (h : set watchers scope name value s = (r, s')) :
    s.config.temporary.names <+: s'.config.temporary.names := by
  have hfinish : ∀ {t : State}, finish scope t = (r, s') → s'.config = t.config := by
    intro t ht
    have hconfig := finish_config scope t
    rw [ht] at hconfig
    exact hconfig
  cases set_ends h with
  | barred | refused => exact List.prefix_refl _
  | stuck hput hrevert hback => exact put_temporary_names hput
  | reverted hput hrevert hback hend =>
    rw [hfinish hend]
    exact Store.names_prefix_of_eq (put_back_temporary hput hback)
  | kept hput hrevert hend =>
    rw [hfinish hend]
    exact put_temporary_names hput

end Variable

/-! ## Evaluation -/

/-- **Every deed keeps the temporary names that are there.** -/
theorem Deed.perform_temporary_names {ctx : Context} {d : Deed} {s s' : State}
    {r : Except EvalError Outcome} (h : d.perform ctx s = (r, s')) :
    s.config.temporary.names <+: s'.config.temporary.names := by
  obtain hsame | hcleared | ⟨scope, name, value, r', hset⟩ := perform_config h
  · exact Store.names_prefix_of_eq (congrArg Config.temporary hsame)
  · -- The defaults take over the temporary variables.
    have hkept : s'.config.temporary = s.config.temporary := by
      rw [hcleared]
      rfl
    exact Store.names_prefix_of_eq hkept
  · exact Variable.set_temporary_names hset

/-- What a trace replays keeps the temporary names that are there. -/
theorem Replays.temporary_names {ctx : Context} {s s' : State} {es : List Effect}
    (h : Replays ctx s es s') : s.config.temporary.names <+: s'.config.temporary.names := by
  induction h with
  | done => exact List.prefix_refl _
  | emitted v _ ih => exact ih
  | effect hp _ ih => exact (Deed.perform_temporary_names hp).trans ih

/-- **Evaluation keeps the temporary names that are there**, with a result and with an error. -/
theorem Segment.eval_temporary_names (ctx : Context) (t : Segment) (input : Value) (capture : Bool)
    (s : State) :
    s.config.temporary.names <+: (t.eval ctx input capture s).2.config.temporary.names := by
  obtain ⟨es, -, hreplay⟩ := Segment.traced_follows ctx 0 t input capture s []
  exact hreplay.temporary_names

end CommandShell
