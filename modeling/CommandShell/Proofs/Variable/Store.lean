import CommandShell.Variable.Store
import Mathlib.Data.List.Basic
import Mathlib.Data.List.Induction

/-!
# Stores and their histories

Whatever is done to a store, what it holds can be told from the history of its changes alone: the
value of a name is the last one that it was given since it was last taken out, and names stand in
the order, and in the spelling, of their first insertion since then.

* `Store.entries_insert`, `Store.entries_erase`, `Store.get?_eq_keyed?` : the rows of a store as the
  list of its names and values;
* `Store.Op`, `Store.run`    : what can be done to a store, and the store behind a list of it;
* `Store.Step`, `Store.history` : the single changes behind that;
* `Store.lastValue`          : the value that a history leaves a key with;
* `Store.opened`             : the entries that a history leaves, in order;
* `Store.condensed`          : the entries that a list of pairs comes down to;
* `Store.toMap`              : the store as an ordered map with names told apart by spelling;
* `Store.run_shows`          : a store shows its history.
-/

namespace CommandShell.Store

/-! ## The list behind the keys

Under its keys a store is the list of its names and values, and each operation on the rows is one on
this list. -/

/-- Names and values, each under its key. -/
def keyedRows (es : List (String × String)) : Rows (String × String) :=
  es.map fun e => (Text.fold e.1, e)

/-- A new value in the place of the old one. -/
def replace (name value : String) (e : String × String) : String × String :=
  if Text.sameFold e.1 name then (e.1, value) else e

theorem replace_fst (name value : String) (e : String × String) :
    (replace name value e).1 = e.1 := by
  unfold replace; split <;> rfl

theorem keyedRows_entries (s : Store) : keyedRows s.entries = s.rows := s.rows_eq.symm

theorem distinct_entries (s : Store) : (s.entries.map fun e => Text.fold e.1).Nodup := by
  have hkeys : s.rows.keys = s.entries.map fun e => Text.fold e.1 := by
    rw [← keyedRows_entries, keyedRows, Rows.keys, List.map_map]
    rfl
  rw [← hkeys]
  exact s.distinct

theorem lookup_keyedRows (es : List (String × String)) (key : String) :
    (keyedRows es).lookup key = es.find? fun e => Text.fold e.1 == key := by
  induction es with
  | nil => rfl
  | cons e es ih =>
    rw [keyedRows, List.map_cons, List.lookup_cons, List.find?_cons, Bool.beq_comm, ← keyedRows, ih]

section Known

variable {name : String} {es : List (String × String)}

theorem map_replace_of_absent (h : ∀ e ∈ es, Text.fold e.1 ≠ Text.fold name) (value : String) :
    es.map (replace name value) = es := by
  have hsame : ∀ e ∈ es, replace name value e = id e := fun e he =>
    if_neg fun hfold => h e he (Text.sameFold_iff.mp hfold)
  rw [List.map_congr_left hsame, List.map_id]

theorem filter_of_absent (h : ∀ e ∈ es, Text.fold e.1 ≠ Text.fold name) :
    (es.filter fun e => !Text.sameFold e.1 name) = es := by
  rw [List.filter_eq_self]
  intro e he
  rw [Bool.not_eq_true', ← Bool.not_eq_true, Text.sameFold_iff]
  exact h e he

/-- The keys behind one that is not there twice are others. -/
theorem absent_of_nodup {e : String × String} (hkey : Text.fold e.1 = Text.fold name)
    (h : ((e :: es).map fun e => Text.fold e.1).Nodup) : ∀ e' ∈ es, Text.fold e'.1 ≠ Text.fold name := by
  intro e' he' hsame
  rw [List.map_cons, List.nodup_cons] at h
  refine h.1 ?_
  rw [hkey, ← hsame]
  exact List.mem_map_of_mem he'

/-- **The row of a key gets a new value, or a new row comes last.** -/
theorem upsert_keyedRows (h : (es.map fun e => Text.fold e.1).Nodup) (value : String) :
    (keyedRows es).upsert (Text.fold name) (fun e => (e.1, value)) (name, value) =
      keyedRows (if es.any (fun e => Text.sameFold e.1 name) then es.map (replace name value)
        else es ++ [(name, value)]) := by
  induction es with
  | nil => rfl
  | cons e es ih =>
    have hrows : keyedRows (e :: es) = (Text.fold e.1, e) :: keyedRows es := rfl
    rw [hrows, Rows.upsert]
    by_cases hkey : Text.fold e.1 = Text.fold name
    · have hsame : Text.sameFold e.1 name = true := Text.sameFold_iff.mpr hkey
      rw [if_pos hkey, List.any_cons, hsame, Bool.true_or, if_pos rfl, List.map_cons,
        map_replace_of_absent (absent_of_nodup hkey h)]
      simp [replace, hsame, keyedRows]
    · have hother : Text.sameFold e.1 name = false := by
        rw [← Bool.not_eq_true, Text.sameFold_iff]
        exact hkey
      rw [if_neg hkey, ih (List.nodup_cons.mp h).2, List.any_cons, hother, Bool.false_or]
      split
      · simp [replace, hother, keyedRows]
      · rfl

/-- **The row of a key is taken out.** -/
theorem remove_keyedRows (h : (es.map fun e => Text.fold e.1).Nodup) :
    (keyedRows es).remove (Text.fold name) = keyedRows (es.filter fun e => !Text.sameFold e.1 name) := by
  induction es with
  | nil => rfl
  | cons e es ih =>
    have hrows : keyedRows (e :: es) = (Text.fold e.1, e) :: keyedRows es := rfl
    rw [hrows, Rows.remove]
    by_cases hkey : Text.fold e.1 = Text.fold name
    · have hsame : Text.sameFold e.1 name = true := Text.sameFold_iff.mpr hkey
      rw [if_pos hkey, List.filter_cons_of_neg (by simp [hsame]),
        filter_of_absent (absent_of_nodup hkey h)]
    · have hother : Text.sameFold e.1 name = false := by
        rw [← Bool.not_eq_true, Text.sameFold_iff]
        exact hkey
      rw [if_neg hkey, ih (List.nodup_cons.mp h).2, List.filter_cons_of_pos (by simp [hother])]
      rfl

end Known

theorem entries_of_rows {s : Store} {es : List (String × String)} (h : s.rows = keyedRows es) :
    s.entries = es := by
  rw [entries, h, keyedRows, List.map_map]
  exact List.map_id es

/-! ## Single operations -/

/-- The value of a key, that is of a name up to case. -/
def keyed? (s : Store) (key : String) : Option String :=
  (s.entries.find? fun e => Text.fold e.1 == key).map (·.2)

theorem get?_eq_keyed? (s : Store) (name : String) : s.get? name = s.keyed? (Text.fold name) := by
  rw [get?, ← keyedRows_entries, lookup_keyedRows, keyed?]

theorem contains_eq_isSome (s : Store) (name : String) :
    s.contains name = (s.get? name).isSome := by
  rw [contains, get?, Option.isSome_map]

theorem contains_eq_any (s : Store) (name : String) :
    s.contains name = s.entries.any fun e => Text.sameFold e.1 name := by
  rw [contains, ← keyedRows_entries, lookup_keyedRows, Bool.eq_iff_iff, List.any_eq_true,
    List.find?_isSome]
  rfl

theorem contains_eq_false_iff {s : Store} {name : String} :
    s.contains name = false ↔ s.get? name = none := by
  rw [contains_eq_isSome, Option.isSome_eq_false_iff, Option.isNone_iff_eq_none]

theorem absent_of_new {s : Store} {name : String} (h : s.contains name = false) :
    ∀ e ∈ s.entries, Text.fold e.1 ≠ Text.fold name := by
  rw [contains_eq_any, List.any_eq_false] at h
  exact fun e he hfold => h e he (Text.sameFold_iff.mpr hfold)

theorem entries_insert (s : Store) (name value : String) :
    (s.insert name value).entries =
      if s.contains name then s.entries.map (replace name value) else s.entries ++ [(name, value)] := by
  apply entries_of_rows
  show s.rows.upsert (Text.fold name) (fun e => (e.1, value)) (name, value) = _
  rw [← keyedRows_entries, upsert_keyedRows s.distinct_entries, contains_eq_any]

theorem entries_insert_of_known {s : Store} {name : String} (h : s.contains name = true)
    (value : String) : (s.insert name value).entries = s.entries.map (replace name value) := by
  rw [entries_insert, if_pos h]

theorem entries_insert_of_new {s : Store} {name : String} (h : s.contains name = false)
    (value : String) : (s.insert name value).entries = s.entries ++ [(name, value)] := by
  rw [entries_insert, if_neg (by simp [h])]

theorem entries_erase (s : Store) (name : String) :
    (s.erase name).entries = s.entries.filter fun e => !Text.sameFold e.1 name := by
  apply entries_of_rows
  show s.rows.remove (Text.fold name) = _
  rw [← keyedRows_entries, remove_keyedRows s.distinct_entries]

theorem size_eq (s : Store) : s.size = s.entries.length := (List.length_map _).symm

theorem find?_replace (name value key : String) (es : List (String × String)) :
    ((es.map (replace name value)).find? fun e => Text.fold e.1 == key) =
      (es.find? fun e => Text.fold e.1 == key).map (replace name value) := by
  rw [List.find?_map]
  simp only [Function.comp_def, replace_fst]

/-- **The value of a key after a name was given a value.** -/
theorem keyed?_insert (s : Store) (name value key : String) :
    (s.insert name value).keyed? key =
      if key = Text.fold name then some value else s.keyed? key := by
  cases hknown : s.contains name with
  | true =>
    rw [keyed?, entries_insert_of_known hknown, find?_replace, Option.map_map]
    cases hfind : s.entries.find? fun e => Text.fold e.1 == key with
    | none =>
      have hkey : key ≠ Text.fold name := by
        rintro rfl
        have hnone : s.get? name = none := by rw [get?_eq_keyed?, keyed?, hfind, Option.map_none]
        rw [← contains_eq_false_iff, hknown] at hnone
        cases hnone
      rw [if_neg hkey, keyed?, hfind, Option.map_none, Option.map_none]
    | some e =>
      have hkey : (Text.fold e.1 == key) = true :=
        List.find?_some (p := fun e : String × String => Text.fold e.1 == key) hfind
      obtain rfl : Text.fold e.1 = key := by simpa using hkey
      simp only [Option.map_some, Function.comp_apply, replace, Text.sameFold_iff, keyed?, hfind]
      split <;> rfl
  | false =>
    rw [keyed?, entries_insert_of_new hknown, List.find?_append, Option.map_or]
    by_cases hkey : key = Text.fold name
    · subst hkey
      have hnone : s.keyed? (Text.fold name) = none := by
        rw [← get?_eq_keyed?, contains_eq_false_iff.mp hknown]
      rw [← keyed?, hnone, if_pos rfl]
      simp
    · rw [if_neg hkey, ← keyed?]
      simp [Ne.symm hkey]

/-- **The value of a key after a name was taken out.** -/
theorem keyed?_erase (s : Store) (name key : String) :
    (s.erase name).keyed? key = if key = Text.fold name then none else s.keyed? key := by
  rw [keyed?, entries_erase, List.find?_filter]
  by_cases hkey : key = Text.fold name
  · rw [if_pos hkey, Option.map_eq_none_iff, List.find?_eq_none]
    intro e _
    simp [Text.sameFold, hkey]
  · have hsame : ∀ e : String × String,
        decide ((!Text.sameFold e.1 name) = true ∧ (Text.fold e.1 == key) = true) =
          (Text.fold e.1 == key) := by
      intro e
      rw [Bool.eq_iff_iff, decide_eq_true_eq, and_iff_right_iff_imp, beq_iff_eq,
        Bool.not_eq_true', ← Bool.not_eq_true, Text.sameFold_iff]
      exact fun he hname => hkey (he.symm.trans hname)
    rw [if_neg hkey, keyed?]
    simp only [hsame]

/-! ## Histories -/

/-- What can be done to a store. -/
inductive Op where
  /-- A name is given a value. -/
  | set (name value : String)
  /-- A name is taken out. -/
  | remove (name : String)
  /-- The store gives way to that of an ordered map. -/
  | convert (pairs : List (String × String))
  deriving DecidableEq, Repr

/-- The store after an operation. -/
def Op.apply : Op → Store → Store
  | set name value, s => (s.set name value).2
  | remove name, s => (s.remove name).2
  | convert pairs, _ => ofList pairs

/-- The store behind operations, from the empty one on. -/
def run (ops : List Op) : Store := ops.foldl (fun s op => op.apply s) empty

/-- A single change of a store. -/
inductive Step where
  /-- A name is given a value. -/
  | put (name value : String)
  /-- A name is taken out. -/
  | drop (name : String)
  /-- All names are taken out. -/
  | clear
  deriving DecidableEq, Repr

namespace Step

/-- The store after a change. -/
def apply : Step → Store → Store
  | put name value, s => s.insert name value
  | drop name, s => s.erase name
  | clear, _ => empty

/-- The change takes a key out. -/
def removes (key : String) : Step → Bool
  | put _ _ => false
  | drop name => Text.fold name == key
  | clear => true

/-- The value that the change gives a key. -/
def value? (key : String) : Step → Option String
  | put name value => if Text.fold name = key then some value else none
  | drop _ => none
  | clear => none

end Step

/-- Pairs that are put one after the other. -/
def puts (pairs : List (String × String)) : List Step := pairs.map fun e => .put e.1 e.2

/-- The changes that an operation makes: an ordered map is put pair by pair into a store that was
cleared. -/
def Op.steps : Op → List Step
  | set name value => [.put name value]
  | remove name => [.drop name]
  | convert pairs => .clear :: puts pairs

/-- The changes that operations make. -/
def history (ops : List Op) : List Step := ops.flatMap Op.steps

/-- A store after changes. -/
def after (h : List Step) (s : Store) : Store := h.foldl (fun s step => step.apply s) s

theorem after_puts (pairs : List (String × String)) (s : Store) :
    after (puts pairs) s = pairs.foldl (fun s e => s.insert e.1 e.2) s := by
  rw [after, puts, List.foldl_map]
  rfl

theorem Op.after_steps (op : Op) (s : Store) : after op.steps s = op.apply s := by
  cases op with
  | set name value => rfl
  | remove name => rfl
  | convert pairs => exact after_puts pairs empty

/-- **A run does what its history says.** -/
theorem run_eq_after (ops : List Op) : run ops = after (history ops) empty := by
  suffices ∀ s, ops.foldl (fun s op => op.apply s) s = after (history ops) s from this empty
  induction ops with
  | nil => exact fun s => rfl
  | cons op ops ih =>
    intro s
    rw [List.foldl_cons, ih, ← op.after_steps]
    simp only [after, history, List.flatMap_cons, List.foldl_append]

/-! ## What a history leaves -/

/-- The changes since a key was last taken out. -/
def since (key : String) (h : List Step) : List Step :=
  (h.reverse.takeWhile fun step => !step.removes key).reverse

/-- The value that a history leaves a key with: the last one since the key was last taken out. -/
def lastValue (key : String) (h : List Step) : Option String :=
  ((since key h).filterMap (Step.value? key)).getLast?

/-- The entry that a change has opened, if it is still there: the change gave a value to a key
without one, and the key was not taken out again. -/
def opened? (h : List Step) (i : Nat) : Option (String × String) :=
  match h[i]? with
  | some (.put name _) =>
    if (lastValue (Text.fold name) (h.take i)).isNone ∧
        (h.drop (i + 1)).all (fun step => !step.removes (Text.fold name)) then
      (lastValue (Text.fold name) h).map fun value => (name, value)
    else none
  | _ => none

/-- The entries that a history leaves, in the order in which they were opened. -/
def opened (h : List Step) : List (String × String) :=
  (List.range h.length).filterMap (opened? h)

theorem since_concat (key : String) (h : List Step) (step : Step) :
    since key (h ++ [step]) = if step.removes key then [] else since key h ++ [step] := by
  cases hstep : step.removes key <;> simp [since, hstep]

theorem lastValue_concat (key : String) (h : List Step) (step : Step) :
    lastValue key (h ++ [step]) =
      if step.removes key then none else (step.value? key).or (lastValue key h) := by
  rw [lastValue, since_concat]
  split
  · rfl
  · rw [List.filterMap_append, List.getLast?_append]
    cases hvalue : step.value? key <;> simp [hvalue, lastValue]

theorem after_concat (h : List Step) (step : Step) (s : Store) :
    after (h ++ [step]) s = step.apply (after h s) := by
  simp [after]

/-- **The value of a key is the last one that it was given since it was last taken out.** -/
theorem keyed?_after (h : List Step) (key : String) :
    (after h empty).keyed? key = lastValue key h := by
  induction h using List.reverseRecOn with
  | nil => rfl
  | append_singleton h step ih =>
    rw [after_concat, lastValue_concat, ← ih]
    cases step with
    | put name value =>
      rw [Step.apply, keyed?_insert]
      by_cases hkey : Text.fold name = key
      · simp [Step.removes, Step.value?, hkey]
      · simp [Step.removes, Step.value?, hkey, Ne.symm hkey]
    | drop name =>
      rw [Step.apply, keyed?_erase]
      by_cases hkey : Text.fold name = key
      · simp [Step.removes, hkey]
      · simp [Step.removes, Step.value?, hkey, Ne.symm hkey]
    | clear => rfl

/-- A key that was given a value and not taken out since has one. -/
theorem lastValue_ne_none {h : List Step} {i : Nat} {name value : String}
    (hput : h[i]? = some (.put name value))
    (hkept : (h.drop (i + 1)).all (fun step => !step.removes (Text.fold name)) = true) :
    lastValue (Text.fold name) h ≠ none := by
  induction h using List.reverseRecOn with
  | nil => simp at hput
  | append_singleton h step ih =>
    rw [lastValue_concat]
    rcases Nat.lt_trichotomy i h.length with hlt | heq | hgt
    · rw [List.getElem?_append_left hlt] at hput
      rw [List.drop_append_of_le_length hlt, List.all_append, Bool.and_eq_true] at hkept
      have hbefore := ih hput hkept.1
      have hstep : step.removes (Text.fold name) = false := by simpa using hkept.2
      simp [hstep, hbefore]
    · subst heq
      rw [List.getElem?_concat_length] at hput
      obtain rfl := Option.some.inj hput
      simp [Step.removes, Step.value?]
    · rw [List.getElem?_eq_none (by simp; omega)] at hput
      cases hput

/-- What a change makes of an entry. -/
def Step.carry (step : Step) (e : String × String) : Option (String × String) :=
  if step.removes (Text.fold e.1) then none
  else some (e.1, (step.value? (Text.fold e.1)).getD e.2)

theorem Step.carry_put (name value : String) :
    (put name value).carry = some ∘ replace name value := by
  funext e
  by_cases he : Text.fold name = Text.fold e.1
  · have hsame : Text.sameFold e.1 name = true := Text.sameFold_iff.mpr he.symm
    simp [carry, removes, value?, he, replace, hsame]
  · have hsame : ¬ Text.sameFold e.1 name = true := fun h => he (Text.sameFold_iff.mp h).symm
    simp [carry, removes, value?, he, replace, hsame]

theorem Step.carry_drop (name : String) :
    (drop name).carry = Option.guard fun e => !Text.sameFold e.1 name := by
  funext e
  by_cases he : Text.fold name = Text.fold e.1
  · simp [carry, removes, Option.guard, Text.sameFold, he]
  · simp [carry, removes, value?, Option.guard, Text.sameFold, he, Ne.symm he]

/-- An entry that was opened before a change is what the change makes of it. -/
theorem opened?_concat {h : List Step} {i : Nat} (hi : i < h.length) (step : Step) :
    opened? (h ++ [step]) i = (opened? h i).bind step.carry := by
  have hdrop : (h ++ [step]).drop (i + 1) = h.drop (i + 1) ++ [step] :=
    List.drop_append_of_le_length hi
  have htake : (h ++ [step]).take i = h.take i := List.take_append_of_le_length (by omega)
  simp only [opened?, List.getElem?_append_left hi, hdrop, htake, List.all_append, List.all_cons,
    List.all_nil, Bool.and_true, lastValue_concat]
  split
  · rename_i name value hput
    by_cases hopen : (lastValue (Text.fold name) (h.take i)).isNone = true ∧
        (h.drop (i + 1)).all (fun step => !step.removes (Text.fold name)) = true
    · obtain ⟨v, hv⟩ := Option.ne_none_iff_exists'.mp (lastValue_ne_none hput hopen.2)
      cases hstep : step.removes (Text.fold name) <;>
      cases hvalue : step.value? (Text.fold name) <;>
      simp [hopen, hv, hstep, hvalue, Step.carry]
    · rw [if_neg hopen, if_neg fun hboth => hopen ⟨hboth.1, (Bool.and_eq_true_iff.mp hboth.2).1⟩,
        Option.bind_none]
  · rfl

/-- The last change opens an entry if it puts a name that had no value. -/
theorem opened?_last_put (h : List Step) (name value : String) :
    opened? (h ++ [.put name value]) h.length =
      if (lastValue (Text.fold name) h).isNone then some (name, value) else none := by
  simp [opened?, lastValue_concat, Step.removes, Step.value?]

theorem opened_concat (h : List Step) (step : Step) :
    opened (h ++ [step]) =
      (opened h).filterMap step.carry ++ (opened? (h ++ [step]) h.length).toList := by
  have hbefore : (List.range h.length).filterMap (opened? (h ++ [step])) =
      (List.range h.length).filterMap fun i => (opened? h i).bind step.carry :=
    List.filterMap_congr fun i hi => opened?_concat (List.mem_range.mp hi) step
  have hlast : [h.length].filterMap (opened? (h ++ [step])) =
      (opened? (h ++ [step]) h.length).toList := by
    cases hopened : opened? (h ++ [step]) h.length <;> simp [hopened]
  rw [opened, List.length_append, List.length_singleton, List.range_succ, List.filterMap_append,
    hbefore, hlast, opened, List.filterMap_filterMap]

/-- **Names stand in the order, and in the spelling, of their first insertion** since they were last
taken out, each with its value. -/
theorem entries_after (h : List Step) : (after h empty).entries = opened h := by
  induction h using List.reverseRecOn with
  | nil => rfl
  | append_singleton h step ih =>
    rw [after_concat, opened_concat, ← ih]
    cases step with
    | put name value =>
      rw [Step.carry_put, List.filterMap_eq_map, opened?_last_put, ← keyed?_after,
        ← get?_eq_keyed?, Step.apply]
      cases hknown : (after h empty).contains name with
      | true =>
        have hsome : ((after h empty).get? name).isNone = false := by
          rw [Option.isNone_eq_false_iff, ← contains_eq_isSome, hknown]
        simp [entries_insert_of_known hknown, hsome]
      | false =>
        have hnone := contains_eq_false_iff.mp hknown
        simp [entries_insert_of_new hknown, map_replace_of_absent (absent_of_new hknown), hnone]
    | drop name =>
      have hlast : opened? (h ++ [.drop name]) h.length = none := by simp [opened?]
      simp [Step.carry_drop, hlast, Step.apply, entries_erase]
    | clear =>
      have hlast : opened? (h ++ [.clear]) h.length = none := by simp [opened?]
      have hcarry : Step.clear.carry = fun _ => none := rfl
      simp [hcarry, hlast, Step.apply, empty, entries]

/-! ## Ordered maps -/

/-- The store as an ordered map, whose names are told apart by their spelling as well. -/
def toMap (s : Store) : List (String × String) :=
  s.entries.foldl (fun m e => Json.put e.1 e.2 m) []

theorem put_of_new {name : String} {m : List (String × String)} (h : name ∉ m.map (·.1))
    (value : String) : Json.put name value m = m ++ [(name, value)] := by
  induction m with
  | nil => rfl
  | cons e m ih =>
    rw [List.map_cons, List.mem_cons, not_or] at h
    rw [Json.put, if_neg (Ne.symm h.1), ih h.2, List.cons_append]

theorem foldl_put {pairs : List (String × String)} (m : List (String × String))
    (h : ((m ++ pairs).map (·.1)).Nodup) :
    pairs.foldl (fun m e => Json.put e.1 e.2 m) m = m ++ pairs := by
  induction pairs generalizing m with
  | nil => simp
  | cons e pairs ih =>
    have hnew : e.1 ∉ m.map (·.1) := by
      rw [List.map_append, List.nodup_append] at h
      exact fun he => h.2.2 _ he _ (by simp) rfl
    rw [List.foldl_cons, put_of_new hnew, ih _ (by simpa using h)]
    simp

/-- An ordered map lists what the store lists: names that differ up to case differ in spelling. -/
theorem toMap_eq_entries (s : Store) : s.toMap = s.entries := by
  have hnames : (s.entries.map (·.1)).Nodup := by
    have hfolds := s.distinct_entries
    rw [List.Nodup, List.pairwise_map] at hfolds ⊢
    exact hfolds.imp fun hne heq => hne (congrArg Text.fold heq)
  exact foldl_put [] hnames

/-- Pairs with distinct names, inserted in order, are the entries of the store. -/
theorem entries_ofList {pairs : List (String × String)}
    (h : (pairs.map fun e => Text.fold e.1).Nodup) : (ofList pairs).entries = pairs := by
  suffices ∀ s : Store, ((s.entries ++ pairs).map fun e => Text.fold e.1).Nodup →
      (pairs.foldl (fun s (e : String × String) => s.insert e.1 e.2) s).entries =
        s.entries ++ pairs from
    this empty h
  clear h
  induction pairs with
  | nil => simp
  | cons e pairs ih =>
    intro s hs
    have hnew : s.contains e.1 = false := by
      simp only [contains_eq_any, List.any_eq_false, Text.sameFold_iff]
      intro e' he' hfold
      rw [List.map_append, List.nodup_append] at hs
      exact hs.2.2 _ (List.mem_map_of_mem he') _ (List.mem_map_of_mem (by simp)) hfold
    have hinsert := entries_insert_of_new hnew e.2
    rw [List.foldl_cons, ih _ (by simpa [hinsert] using hs), hinsert]
    simp

theorem ofList_entries (s : Store) : ofList s.entries = s :=
  ext_entries (entries_ofList s.distinct_entries)

/-- The value of the last pair of a key. -/
def lastOf (key : String) (pairs : List (String × String)) : Option String :=
  ((pairs.filter fun e => Text.fold e.1 == key).getLast?).map (·.2)

/-- A pair with the value of the last pair of its key, if it is the first one of its key. -/
def condensed? (pairs : List (String × String)) (i : Nat) : Option (String × String) :=
  match pairs[i]? with
  | some (name, _) =>
    if (pairs.take i).all (fun e => !Text.sameFold e.1 name) then
      (lastOf (Text.fold name) pairs).map fun value => (name, value)
    else none
  | none => none

/-- The first pair of each key, in their order, each with the value of the last one. -/
def condensed (pairs : List (String × String)) : List (String × String) :=
  (List.range pairs.length).filterMap (condensed? pairs)

theorem lastValue_puts (key : String) (pairs : List (String × String)) :
    lastValue key (puts pairs) = lastOf key pairs := by
  induction pairs using List.reverseRecOn with
  | nil => rfl
  | append_singleton pairs e ih =>
    have hputs : puts (pairs ++ [e]) = puts pairs ++ [.put e.1 e.2] := by simp [puts]
    rw [hputs, lastValue_concat, ih]
    by_cases he : Text.fold e.1 = key
    · simp [Step.removes, Step.value?, lastOf, he]
    · simp [Step.removes, Step.value?, lastOf, he]

theorem isNone_lastOf (name : String) (pairs : List (String × String)) :
    (lastOf (Text.fold name) pairs).isNone = pairs.all fun e => !Text.sameFold e.1 name := by
  rw [Bool.eq_iff_iff, Option.isNone_iff_eq_none, lastOf, Option.map_eq_none_iff,
    List.getLast?_eq_none_iff, List.filter_eq_nil_iff, List.all_eq_true]
  simp only [Text.sameFold, Bool.not_eq_true, Bool.not_eq_true']

/-- Puts take no key out, so a put opens an entry exactly if it is the first one of its key. -/
theorem opened?_puts (pairs : List (String × String)) (i : Nat) :
    opened? (puts pairs) i = condensed? pairs i := by
  have hstep : (puts pairs)[i]? = pairs[i]?.map fun e => .put e.1 e.2 := by simp [puts]
  have htake : (puts pairs).take i = puts (pairs.take i) := by simp [puts]
  have hkept : ∀ key, ((puts pairs).drop (i + 1)).all (fun step => !step.removes key) = true := by
    intro key
    rw [List.all_eq_true]
    intro step hmem
    obtain ⟨e, -, rfl⟩ := List.mem_map.mp (List.mem_of_mem_drop hmem)
    rfl
  rw [opened?, condensed?, hstep]
  cases pairs[i]? with
  | none => rfl
  | some e =>
    simp only [Option.map_some, htake, lastValue_puts, isNone_lastOf, hkept, and_true]

/-- **Of the pairs of one key, a store keeps the place and the spelling of the first one and the
value of the last one.** -/
theorem entries_ofList_eq (pairs : List (String × String)) :
    (ofList pairs).entries = condensed pairs := by
  have hafter : ofList pairs = after (puts pairs) empty := (after_puts pairs empty).symm
  have hlength : (puts pairs).length = pairs.length := by simp [puts]
  rw [hafter, entries_after, opened, hlength, condensed]
  exact List.filterMap_congr fun i _ => opened?_puts pairs i

/-! ## Stores show their histories -/

/-- A store shows a history: all that can be asked of it is told from the history. -/
structure Shows (s : Store) (h : List Step) : Prop where
  /-- No two names agree up to case. -/
  distinct : s.entries.Pairwise fun e e' => Text.fold e.1 ≠ Text.fold e'.1
  /-- The size counts the entries. -/
  size : s.size = s.entries.length
  /-- The value of a name is the last one since the name was last taken out, in any spelling. -/
  get : ∀ name, s.get? name = lastValue (Text.fold name) h
  /-- A name has a value if the history leaves it with one. -/
  contains : ∀ name, s.contains name = (lastValue (Text.fold name) h).isSome
  /-- Giving a name a value tells the value that it had. -/
  set : ∀ name value, (s.set name value).1 = lastValue (Text.fold name) h
  /-- Taking a name out tells the value that it had. -/
  remove : ∀ name, (s.remove name).1 = lastValue (Text.fold name) h
  /-- Entries stand in the order and the spelling of their first insertion. -/
  entries : s.entries = opened h
  /-- Taking a name out keeps the others in their order. -/
  others : ∀ name, (s.remove name).2.entries =
    s.entries.filter fun e => Text.fold e.1 != Text.fold name
  /-- The store comes back from its ordered map. -/
  back : ofList s.toMap = s

/-- **A store shows its history**, whatever was done to it from the empty store on. And an ordered map
comes down to the first pair of each key, in their order, each with the value of the last one. -/
theorem run_shows (ops : List Op) :
    (run ops).Shows (history ops) ∧ ∀ pairs, (ofList pairs).entries = condensed pairs := by
  have hget : ∀ name, (run ops).get? name = lastValue (Text.fold name) (history ops) := by
    intro name
    rw [run_eq_after, get?_eq_keyed?, keyed?_after]
  refine ⟨⟨?_, size_eq _, hget, ?_, fun name _ => hget name, hget, ?_, entries_erase _, ?_⟩,
    entries_ofList_eq⟩
  · exact List.pairwise_map.mp (run ops).distinct_entries
  · intro name
    rw [contains_eq_isSome, hget]
  · rw [run_eq_after, entries_after]
  · rw [toMap_eq_entries, ofList_entries]

/-- A name that is taken out and put again comes last, in its new spelling; one that is only given a
new value does not. -/
example : (run [.set "Path" "a", .set "x" "1", .set "PATH" "b", .remove "X", .set "Y" "2",
    .set "X" "3"]).entries = [("Path", "b"), ("Y", "2"), ("X", "3")] := by
  decide

end CommandShell.Store
