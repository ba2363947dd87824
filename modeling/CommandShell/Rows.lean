/-!
# Rows under keys

A table lists rows under keys, in the order in which the keys came.  A key that is there already keeps
its place, so no key stands twice.

* `Rows.upsert` : changes the row of a key, or puts a new one behind all others;
* `Rows.remove` : takes the row of a key out; the others keep their order;
* `Rows.nodup_upsert`, `Rows.nodup_remove` : no key stands twice;
* `Rows.lookup_upsert` : what stands under a key after a change.

The row of a key is `List.lookup`.
-/

namespace CommandShell

/-- Rows under keys. -/
abbrev Rows (α : Type) := List (String × α)

namespace Rows

variable {α : Type}

/-- The keys, in order. -/
def keys (rows : Rows α) : List String := rows.map (·.1)

/-- Changes the row of a key, or puts a new one behind all others. -/
def upsert (key : String) (change : α → α) (new : α) : Rows α → Rows α
  | [] => [(key, new)]
  | (k, a) :: rest =>
    if k = key then (k, change a) :: rest else (k, a) :: upsert key change new rest

/-- Takes the row of a key out. -/
def remove (key : String) : Rows α → Rows α
  | [] => []
  | (k, a) :: rest => if k = key then rest else (k, a) :: remove key rest

variable {key : String} {change : α → α} {new : α} {rows : Rows α}

theorem keys_cons (row : String × α) (rows : Rows α) : keys (row :: rows) = row.1 :: keys rows := rfl

theorem keys_upsert (key : String) (change : α → α) (new : α) (rows : Rows α) :
    keys (upsert key change new rows) = if key ∈ keys rows then keys rows else keys rows ++ [key] := by
  induction rows with
  | nil => rfl
  | cons row rest ih =>
    rw [upsert]
    by_cases hk : row.1 = key
    · simp [hk, keys_cons]
    · rw [if_neg hk, keys_cons, keys_cons, ih]
      by_cases hmem : key ∈ keys rest
      · simp [hmem]
      · simp [hmem, Ne.symm hk]

theorem nodup_upsert (h : (keys rows).Nodup) : (keys (upsert key change new rows)).Nodup := by
  rw [keys_upsert]
  split
  · exact h
  · rename_i hnew
    rw [List.nodup_append]
    refine ⟨h, by simp, ?_⟩
    intro k hk k' hk' heq
    rw [List.mem_singleton] at hk'
    exact hnew (hk' ▸ heq ▸ hk)

/-- A row after a change is an old one, the new one, or a changed one. -/
theorem mem_upsert {row : String × α} (h : row ∈ upsert key change new rows) :
    row ∈ rows ∨ row = (key, new) ∨ ∃ a, (key, a) ∈ rows ∧ row = (key, change a) := by
  induction rows with
  | nil => exact .inr (.inl (List.mem_singleton.mp h))
  | cons first rest ih =>
    obtain ⟨k, a⟩ := first
    rw [upsert] at h
    split at h
    · rename_i hk
      subst hk
      rcases List.mem_cons.mp h with rfl | hrest
      · exact .inr (.inr ⟨a, List.mem_cons_self, rfl⟩)
      · exact .inl (List.mem_cons_of_mem _ hrest)
    · rcases List.mem_cons.mp h with rfl | hrest
      · exact .inl List.mem_cons_self
      · rcases ih hrest with hold | hnew | ⟨b, hb, heq⟩
        · exact .inl (List.mem_cons_of_mem _ hold)
        · exact .inr (.inl hnew)
        · exact .inr (.inr ⟨b, List.mem_cons_of_mem _ hb, heq⟩)

/-- What stands under a key after a change of the row of another one or of its own. -/
theorem lookup_upsert (key : String) (change : α → α) (new : α) (rows : Rows α) (k : String) :
    (upsert key change new rows).lookup k =
      if k = key then some ((rows.lookup key).elim new change) else rows.lookup k := by
  induction rows with
  | nil =>
    by_cases hk : k = key
    · simp [upsert, hk]
    · simp [upsert, List.lookup_cons, beq_false_of_ne hk, hk]
  | cons row rest ih =>
    obtain ⟨k', a⟩ := row
    rw [upsert]
    by_cases hown : k' = key
    · subst hown
      by_cases hk : k = k'
      · simp [hk]
      · simp [List.lookup_cons, beq_false_of_ne hk, hk]
    · rw [if_neg hown]
      by_cases hk : k = k'
      · subst hk
        simp [hown]
      · simp [List.lookup_cons, beq_false_of_ne hk, beq_false_of_ne (Ne.symm hown), ih]

theorem remove_sublist (key : String) (rows : Rows α) : (remove key rows).Sublist rows := by
  induction rows with
  | nil => exact .slnil
  | cons row rest ih =>
    obtain ⟨k, a⟩ := row
    rw [remove]
    split
    · exact .cons _ (List.Sublist.refl rest)
    · exact ih.cons_cons _

theorem nodup_remove (h : (keys rows).Nodup) : (keys (remove key rows)).Nodup :=
  h.sublist ((remove_sublist key rows).map _)

end Rows

end CommandShell
