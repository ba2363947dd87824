import CommandShell.Rows
import CommandShell.Text.Class
import CommandShell.Text.Json

/-!
# Stores of variables

A store lists names and values in the order of their first insertion.  Names that differ only in
the case of ASCII letters are one name, which keeps the spelling of its insertion: the spelling and
the value stand under the name in lower case.

* `Store.get?`, `Store.contains`, `Store.insert`, `Store.erase`;
* `Store.set`, `Store.remove` : the last two, with the value that the name had;
* `Store.entries` : names and values in order;
* `Store.ofList` : pairs inserted in order;
* `Store.ext_entries` : stores with the same entries are equal.
-/

namespace CommandShell

/-- Names with their values, each under its key, in order of insertion. -/
structure Store where
  rows : Rows (String × String)
  /-- The key of a name is the name in lower case. -/
  keyed : ∀ row ∈ rows, row.1 = Text.fold row.2.1
  /-- No two names agree up to case. -/
  distinct : rows.keys.Nodup

namespace Store

/-- Names and values. -/
def entries (s : Store) : List (String × String) := s.rows.map (·.2)

theorem rows_eq (s : Store) : s.rows = s.entries.map fun e => (Text.fold e.1, e) := by
  have hself : ∀ row ∈ s.rows, (Text.fold row.2.1, row.2) = id row := by
    intro row hrow
    rw [← s.keyed row hrow, id]
  rw [entries, List.map_map]
  exact ((List.map_congr_left hself).trans (List.map_id _)).symm

theorem ext_entries {s t : Store} (h : s.entries = t.entries) : s = t := by
  have hrows : s.rows = t.rows := by rw [rows_eq, rows_eq, h]
  cases s; cases t; cases hrows; rfl

instance : DecidableEq Store := fun s t =>
  decidable_of_iff (s.entries = t.entries) ⟨ext_entries, fun h => h ▸ rfl⟩

/-- The store without names. -/
def empty : Store := ⟨[], by simp, by simp [Rows.keys]⟩

instance : Inhabited Store := ⟨empty⟩

/-- The value of a name. -/
def get? (s : Store) (name : String) : Option String :=
  (s.rows.lookup (Text.fold name)).map (·.2)

/-- The name has a value. -/
def contains (s : Store) (name : String) : Bool :=
  (s.rows.lookup (Text.fold name)).isSome

/-- The number of names. -/
def size (s : Store) : Nat := s.rows.length

/-- Gives a name a value. A known name keeps its place and spelling, a new one comes last. -/
def insert (s : Store) (name value : String) : Store where
  rows := s.rows.upsert (Text.fold name) (fun e => (e.1, value)) (name, value)
  keyed := by
    intro row hrow
    rcases Rows.mem_upsert hrow with hold | rfl | ⟨e, he, rfl⟩
    · exact s.keyed row hold
    · rfl
    · exact s.keyed (_, e) he
  distinct := Rows.nodup_upsert s.distinct

/-- Takes a name out; the others keep their order. -/
def erase (s : Store) (name : String) : Store where
  rows := s.rows.remove (Text.fold name)
  keyed row hrow := s.keyed row ((Rows.remove_sublist _ _).mem hrow)
  distinct := Rows.nodup_remove s.distinct

/-- Gives a name a value, and tells the value that it had. -/
def set (s : Store) (name value : String) : Option String × Store :=
  (s.get? name, s.insert name value)

/-- Takes a name out, and tells the value that it had. -/
def remove (s : Store) (name : String) : Option String × Store :=
  (s.get? name, s.erase name)

/-- Pairs inserted in order. -/
def ofList (pairs : List (String × String)) : Store :=
  pairs.foldl (fun s (name, value) => s.insert name value) empty

/-- The store as a JSON object. -/
def toJson (s : Store) : String :=
  Json.object (s.entries.map fun (k, v) => (k, Json.quote v))

/-- The store that a JSON object of strings lists. -/
def ofJson? (text : String) : Option Store :=
  (Json.readStrings? text).map ofList

end Store

end CommandShell
