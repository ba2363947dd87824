import CommandShell.Toml.Value

/-!
# TOML: building tables

The lines of a document build one table.  A table is defined once: by a header, by dotted keys, or
as an inline table; a table that only leads to another one may still be defined later.

* `Toml.Table.update`    : changes the table at the end of a list of keys;
* `Toml.Table.addEntry`  : what a line `key = value` does;
* `Toml.Table.addTable`, `Toml.Table.addArrayTable` : what a header does.
-/

namespace CommandShell.Toml

mutual

/-- What a key of a table under construction leads to. -/
inductive Node where
  | value (v : Value)
  | table (t : Table)
  /-- The tables of an array, the last one first. -/
  | tables (last : Table) (before : List Table)

/-- A table under construction. -/
inductive Table where
  /-- `defined` tables have a header or are the document itself; `dotted` ones come from dotted
  keys. -/
  | mk (defined dotted : Bool) (entries : List (String × Node))

end

namespace Table

/-- A table with a header. -/
def isDefined : Table → Bool
  | mk d _ _ => d

/-- A table that dotted keys made. -/
def isDotted : Table → Bool
  | mk _ d _ => d

/-- The keys of a table. -/
def entries : Table → List (String × Node)
  | mk _ _ es => es

/-- The table with other keys. -/
def withEntries (t : Table) (es : List (String × Node)) : Table :=
  mk t.isDefined t.isDotted es

/-- What a key leads to. -/
def get? (t : Table) (key : String) : Option Node :=
  t.entries.lookup key

/-- Sets a key in a list of keys. -/
def putNode (key : String) (n : Node) : List (String × Node) → List (String × Node)
  | [] => [(key, n)]
  | (k, m) :: rest => if k = key then (k, n) :: rest else (k, m) :: putNode key n rest

/-- Sets a key. -/
def put (t : Table) (key : String) (n : Node) : Table :=
  t.withEntries (putNode key n t.entries)

/-- The empty document. -/
def document : Table := mk true false []

/-- Changes the table at the end of a list of keys, and makes the tables on the way that are
missing. Dotted keys lead through no table that has a header. -/
def update (dotted : Bool) : List String → (Table → Option Table) → Table → Option Table
  | [], f, t => f t
  | key :: keys, f, t =>
    match t.get? key with
    | none => (update dotted keys f (mk false dotted [])).map fun t' => t.put key (.table t')
    | some (.value _) => none
    | some (.tables last before) =>
      (update dotted keys f last).map fun t' => t.put key (.tables t' before)
    | some (.table inner) =>
      if dotted && inner.isDefined then none
      else (update dotted keys f inner).map fun t' => t.put key (.table t')

/-- Adds a new key to a table that dotted keys made, or that they did not, as `dotted` says. -/
def addKey (dotted : Bool) (key : String) (v : Value) (t : Table) : Option Table :=
  if t.isDotted != dotted || (t.get? key).isSome then none
  else some (t.put key (.value v))

/-- Adds a key, or dotted keys, with a value. -/
def addEntry (keys : List String) (v : Value) (t : Table) : Option Table :=
  match keys.reverse with
  | [] => none
  | [key] => addKey false key v t
  | key :: before => update true before.reverse (addKey true key v) t

/-- Defines the table of a key: it is new, or so far only led to other tables. -/
def define (key : String) (t : Table) : Option Table :=
  match t.get? key with
  | none => some (t.put key (.table (mk true false [])))
  | some (.table inner) =>
    if inner.isDefined || inner.isDotted then none
    else some (t.put key (.table (mk true false inner.entries)))
  | some _ => none

/-- Adds a table to the array of tables of a key. -/
def defineNext (key : String) (t : Table) : Option Table :=
  match t.get? key with
  | none => some (t.put key (.tables (mk true false []) []))
  | some (.tables last before) =>
    some (t.put key (.tables (mk true false []) (last :: before)))
  | some _ => none

/-- The header of a table. -/
def addTable (keys : List String) (t : Table) : Option Table :=
  match keys.reverse with
  | [] => none
  | key :: before => update false before.reverse (define key) t

/-- The header of the next table of an array. -/
def addArrayTable (keys : List String) (t : Table) : Option Table :=
  match keys.reverse with
  | [] => none
  | key :: before => update false before.reverse (defineNext key) t

/-- Entries added one after the other. -/
def addEntries : List (List String × Value) → Table → Option Table
  | [], t => some t
  | (keys, v) :: rest, t =>
    match addEntry keys v t with
    | none => none
    | some t' => addEntries rest t'

end Table

mutual

/-- What a key leads to, as a value. -/
def Node.toValue : Node → Value
  | .value v => v
  | .table t => t.toValue
  | .tables last before => .array (toValues before [last.toValue])

/-- A table as a value. -/
def Table.toValue : Table → Value
  | .mk _ _ es => .table (toEntries es)

/-- Tables as values before further ones, the last table first. -/
def toValues : List Table → List Value → List Value
  | [], acc => acc
  | t :: ts, acc => toValues ts (t.toValue :: acc)

/-- Keys with values. -/
def toEntries : List (String × Node) → List (String × Value)
  | [] => []
  | (k, n) :: rest => (k, n.toValue) :: toEntries rest

end

end CommandShell.Toml
