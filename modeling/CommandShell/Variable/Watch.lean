import CommandShell.Rows
import CommandShell.Variable.Scope

/-!
# Watchers of variables

A watcher is asked about each write to a name, in any case, and may have it taken back.

* `Watchers.watch` : registers a watcher under a name;
* `Watchers.named` : the watchers of a name, in the order of their registration;
* `Watchers.ask`   : what each of them sees, and whether the write is taken back.
-/

namespace CommandShell

/-- A write, as a watcher sees it: the value before and the one that was written, and whether an
earlier watcher has had the write taken back. -/
structure Change where
  scope : Scope
  name : String
  old : Option String
  new : String
  reverted : Bool
  deriving DecidableEq, Repr

/-- What a watcher asks for. -/
inductive Verdict where
  | keep
  | revert
  deriving DecidableEq, Repr

/-- Decides on a write. Watchers have no memory: the verdict depends on the change alone. -/
abbrev Watcher := Change → Verdict

/-- The watchers of each name, in the order of their registration, under the name in lower case. -/
abbrev Watchers := Rows (List Watcher)

namespace Watchers

/-- Registers a watcher of a name. -/
def watch (ws : Watchers) (name : String) (w : Watcher) : Watchers :=
  Rows.upsert (Text.fold name) (· ++ [w]) [w] ws

/-- Watchers that are registered one after the other. -/
def ofList (registered : List (String × Watcher)) : Watchers :=
  registered.foldl (fun ws (name, w) => ws.watch name w) []

/-- The watchers of a name. -/
def named (ws : Watchers) (name : String) : List Watcher :=
  (ws.lookup (Text.fold name)).getD []

/-- Asks watchers in turn: the changes that they see, and whether one of them took the write
back. -/
def poll : List Watcher → Change → List Change × Bool
  | [], c => ([], c.reverted)
  | w :: ws, c =>
    let (seen, reverted) := poll ws { c with reverted := c.reverted || w c == .revert }
    (c :: seen, reverted)

/-- Asks the watchers of the name of a change. -/
def ask (ws : Watchers) (c : Change) : List Change × Bool :=
  poll (ws.named c.name) c

end Watchers

end CommandShell
