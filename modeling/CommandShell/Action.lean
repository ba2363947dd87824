/-!
# Actions

An action runs on a state and ends with a result or an error; in both cases the state it leaves
behind is kept.

* `Action`        : the type, a monad;
* `Action.fail`, `Action.get`, `Action.modify` : errors and state;
* `Action.lift`   : a result or error as an action that leaves the state alone;
* `Action.within` : an action on a part of the state;
* `bind_of_ok`, `bind_of_error` : how an action goes on after a result and after an error.
-/

namespace CommandShell

/-- What runs on a state and ends with a result or an error. -/
def Action (σ ε α : Type) : Type := σ → Except ε α × σ

namespace Action

variable {σ τ ε δ α β : Type}

/-- Ends with a result. -/
protected def pure (a : α) : Action σ ε α := fun s => (.ok a, s)

/-- Goes on with the result, unless there is an error. -/
protected def bind (m : Action σ ε α) (f : α → Action σ ε β) : Action σ ε β := fun s =>
  match m s with
  | (.ok a, s') => f a s'
  | (.error e, s') => (.error e, s')

instance : Monad (Action σ ε) where
  pure := Action.pure
  bind := Action.bind

/-- Ends with an error. -/
def fail (e : ε) : Action σ ε α := fun s => (.error e, s)

/-- The state. -/
def get : Action σ ε σ := fun s => (.ok s, s)

/-- A function of the state. -/
def gets (f : σ → α) : Action σ ε α := fun s => (.ok (f s), s)

/-- Changes the state. -/
def modify (f : σ → σ) : Action σ ε Unit := fun s => (.ok (), f s)

/-- A result or an error that leaves the state alone. -/
def lift (r : Except ε α) : Action σ ε α := fun s => (r, s)

/-- Changes the error. -/
def mapError (f : ε → δ) (m : Action σ ε α) : Action σ δ α := fun s =>
  match m s with
  | (.ok a, s') => (.ok a, s')
  | (.error e, s') => (.error (f e), s')

/-- An action on the part of the state that `view` shows and `put` replaces. -/
def within (view : τ → σ) (put : σ → τ → τ) (m : Action σ ε α) : Action τ ε α := fun t =>
  match m (view t) with
  | (r, s') => (r, put s' t)

@[simp] theorem pure_apply (a : α) (s : σ) : (pure a : Action σ ε α) s = (.ok a, s) := rfl

theorem bind_apply (m : Action σ ε α) (f : α → Action σ ε β) (s : σ) :
    (m >>= f) s =
      match m s with
      | (.ok a, s') => f a s'
      | (.error e, s') => (.error e, s') := rfl

theorem bind_of_ok {m : Action σ ε α} {f : α → Action σ ε β} {s s' : σ} {a : α}
    (h : m s = (.ok a, s')) : (m >>= f) s = f a s' := by
  simp [bind_apply, h]

theorem bind_of_error {m : Action σ ε α} {f : α → Action σ ε β} {s s' : σ} {e : ε}
    (h : m s = (.error e, s')) : (m >>= f) s = (.error e, s') := by
  simp [bind_apply, h]

theorem id_map_eq (m : Action σ ε α) : id <$> m = m := by
  funext s
  show Action.bind m (fun a => Action.pure (id a)) s = m s
  unfold Action.bind
  rcases m s with ⟨r, s'⟩
  cases r <;> rfl

theorem bind_assoc_eq {γ : Type} (m : Action σ ε α) (f : α → Action σ ε β)
    (g : β → Action σ ε γ) : m >>= f >>= g = m >>= fun a => f a >>= g := by
  funext s
  show Action.bind (Action.bind m f) g s = Action.bind m (fun a => Action.bind (f a) g) s
  unfold Action.bind
  rcases m s with ⟨r, s'⟩
  cases r <;> rfl

instance : LawfulMonad (Action σ ε) :=
  LawfulMonad.mk' (Action σ ε) id_map_eq (fun _ _ => rfl) bind_assoc_eq

end Action

end CommandShell
