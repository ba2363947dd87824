import CommandShell.Proofs.Segment.Temporary
import CommandShell.Proofs.Segment.Unknown
import CommandShell.Proofs.Session.Backing

/-!
# The switches of a session can always be read

A session starts with a value for each of its switches.  As temporary variables stay, so does it; and
as evaluation reports a variable as unknown only where the store lacks it, no line can end with the
report that a switch is unknown.

* `Session.after_names`     : the temporary names of a session stay;
* `Session.exec_ne_unknown` : no line reports a temporary variable as unknown that was there before it;
* `Session.contains_switch` : the switches are there from the start on;
* `Session.temporary_variables_stay` : temporary variables stay, and the switches can always be read.
-/

namespace CommandShell.Session

variable {ctx : Context} {options : Options}

theorem names_prefix_withDefault (value : String) (store : Store) (name : String) :
    store.names <+: (withDefault value store name).names := by
  unfold withDefault
  split
  · exact List.prefix_refl _
  · exact store.names_prefix_insert name value

theorem contains_withDefault (value : String) (store : Store) (name : String) :
    (withDefault value store name).contains name = true := by
  unfold withDefault
  split
  · assumption
  · exact store.contains_insert name value

/-- Defaults that are given in turn keep what is there, and give each name a value. -/
theorem foldl_withDefault (value : String) (names : List String) (store : Store) :
    store.names <+: (names.foldl (withDefault value) store).names ∧
      ∀ name ∈ names, (names.foldl (withDefault value) store).contains name = true := by
  induction names generalizing store with
  | nil => exact ⟨List.prefix_refl _, by simp⟩
  | cons first rest ih =>
    obtain ⟨hkept, hgiven⟩ := ih (withDefault value store first)
    refine ⟨(names_prefix_withDefault value store first).trans hkept, ?_⟩
    intro name hname
    rcases List.mem_cons.mp hname with rfl | hname
    · exact Store.contains_of_prefix hkept (contains_withDefault value store name)
    · exact hgiven name hname

/-- **The temporary names of a session stay**, whatever its lines do. -/
theorem after_names (ctx : Context) (options : Options) (lines : List String) (s : State) :
    s.config.temporary.names <+: (after ctx options lines s).config.temporary.names := by
  induction lines generalizing s with
  | nil => exact List.prefix_refl _
  | cons line rest ih =>
    exact (exec_replays ctx options line s).temporary_names.trans (ih _)

/-- A line that cannot be evaluated ends as its segment does. -/
theorem eval_of_exec_failed {line : String} {s s' : State} {e : EvalError}
    (h : exec ctx options line s = (.error (.failed e), s')) :
    ∃ segment : Segment, segment.eval ctx .absent false s = (.error e, s') := by
  by_cases hblank : Text.trim line = ""
  · rw [exec_of_blank hblank] at h
    cases h
  rw [exec_of_text hblank] at h
  split at h
  · cases h
  split at h
  · cases h
  split at h
  · cases h
  · rename_i heval
    cases h
    exact ⟨_, heval⟩

/-- A temporary variable that is there can be read. -/
theorem get_of_contains {c : Config} {name : String} (h : c.temporary.contains name = true)
    (env : Environment) : ∃ v, Variable.get c env .temporary name = .ok (.scalar v) := by
  rw [Store.contains_eq_isSome, Option.isSome_iff_exists] at h
  obtain ⟨v, hv⟩ := h
  exact ⟨v, by simp only [Variable.get, Variable.stored, hv]⟩

/-- **No line ends with the report that a temporary variable is unknown that was there before it.** -/
theorem exec_ne_unknown {line name : String} {s : State}
    (h : s.config.temporary.contains name = true) :
    (exec ctx options line s).1 ≠ .error (.failed (.unknownVariable .temporary name)) := by
  rcases hexec : exec ctx options line s with ⟨r, s'⟩
  rintro rfl
  obtain ⟨segment, heval⟩ := eval_of_exec_failed hexec
  have hnames := segment.eval_temporary_names ctx .absent false s
  have hreport := segment.reports_eval ctx .absent false s .temporary name
  rw [heval] at hnames hreport
  obtain ⟨v, hv⟩ := get_of_contains (Store.contains_of_prefix hnames h) s'.machine.env
  rw [hreport rfl] at hv
  cases hv

/-- The switches are there from the start of a session on. -/
theorem contains_switch (c : Config) (m : Machine) {switch name : String}
    (hswitch : switch ∈ [printTokensName, printTreeName, noExecuteName])
    (hname : Text.fold name = Text.fold switch) :
    (start c m).config.temporary.contains name = true := by
  have hgiven := (foldl_withDefault "false" [printTokensName, printTreeName, noExecuteName]
    c.temporary).2 switch hswitch
  obtain ⟨n, hn, hfold⟩ := Store.contains_iff_names.mp hgiven
  exact Store.contains_iff_names.mpr ⟨n, hn, hfold.trans hname.symm⟩

/-- **Temporary variables stay.**
* Evaluation of any tree, from any state and however it ends, keeps the names of the temporary variables
  that are there, with their spelling and their order; new ones come behind them.
* So, whatever the lines of a session do, each of its switches has a value between them, in any case of
  its letters, and no line ends with the report that it has none. -/
theorem temporary_variables_stay :
    (∀ (ctx : Context) (t : Segment) (input : Value) (capture : Bool) (s : State),
      s.config.temporary.names <+: (t.eval ctx input capture s).2.config.temporary.names) ∧
    ∀ (ctx : Context) (options : Options) (lines : List String) (c : Config) (m : Machine)
      (switch name : String), switch ∈ [printTokensName, printTreeName, noExecuteName] →
      Text.fold name = Text.fold switch →
      (∃ v, Variable.get (after ctx options lines (start c m)).config
        (after ctx options lines (start c m)).machine.env .temporary name = .ok (.scalar v)) ∧
      ∀ line, (exec ctx options line (after ctx options lines (start c m))).1 ≠
        .error (.failed (.unknownVariable .temporary name)) := by
  refine ⟨Segment.eval_temporary_names, ?_⟩
  intro ctx options lines c m switch name hswitch hname
  have hthere : (after ctx options lines (start c m)).config.temporary.contains name = true :=
    Store.contains_of_prefix (after_names ctx options lines (start c m))
      (contains_switch c m hswitch hname)
  exact ⟨get_of_contains hthere _, fun line => exec_ne_unknown hthere⟩

/-- A session in which no line can be kept from running. -/
def alwaysRuns : Context :=
  ⟨Builtin.all, fun _ => none, .ofList [(noExecuteName, fun _ => .revert)], false⟩

/-- Sets a variable, tries to keep lines from running, and puts the defaults back. -/
def unsettlingLines : List String := ["echo 1 | $x", "echo true | $__no_execute", "reset-config"]

theorem temporary_variables_stay_unsettled :
    noExecuteName ∈ [printTokensName, printTreeName, noExecuteName] ∧
      Text.fold "__No_Execute" = Text.fold noExecuteName ∧
      (after alwaysRuns {} unsettlingLines (start {} besideMachine)).config.temporary.entries =
        [(printTokensName, "false"), (printTreeName, "false"), (noExecuteName, "false"), ("x", "1")] ∧
      ∀ line, (exec alwaysRuns {} line
        (after alwaysRuns {} unsettlingLines (start {} besideMachine))).1 ≠
          .error (.failed (.unknownVariable .temporary "__No_Execute")) := by
  have hswitch : noExecuteName ∈ [printTokensName, printTreeName, noExecuteName] := by simp
  have hname : Text.fold "__No_Execute" = Text.fold noExecuteName := by decide +kernel
  exact ⟨hswitch, hname, by decide +kernel, (temporary_variables_stay.2 alwaysRuns {} unsettlingLines {}
    besideMachine noExecuteName "__No_Execute" hswitch hname).2⟩

end CommandShell.Session
