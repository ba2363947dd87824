import CommandShell.Proofs.Segment.Saving
import Mathlib.Data.List.Nodup

/-!
# Settings as lenses

A setting can be read and written by its name.  Reading gives what was written, up to its normal form;
a second write hides the first; and writing back what was read changes nothing, as long as the text
tells all that the setting holds.  It always does for settings that began as the defaults and were
changed by name only.

* `Property.Faithful`            : the text of a setting tells what it holds;
* `Property.write_write`         : a second write hides the first one;
* `Property.write_read_iff`      : writing back changes nothing exactly for such settings;
* `Property.find?_eq_some_iff`   : the names of a setting;
* `Edit`, `Edit.after`           : changes by name, and the state after them;
* `Variable.settings_are_lenses` : settings that were changed by name are lenses.
-/

namespace CommandShell

/-! ## Laws of one setting -/

namespace Property

variable {p : Property} {value : String} {s s' : Settings}

/-- The text that a setting is read as tells what it holds. A scope has to be known, and names of
commands have to be entries of a list. -/
def Faithful (p : Property) (s : Settings) : Prop :=
  match p with
  | defaultScope => s.HasKnownScope
  | disabledCommands => ∀ n ∈ s.disabledCommands, IsListed n
  | useTilde | disableAll | color _ => True

/-- **A setting that was written tells what it holds**, whatever it held before. -/
theorem faithful_of_write (h : p.write value s = .ok s') : p.Faithful s' := by
  cases written_of_write h with
  | useTilde | disableAll | color slot => trivial
  | noScope hempty =>
    intro name hname
    cases hname
  | scope hknown =>
    intro name hname
    obtain rfl := Option.some.inj hname
    exact hknown
  | disabledCommands =>
    intro n hn
    exact isListed_of_mem_readNames hn

theorem slot_write_write (slot : ColorSlot) (v w : String) (c : ColorScheme) :
    slot.write w (slot.write v c) = slot.write w c := by
  cases slot <;> rfl

theorem slot_write_read (slot : ColorSlot) (c : ColorScheme) : slot.write (slot.read c) c = c := by
  cases slot <;> rfl

/-- **A second write hides the first one.** -/
theorem write_write (h : p.write value s = .ok s') (w : String) : p.write w s' = p.write w s := by
  cases written_of_write h with
  | useTilde | noScope | scope | disableAll | disabledCommands =>
    unfold write
    dsimp only
  | color slot =>
    unfold write
    dsimp only
    rw [slot_write_write]

/-- A default scope that is known is written back as it is. -/
theorem write_defaultScope (hs : s.HasKnownScope) :
    write .defaultScope (s.defaultScope.getD "") s = .ok s := by
  unfold write
  dsimp only
  cases hscope : s.defaultScope with
  | none =>
    have hempty : Text.trim ((none : Option String).getD "") = "" := by decide
    have hsame : { s with defaultScope := none } = s := by rw [← hscope]
    rw [if_pos hempty, hsame]
  | some name =>
    have hknown := hs name hscope
    have hfilled : name ≠ "" := by
      rintro rfl
      have hnone : Scope.ofName? "" = none := by decide
      rw [hnone] at hknown
      cases hknown
    have hsame : { s with defaultScope := some name } = s := by rw [← hscope]
    rw [Option.getD_some, Scope.trim_of_ofName? hknown, if_neg hfilled, if_pos hknown, hsame]

/-- **Writing back what was read changes nothing** exactly if the text tells what the setting holds. -/
theorem write_read_iff : p.write (p.read s) s = .ok s ↔ p.Faithful s := by
  constructor
  · exact faithful_of_write
  intro hs
  cases p with
  | useTilde | disableAll =>
    unfold write
    dsimp only [read]
    rw [readFlag?_showFlag]
  | defaultScope => exact write_defaultScope hs
  | disabledCommands =>
    unfold write
    dsimp only [read]
    rw [readNames_join hs]
  | color slot =>
    unfold write
    dsimp only [read]
    rw [slot_write_read]

theorem mem_all (p : Property) : p ∈ all := by
  cases p with
  | useTilde | defaultScope | disableAll | disabledCommands => decide
  | color slot => cases slot <;> decide

/-- No two paths agree up to case. -/
theorem paths_distinct : (all.map fun p => Text.fold p.path).Nodup := by
  decide +kernel

theorem fold_of_find? {name : String} (h : find? name = some p) :
    Text.fold p.path = Text.fold name := by
  have hsame : Text.sameFold p.path name = true :=
    List.find?_some (p := fun property : Property => Text.sameFold property.path name) h
  exact Text.sameFold_iff.mp hsame

/-- **The names of a setting** are its path in any case. -/
theorem find?_eq_some_iff {name : String} :
    find? name = some p ↔ Text.fold p.path = Text.fold name := by
  constructor
  · exact fold_of_find?
  · intro h
    cases hfind : find? name with
    | none =>
      have hother := List.find?_eq_none.mp hfind p (mem_all p)
      exact absurd (Text.sameFold_iff.mpr h) hother
    | some q =>
      have hfold : Text.fold q.path = Text.fold p.path := (fold_of_find? hfind).trans h.symm
      rw [List.inj_on_of_nodup_map paths_distinct (mem_all q) (mem_all p) hfold]

end Property

theorem Settings.Normal.faithful {s : Settings} (hs : s.Normal) (p : Property) : p.Faithful s := by
  cases p with
  | defaultScope => exact hs.known
  | disabledCommands => exact hs.listed
  | useTilde | disableAll | color slot => trivial

/-! ## Changes by name -/

/-- What is done to settings by name. -/
inductive Edit where
  /-- A text is written, whether the setting takes it or not. -/
  | write (name value : String)
  /-- The defaults are put back. -/
  | reset

namespace Edit

/-- The state that a change leaves behind. -/
def apply : Edit → State → State
  | write name value, s => (Variable.write .config name (some value) s).2
  | reset, s => (Builtin.runResetConfig s).2

/-- The state behind some changes. -/
def after (edits : List Edit) (s : State) : State := edits.foldl (fun s edit => edit.apply s) s

end Edit

namespace Variable

variable {name value : String} {p : Property} {s s' : State}

theorem put_config {c : Config} {settings : Settings} (hname : Property.find? name = some p)
    (h : p.write value c.settings = .ok settings) (env : Environment) :
    put c env .config name (some value) = .ok ({ c with settings := settings }, env) := by
  simp only [put, hname, h]

theorem put_config_refused {c : Config} {refusal : Property.Refusal}
    (hname : Property.find? name = some p) (h : p.write value c.settings = .error refusal) (env : Environment) :
    put c env .config name (some value) = .error (.invalidSetting refusal) := by
  simp only [put, hname, h]

/-- **What a write to a setting does**: the setting takes the text, or nothing changes. -/
theorem write_config (hname : Property.find? name = some p) (value : String) (s : State) :
    write .config name (some value) s =
      match p.write value s.config.settings with
      | .ok settings => (.ok (), { s with config := { s.config with settings := settings } })
      | .error refusal => (.error (.invalidSetting refusal), s) := by
  cases hwrite : p.write value s.config.settings with
  | ok settings => exact write_of_ok (put_config hname hwrite _)
  | error refusal => exact write_of_error (put_config_refused hname hwrite _)

theorem get_config (hname : Property.find? name = some p) (c : Config) (env : Environment) :
    get c env .config name = .ok (.scalar (p.read c.settings)) := by
  simp only [get, hname]

/-- A write to a setting that was taken. -/
theorem write_config_ok (hname : Property.find? name = some p)
    (h : write .config name (some value) s = (.ok (), s')) :
    p.write value s.config.settings = .ok s'.config.settings ∧
      s' = { s with config := { s.config with settings := s'.config.settings } } := by
  rw [write_config hname] at h
  split at h
  · cases h
    exact ⟨‹_›, rfl⟩
  · cases h

/-- A setting of another name is read as before. -/
theorem get_config_other (hname : Property.find? name = some p)
    (h : write .config name (some value) s = (.ok (), s')) {other : String}
    (hother : Property.find? other ≠ some p) :
    get s'.config s'.machine.env .config other = get s.config s.machine.env .config other := by
  obtain ⟨hwrite, -⟩ := write_config_ok hname h
  cases hq : Property.find? other with
  | none => simp only [get, hq]
  | some q =>
    have hne : q ≠ p := by
      rintro rfl
      exact hother hq
    rw [get_config hq, get_config hq, Property.read_write_of_ne hwrite hne]

end Variable

namespace Edit

/-- One change leaves normal settings behind. -/
theorem apply_normal (edit : Edit) {s : State} (hs : s.config.settings.Normal) :
    (edit.apply s).config.settings.Normal := by
  cases edit with
  | write name value =>
    rw [apply]
    rcases hput : Variable.put s.config s.machine.env .config name (some value) with e | ⟨c, env⟩
    · rw [Variable.write_of_error hput]
      exact hs
    · rw [Variable.write_of_ok hput]
      exact (Variable.put_keeps hput).normal hs
  | reset =>
    -- Whether the defaults can be saved or not, they are put back before.
    have hcleared : (Builtin.runResetConfig s).2.config = s.config.cleared := by
      rw [Builtin.runResetConfig_apply (Prod.eta _).symm]
      exact Variable.saveConfig_config { s with config := s.config.cleared }
    rw [apply, hcleared]
    exact Settings.normal_defaults

/-- **Settings stay normal** through any changes by name. -/
theorem after_normal (edits : List Edit) {s : State} (hs : s.config.settings.Normal) :
    (after edits s).config.settings.Normal := by
  induction edits generalizing s with
  | nil => exact hs
  | cons edit edits ih => exact ih (edit.apply_normal hs)

end Edit

namespace Variable

/-- **Settings that were changed by name are lenses.** Start from the defaults, make any changes by name,
whether they are taken or not, and take any setting; its path is one of the names that lead to it.
* Writing back the text that it is read as is taken and changes nothing.
* A write that is not taken changes nothing.
* After a write that is taken, the setting is read as the normal form of the text, and writing the
  normal form changes nothing. Every other setting is read as before, and apart from settings the
  state is as before, with both stores and the file behind the configuration. -/
theorem settings_are_lenses (edits : List Edit) {start : State} (hstart : start.config = {})
    (p : Property) :
    Property.find? p.path = some p ∧
    ∀ name, Property.find? name = some p →
      let s := Edit.after edits start
      (∃ text, get s.config s.machine.env .config name = .ok (.scalar text) ∧
        write .config name (some text) s = (.ok (), s)) ∧
      ∀ (value : String) (s' : State),
        (∀ e, write .config name (some value) s = (.error e, s') → s' = s) ∧
        (write .config name (some value) s = (.ok (), s') →
          get s'.config s'.machine.env .config name = .ok (.scalar (p.normal value)) ∧
          write .config name (some (p.normal value)) s' = (.ok (), s') ∧
          (∀ other, Property.find? other ≠ some p →
            get s'.config s'.machine.env .config other =
              get s.config s.machine.env .config other) ∧
          s' = { s with config := { s.config with settings := s'.config.settings } }) := by
  refine ⟨Property.find?_eq_some_iff.mpr rfl, ?_⟩
  intro name hname s
  have hdefaults : start.config.settings.Normal := by
    rw [hstart]
    exact Settings.normal_defaults
  have hnormal : s.config.settings.Normal := Edit.after_normal edits hdefaults
  refine ⟨⟨p.read s.config.settings, get_config hname _ _, ?_⟩, fun value s' => ⟨?_, ?_⟩⟩
  · rw [write_config hname, Property.write_read_iff.mpr (hnormal.faithful p)]
  · intro e h
    rw [write_config hname] at h
    split at h
    · cases h
    · cases h
      rfl
  · intro h
    obtain ⟨hwrite, hkept⟩ := write_config_ok hname h
    have hread : p.read s'.config.settings = p.normal value := Property.read_write hwrite
    refine ⟨?_, ?_, fun other hother => get_config_other hname h hother, hkept⟩
    · rw [get_config hname, hread]
    · have hagain := Property.write_read_iff.mpr (Property.faithful_of_write hwrite)
      rw [hread] at hagain
      rw [write_config hname, hagain]

/-- The defaults on an empty machine. -/
def defaultState : State := ⟨{}, Config.bareMachine, []⟩

/-- A list with blanks and empty entries, a scope that is refused, a reset and a list again. -/
def mixedEdits : List Edit :=
  [.write "disabledcommands" "cd", .write "DefaultVariableScope" "nowhere", .reset,
    .write "DISABLEDCOMMANDS" " echo ,, cd,"]

theorem settings_are_lenses_list :
    defaultState.config = {} ∧
      Property.find? "disabledCommands" = some .disabledCommands ∧
      get (Edit.after mixedEdits defaultState).config [] .config "disabledCommands" =
        .ok (.scalar "echo,cd") ∧
      write .config "disabledCommands" (some "echo,cd") (Edit.after mixedEdits defaultState) =
        (.ok (), Edit.after mixedEdits defaultState) := by
  have hname : Property.find? "disabledCommands" = some .disabledCommands :=
    Property.find?_eq_some_iff.mpr (by decide +kernel)
  have hread : get (Edit.after mixedEdits defaultState).config [] .config "disabledCommands" =
      .ok (.scalar "echo,cd") := by decide +kernel
  have hmachine : (Edit.after mixedEdits defaultState).machine.env = [] := by decide +kernel
  have hdefaults : defaultState.config = {} := rfl
  obtain ⟨text, htext, hback⟩ :=
    ((settings_are_lenses mixedEdits hdefaults .disabledCommands).2 _ hname).1
  rw [hmachine, hread] at htext
  obtain rfl : "echo,cd" = text := by simpa using htext
  exact ⟨hdefaults, hname, hread, hback⟩

end Variable

end CommandShell
