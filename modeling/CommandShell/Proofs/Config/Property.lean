import CommandShell.Config.Property
import CommandShell.Proofs.Text.Split

/-!
# Settings keep their normal forms

A setting that was written is read as the normal form of what was written: a truth value by its
name, a scope without blanks around it, a list without blanks around its entries and without empty
ones, a colour as it is.  Settings that began as the defaults hold nothing else.

* `Settings.HasKnownScope` : the default scope is not set or names a scope;
* `Settings.Normal`        : so it is, and the disabled commands are entries of a list;
* `Property.normal`        : the normal form of a text;
* `Property.read_write`, `Property.read_write_of_ne` : what settings are read as after a write;
* `Property.normal_read`   : a setting in normal form is read as its normal form;
* `Property.write_read`    : a setting takes back the text that it was read as.
-/

namespace CommandShell

namespace Scope

theorem names_not_blank :
    ∀ scope ∈ all, ∀ name ∈ scope.names, ∀ c ∈ name.toList, Text.isBlank c = false := by
  have hall : (all.all fun scope => scope.names.all fun name =>
      name.toList.all fun c => !Text.isBlank c) = true := by decide
  simpa only [List.all_eq_true, Bool.not_eq_true'] using hall

/-- A name of a scope has no blanks. -/
theorem trim_of_ofName? {name : String} (h : (ofName? name).isSome = true) :
    Text.trim name = name := by
  rw [ofName?, List.find?_isSome] at h
  obtain ⟨scope, hscope, hname⟩ := h
  rw [List.contains_iff_mem] at hname
  refine Text.trim_of_not_blank fun c hc => ?_
  rw [← Bool.not_eq_true]
  intro hblank
  have hfold : c ∈ (Text.fold name).toList := by
    rw [Text.fold, String.toList_ofList, ← Text.toLower_of_blank hblank]
    exact List.mem_map_of_mem hc
  exact absurd hblank (by simp [names_not_blank scope hscope _ hname c hfold])

end Scope

/-! ## Settings -/

/-- The default scope is not set or names a scope. -/
def Settings.HasKnownScope (s : Settings) : Prop :=
  ∀ name, s.defaultScope = some name → (Scope.ofName? name).isSome = true

namespace Property

/-- What a text does to the settings when one of them takes it. -/
inductive Written (value : String) (s : Settings) : Property → Settings → Prop where
  | useTilde {b : Bool} (h : readFlag? value = some b) :
    Written value s .useTilde { s with useTilde := b }
  | noScope (h : Text.trim value = "") :
    Written value s .defaultScope { s with defaultScope := none }
  | scope (h : (Scope.ofName? (Text.trim value)).isSome = true) :
    Written value s .defaultScope { s with defaultScope := some (Text.trim value) }
  | disableAll {b : Bool} (h : readFlag? value = some b) :
    Written value s .disableAll { s with disableAll := b }
  | disabledCommands :
    Written value s .disabledCommands { s with disabledCommands := readNames value }
  | color (slot : ColorSlot) :
    Written value s (.color slot) { s with colors := slot.write value s.colors }

/-- **What a setting that is written leaves behind.** -/
theorem written_of_write {p : Property} {value : String} {s s' : Settings}
    (h : p.write value s = .ok s') : Written value s p s' := by
  cases p with
  | useTilde =>
    unfold write at h
    dsimp only at h
    split at h
    · rename_i b hflag
      obtain rfl := Except.ok.inj h
      exact .useTilde hflag
    · cases h
  | disableAll =>
    unfold write at h
    dsimp only at h
    split at h
    · rename_i b hflag
      obtain rfl := Except.ok.inj h
      exact .disableAll hflag
    · cases h
  | disabledCommands =>
    obtain rfl := Except.ok.inj h
    exact .disabledCommands
  | color slot =>
    obtain rfl := Except.ok.inj h
    exact .color slot
  | defaultScope =>
    unfold write at h
    dsimp only at h
    split at h
    · rename_i hempty
      obtain rfl := Except.ok.inj h
      exact .noScope hempty
    split at h
    · rename_i hknown
      obtain rfl := Except.ok.inj h
      exact .scope hknown
    · cases h

/-- A setting that is written leaves a known default scope behind. -/
theorem write_known {p : Property} {value : String} {s s' : Settings}
    (h : p.write value s = .ok s') (hs : s.HasKnownScope) : s'.HasKnownScope := by
  cases written_of_write h with
  | noScope => exact nofun
  | scope hknown =>
    intro name hname
    obtain rfl := Option.some.inj hname
    exact hknown
  | useTilde | disableAll | disabledCommands | color => exact hs

theorem readFlag?_showFlag (b : Bool) : readFlag? (showFlag b) = some b := by
  cases b <;> decide

/-- **A setting takes back the text that it was read as**, whatever it holds by then. Only an unknown
default scope is not taken back. -/
theorem write_read (p : Property) {s : Settings} (hs : p = .defaultScope → s.HasKnownScope)
    (s' : Settings) : ∃ s'', p.write (p.read s) s' = .ok s'' := by
  cases p with
  | useTilde | disableAll =>
    unfold write
    dsimp only [read]
    rw [readFlag?_showFlag]
    exact ⟨_, rfl⟩
  | disabledCommands | color slot => exact ⟨_, rfl⟩
  | defaultScope =>
    have hname : Text.trim (s.defaultScope.getD "") = "" ∨
        (Scope.ofName? (Text.trim (s.defaultScope.getD ""))).isSome = true := by
      cases hscope : s.defaultScope with
      | none => exact .inl (by decide)
      | some name =>
        rw [Option.getD_some, Scope.trim_of_ofName? (hs rfl name hscope)]
        exact .inr (hs rfl name hscope)
    unfold write
    dsimp only [read]
    by_cases hempty : Text.trim (s.defaultScope.getD "") = ""
    · exact ⟨_, if_pos hempty⟩
    · exact ⟨_, (if_neg hempty).trans (if_pos (hname.resolve_left hempty))⟩

/-! ## Lists of names -/

/-- A name that a list between commas can hold. -/
structure IsListed (name : String) : Prop where
  /-- There are no blanks around it. -/
  trimmed : Text.trim name = name
  /-- It is not empty. -/
  filled : name ≠ ""
  /-- It holds no comma. -/
  whole : ',' ∉ name.toList

theorem isListed_of_mem_readNames {value name : String} (h : name ∈ readNames value) :
    IsListed name := by
  rw [readNames, List.mem_filter, List.mem_map] at h
  obtain ⟨⟨piece, hpiece, rfl⟩, hfilled⟩ := h
  refine ⟨Text.trim_trim piece, by simpa using hfilled, fun hcomma => ?_⟩
  exact Text.not_mem_of_mem_split ',' hpiece (Text.mem_of_mem_trim hcomma)

/-- **Names of a list come back** when the list is read. -/
theorem readNames_join {names : List String} (h : ∀ n ∈ names, IsListed n) :
    readNames (Text.join "," names) = names := by
  cases names with
  | nil => decide
  | cons name names =>
    have hsplit : Text.split "," (Text.join "," (name :: names)) = name :: names :=
      Text.split_join ',' (fun n hn => (h n hn).whole) (by simp)
    have htrim : (name :: names).map Text.trim = name :: names := by
      rw [List.map_congr_left fun n hn => (h n hn).trimmed, List.map_id']
    rw [readNames, hsplit, htrim, List.filter_eq_self]
    exact fun n hn => by simpa using (h n hn).filled

end Property

/-! ## Normal forms -/

/-- Settings as they are written by name: the default scope is known, and the disabled commands are
entries of a list. -/
structure Settings.Normal (s : Settings) : Prop where
  known : s.HasKnownScope
  listed : ∀ n ∈ s.disabledCommands, Property.IsListed n

theorem Settings.normal_defaults : ({} : Settings).Normal := ⟨nofun, nofun⟩

namespace Property

/-- The truth value that a text stands for, by its name. -/
def flagName (value : String) : String :=
  if Text.fold (Text.trim value) ∈ ["true", "yes", "on", "1"] then "true" else "false"

/-- The normal form of a text that a setting takes. -/
def normal (p : Property) (value : String) : String :=
  match p with
  | useTilde | disableAll => flagName value
  | defaultScope => Text.trim value
  | disabledCommands => Text.join "," (((Text.split "," value).map Text.trim).filter (· != ""))
  | color _ => value

variable {p q : Property} {value : String} {s s' : Settings}

/-- A setting that is written leaves normal settings behind. -/
theorem write_normal (h : p.write value s = .ok s') (hs : s.Normal) : s'.Normal := by
  refine ⟨write_known h hs.known, ?_⟩
  cases written_of_write h with
  | disabledCommands => exact fun n hn => isListed_of_mem_readNames hn
  | useTilde | noScope | scope | disableAll | color => exact hs.listed

theorem showFlag_of_readFlag? {b : Bool} (h : readFlag? value = some b) :
    showFlag b = flagName value := by
  unfold readFlag? at h
  unfold flagName
  simp only [List.contains_iff_mem] at h
  split at h
  · obtain rfl := Option.some.inj h
    rw [if_pos ‹_›]
    rfl
  · rw [if_neg ‹_›]
    split at h
    · obtain rfl := Option.some.inj h
      rfl
    · cases h

theorem slot_read_write (slot : ColorSlot) (value : String) (c : ColorScheme) :
    slot.read (slot.write value c) = value := by
  cases slot <;> rfl

theorem slot_read_write_of_ne {slot other : ColorSlot} (h : other ≠ slot) (value : String)
    (c : ColorScheme) : other.read (slot.write value c) = other.read c := by
  cases slot <;> cases other <;> first | rfl | exact absurd rfl h

/-- **A setting that was written is read as the normal form** of what was written. -/
theorem read_write (h : p.write value s = .ok s') : p.read s' = p.normal value := by
  cases written_of_write h with
  | useTilde hflag => exact showFlag_of_readFlag? hflag
  | disableAll hflag => exact showFlag_of_readFlag? hflag
  | noScope hempty => exact hempty.symm
  | scope hknown => rfl
  | disabledCommands => rfl
  | color slot => exact slot_read_write slot value s.colors

/-- **The other settings are read as before.** -/
theorem read_write_of_ne (h : p.write value s = .ok s') (hne : q ≠ p) : q.read s' = q.read s := by
  cases written_of_write h with
  | useTilde | noScope | scope | disableAll | disabledCommands =>
    cases q with
    | useTilde | defaultScope | disableAll | disabledCommands =>
      first
      | rfl
      | exact absurd rfl hne
    | color => rfl
  | color slot =>
    cases q with
    | useTilde | defaultScope | disableAll | disabledCommands => rfl
    | color other =>
      exact slot_read_write_of_ne (fun heq => hne (congrArg Property.color heq)) value s.colors

/-- **Normal settings are read as their normal forms.** -/
theorem normal_read (hs : s.Normal) (p : Property) : p.normal (p.read s) = p.read s := by
  cases p with
  | useTilde | disableAll => exact (showFlag_of_readFlag? (readFlag?_showFlag _)).symm
  | color slot => rfl
  | disabledCommands => exact congrArg (Text.join ",") (readNames_join hs.listed)
  | defaultScope =>
    cases hscope : s.defaultScope with
    | none =>
      simp only [normal, read, hscope]
      decide
    | some name =>
      simp only [normal, read, hscope, Option.getD_some]
      exact Scope.trim_of_ofName? (hs.known name hscope)

end Property

end CommandShell
