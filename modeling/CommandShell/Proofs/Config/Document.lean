import CommandShell.Config.Document
import CommandShell.Proofs.Toml.Document
import CommandShell.Proofs.Variable.Store

/-!
# Configurations survive their documents

* `Config.settingEntries`, `Config.colorEntries`, `Config.variableEntries` : the keys and values of
  a document;
* `Config.read?_toDocument`      : the document of a configuration is read as them;
* `Config.ofDocument?_toDocument` : it holds the settings and the persistent variables that it was
  written from, in their spelling and order.
-/

namespace CommandShell

namespace Config

/-! ## Keys and values -/

/-- The settings, colours apart. -/
def settingEntries (s : Settings) : List (String × Toml.Value) :=
  ("use_tilde", .boolean s.useTilde) ::
    ((match s.defaultScope with
      | some scope => [("default_variable_scope", .string scope)]
      | none => []) ++
    [("disabled_commands", .array (s.disabledCommands.map .string)),
      ("disable_all_commands", .boolean s.disableAll)])

/-- The colours. -/
def colorEntries (c : ColorScheme) : List (String × Toml.Value) :=
  ColorSlot.all.map fun slot => (slot.key, .string (slot.read c))

/-- The variables. -/
def variableEntries (s : Store) : List (String × Toml.Value) :=
  s.entries.map fun e => (e.1, .string e.2)

theorem nodup_colorEntries (c : ColorScheme) : ((colorEntries c).map (·.1)).Nodup := by
  rw [colorEntries, List.map_map]
  exact (by decide : (ColorSlot.all.map ColorSlot.key).Nodup)

theorem nodup_variableEntries (s : Store) : ((variableEntries s).map (·.1)).Nodup := by
  have hfold := s.distinct_entries
  rw [List.Nodup, List.pairwise_map] at hfold ⊢
  rw [variableEntries, List.pairwise_map]
  exact hfold.imp fun hne heq => hne (congrArg Text.fold heq)

/-! ## Lines -/

theorem spells_writeSettings (s : Settings) :
    Toml.Spells (writeSettings s) (Toml.entryLines (settingEntries s)) := by
  have htilde := Toml.spells_entry "use_tilde" (Toml.readsAs_bool s.useTilde)
  have hcommands :=
    Toml.spells_entry "disabled_commands" (Toml.readsAs_strings s.disabledCommands)
  have hall := Toml.spells_entry "disable_all_commands" (Toml.readsAs_bool s.disableAll)
  unfold writeSettings settingEntries
  cases s.defaultScope with
  | none => exact ((htilde.append Toml.spells_empty).append hcommands).append hall
  | some scope =>
    have hscope := Toml.spells_entry "default_variable_scope" (Toml.readsAs_string scope)
    exact ((htilde.append hscope).append hcommands).append hall

theorem spells_writeColors (c : ColorScheme) :
    Toml.Spells (writeColors c) (Toml.entryLines (colorEntries c)) := by
  have hlines := Toml.spells_join fun slot (_ : slot ∈ ColorSlot.all) =>
    Toml.spells_entry slot.key (Toml.readsAs_string (slot.read c))
  simpa [writeColors, Toml.entryLines, colorEntries, Function.comp_def] using hlines

theorem spells_writeVariables (s : Store) :
    Toml.Spells (writeVariables s) (Toml.entryLines (variableEntries s)) := by
  have hlines := Toml.spells_join fun e (_ : e ∈ s.entries) =>
    Toml.spells_entry e.1 (Toml.readsAs_string e.2)
  simpa [writeVariables, Toml.entryLines, variableEntries, Function.comp_def] using hlines

/-- The lines of the document of a configuration. -/
def documentLines (c : Config) : List Toml.Statement :=
  Toml.entryLines (settingEntries c.settings) ++
    .table ["color_scheme"] :: (Toml.entryLines (colorEntries c.settings.colors) ++
      .table ["persistent"] :: (Toml.entryLines (variableEntries c.persistent) ++ []))

theorem spells_toDocument (c : Config) : Toml.Spells c.toDocument (documentLines c) := by
  have hcolors : Toml.Spells "\n[color_scheme]\n" [.table ["color_scheme"]] :=
    Toml.spells_header "color_scheme"
  have hvariables : Toml.Spells "\n[persistent]\n" [.table ["persistent"]] :=
    Toml.spells_header "persistent"
  have hlines := (((spells_writeSettings c.settings).append hcolors).append
    (spells_writeColors c.settings.colors)).append hvariables |>.append
    (spells_writeVariables c.persistent)
  simpa [toDocument, documentLines] using hlines

theorem toDocument_head (c : Config) : c.toDocument.toList.head? = some 'u' := by
  have hkey : Toml.writeKey "use_tilde" = "use_tilde" := by decide
  simp [toDocument, writeSettings, Toml.writeEntry, hkey]

theorem nodup_settingEntries (s : Settings) :
    ((settingEntries s).map (·.1) ++ ["color_scheme", "persistent"]).Nodup := by
  unfold settingEntries
  cases s.defaultScope <;> simp

/-- **The document of a configuration is read as its keys and values.** -/
theorem read?_toDocument (c : Config) :
    Toml.read? c.toDocument =
      some (settingEntries c.settings ++
        [("color_scheme", .table (colorEntries c.settings.colors)),
          ("persistent", .table (variableEntries c.persistent))]) := by
  have hlines := Toml.readStatements?_of_spells (spells_toDocument c)
    (by rw [toDocument_head]; decide)
  obtain ⟨hsettings, -, hdisjoint⟩ := List.nodup_append.mp (nodup_settingEntries c.settings)
  have hcolors : "color_scheme" ∉ (Toml.valueNodes (settingEntries c.settings)).map (·.1) := by
    rw [Toml.keys_valueNodes]
    exact fun hmem => hdisjoint _ hmem "color_scheme" (by simp) rfl
  have hpersistent : "persistent" ∉ (Toml.valueNodes (settingEntries c.settings) ++
      [("color_scheme", Toml.Node.table (.mk true false
        (Toml.valueNodes (colorEntries c.settings.colors))))]).map (·.1) := by
    rw [List.map_append, Toml.keys_valueNodes, List.mem_append]
    rintro (hmem | hmem)
    · exact hdisjoint _ hmem "persistent" (by simp) rfl
    · simp at hmem
  rw [Toml.read?, hlines]
  dsimp only
  rw [documentLines, Toml.Table.document, Toml.build_entries (by simpa using hsettings),
    List.nil_append, Toml.build_section hcolors (nodup_colorEntries c.settings.colors),
    Toml.build_section hpersistent (nodup_variableEntries c.persistent)]
  simp [Toml.build, Toml.Table.entries, Toml.toEntries_append, Toml.toEntries_valueNodes,
    Toml.toEntries, Toml.Node.toValue, Toml.Table.toValue]

/-! ## Fields -/

theorem stringsOf?_map (ss : List String) : stringsOf? (ss.map .string) = some ss := by
  induction ss with
  | nil => rfl
  | cons s ss ih => simp [stringsOf?, string?, ih]

theorem pairsOf?_variableEntries (s : Store) : pairsOf? (variableEntries s) = some s.entries := by
  unfold variableEntries
  induction s.entries with
  | nil => rfl
  | cons e es ih => simp [pairsOf?, string?, ih]

theorem colors?_colorEntries (c : ColorScheme) : colors? (.table (colorEntries c)) = some c := by
  simp [colors?, entries?, colorEntries, ColorSlot.all, colorsOfEntries?, field?, Toml.lookup,
    List.lookup_cons, ColorSlot.key, ColorSlot.read, ColorSlot.write, string?]

/-- **A document holds the configuration that it was written from**, the temporary variables and
the file apart. -/
theorem ofDocument?_toDocument (c : Config) :
    ofDocument? c.toDocument = some { settings := c.settings, persistent := c.persistent } := by
  rw [ofDocument?, read?_toDocument]
  obtain ⟨⟨tilde, scope, commands, all, colors⟩, persistent, temporary, path⟩ := c
  have hstore : store? (.table (variableEntries persistent)) = some persistent := by
    simp [store?, entries?, pairsOf?_variableEntries, Store.ofList_entries]
  have hcommands : strings? (.array (commands.map .string)) = some commands := stringsOf?_map _
  cases scope with
  | none =>
    simp [settingEntries, ofEntries?, field?, Toml.lookup, List.lookup_cons, boolean?,
      colors?_colorEntries, hstore, hcommands]
  | some scope =>
    simp [settingEntries, ofEntries?, field?, Toml.lookup, List.lookup_cons, boolean?, string?,
      colors?_colorEntries, hstore, hcommands]

end Config

end CommandShell
