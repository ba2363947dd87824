import CommandShell.Config.File
import CommandShell.Proofs.Config.Document
import CommandShell.Proofs.Machine.FileTree
import CommandShell.Proofs.Text.Utf8

/-!
# Configurations survive their files

* `Config.saveTo_ok`   : what a save that succeeds leaves behind;
* `Config.saveTo_again` : what was saved can be saved over;
* `Config.load_of_stat` : loading a path depends on what it leads to alone;
* `Config.load_saveTo` : what is loaded after a save;
* `Config.stat_of_load` : which file was loaded;
* `Config.load_undoes_save` : loading undoes saving, and what was loaded is saved without a change.
-/

namespace CommandShell.Config

variable {m m' : Machine} {path : String} {c : Config}

/-! ## Saving -/

/-- Before a file is written, nothing but directories is added. -/
theorem createParent_apply (path : String) (m : Machine) :
    ∃ tree, FileTree.Adds m.tree tree ∧ (createParent path m).2 = { m with tree := tree } := by
  unfold createParent
  cases Path.parent? path with
  | none => exact ⟨m.tree, .refl _, rfl⟩
  | some parent =>
    refine ⟨(m.tree.createAll m.cwd parent).2, FileTree.adds_createAll _ _ _, ?_⟩
    simp only [Action.mapError, Machine.createAll]
    rcases m.tree.createAll m.cwd parent with ⟨r, tree⟩
    cases r <;> rfl

/-- The directory of a file that was made is not made again where directories are kept. -/
theorem createParent_again {tree : FileTree} (h : createParent path m = (.ok (), m'))
    (hkeeps : FileTree.KeepsDirectories m'.tree tree) :
    createParent path { m with tree := tree } = (.ok (), { m with tree := tree }) := by
  unfold createParent at h ⊢
  cases hparent : Path.parent? path with
  | none => rfl
  | some parent =>
    simp only [hparent, Action.mapError, Machine.createAll] at h ⊢
    rcases hcreate : m.tree.createAll m.cwd parent with ⟨e | u, made⟩
    · rw [hcreate] at h
      cases h
    · rw [hcreate] at h
      cases h
      have hthere := (FileTree.createAll_ok hcreate).imp_right (FileTree.isDirectory_of_keeps hkeeps)
      rw [FileTree.createAll_of_directory hthere]

/-- A save makes the directory of its file and then writes the document. -/
theorem saveTo_eq_ok_iff :
    saveTo path c m = (.ok (), m') ↔ ∃ tree,
      createParent path m = (.ok (), { m with tree := tree }) ∧
      tree.writePlace m.cwd path = .ok (FileTree.place m.cwd path) ∧
      m' = { m with
        tree := tree.putFile (FileTree.place m.cwd path) (Utf8.encode c.toDocument) } := by
  unfold saveTo
  constructor
  · intro h
    obtain ⟨tree, -, hparent⟩ := createParent_apply path m
    rcases hcreate : createParent path m with ⟨e | u, m₁⟩
    · rw [Action.bind_of_error hcreate] at h
      cases h
    · rw [hcreate] at hparent
      obtain rfl := hparent
      rw [Action.bind_of_ok hcreate] at h
      simp only [Action.mapError, Machine.writeText] at h
      rcases hwrite : tree.write m.cwd path (Utf8.encode c.toDocument) with e | tree'
      · rw [hwrite] at h
        cases h
      · obtain ⟨p, hplace, rfl⟩ := FileTree.write_eq_ok_iff.mp hwrite
        obtain rfl := FileTree.writePlace_place hplace
        rw [hwrite] at h
        cases h
        exact ⟨tree, rfl, hplace, rfl⟩
  · rintro ⟨tree, hcreate, hplace, rfl⟩
    rw [Action.bind_of_ok hcreate]
    simp only [Action.mapError, Machine.writeText,
      FileTree.write_eq_ok_iff.mpr ⟨_, hplace, rfl⟩]

/-- **A save that succeeds writes the document** to the place of the path, as it is followed from
the working directory. -/
theorem saveTo_ok (h : saveTo path c m = (.ok (), m')) :
    ∃ tree, FileTree.Adds m.tree tree ∧
      tree.writePlace m.cwd path = .ok (FileTree.place m.cwd path) ∧
      m' = { m with
        tree := tree.putFile (FileTree.place m.cwd path) (Utf8.encode c.toDocument) } := by
  obtain ⟨tree, hcreate, hplace, hm'⟩ := saveTo_eq_ok_iff.mp h
  obtain ⟨tree', hadds, hparent⟩ := createParent_apply path m
  rw [hcreate] at hparent
  cases hparent
  exact ⟨tree, hadds, hplace, hm'⟩

/-- **What was saved can be saved over**: after a save that succeeded the next one writes its document
to the same place. -/
theorem saveTo_again (h : saveTo path c m = (.ok (), m')) (c' : Config) :
    saveTo path c' m' = (.ok (), { m' with
      tree := m'.tree.putFile (FileTree.place m.cwd path) (Utf8.encode c'.toDocument) }) := by
  obtain ⟨tree, hcreate, hplace, rfl⟩ := saveTo_eq_ok_iff.mp h
  obtain ⟨-, -, -, -, -, hfree⟩ := FileTree.writePlace_eq_ok_iff.mp hplace
  exact saveTo_eq_ok_iff.mpr ⟨_, createParent_again hcreate (FileTree.keeps_putFile hfree),
    FileTree.writePlace_putFile hplace, rfl⟩

theorem save_of_path (h : c.path = some path) : c.save = saveTo path c := by
  simp only [save, h]

/-- A save changes nothing of the machine but its files. -/
theorem save_machine (c : Config) (m : Machine) :
    ∃ tree, (c.save m).2 = { m with tree := tree } := by
  unfold save
  cases c.path with
  | none => exact ⟨m.tree, rfl⟩
  | some path =>
    obtain ⟨tree, -, hparent⟩ := createParent_apply path m
    rcases hcreate : createParent path m with ⟨e | u, m₁⟩
    · rw [hcreate] at hparent
      exact ⟨tree, (congrArg Prod.snd (Action.bind_of_error hcreate)).trans hparent⟩
    · rw [hcreate] at hparent
      obtain rfl := hparent
      refine Exists.imp (fun _ h => (congrArg Prod.snd (Action.bind_of_ok hcreate)).trans h) ?_
      simp only [Action.mapError, Machine.writeText]
      cases tree.write m.cwd path (Utf8.encode c.toDocument) with
      | error e => exact ⟨tree, rfl⟩
      | ok tree' => exact ⟨tree', rfl⟩

/-! ## Loading -/

/-- The configuration of the bytes of a file. -/
def ofBytes (path : String) (content : Bytes) : Except ConfigError Config :=
  match Utf8.decode? content with
  | some text => parse path text
  | none => .error (.read path .invalidText)

/-- The configuration of an entry of the tree. -/
def ofEntry (path : String) (e : Entry) : Except ConfigError Config :=
  match e.read with
  | .ok content => ofBytes path content
  | .error cause => .error (.read path cause)

/-- **Loading a path depends on what it leads to alone.** -/
theorem load_of_stat {p : Place} {e : Entry} (h : m.tree.stat m.cwd path = .ok (p, e)) :
    load path m = (ofEntry path e, m) := by
  unfold load ofEntry ofBytes
  simp only [Action.bind_apply, Action.get, FileTree.hasPath_of_stat h, ↓reduceIte, Action.mapError,
    Machine.readText, FileTree.readText, FileTree.readBytes_of_stat h]
  cases e.read with
  | error cause => rfl
  | ok content =>
    dsimp only
    cases Utf8.decode? content <;> rfl

/-- A file that holds the document of a configuration. -/
theorem ofEntry_toDocument (path : String) (c : Config) :
    ofEntry path (.file (Utf8.encode c.toDocument)) =
      .ok { settings := c.settings, persistent := c.persistent, path := some path } := by
  simp only [ofEntry, Entry.read, ofBytes, Utf8.decode?_encode, parse, ofDocument?_toDocument]

/-- The file of a save that succeeds. -/
theorem stat_saveTo (h : saveTo path c m = (.ok (), m')) :
    m'.tree.stat m'.cwd path = .ok (FileTree.place m.cwd path,
      .written (Utf8.encode c.toDocument) (m.tree.get? (FileTree.place m.cwd path))) := by
  obtain ⟨tree, hadds, hplace, rfl⟩ := saveTo_ok h
  rw [← hadds.entry_of_writePlace hplace]
  exact FileTree.stat_write hplace

/-- The file of a save that succeeds, if it is a plain one. -/
theorem stat_saveTo_plain (h : saveTo path c m = (.ok (), m')) (hplain : m.tree.IsPlainFile m.cwd path) :
    m'.tree.stat m'.cwd path = .ok (FileTree.place m.cwd path, .file (Utf8.encode c.toDocument)) := by
  rw [stat_saveTo h, Entry.written_of_plain hplain]

/-- **What is loaded after a save.** -/
theorem load_saveTo (h : saveTo path c m = (.ok (), m')) :
    load path m' = (ofEntry path (.written (Utf8.encode c.toDocument)
      (m.tree.get? (FileTree.place m.cwd path))), m') :=
  load_of_stat (stat_saveTo h)

/-- What was saved is saved again without a change to any file. -/
theorem saveTo_same {c' : Config} (h : saveTo path c m = (.ok (), m'))
    (hsame : c'.toDocument = c.toDocument) : saveTo path c' m' = (.ok (), m') := by
  have hagain := saveTo_again h c'
  obtain ⟨tree, -, hplace, rfl⟩ := saveTo_ok h
  rw [hagain, hsame, FileTree.putFile_putFile hplace]

/-- The null device is the defaults. -/
theorem ofEntry_null (path : String) : ofEntry path .null = .ok { path := some path } := by
  have hdocument : ofDocument? "" = some {} := by decide +kernel
  have hdecode : Utf8.decode? [] = some "" := by decide +kernel
  simp only [ofEntry, Entry.read, ofBytes, hdecode, parse, hdocument]

theorem toDocument_eq (c : Config) : ∃ rest, c.toDocument =
    (if c.settings.useTilde then "use_tilde = true\n" else "use_tilde = false\n") ++ rest := by
  have htrue : Toml.writeEntry "use_tilde" (Toml.writeBool true) = "use_tilde = true\n" := by decide +kernel
  have hfalse : Toml.writeEntry "use_tilde" (Toml.writeBool false) = "use_tilde = false\n" := by
    decide +kernel
  unfold toDocument writeSettings
  cases c.settings.useTilde with
  | true =>
    rw [htrue]
    exact ⟨_, by simp only [String.append_assoc]; rfl⟩
  | false =>
    rw [hfalse]
    exact ⟨_, by simp only [String.append_assoc]; rfl⟩

/-- The name of a process keeps too little of a document: it ends inside its first value. -/
theorem ofEntry_processName (path : String) (name : Bytes) (c : Config) :
    ofEntry path (.written (Utf8.encode c.toDocument) (some (.processName name))) =
      .error (.parse path) := by
  obtain ⟨rest, hdocument⟩ := toDocument_eq c
  have hkept : ∀ line : String, 15 ≤ (Utf8.encode line).length → c.toDocument = line ++ rest →
      Entry.written (Utf8.encode c.toDocument) (some (.processName name)) =
        .processName (((Utf8.encode line).take 15).takeWhile (· != 0)) := by
    intro line hlength hline
    have hfilled : Utf8.encode c.toDocument ≠ [] := by
      rw [hline, Utf8.encode_append]
      intro hempty
      rw [(List.append_eq_nil_iff.mp hempty).1] at hlength
      cases hlength
    simp only [Entry.written, if_neg hfilled]
    rw [hline, Utf8.encode_append, List.take_append_of_le_length hlength]
  have hrefused : ∀ (line text : String), Entry.read (.processName (((Utf8.encode line).take 15).takeWhile
      (· != 0))) = .ok (Utf8.encode text) → ofDocument? text = none →
      ofEntry path (.processName (((Utf8.encode line).take 15).takeWhile (· != 0))) =
        .error (.parse path) := by
    intro line text hread hnone
    simp only [ofEntry, hread, ofBytes, Utf8.decode?_encode, parse, hnone]
  cases htilde : c.settings.useTilde with
  | true =>
    rw [htilde] at hdocument
    rw [hkept _ (by decide +kernel) hdocument]
    exact hrefused _ "use_tilde = tru\n" (by decide +kernel) (by decide +kernel)
  | false =>
    rw [htilde] at hdocument
    rw [hkept _ (by decide +kernel) hdocument]
    exact hrefused _ "use_tilde = fal\n" (by decide +kernel) (by decide +kernel)

/-- What is saved to the null device leaves every file as it is, new directories apart. -/
theorem saveTo_null {c' : Config} (h : saveTo path c m = (.ok (), m'))
    (hnull : m.tree.get? (FileTree.place m.cwd path) = some .null) :
    saveTo path c' m' = (.ok (), m') := by
  have hagain := saveTo_again h c'
  obtain ⟨tree, hadds, hplace, rfl⟩ := saveTo_ok h
  obtain ⟨dir, name, -, -, hp, -⟩ := FileTree.writePlace_eq_ok_iff.mp hplace
  have hne : FileTree.place m.cwd path ≠ [] := hp ▸ FileTree.append_name_ne_nil dir name
  have hstays : FileTree.get? (tree.putFile (FileTree.place m.cwd path) (Utf8.encode c.toDocument))
      (FileTree.place m.cwd path) = some .null := by
    rw [FileTree.get?_putFile_same hne, hadds.entry hnull]
    rfl
  rw [hagain, FileTree.putFile_of_written hne (by rw [hstays]; rfl)]

/-! ## The file that was loaded -/

theorem path_of_parse {text : String} (h : parse path text = .ok c) : c.path = some path := by
  unfold parse at h
  split at h
  · rw [← Except.ok.inj h]
  · cases h

/-- A configuration that was loaded is backed by its path. Either its file was there, or it is the
defaults and they were saved. -/
theorem load_cases (h : load path m = (.ok c, m')) :
    c.path = some path ∧
      (m' = m ∧ (∃ p e, e.isDirectory = false ∧ m.tree.stat m.cwd path = .ok (p, e)) ∨
        c = { path := some path } ∧ saveTo path c m = (.ok (), m')) := by
  unfold load at h
  simp only [Action.bind_apply, Action.get] at h
  split at h
  · simp only [Action.bind_apply, Action.mapError, Machine.readText, Action.lift] at h
    cases hread : m.tree.readText m.cwd path with
    | error e => rw [hread] at h; cases h
    | ok text =>
      rw [hread] at h
      obtain ⟨hparse, rfl⟩ := Prod.mk.inj h
      exact ⟨path_of_parse hparse, .inl ⟨rfl, FileTree.stat_of_readText hread⟩⟩
  · rcases hsave : saveTo path { path := some path } m with ⟨e | u, m₁⟩
    · simp only [Action.bind_apply, save, hsave] at h
      cases h
    · simp only [Action.bind_apply, save, hsave] at h
      cases h
      exact ⟨rfl, .inr ⟨rfl, hsave⟩⟩

theorem load_cwd (h : load path m = (.ok c, m')) : m'.cwd = m.cwd := by
  obtain ⟨-, ⟨rfl, -⟩ | ⟨-, hsave⟩⟩ := load_cases h
  · rfl
  · obtain ⟨tree, -, -, rfl⟩ := saveTo_ok hsave
    rfl

/-- **The file that was loaded** is the one that the path leads to from the working directory. -/
theorem stat_of_load (h : load path m = (.ok c, m')) :
    ∃ e, e.isDirectory = false ∧ m'.tree.stat m.cwd path = .ok (FileTree.place m.cwd path, e) := by
  obtain ⟨-, ⟨rfl, p, e, he, hstat⟩ | ⟨-, hsave⟩⟩ := load_cases h
  · exact ⟨e, he, FileTree.stat_place he hstat ▸ hstat⟩
  · have hstat := stat_saveTo hsave
    obtain ⟨tree, -, -, rfl⟩ := saveTo_ok hsave
    exact ⟨_, Entry.not_directory_written _ _, hstat⟩

/-- **A file that was loaded is loaded alike again**, whether it was there before or not. -/
theorem load_of_load (h : load path m = (.ok c, m')) {p : Place} {content : Bytes}
    (hfile : m'.tree.stat m.cwd path = .ok (p, .file content)) : load path m' = (.ok c, m') := by
  obtain ⟨-, ⟨rfl, -⟩ | ⟨rfl, hsave⟩⟩ := load_cases h
  · exact h
  · rw [← load_cwd h] at hfile
    obtain ⟨-, hentry⟩ := Prod.mk.inj (Except.ok.inj ((stat_saveTo hsave).symm.trans hfile))
    rw [load_of_stat hfile, Entry.eq_of_written_file hentry, ofEntry_toDocument]

/-! ## Loading undoes saving -/

/-- **Loading undoes saving.** Take any configuration with a path, whatever strings it holds, and a
save that succeeds.
* If the path leads to a file that may be read and keeps what is written, or to no file yet, then the
  file holds the document of the configuration, loading the path gives the configuration without its
  temporary variables, and saving what was loaded leaves every file as it is.
* From the null device the defaults are loaded, and saving them leaves every file as it is.
* A file that may not be read is not loaded at all, and neither is the name of a process, which keeps too
  little of the document. -/
theorem load_undoes_save (hpath : c.path = some path) (hsave : c.save m = (.ok (), m')) :
    (m.tree.IsPlainFile m.cwd path →
      m'.tree.readBytes m'.cwd path = .ok (Utf8.encode c.toDocument) ∧
      load path m' = (.ok { c with temporary := .empty }, m') ∧
      Config.save { c with temporary := .empty } m' = (.ok (), m')) ∧
    (m.tree.get? (FileTree.place m.cwd path) = some .null →
      load path m' = (.ok { path := some path }, m') ∧
      Config.save { path := some path } m' = (.ok (), m')) ∧
    (∀ old, m.tree.get? (FileTree.place m.cwd path) = some (.writeOnly old) →
      load path m' = (.error (.read path .permissionDenied), m')) ∧
    (∀ name, m.tree.get? (FileTree.place m.cwd path) = some (.processName name) →
      load path m' = (.error (.parse path), m')) := by
  rw [save_of_path hpath] at hsave
  refine ⟨fun hplain => ⟨?_, ?_, ?_⟩, fun hnull => ⟨?_, ?_⟩, fun old hsealed => ?_, fun name hname => ?_⟩
  · exact FileTree.readBytes_of_stat (stat_saveTo_plain hsave hplain)
  · rw [load_of_stat (stat_saveTo_plain hsave hplain), ofEntry_toDocument, hpath]
  · rw [save_of_path (c := { c with temporary := .empty }) hpath]
    exact saveTo_same hsave rfl
  · rw [load_saveTo hsave, hnull, Entry.written, ofEntry_null]
  · rw [save_of_path rfl]
    exact saveTo_null hsave hnull
  · rw [load_saveTo hsave, hsealed]
    rfl
  · rw [load_saveTo hsave, hname, ofEntry_processName]

/-- Names and strings that are hard to write: nothing at all, quotes of both kinds, line ends, control
and non-ASCII characters. -/
def awkward : Config where
  settings :=
    { useTilde := false
      defaultScope := some "it's \"both\"\r\n"
      disabledCommands := ["", "'''\"\"\"", "a\\b"]
      disableAll := true
      colors := { foreground := "\x00\x7f", notice := "#\n#" } }
  persistent := Store.ofList
    [("", "\t"), ("a.b = \"c\"", "'''\n\"\"\""), ("Größe", "日本\r\n"), ("A", "'")]
  temporary := Store.ofList [("t", "1")]
  path := some "new/dir/lumi.toml"

/-- A machine with no files. -/
def bareMachine : Machine := ⟨.empty, [], [], none, []⟩

theorem load_undoes_save_awkward :
    (awkward.save bareMachine).1 = .ok () ∧
      load "new/dir/lumi.toml" (awkward.save bareMachine).2 =
        (.ok { awkward with temporary := .empty }, (awkward.save bareMachine).2) ∧
      Config.save { awkward with temporary := .empty } (awkward.save bareMachine).2 =
        (.ok (), (awkward.save bareMachine).2) := by
  have hok : (awkward.save bareMachine).1 = .ok () := by decide +kernel
  have hsave : awkward.save bareMachine = (.ok (), (awkward.save bareMachine).2) := by
    rw [← hok]
  have hpath : awkward.path = some "new/dir/lumi.toml" := rfl
  obtain ⟨-, hload, hagain⟩ := (load_undoes_save hpath hsave).1 (by decide +kernel)
  exact ⟨hok, hload, hagain⟩

/-- **The null device takes a save and gives nothing back**: what is loaded lacks a variable that was
saved without an error. -/
theorem load_after_save_null_device :
    let m : Machine := ⟨⟨[(["dev"], .directory), (["dev", "null"], .null)]⟩, [], [], none, []⟩
    let c : Config := { persistent := Store.ofList [("x", "1")], path := some "/dev/null" }
    c.save m = (.ok (), m) ∧ c.persistent.entries = [("x", "1")] ∧
      load "/dev/null" m = (.ok { path := some "/dev/null" }, m) ∧
      ({ path := some "/dev/null" } : Config).persistent.entries = [] :=
  ⟨by decide +kernel, by decide +kernel, by decide +kernel, rfl⟩

end CommandShell.Config
