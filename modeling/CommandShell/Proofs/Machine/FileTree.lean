import CommandShell.Machine.FileTree

/-!
# What file operations keep

Where a path leads is settled by the directories on its way.  New directories and written files
leave those that are there, so a path that led somewhere still leads there.

* `FileTree.Adds`       : a tree has only new directories over another one, as `createAll` leaves it;
* `FileTree.locate_of_keeps` : paths lead on where directories are kept;
* `FileTree.createAll_ok`, `FileTree.createAll_of_directory` : a directory that was made is there, and
  is not made again;
* `FileTree.stat_write` : a file that was written is found by its path;
* `FileTree.stat_write_elsewhere` : a file is found as it was after another one is written;
* `Entry.isPlain`       : files that are read as they were written;
* `FileTree.place`      : the place that a path leads to, by its names alone;
* `FileTree.place_eq_iff` : which paths lead to one place from two directories.
-/

namespace CommandShell.Entry

/-- A file that may be read, and that holds what was written to it last. -/
def isPlain : Entry → Bool
  | file _ | program _ => true
  | _ => false

theorem not_directory_of_read {e : Entry} {content : Bytes} (h : e.read = .ok content) :
    e.isDirectory = false := by
  cases e with
  | directory | closed => cases h
  | file | writeOnly | program | null | processName => rfl

/-- What was written is no directory. -/
theorem not_directory_written (content : Bytes) (e : Option Entry) :
    (written content e).isDirectory = false := by
  rcases e with _ | (_ | _ | _ | _ | _ | _ | _) <;> rfl

/-- A plain file, or a new one, has the content that was written. -/
theorem written_of_plain {e : Option Entry} (h : e.all isPlain = true) (content : Bytes) :
    written content e = file content := by
  rcases e with _ | (_ | _ | _ | _ | _ | _ | _)
  case none | file | program => rfl
  all_goals cases h

/-- What was written is written again without a change. -/
theorem written_written (content : Bytes) (e : Option Entry) :
    written content (some (written content e)) = written content e := by
  rcases e with _ | (_ | _ | _ | _ | _ | _ | name)
  case some.processName =>
    by_cases hempty : content = []
    · simp [written, hempty]
    · simp [written, hempty]
  all_goals rfl

theorem eq_of_written_file {content content' : Bytes} {e : Option Entry}
    (h : written content e = file content') : content' = content := by
  rcases e with _ | (_ | _ | _ | _ | _ | _ | _) <;> cases h <;> rfl

end CommandShell.Entry

namespace CommandShell.FileTree

variable {t t' : FileTree} {p q : Place} {e : Entry} {cwd : Place} {path : Bytes}

/-! ## Entries -/

theorem lookup_putEntry (p q : Place) (e : Entry) (es : List (Place × Entry)) :
    (putEntry p e es).lookup q = if q = p then some e else es.lookup q := by
  induction es with
  | nil =>
    by_cases h : q = p
    · simp [putEntry, h]
    · simp [putEntry, List.lookup_cons, beq_false_of_ne h, h]
  | cons f es ih =>
    obtain ⟨r, g⟩ := f
    by_cases hr : r = p
    · subst hr
      by_cases h : q = r
      · simp [putEntry, h]
      · simp [putEntry, List.lookup_cons, beq_false_of_ne h, h]
    · by_cases h : q = r
      · simp [putEntry, hr, h]
      · simp [putEntry, hr, List.lookup_cons, beq_false_of_ne h, ih]

theorem get?_put_same (hp : p ≠ []) : (t.put p e).get? p = some e := by
  simp [put, get?, lookup_putEntry, hp]

theorem get?_put_of_ne (h : q ≠ p) : (t.put p e).get? q = t.get? q := by
  simp [put, get?, lookup_putEntry, h]

theorem putEntry_of_lookup {es : List (Place × Entry)} (h : es.lookup p = some e) :
    putEntry p e es = es := by
  induction es with
  | nil => simp at h
  | cons f es ih =>
    obtain ⟨q, g⟩ := f
    by_cases hq : q = p
    · subst hq
      simp only [List.lookup_cons_self, Option.some.injEq] at h
      simp [putEntry, h]
    · rw [List.lookup_cons, beq_false_of_ne (Ne.symm hq)] at h
      simp [putEntry, hq, ih h]

/-- Putting an entry where it stands changes nothing. -/
theorem put_of_entry (hp : p ≠ []) (h : t.get? p = some e) : t.put p e = t := by
  unfold get? at h
  rw [if_neg hp] at h
  rw [put, putEntry_of_lookup h]

/-! ## Directories -/

/-- Every directory stays one. -/
def KeepsDirectories (t t' : FileTree) : Prop :=
  ∀ p e, e.isDirectory = true → t.get? p = some e → t'.get? p = some e

/-- Nothing goes away, and what is new is a directory. -/
def Adds (t t' : FileTree) : Prop :=
  ∀ p, t'.get? p = t.get? p ∨ t.get? p = none ∧ t'.get? p = some .directory

theorem Adds.refl (t : FileTree) : Adds t t := fun _ => .inl rfl

theorem Adds.trans {t₁ t₂ t₃ : FileTree} (h : Adds t₁ t₂) (h' : Adds t₂ t₃) : Adds t₁ t₃ := by
  intro p
  rcases h p with hp | ⟨hnone, hp⟩
  · rw [← hp]; exact h' p
  · rcases h' p with hp' | ⟨hnone', -⟩
    · exact .inr ⟨hnone, hp'.trans hp⟩
    · rw [hp] at hnone'; cases hnone'

theorem Adds.entry (h : Adds t t') (he : t.get? p = some e) : t'.get? p = some e := by
  rcases h p with hp | ⟨hnone, -⟩
  · rw [hp, he]
  · rw [he] at hnone; cases hnone

theorem Adds.keeps (h : Adds t t') : KeepsDirectories t t' := fun _ _ _ hp => h.entry hp

theorem append_name_ne_nil (dir : Place) (name : Bytes) : dir ++ [name] ≠ [] := by
  simp

/-- A new directory takes a place where nothing stood. -/
theorem adds_mkdir (h : t.mkdir cwd path = .ok t') : Adds t t' := by
  unfold mkdir at h
  split at h
  · cases h
  · cases h
  · rename_i dir name slash hlocate
    split at h
    · cases h
    split at h
    · cases h
    · rename_i hnone
      obtain rfl := Except.ok.inj h
      intro p
      by_cases hp : p = dir ++ [name]
      · subst hp
        exact .inr ⟨hnone, get?_put_same (append_name_ne_nil dir name)⟩
      · exact .inl (get?_put_of_ne hp)

theorem adds_createAllFrom (cwd : Place) (depth : Nat) (path : Bytes) (t : FileTree) :
    Adds t (createAllFrom cwd depth path t).2 := by
  induction depth generalizing path t with
  | zero =>
    unfold createAllFrom
    split
    · exact .refl t
    split
    · exact adds_mkdir ‹_›
    · exact .refl t
    · split <;> exact .refl t
  | succ depth ih =>
    unfold createAllFrom
    split
    · exact .refl t
    split
    · exact adds_mkdir ‹_›
    · split
      · rename_i n above hdepth _
        obtain rfl := Nat.succ.inj hdepth
        have habove := ih above t
        split
        · rename_i t₁ hmade
          rw [hmade] at habove; exact habove
        · rename_i t₁ hmade
          rw [hmade] at habove
          split
          · exact habove.trans (adds_mkdir ‹_›)
          · split <;> exact habove
      · exact .refl t
    · split <;> exact .refl t

theorem adds_createAll (t : FileTree) (cwd : Place) (path : Bytes) :
    Adds t (t.createAll cwd path).2 :=
  adds_createAllFrom cwd path.length path t

/-! ## Paths -/

theorem enter_of_keeps (hkeeps : KeepsDirectories t t') {dir dir' : Place} {name : Bytes}
    (h : enter t dir name = .ok dir') : enter t' dir name = .ok dir' := by
  unfold enter at h ⊢
  split at h
  · rw [if_pos ‹_›]; exact h
  rw [if_neg ‹_›]
  split at h
  · rw [if_pos ‹_›]; exact h
  rw [if_neg ‹_›]
  split at h
  · cases h
  rw [if_neg ‹_›]
  split at h
  · rw [hkeeps _ _ rfl ‹_›]; exact h
  · cases h
  · cases h
  · cases h

theorem follow_of_keeps (hkeeps : KeepsDirectories t t') {slash : Bool} {dir : Place}
    {names : List Bytes} {target : Target} (h : follow t slash dir names = .ok target) :
    follow t' slash dir names = .ok target := by
  induction names generalizing dir with
  | nil => exact h
  | cons name rest ih =>
    cases rest with
    | nil => exact h
    | cons next rest =>
      rw [follow] at h ⊢
      · split at h
        · cases h
        · rw [enter_of_keeps hkeeps ‹_›]
          exact ih h
      · simp
      · simp

/-- The directory that a path is followed from. -/
def startOf (cwd : Place) (path : Bytes) : Place := if Path.isAbsolute path then [] else cwd

/-- The names that a path is followed by. -/
def namesOf (path : Bytes) : List Bytes := (Path.split path).filter (· != [])

/-- Paths that can be followed at all. -/
structure Followable (path : Bytes) : Prop where
  noNul : path.contains 0 = false
  filled : path ≠ []
  short : path.length < 4096

theorem locate_eq_ok_iff {target : Target} :
    t.locate cwd path = .ok target ↔ Followable path ∧
      follow t (path.getLast? == some Path.slash) (startOf cwd path) (namesOf path) =
        .ok target := by
  unfold locate startOf namesOf
  split
  · rename_i hnul
    refine ⟨by rintro ⟨⟩, fun h => ?_⟩
    rw [h.1.noNul] at hnul
    cases hnul
  split
  · rename_i hempty
    exact ⟨by rintro ⟨⟩, fun h => absurd hempty h.1.filled⟩
  split
  · rename_i hlong
    exact ⟨by rintro ⟨⟩, fun h => absurd h.1.short (Nat.not_lt.mpr hlong)⟩
  · rename_i hnul hempty hlong
    exact ⟨fun h => ⟨⟨by simpa using hnul, hempty, by omega⟩, h⟩, fun h => h.2⟩

theorem locate_of_keeps (hkeeps : KeepsDirectories t t') {target : Target}
    (h : t.locate cwd path = .ok target) : t'.locate cwd path = .ok target := by
  rw [locate_eq_ok_iff] at h ⊢
  exact ⟨h.1, follow_of_keeps hkeeps h.2⟩

/-! ## Directories that are there -/

/-- What a path leads to that ends at a name. -/
theorem stat_name_iff {dir : Place} {name : Bytes} {slash : Bool}
    (hlocate : t.locate cwd path = .ok (.name dir name slash)) :
    t.stat cwd path = .ok (p, e) ↔ isTooLong name = false ∧ p = dir ++ [name] ∧ t.get? p = some e ∧
      (slash = true → e.isDirectory = true) := by
  rw [stat, hlocate]
  dsimp only
  by_cases hlong : isTooLong name = true
  · simp [hlong]
  rw [if_neg hlong]
  cases hentry : t.get? (dir ++ [name]) with
  | none =>
    refine ⟨by rintro ⟨⟩, ?_⟩
    rintro ⟨-, rfl, he, -⟩
    cases hentry.symm.trans he
  | some f =>
    dsimp only
    constructor
    · intro h
      split at h
      · cases h
      · rename_i hslash
        cases h
        exact ⟨by simpa using hlong, rfl, hentry, by simpa using hslash⟩
    · rintro ⟨-, rfl, he, hslash⟩
      obtain rfl := Option.some.inj (hentry.symm.trans he)
      rw [if_neg (by simpa using hslash)]

/-- What a path leads to. -/
theorem stat_eq_ok_iff :
    t.stat cwd path = .ok (p, e) ↔
      (t.locate cwd path = .ok (.directory p) ∧ e = .directory) ∨
      ∃ dir name slash, t.locate cwd path = .ok (.name dir name slash) ∧ isTooLong name = false ∧
        p = dir ++ [name] ∧ t.get? p = some e ∧ (slash = true → e.isDirectory = true) := by
  rcases hlocate : t.locate cwd path with _ | (q | ⟨dir, name, slash⟩)
  · simp [stat, hlocate]
  · rw [stat, hlocate]
    constructor
    · rintro ⟨⟩
      exact .inl ⟨rfl, rfl⟩
    · rintro (⟨h, rfl⟩ | ⟨_, _, _, h, -⟩)
      · cases h
        rfl
      · cases h
  · rw [stat_name_iff hlocate]
    constructor
    · exact fun h => .inr ⟨dir, name, slash, rfl, h⟩
    · rintro (⟨h, -⟩ | ⟨_, _, _, h, hfound⟩)
      · cases h
      · cases h
        exact hfound

/-- A path that leads to a directory. -/
theorem isDirectory_iff :
    t.isDirectory cwd path = true ↔ ∃ p e, t.stat cwd path = .ok (p, e) ∧ e.isDirectory = true := by
  unfold isDirectory
  rcases t.stat cwd path with _ | ⟨p, e⟩
  · simp
  · constructor
    · exact fun h => ⟨p, e, rfl, h⟩
    · rintro ⟨_, _, h, he⟩
      cases h
      exact he

/-- Directories stay where a path leads to them. -/
theorem stat_of_keeps_directory (hkeeps : KeepsDirectories t t') (he : e.isDirectory = true)
    (h : t.stat cwd path = .ok (p, e)) : t'.stat cwd path = .ok (p, e) := by
  rw [stat_eq_ok_iff] at h ⊢
  obtain ⟨hlocate, rfl⟩ | ⟨dir, name, slash, hlocate, hlong, hp, hentry, hslash⟩ := h
  · exact .inl ⟨locate_of_keeps hkeeps hlocate, rfl⟩
  · exact .inr ⟨dir, name, slash, locate_of_keeps hkeeps hlocate, hlong, hp, hkeeps _ _ he hentry, hslash⟩

theorem isDirectory_of_keeps (hkeeps : KeepsDirectories t t')
    (h : t.isDirectory cwd path = true) : t'.isDirectory cwd path = true := by
  obtain ⟨p, e, hstat, he⟩ := isDirectory_iff.mp h
  exact isDirectory_iff.mpr ⟨p, e, stat_of_keeps_directory hkeeps he hstat, he⟩

theorem isDirectory_mkdir (h : t.mkdir cwd path = .ok t') : t'.isDirectory cwd path = true := by
  have hkeeps := (adds_mkdir h).keeps
  unfold mkdir at h
  split at h
  · cases h
  · cases h
  · rename_i dir name slash hlocate
    split at h
    · cases h
    rename_i hlong
    split at h
    · cases h
    · obtain rfl := Except.ok.inj h
      have hstat := stat_eq_ok_iff.mpr (.inr ⟨dir, name, slash, locate_of_keeps hkeeps hlocate,
        by simpa using hlong, rfl, get?_put_same (append_name_ne_nil dir name), fun _ => rfl⟩)
      exact isDirectory_iff.mpr ⟨_, _, hstat, rfl⟩

/-- A directory that is there cannot be made. -/
theorem mkdir_of_directory (h : t.isDirectory cwd path = true) :
    t.mkdir cwd path = .error .alreadyExists := by
  obtain ⟨p, e, hstat, -⟩ := isDirectory_iff.mp h
  unfold mkdir
  obtain ⟨hlocate, -⟩ | ⟨dir, name, slash, hlocate, hlong, rfl, hentry, -⟩ := stat_eq_ok_iff.mp hstat
  · rw [hlocate]
  · simp [hlocate, hlong, hentry]

/-- **A directory that is there is not made again.** -/
theorem createAll_of_directory (h : path = [] ∨ t.isDirectory cwd path = true) :
    t.createAll cwd path = (.ok (), t) := by
  unfold createAll createAllFrom
  rcases h with hempty | hdir
  · rw [if_pos hempty]
  · split
    · rfl
    · rw [mkdir_of_directory hdir]

theorem createAllFrom_ok {depth : Nat} (h : createAllFrom cwd depth path t = (.ok (), t')) :
    path = [] ∨ t'.isDirectory cwd path = true := by
  unfold createAllFrom at h
  split at h
  · exact .inl ‹_›
  right
  split at h
  · cases h
    exact isDirectory_mkdir ‹_›
  · split at h
    · split at h
      · cases h
      · split at h
        · cases h
          exact isDirectory_mkdir ‹_›
        · split at h
          · cases h
            assumption
          · cases h
    · cases h
  · split at h
    · cases h
      assumption
    · cases h

/-- **A directory that was made with those above it is there.** -/
theorem createAll_ok (h : t.createAll cwd path = (.ok (), t')) :
    path = [] ∨ t'.isDirectory cwd path = true :=
  createAllFrom_ok h

/-! ## Files -/

/-- A path that leads to something other than a directory. -/
theorem stat_file_iff (he : e.isDirectory = false) :
    t.stat cwd path = .ok (p, e) ↔ ∃ dir name, t.locate cwd path = .ok (.name dir name false) ∧
      isTooLong name = false ∧ p = dir ++ [name] ∧ t.get? p = some e := by
  rw [stat_eq_ok_iff]
  constructor
  · rintro (⟨-, rfl⟩ | ⟨dir, name, slash, hlocate, hlong, hp, hentry, hslash⟩)
    · cases he
    · cases slash with
      | false => exact ⟨dir, name, hlocate, hlong, hp, hentry⟩
      | true =>
        rw [hslash rfl] at he
        cases he
  · rintro ⟨dir, name, hlocate, hlong, hp, hentry⟩
    exact .inr ⟨dir, name, false, hlocate, hlong, hp, hentry, by simp⟩

/-- The place of a file that can be written is not that of a directory. -/
theorem writePlace_eq_ok_iff :
    t.writePlace cwd path = .ok p ↔ ∃ dir name, t.locate cwd path = .ok (.name dir name false) ∧
      isTooLong name = false ∧ p = dir ++ [name] ∧ (t.get? p).any Entry.isDirectory = false := by
  unfold writePlace
  constructor
  · intro h
    split at h
    · cases h
    · cases h
    · rename_i dir name slash hlocate
      split at h
      · cases h
      rename_i hslash
      split at h
      · cases h
      rename_i hlong
      split at h
      · cases h
      · rename_i hentry
        cases h
        exact ⟨dir, name, by simpa [hslash] using hlocate, by simpa using hlong, rfl, by simpa using hentry⟩
  · rintro ⟨dir, name, hlocate, hlong, rfl, hentry⟩
    simp only [hlocate, hlong, hentry, Bool.false_eq_true, ↓reduceIte]

/-- A file that is there can be written by its path. -/
theorem writePlace_of_stat (he : e.isDirectory = false) (h : t.stat cwd path = .ok (p, e)) :
    t.writePlace cwd path = .ok p := by
  obtain ⟨dir, name, hlocate, hlong, hp, hentry⟩ := (stat_file_iff he).mp h
  refine writePlace_eq_ok_iff.mpr ⟨dir, name, hlocate, hlong, hp, ?_⟩
  rw [hentry]
  exact he

/-- A file is found as it was where directories are kept and it stands as it did. -/
theorem stat_of_keeps (hkeeps : KeepsDirectories t t') (he : e.isDirectory = false)
    (h : t.stat cwd path = .ok (p, e)) (hentry : t'.get? p = some e) :
    t'.stat cwd path = .ok (p, e) := by
  obtain ⟨dir, name, hlocate, hlong, hp, -⟩ := (stat_file_iff he).mp h
  exact (stat_file_iff he).mpr ⟨dir, name, locate_of_keeps hkeeps hlocate, hlong, hp, hentry⟩

theorem readBytes_of_stat (h : t.stat cwd path = .ok (p, e)) : t.readBytes cwd path = e.read := by
  rw [readBytes, h]

theorem hasPath_of_stat (h : t.stat cwd path = .ok (p, e)) : t.hasPath cwd path = true := by
  rw [hasPath, h]

/-- What is read is no directory. -/
theorem stat_of_readText {text : String} (h : t.readText cwd path = .ok text) :
    ∃ p e, e.isDirectory = false ∧ t.stat cwd path = .ok (p, e) := by
  unfold readText readBytes at h
  cases hstat : t.stat cwd path with
  | error e => simp [hstat] at h
  | ok x =>
    obtain ⟨p, e⟩ := x
    refine ⟨p, e, ?_, rfl⟩
    cases hread : e.read with
    | error cause => simp [hstat, hread] at h
    | ok content => exact Entry.not_directory_of_read hread

section Write

variable {content : Bytes}

theorem write_eq_ok_iff :
    t.write cwd path content = .ok t' ↔
      ∃ p, t.writePlace cwd path = .ok p ∧ t' = t.putFile p content := by
  unfold write
  cases t.writePlace cwd path <;> simp [eq_comm]

theorem get?_putFile_of_ne (h : q ≠ p) : (t.putFile p content).get? q = t.get? q := by
  rw [putFile, get?_put_of_ne h]

theorem get?_putFile_same (hp : p ≠ []) :
    (t.putFile p content).get? p = some (.written content (t.get? p)) := by
  rw [putFile, get?_put_same hp]

/-- A file that is written as it stands does not change the tree. -/
theorem putFile_of_written (hp : p ≠ []) (h : t.get? p = some (.written content (t.get? p))) :
    t.putFile p content = t :=
  put_of_entry hp h

theorem keeps_putFile (hp : (t.get? p).any Entry.isDirectory = false) :
    KeepsDirectories t (t.putFile p content) := by
  intro q e he hq
  have hne : q ≠ p := by
    rintro rfl
    rw [hq, Option.any_some, he] at hp
    cases hp
  rw [get?_putFile_of_ne hne, hq]

/-- **A file that was written is found by its path.** -/
theorem stat_write (hplace : t.writePlace cwd path = .ok p) :
    (t.putFile p content).stat cwd path = .ok (p, .written content (t.get? p)) := by
  obtain ⟨dir, name, hlocate, hlong, hp, hdir⟩ := writePlace_eq_ok_iff.mp hplace
  refine (stat_file_iff (Entry.not_directory_written _ _)).mpr
    ⟨dir, name, locate_of_keeps (keeps_putFile hdir) hlocate, hlong, hp, ?_⟩
  exact get?_putFile_same (hp ▸ append_name_ne_nil dir name)

/-- A file that was written can be written by its path again. -/
theorem writePlace_putFile (hplace : t.writePlace cwd path = .ok p) :
    (t.putFile p content).writePlace cwd path = .ok p :=
  writePlace_of_stat (Entry.not_directory_written _ _) (stat_write hplace)

/-- A file that is written as it was written does not change the tree. -/
theorem putFile_putFile (hplace : t.writePlace cwd path = .ok p) :
    (t.putFile p content).putFile p content = t.putFile p content := by
  obtain ⟨dir, name, -, -, hp, -⟩ := writePlace_eq_ok_iff.mp hplace
  have hne : p ≠ [] := hp ▸ append_name_ne_nil dir name
  refine putFile_of_written hne ?_
  rw [get?_putFile_same hne, Entry.written_written]

/-- New directories do not stand where a file can be written. -/
theorem Adds.entry_of_writePlace (h : Adds t t') (hplace : t'.writePlace cwd path = .ok p) :
    t'.get? p = t.get? p := by
  obtain ⟨-, -, -, -, -, hfree⟩ := writePlace_eq_ok_iff.mp hplace
  rcases h p with hsame | ⟨-, hdir⟩
  · exact hsame
  · rw [hdir] at hfree
    cases hfree

/-- **A file is found as it was** after another one is written. -/
theorem stat_write_elsewhere {cwd' : Place} {path' : Bytes} (he : e.isDirectory = false)
    (h : t.stat cwd path = .ok (p, e)) (hplace : t.writePlace cwd' path' = .ok q) (hne : q ≠ p) :
    (t.putFile q content).stat cwd path = .ok (p, e) := by
  obtain ⟨-, -, -, -, -, hdir⟩ := writePlace_eq_ok_iff.mp hplace
  obtain ⟨-, -, -, -, -, hentry⟩ := (stat_file_iff he).mp h
  refine stat_of_keeps (keeps_putFile hdir) he h ?_
  rw [get?_putFile_of_ne hne.symm, hentry]

end Write

/-! ## Places by names alone -/

/-- The place that names lead to from a directory on. -/
def resolve : Place → List Bytes → Place
  | dir, [] => dir
  | dir, name :: rest =>
    resolve (if name = "." then dir else if name = ".." then dir.dropLast else dir ++ [name]) rest

/-- The place that a path leads to from a working directory, if it leads anywhere. -/
def place (cwd : Place) (path : Bytes) : Place :=
  resolve (startOf cwd path) (namesOf path)

/-- A path leads to a plain file, or to no file yet. -/
def IsPlainFile (t : FileTree) (cwd : Place) (path : Bytes) : Prop :=
  (t.get? (place cwd path)).all Entry.isPlain = true

instance : Decidable (t.IsPlainFile cwd path) :=
  inferInstanceAs (Decidable ((t.get? (place cwd path)).all Entry.isPlain = true))

/-- A path leads to the same place from everywhere if it is absolute. -/
theorem place_eq {cwd' : Place} (h : Path.isAbsolute path = true ∨ cwd = cwd') :
    place cwd path = place cwd' path := by
  rcases h with h | rfl
  · simp [place, startOf, h]
  · rfl

theorem resolve_of_plain {names : List Bytes} (h : ∀ n ∈ names, n ≠ "." ∧ n ≠ "..") (dir : Place) :
    resolve dir names = dir ++ names := by
  induction names generalizing dir with
  | nil => simp [resolve]
  | cons name rest ih =>
    obtain ⟨hdot, hdots⟩ := h name (by simp)
    rw [resolve, if_neg hdot, if_neg hdots, ih (fun n hn => h n (by simp [hn]))]
    simp

/-- **A relative path without `.` and `..` leads to different places from different directories.** -/
theorem place_eq_iff {cwd' : Place} (h : ∀ n ∈ namesOf path, n ≠ "." ∧ n ≠ "..") :
    place cwd path = place cwd' path ↔ Path.isAbsolute path = true ∨ cwd = cwd' := by
  refine ⟨fun heq => ?_, place_eq⟩
  rw [place, place, resolve_of_plain h, resolve_of_plain h] at heq
  have hstart := List.append_cancel_right heq
  unfold startOf at hstart
  split at hstart
  · exact .inl ‹_›
  · exact .inr hstart

/-- The place of a target. -/
def Target.place : Target → Place
  | directory p => p
  | name dir n _ => dir ++ [n]

theorem enter_resolve {dir dir' : Place} {name : Bytes} (h : enter t dir name = .ok dir')
    (rest : List Bytes) : resolve dir' rest = resolve dir (name :: rest) := by
  rw [resolve]
  unfold enter at h
  split at h
  · rw [if_pos ‹_›, Except.ok.inj h]
  rw [if_neg ‹_›]
  split at h
  · rw [if_pos ‹_›, Except.ok.inj h]
  rw [if_neg ‹_›]
  split at h
  · cases h
  split at h
  · rw [Except.ok.inj h]
  · cases h
  · cases h
  · cases h

theorem follow_resolve {slash : Bool} {dir : Place} {names : List Bytes} {target : Target}
    (h : follow t slash dir names = .ok target) : target.place = resolve dir names := by
  induction names generalizing dir with
  | nil =>
    obtain rfl := Except.ok.inj h
    rfl
  | cons name rest ih =>
    cases rest with
    | nil =>
      simp only [resolve]
      rw [follow] at h
      split at h
      · rw [if_pos ‹_›, ← Except.ok.inj h, Target.place]
      rw [if_neg ‹_›]
      split at h
      · rw [if_pos ‹_›, ← Except.ok.inj h, Target.place]
      · rw [if_neg ‹_›, ← Except.ok.inj h, Target.place]
    | cons next rest =>
      rw [follow] at h
      · split at h
        · cases h
        · rw [ih h, enter_resolve ‹_›]
      · simp

theorem locate_place {target : Target} (h : t.locate cwd path = .ok target) :
    target.place = place cwd path :=
  follow_resolve (locate_eq_ok_iff.mp h).2

theorem writePlace_place (h : t.writePlace cwd path = .ok p) : p = place cwd path := by
  obtain ⟨dir, name, hlocate, -, rfl, -⟩ := writePlace_eq_ok_iff.mp h
  exact locate_place hlocate

theorem stat_place (he : e.isDirectory = false) (h : t.stat cwd path = .ok (p, e)) :
    p = place cwd path :=
  writePlace_place (writePlace_of_stat he h)

theorem stat_eq {cwd' : Place} (h : Path.isAbsolute path = true ∨ cwd = cwd') (t : FileTree) :
    t.stat cwd path = t.stat cwd' path := by
  rcases h with h | rfl
  · simp [stat, locate, h]
  · rfl

end CommandShell.FileTree
