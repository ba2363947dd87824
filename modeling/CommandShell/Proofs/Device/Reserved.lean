import CommandShell.Device
import CommandShell.Proofs.Path.Name

/-!
# Reserved device names

Some names stand for devices in every directory, with every ending and in every case, and no file is
touched when one of them is read or written.

* `Device.legacyNames`         : the names;
* `Device.classOfStem_file_iff`, `Device.classOfStem_null_iff` : the stems that stand for devices;
* `Device.classify_everywhere` : where such names are recognised, and what reading and writing does.
-/

namespace CommandShell.Device

open CommandShell.Path

variable {n n' stem device : String}

/-! ## The names -/

/-- The names that stand for devices: four words, and nine ports of two kinds. -/
def legacyNames : List String :=
  ["CON", "PRN", "AUX", "NUL"] ++
    ["COM", "LPT"].flatMap fun port => "123456789".toList.map fun digit => port.push digit

theorem mem_legacyNames (name : String) :
    name ∈ legacyNames ↔ name = "NUL" ∨ reservedNames.contains name = true := by
  rw [List.contains_iff_mem]
  constructor
  · intro h
    have hall : legacyNames.all (fun name => name == "NUL" || reservedNames.contains name) = true := by
      decide +kernel
    simpa using List.all_eq_true.mp hall name h
  · intro h
    have hall : ("NUL" :: reservedNames).all (fun name => legacyNames.contains name) = true := by
      decide +kernel
    simpa using List.all_eq_true.mp hall name (List.mem_cons.mpr h)

/-- The names are in upper case. -/
theorem upper_of_legacy {name : String} (h : name ∈ legacyNames) : Text.upper name = name := by
  have hall : legacyNames.all (fun name => Text.upper name == name) = true := by decide +kernel
  simpa using List.all_eq_true.mp hall name h

theorem sameFold_legacy {name : String} (h : name ∈ legacyNames) :
    Text.sameFold stem name = true ↔ Text.upper stem = name := by
  rw [Text.sameFold_iff_upper, upper_of_legacy h]

/-! ## Stems -/

theorem classOfStem_null_iff : classOfStem stem = .null ↔ Text.sameFold stem "NUL" = true := by
  rw [sameFold_legacy (by decide +kernel), classOfStem]
  split
  · simp [*]
  · split <;> simp [*]

theorem classOfStem_file_iff :
    classOfStem stem ≠ .file ↔ ∃ name ∈ legacyNames, Text.sameFold stem name = true := by
  have hupper : (∃ name ∈ legacyNames, Text.sameFold stem name = true) ↔
      Text.upper stem ∈ legacyNames := by
    constructor
    · rintro ⟨name, hname, hsame⟩
      rwa [(sameFold_legacy hname).mp hsame]
    · intro h
      exact ⟨Text.upper stem, h, (sameFold_legacy h).mpr rfl⟩
  rw [hupper, mem_legacyNames, classOfStem]
  split
  · rename_i hnull
    exact ⟨fun _ => .inl hnull, fun _ => by simp⟩
  · rename_i hnull
    split
    · rename_i hlisted
      exact ⟨fun _ => .inr hlisted, fun _ => by simp⟩
    · rename_i hlisted
      exact ⟨fun h => absurd rfl h, fun h => absurd h (not_or.mpr ⟨hnull, hlisted⟩)⟩

theorem classOfStem_congr {stem' : String} (h : Text.sameFold stem stem' = true) :
    classOfStem stem' = classOfStem stem := by
  rw [classOfStem, classOfStem, Text.sameFold_iff_upper.mp h]

/-! ## Names in paths -/

theorem classify_of_isName (h : IsName n) (hstem : IsStem n stem) : classify n = classOfStem stem := by
  rw [classify, stem?, h.fileName?, Option.map_some, hstem.stemOf_eq, Option.bind_some,
    Utf8.decode?_encode]

theorem classify_of_sameFold (h : IsName n) (hsame : Text.sameFold n n' = true) :
    classify n' = classify n := by
  obtain ⟨stem, hstem⟩ := exists_isStem n
  obtain ⟨stem', hstem'⟩ := exists_isStem n'
  have hstems : Text.sameFold stem stem' = true := by
    have hfold := hstem.fold
    rw [Text.sameFold_iff.mp hsame] at hfold
    exact Text.sameFold_iff.mpr (hfold.unique hstem'.fold)
  rw [classify_of_isName h hstem, classify_of_isName (h.of_sameFold hsame) hstem',
    classOfStem_congr hstems]

/-- The class of a name as a condition on its stem. -/
theorem classify_iff_stem (h : IsName n) {C : DeviceClass → Prop} {P : String → Prop}
    (hstems : ∀ stem, C (classOfStem stem) ↔ P stem) :
    C (classify n) ↔ ∃ stem, IsStem n stem ∧ P stem := by
  constructor
  · intro hclass
    obtain ⟨stem, hstem⟩ := exists_isStem n
    rw [classify_of_isName h hstem] at hclass
    exact ⟨stem, hstem, (hstems stem).mp hclass⟩
  · rintro ⟨stem, hstem, hp⟩
    rw [classify_of_isName h hstem]
    exact (hstems stem).mpr hp

/-! ## Reading and writing -/

/-- The null device gives no lines and takes all. -/
theorem null_untouched (h : classify device = .null) (lines : List String) (s : State) :
    read device s = (.ok [], s) ∧ write device lines s = (.ok (), s) := by
  unfold read write
  rw [h]
  exact ⟨rfl, rfl⟩

/-- Other reserved names are refused. -/
theorem reserved_untouched (h : classify device = .reserved) (lines : List String) (s : State) :
    read device s = (.error (.deviceUnsupported device), s) ∧
      write device lines s = (.error (.deviceUnsupported device), s) := by
  unfold read write
  rw [h]
  exact ⟨rfl, rfl⟩

/-- **Reserved names are recognised everywhere, and never touch a file.** Take the name `n` of an entry.
* Behind every directory, and with every tail of slashes and dots, it has the class that it has alone.
* Letters may change their case without changing the class.
* It stands for no file exactly if its stem is one of the names, in any case, and for the null device
  exactly if that is `NUL`.
Whatever the files are, a device that is no file is read and written in the same way and leaves all as it
was: the null device has no lines and takes all, and every other one is refused. -/
theorem classify_everywhere :
    (∀ d n tail, IsName n → IsTail tail → classify (d ++ "/" ++ n ++ tail) = classify n) ∧
    (∀ n n', IsName n → Text.sameFold n n' = true → classify n' = classify n) ∧
    (∀ n, IsName n →
      (classify n ≠ .file ↔
        ∃ stem, IsStem n stem ∧ ∃ name ∈ legacyNames, Text.sameFold stem name = true) ∧
      (classify n = .null ↔ ∃ stem, IsStem n stem ∧ Text.sameFold stem "NUL" = true)) ∧
    ∀ device, classify device ≠ .file → ∀ lines s,
      if classify device = .null then
        read device s = (.ok [], s) ∧ write device lines s = (.ok (), s)
      else
        read device s = (.error (.deviceUnsupported device), s) ∧
          write device lines s = (.error (.deviceUnsupported device), s) := by
  refine ⟨fun d n tail hn htail => ?_, fun n n' => classify_of_sameFold, fun n hn => ⟨?_, ?_⟩,
    fun device hdevice lines s => ?_⟩
  · rw [classify, classify, stem?_of_isName d hn htail]
  · exact classify_iff_stem hn (C := (· ≠ .file)) fun _ => classOfStem_file_iff
  · exact classify_iff_stem hn (C := (· = .null)) fun _ => classOfStem_null_iff
  · split
    · exact null_untouched ‹_› lines s
    · rename_i hnull
      have hreserved : classify device = .reserved := by
        cases hclass : classify device with
        | null => exact absurd hclass hnull
        | reserved => rfl
        | file => exact absurd hclass hdevice
      exact reserved_untouched hreserved lines s

theorem classify_everywhere_port :
    IsName "lPt9.log" ∧ IsTail "//./" ∧ IsStem "lPt9.log" "lPt9" ∧
      classify "/tmp/./x/lPt9.log//./" = .reserved ∧ classify "LPT9.LOG" = .reserved ∧
      ∀ s, write "LPT9.LOG" ["a"] s = (.error (.deviceUnsupported "LPT9.LOG"), s) := by
  have hname : IsName "lPt9.log" := ⟨by decide, by decide, by decide, by decide⟩
  have htail : IsTail "//./" := ⟨["/", "/.", "/"], by decide, by decide⟩
  have hstem : IsStem "lPt9.log" "lPt9" := isStem_iff.mpr (by decide +kernel)
  obtain ⟨hpaths, hcase, hstems, huntouched⟩ := classify_everywhere
  have hfile : classify "lPt9.log" ≠ .file :=
    (hstems "lPt9.log" hname).1.mpr ⟨"lPt9", hstem, "LPT9", by decide +kernel, by decide +kernel⟩
  have hnull : classify "lPt9.log" ≠ .null := by decide +kernel
  have hclass : classify "lPt9.log" = .reserved := by
    cases h : classify "lPt9.log" with
    | null => exact absurd h hnull
    | reserved => rfl
    | file => exact absurd h hfile
  have hupper : classify "LPT9.LOG" = .reserved :=
    (hcase "lPt9.log" "LPT9.LOG" hname (by decide +kernel)).trans hclass
  refine ⟨hname, htail, hstem, (hpaths "/tmp/./x" "lPt9.log" "//./" hname htail).trans hclass, hupper,
    fun s => ?_⟩
  have hwrite := huntouched "LPT9.LOG" (by simp [hupper]) ["a"] s
  rw [if_neg (by simp [hupper])] at hwrite
  exact hwrite.2

end CommandShell.Device
