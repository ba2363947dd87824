import CommandShell.Proofs.Toml.Text
import CommandShell.Toml.Document

/-!
# TOML: documents that are written are read

A document of plain entries and of sections with plain entries is read line by line, and the lines
build the table that it was written from.

* `Toml.ReadsAs`       : a text is read as a value at the end of a line;
* `Toml.Spells`        : a text is read as lines, whatever follows it;
* `Toml.build_section` : a header and the entries below it build one entry, a table;
* `Toml.readStatements?_of_spells` : such a text is read to its end.
-/

namespace CommandShell.Toml

/-! ## Values -/

/-- A text is read as a value where a line ends behind it. -/
structure ReadsAs (text : String) (v : Value) : Prop where
  /-- No blank stands before the value. -/
  head : ∃ x r, text.toList = x :: r ∧ isBlank x = false
  /-- The reader stops at the line end. -/
  reads : ∀ fuel rest, text.toList.length < fuel →
    readValue? fuel (levelLimit - 1) (text.toList ++ '\n' :: rest) = some (v, '\n' :: rest)

theorem readsAs_bool (b : Bool) : ReadsAs (writeBool b) (.boolean b) := by
  refine ⟨?_, fun fuel rest hfuel => ?_⟩
  · cases b <;> exact ⟨_, _, rfl, by decide⟩
  · obtain ⟨n, rfl⟩ : ∃ n, fuel = n + 1 := ⟨fuel - 1, by omega⟩
    cases b <;> simp [writeBool, readValue?]

theorem readValue?_string (s : String) (fuel levels : Nat) {d : Char} (hd : d ≠ '"')
    (hd' : d ≠ '\'') (rest : List Char) :
    readValue? (fuel + 1) levels (writeStringChars s.toList ++ d :: rest) =
      some (.string s, d :: rest) := by
  have hread := readString?_write s.toList hd hd' rest
  obtain ⟨x, r, hx, rfl | rfl⟩ := writeStringChars_head s.toList
  · rw [hx, List.cons_append] at hread ⊢
    simp [readValue?, hread]
  · rw [hx, List.cons_append] at hread ⊢
    simp [readValue?, hread]

theorem readsAs_string (s : String) : ReadsAs (writeString s) (.string s) := by
  refine ⟨?_, fun fuel rest hfuel => ?_⟩
  · obtain ⟨x, r, hx, rfl | rfl⟩ := writeStringChars_head s.toList
    · exact ⟨_, r, by simpa [writeString] using hx, by decide⟩
    · exact ⟨_, r, by simpa [writeString] using hx, by decide⟩
  · obtain ⟨n, rfl⟩ : ∃ n, fuel = n + 1 := ⟨fuel - 1, by omega⟩
    simpa [writeString] using readValue?_string s n _ (by decide) (by decide) rest

/-! ## Arrays -/

/-- A quote is where blanks and line ends stop. -/
theorem skipTrivia_string (s : String) (rest : List Char) :
    skipTrivia false (writeStringChars s.toList ++ rest) = writeStringChars s.toList ++ rest := by
  obtain ⟨x, r, hx, rfl | rfl⟩ := writeStringChars_head s.toList <;>
    simp [hx, skipTrivia, isBlank]

/-- An item with a comma behind it is followed by the others. -/
theorem readItems?_comma {cs rest : List Char} {s : String}
    (hcs : skipTrivia false cs = writeStringChars s.toList ++ ',' :: rest) (fuel levels : Nat) :
    readItems? (fuel + 2) levels cs =
      (readItems? (fuel + 1) levels rest).map fun (vs, rest) => (.string s :: vs, rest) := by
  have hvalue := readValue?_string s fuel levels (show ',' ≠ '"' by decide) (by decide) rest
  obtain ⟨x, r, hx, hquote⟩ := writeStringChars_head s.toList
  have hclose : x ≠ ']' := by rintro rfl; simp at hquote
  rw [hx, List.cons_append] at hcs hvalue
  simp [readItems?, hcs, hvalue, hclose, skipTrivia, isBlank]

/-- An item with a bracket behind it is the last one. -/
theorem readItems?_bracket (s : String) (rest : List Char) (fuel levels : Nat) :
    readItems? (fuel + 2) levels (writeStringChars s.toList ++ ']' :: rest) =
      some ([.string s], rest) := by
  have hskip := skipTrivia_string s (']' :: rest)
  have hvalue := readValue?_string s fuel levels (show ']' ≠ '"' by decide) (by decide) rest
  obtain ⟨x, r, hx, hquote⟩ := writeStringChars_head s.toList
  have hclose : x ≠ ']' := by rintro rfl; simp at hquote
  rw [hx, List.cons_append] at hskip hvalue ⊢
  simp [readItems?, hskip, hvalue, hclose, skipTrivia, isBlank]

/-- The line of an item of an array. -/
def itemLine (s : String) : List Char :=
  "    ".toList ++ (writeStringChars s.toList ++ ",\n".toList)

theorem readItems?_lines (ss : List String) {fuel : Nat} (levels : Nat) (rest : List Char)
    (hfuel : ss.length < fuel) :
    readItems? fuel levels ('\n' :: (ss.flatMap itemLine ++ ']' :: rest)) =
      some (ss.map .string, rest) := by
  induction ss generalizing fuel with
  | nil =>
    obtain ⟨n, rfl⟩ : ∃ n, fuel = n + 1 := ⟨fuel - 1, by omega⟩
    simp [readItems?, skipTrivia, isBlank]
  | cons s ss ih =>
    obtain ⟨n, rfl⟩ : ∃ n, fuel = n + 2 := ⟨fuel - 2, by simp at hfuel; omega⟩
    have hskip : skipTrivia false ('\n' :: ((s :: ss).flatMap itemLine ++ ']' :: rest)) =
        writeStringChars s.toList ++ ',' :: '\n' :: (ss.flatMap itemLine ++ ']' :: rest) := by
      simp [itemLine, skipTrivia, isBlank, skipTrivia_string]
    have hmore := ih (show ss.length < n + 1 by simpa using hfuel)
    rw [readItems?_comma hskip, hmore]
    rfl

theorem toList_writeStrings_many (s t : String) (ss : List String) :
    (writeStrings (s :: t :: ss)).toList =
      '[' :: '\n' :: ((s :: t :: ss).flatMap itemLine ++ [']']) := by
  unfold itemLine
  simp [writeStrings, writeString, String.toList_join, List.flatMap_map]

theorem readValue?_array {fuel : Nat} {cs rest : List Char} {items : List Value}
    (h : readItems? fuel (levelLimit - 2) cs = some (items, rest)) :
    readValue? (fuel + 1) (levelLimit - 1) ('[' :: cs) = some (.array items, rest) := by
  have hopen : levelLimit - 1 ≠ 0 := by decide
  have hrest : levelLimit - 1 - 1 = levelLimit - 2 := rfl
  simp [readValue?, hopen, hrest, h]

theorem length_le_flatMap_itemLine (ss : List String) :
    ss.length ≤ (ss.flatMap itemLine).length := by
  induction ss with
  | nil => exact Nat.le_refl _
  | cons s ss ih =>
    rw [List.flatMap_cons, List.length_append, List.length_cons]
    have hline : 1 ≤ (itemLine s).length := by simp [itemLine]
    omega

/-- **An array of strings is read.** -/
theorem readsAs_strings (ss : List String) :
    ReadsAs (writeStrings ss) (.array (ss.map .string)) := by
  refine ⟨?_, fun fuel rest hfuel => ?_⟩
  · unfold writeStrings
    split <;> exact ⟨'[', _, by simp; rfl, by decide⟩
  match ss with
  | [] =>
    obtain ⟨n, rfl⟩ : ∃ n, fuel = n + 2 := ⟨fuel - 2, by simp [writeStrings] at hfuel; omega⟩
    have hitems : readItems? (n + 1) (levelLimit - 2) (']' :: '\n' :: rest) =
        some ([], '\n' :: rest) := by
      simp [readItems?, skipTrivia, isBlank]
    simpa [writeStrings] using readValue?_array hitems
  | [s] =>
    obtain ⟨n, rfl⟩ : ∃ n, fuel = n + 3 := ⟨fuel - 3, by
      obtain ⟨x, r, hx, -⟩ := writeStringChars_head s.toList
      simp [writeStrings, writeString, hx] at hfuel
      omega⟩
    have hitem := readItems?_bracket s ('\n' :: rest) n (levelLimit - 2)
    simpa [writeStrings, writeString] using readValue?_array hitem
  | s :: t :: ss =>
    rw [toList_writeStrings_many] at hfuel ⊢
    have hlength := length_le_flatMap_itemLine (s :: t :: ss)
    obtain ⟨n, rfl⟩ : ∃ n, fuel = n + 1 := ⟨fuel - 1, by omega⟩
    have hitems := readItems?_lines (s :: t :: ss) (levelLimit - 2) ('\n' :: rest)
      (show (s :: t :: ss).length < n by
        simp only [List.length_cons, List.length_append, List.length_nil] at hfuel hlength ⊢
        omega)
    simpa using readValue?_array hitems

/-! ## Lines -/

/-- A text is read as lines, whatever follows it. -/
structure Spells (text : String) (lines : List Statement) : Prop where
  /-- The text is long enough for its lines. -/
  length_le : lines.length ≤ text.toList.length
  /-- The reader goes on behind them. -/
  reads : ∀ n rest, readStatementsFrom? (n + lines.length) (text.toList ++ rest) =
    (readStatementsFrom? n rest).map (lines ++ ·)

theorem spells_empty : Spells "" [] :=
  ⟨Nat.le_refl _, fun n rest => by simp⟩

theorem Spells.append {text text' : String} {lines lines' : List Statement}
    (h : Spells text lines) (h' : Spells text' lines') :
    Spells (text ++ text') (lines ++ lines') := by
  refine ⟨?_, fun n rest => ?_⟩
  · have hlength := h.length_le
    have hlength' := h'.length_le
    simp only [List.length_append, String.toList_append]
    omega
  · rw [List.length_append, Nat.add_comm lines.length, ← Nat.add_assoc, String.toList_append,
      List.append_assoc, h.reads, h'.reads, Option.map_map]
    simp [Function.comp_def]

/-- The texts of many lines, one after the other. -/
theorem spells_join {α : Type} {write : α → String} {line : α → Statement} {xs : List α}
    (h : ∀ x ∈ xs, Spells (write x) [line x]) :
    Spells (String.join (xs.map write)) (xs.map line) := by
  induction xs with
  | nil => exact spells_empty
  | cons x xs ih =>
    rw [List.map_cons, List.map_cons, String.join_cons]
    exact (h x (by simp)).append (ih fun y hy => h y (by simp [hy]))

/-- One line that the reader of lines takes. -/
theorem spells_line {text : String} {line : Statement} (hsome : 1 ≤ text.toList.length)
    (h : ∀ rest, ∃ c cs, skipTrivia false (text.toList ++ rest) = c :: cs ∧
      readStatement? (c :: cs) = some (line, rest)) : Spells text [line] := by
  refine ⟨hsome, fun n rest => ?_⟩
  obtain ⟨c, cs, hskip, hread⟩ := h rest
  simp only [List.length_cons, List.length_nil, readStatementsFrom?, hskip, hread]
  rfl

/-- The start of a key is where blanks and line ends stop. -/
theorem skipTrivia_key {c : Char} (h : StartsKey c) (rest : List Char) :
    skipTrivia false (c :: rest) = c :: rest := by
  have hline : c ≠ '\n' := h.ne (by decide)
  have hreturn : c ≠ '\r' := h.ne (by decide)
  have hcomment : c ≠ '#' := h.ne (by decide)
  simp [skipTrivia, hline, hreturn, hcomment, h.not_blank]

theorem StartsKey.ne_bracket {c : Char} (h : StartsKey c) : c ≠ '[' :=
  h.ne (by decide)

theorem readStatement?_entry {cs rest : List Char} {key : String} {v : Value}
    (hbracket : ∀ r, cs ≠ '[' :: r) (hkeys : readKeys? cs = some ([key], '=' :: ' ' :: rest))
    {after : List Char}
    (hvalue : readValue? (cs.length + 1) (levelLimit - 1) (skipBlanks rest) =
      some (v, '\n' :: after)) :
    readStatement? cs = some (.entry [key] v, after) := by
  have hspace : skipBlanks (' ' :: rest) = skipBlanks rest := rfl
  unfold readStatement?
  split
  · exact absurd rfl (hbracket _)
  · exact absurd rfl (hbracket _)
  · simp only [hkeys, hspace, hvalue]
    rfl

/-- **The line of a key and a value is read.** -/
theorem spells_entry (key : String) {text : String} {v : Value} (h : ReadsAs text v) :
    Spells (writeEntry key text) [.entry [key] v] := by
  obtain ⟨x, r, hx, hstart⟩ := writeKeyChars_head key.toList
  obtain ⟨y, q, hy, hblank⟩ := h.head
  have htext : (writeEntry key text).toList =
      writeKeyChars key.toList ++ ' ' :: '=' :: ' ' :: (text.toList ++ ['\n']) := by
    simp [writeEntry, writeKey]
  refine spells_line (by simp [htext]; omega) fun rest => ?_
  have hsign : skipBlanks (' ' :: '=' :: ' ' :: (text.toList ++ '\n' :: rest)) =
      '=' :: ' ' :: (text.toList ++ '\n' :: rest) := rfl
  have hkeys := readKeys?_write key (show isBareKeyChar ' ' = false from rfl) hsign (by simp)
  have hskip : skipBlanks (text.toList ++ '\n' :: rest) = text.toList ++ '\n' :: rest := by
    simp [skipBlanks, hy, hblank]
  rw [hx, List.cons_append] at hkeys
  refine ⟨_, _, ?_, readStatement?_entry (by simp [hstart.ne_bracket]) hkeys ?_⟩
  · simpa [htext, hx] using skipTrivia_key hstart _
  · rw [hskip]
    exact h.reads _ rest (by simp; omega)

/-- **The header of a section is read**, and the blank line before it is skipped. -/
theorem spells_header (name : String) :
    Spells ("\n[" ++ writeKey name ++ "]\n") [.table [name]] := by
  obtain ⟨x, r, hx, hstart⟩ := writeKeyChars_head name.toList
  refine spells_line (by simp) fun rest => ?_
  have hclosing : skipBlanks (']' :: '\n' :: rest) = ']' :: '\n' :: rest := rfl
  have hkeys := readKeys?_write name (show isBareKeyChar ']' = false from rfl) hclosing (by simp)
  rw [hx, List.cons_append] at hkeys
  refine ⟨'[', x :: (r ++ ']' :: '\n' :: rest), ?_, ?_⟩
  · simp [writeKey, hx, skipTrivia, isBlank]
  · simp [readStatement?, hstart.ne_bracket, hkeys, lineEnd?, skipBlanks, isBlank, newline?]

/-- A document of lines is read. -/
theorem readStatements?_of_spells {text : String} {lines : List Statement} (h : Spells text lines)
    (hmark : text.toList.head? ≠ some (Char.ofNat 0xFEFF)) :
    readStatements? text.toList = some lines := by
  obtain ⟨n, hn⟩ : ∃ n, text.toList.length + 1 = n + 1 + lines.length :=
    ⟨text.toList.length - lines.length, by have := h.length_le; omega⟩
  have hread := h.reads (n + 1) []
  rw [List.append_nil] at hread
  rw [readStatements?, if_neg hmark, hn, hread]
  simp [readStatementsFrom?, skipTrivia]

/-! ## Tables -/

/-- The lines of keys with values. -/
def entryLines (es : List (String × Value)) : List Statement :=
  es.map fun e => .entry [e.1] e.2

/-- Keys with values in a table under construction. -/
def valueNodes (es : List (String × Value)) : List (String × Node) :=
  es.map fun e => (e.1, .value e.2)

theorem keys_valueNodes (es : List (String × Value)) :
    (valueNodes es).map (·.1) = es.map (·.1) := by
  simp [valueNodes]

theorem toEntries_append (ns ns' : List (String × Node)) :
    toEntries (ns ++ ns') = toEntries ns ++ toEntries ns' := by
  induction ns with
  | nil => simp [toEntries]
  | cons n ns ih => simp [toEntries, ih]

theorem toEntries_valueNodes (es : List (String × Value)) : toEntries (valueNodes es) = es := by
  induction es with
  | nil => simp [valueNodes, toEntries]
  | cons e es ih =>
    rw [valueNodes, List.map_cons, toEntries, Node.toValue, ← valueNodes, ih]

theorem lookup_new {key : String} {ns : List (String × Node)} (h : key ∉ ns.map (·.1)) :
    ns.lookup key = none := by
  rw [List.lookup_eq_none_iff]
  intro n hn
  rw [bne_iff_ne]
  rintro rfl
  exact h (List.mem_map_of_mem hn)

theorem lookup_last {key : String} {ns : List (String × Node)} (h : key ∉ ns.map (·.1))
    (n : Node) : (ns ++ [(key, n)]).lookup key = some n := by
  simp [List.lookup_append, lookup_new h]

/-- Keys that differ are passed over. -/
theorem putNode_append {key : String} {ns : List (String × Node)} (h : key ∉ ns.map (·.1))
    (n : Node) (ms : List (String × Node)) :
    Table.putNode key n (ns ++ ms) = ns ++ Table.putNode key n ms := by
  induction ns with
  | nil => rfl
  | cons m ns ih =>
    simp only [List.map_cons, List.mem_cons, not_or] at h
    simp [Table.putNode, Ne.symm h.1, ih h.2]

theorem putNode_new {key : String} {ns : List (String × Node)} (h : key ∉ ns.map (·.1))
    (n : Node) : Table.putNode key n ns = ns ++ [(key, n)] := by
  simpa [Table.putNode] using putNode_append h n []

theorem putNode_last {key : String} {ns : List (String × Node)} (h : key ∉ ns.map (·.1))
    (n n' : Node) : Table.putNode key n (ns ++ [(key, n')]) = ns ++ [(key, n)] := by
  simp [putNode_append h, Table.putNode]

/-- The first of the keys to come is new. -/
theorem new_of_nodup {ns : List (String × Node)} {e : String × Value} {es : List (String × Value)}
    (h : (ns.map (·.1) ++ (e :: es).map (·.1)).Nodup) : e.1 ∉ ns.map (·.1) :=
  fun hmem => (List.nodup_append.mp h).2.2 _ hmem e.1 (by simp) rfl

/-- A new key goes behind the others. -/
theorem addEntry_new {key : String} {ns : List (String × Node)} (h : key ∉ ns.map (·.1))
    (v : Value) :
    Table.addEntry [key] v (.mk true false ns) =
      some (.mk true false (ns ++ [(key, .value v)])) := by
  simp [Table.addEntry, Table.addKey, Table.isDotted, Table.get?, Table.entries, lookup_new h,
    Table.put, Table.withEntries, Table.isDefined, putNode_new h]

/-- Entries before any header go into the document itself. -/
theorem build_entries {es : List (String × Value)} {ns : List (String × Node)}
    (h : (ns.map (·.1) ++ es.map (·.1)).Nodup) (rest : List Statement) :
    build [] (entryLines es ++ rest) (.mk true false ns) =
      build [] rest (.mk true false (ns ++ valueNodes es)) := by
  induction es generalizing ns with
  | nil => simp [entryLines, valueNodes]
  | cons e es ih =>
    have hmore := @ih (ns ++ [(e.1, .value e.2)]) (by simpa using h)
    simp only [entryLines, List.map_cons, List.cons_append, build, Table.update,
      addEntry_new (new_of_nodup h)]
    simpa [entryLines, valueNodes] using hmore

/-- Entries below a header go into its table, which is the last one of the document. -/
theorem build_entries_below {key : String} {ns : List (String × Node)} (hkey : key ∉ ns.map (·.1))
    {es : List (String × Value)} {ms : List (String × Node)}
    (h : (ms.map (·.1) ++ es.map (·.1)).Nodup) (rest : List Statement) :
    build [key] (entryLines es ++ rest) (.mk true false (ns ++ [(key, .table (.mk true false ms))])) =
      build [key] rest
        (.mk true false (ns ++ [(key, .table (.mk true false (ms ++ valueNodes es)))])) := by
  induction es generalizing ms with
  | nil => simp [entryLines, valueNodes]
  | cons e es ih =>
    have hmore := @ih (ms ++ [(e.1, .value e.2)]) (by simpa using h)
    simp only [entryLines, List.map_cons, List.cons_append, build, Table.update, Table.get?,
      Table.entries, lookup_last hkey, Bool.false_and, Bool.false_eq_true, ↓reduceIte,
      addEntry_new (new_of_nodup h), Option.map_some, Table.put, Table.withEntries, putNode_last hkey,
      Table.isDefined, Table.isDotted]
    simpa [entryLines, valueNodes] using hmore

/-- **A header and the entries below it build one entry**, a table. -/
theorem build_section {current : List String} {key : String} {ns : List (String × Node)}
    (hkey : key ∉ ns.map (·.1)) {es : List (String × Value)} (h : (es.map (·.1)).Nodup)
    (rest : List Statement) :
    build current (.table [key] :: (entryLines es ++ rest)) (.mk true false ns) =
      build [key] rest
        (.mk true false (ns ++ [(key, .table (.mk true false (valueNodes es)))])) := by
  have hentries := @build_entries_below key ns hkey es [] (by simpa using h) rest
  simp only [build, Table.addTable, List.reverse_cons, List.reverse_nil, List.nil_append,
    Table.update, Table.define, Table.get?, Table.entries, lookup_new hkey, Table.put,
    Table.withEntries, putNode_new hkey, Table.isDefined, Table.isDotted]
  simpa using hentries

end CommandShell.Toml
