import CommandShell.Proofs.Device.RoundTrip
import CommandShell.Proofs.Segment.Capture

/-!
# Lines of programs and lines of files

What a program writes is read up to one line feed after the other, byte by byte, and a file is divided
into lines character by character.  Both give the same lines, as a line feed or a carriage return is a
byte of no other character.  A single line of output becomes one text, but nobody who takes lines from
the value can tell.

* `LinesOf.encode`          : the lines of a text and the lines of its bytes;
* `Program.lines_of_linesOf`: what is read line by line are the lines of the bytes;
* `Program.lines_of_decode?`: the lines of well-formed output;
* `Value.Shows`, `Program.shows_valueOf` : what can be taken from a captured value;
* `Program.Copies`          : programs that copy their input;
* `Program.streams_agree`   : captured output, files and values have the same lines.
-/

namespace CommandShell

/-! ## Bytes and characters -/

namespace Utf8

theorem eq_of_toNat {c : Char} {n : Nat} (h : c.toNat = n) : c = Char.ofNat n := by
  rw [← h, Char.ofNat_toNat]

/-- A line feed byte stands for a line feed only. -/
theorem feed_not_mem {row : List Char} (h : '\n' ∉ row) : (10 : UInt8) ∉ row.flatMap encodeChar := by
  intro hmem
  obtain ⟨c, hc, hbyte⟩ := List.mem_flatMap.mp hmem
  have hcode : c.toNat = (10 : UInt8).toNat := (mem_encodeChar_iff (by decide) c).mp hbyte
  have hfeed : c = '\n' := eq_of_toNat hcode
  exact h (hfeed ▸ hc)

/-- A carriage return byte at the end stands for a carriage return at the end. -/
theorem return_not_last {row : List Char} (h : row.getLast? ≠ some '\r') :
    (row.flatMap encodeChar).getLast? ≠ some (13 : UInt8) := by
  intro hlast
  rcases List.eq_nil_or_concat' row with rfl | ⟨init, c, rfl⟩
  · cases hlast
  · have hchar : ((init ++ [c]).flatMap encodeChar).getLast? = (encodeChar c).getLast? := by
      rw [List.flatMap_append, List.flatMap_singleton,
        List.getLast?_append_of_ne_nil _ (encodeChar_ne_nil c)]
    rw [hchar] at hlast
    have hbyte : (13 : UInt8) ∈ encodeChar c := List.mem_of_getLast? hlast
    have hcode : c.toNat = (13 : UInt8).toNat := (mem_encodeChar_iff (by decide) c).mp hbyte
    have hreturn : c = '\r' := eq_of_toNat hcode
    exact h (by simp [hreturn])

end Utf8

/-- **The lines of a text have the lines of its bytes.** -/
theorem LinesOf.encode {cs : List Char} {rows : List (List Char)} (h : LinesOf '\n' '\r' cs rows) :
    LinesOf (10 : UInt8) 13 (cs.flatMap Utf8.encodeChar) (rows.map (·.flatMap Utf8.encodeChar)) := by
  induction h with
  | nil => exact .nil
  | @last row filled noFeed =>
    refine .last ?_ (Utf8.feed_not_mem noFeed)
    obtain ⟨c, row, rfl⟩ := List.exists_cons_of_ne_nil filled
    simp [Utf8.encodeChar_ne_nil c]
  | @atFeed row rest rows noFeed noReturn more ih =>
    have hfeed : Utf8.encodeChar '\n' = [10] := by decide
    rw [List.flatMap_append, List.flatMap_cons, hfeed]
    exact .atFeed (Utf8.feed_not_mem noFeed) (Utf8.return_not_last noReturn) ih
  | @atReturn row rest rows noFeed more ih =>
    have hfeed : Utf8.encodeChar '\n' = [10] := by decide
    have hreturn : Utf8.encodeChar '\r' = [13] := by decide
    rw [List.flatMap_append, List.flatMap_cons, List.flatMap_cons, hfeed, hreturn]
    exact .atReturn (Utf8.feed_not_mem noFeed) ih

/-- What can be taken from a value that stands for output and error output. -/
structure Value.Shows (v : Value) (out err : List String) : Prop where
  lines : v.lineList = out
  arguments : v.arguments = out
  stdOut : v.select .stdOut = out
  stdErr : v.select .stdErr = err
  stdOutAndErr : v.select .stdOutAndErr = out ++ err

namespace Program

/-! ## The lines that are read -/

theorem readUntilFeed_of_not_mem {row : Bytes} (h : 10 ∉ row) : readUntilFeed row = (row, []) := by
  induction row with
  | nil => rfl
  | cons b row ih =>
    rw [List.mem_cons, not_or] at h
    obtain ⟨hb, hrow⟩ := h
    rw [readUntilFeed, if_neg (Ne.symm hb), ih hrow]

theorem readUntilFeed_feed {row : Bytes} (h : 10 ∉ row) (rest : Bytes) :
    readUntilFeed (row ++ 10 :: rest) = (row ++ [10], rest) := by
  induction row with
  | nil => rfl
  | cons b row ih =>
    rw [List.mem_cons, not_or] at h
    obtain ⟨hb, hrow⟩ := h
    rw [List.cons_append, readUntilFeed, if_neg (Ne.symm hb), ih hrow]
    rfl

theorem dropLineEnd_of_not_mem {row : Bytes} (h : 10 ∉ row) : dropLineEnd row = row :=
  if_neg fun hlast => h (List.mem_of_getLast? hlast)

theorem dropLineEnd_feed (row : Bytes) :
    dropLineEnd (row ++ [10]) = if row.getLast? = some 13 then row.dropLast else row := by
  simp [dropLineEnd]

/-- One turn of the reader. -/
theorem lines_of_read {bs buffer rest : Bytes} (h : readUntilFeed bs = (buffer, rest))
    (hfilled : buffer ≠ []) : lines bs = Utf8.decodeLossy (dropLineEnd buffer) :: lines rest := by
  rw [lines, h]
  exact if_neg hfilled

/-- **What is read line by line are the lines**, with bytes that are not UTF-8 replaced. -/
theorem lines_of_linesOf {bs : Bytes} {rows : List Bytes} (h : LinesOf 10 13 bs rows) :
    lines bs = rows.map Utf8.decodeLossy := by
  have hnothing : lines [] = [] := by rw [lines]; rfl
  induction h with
  | nil => exact hnothing
  | @last row filled noFeed =>
    rw [lines_of_read (readUntilFeed_of_not_mem noFeed) filled, dropLineEnd_of_not_mem noFeed, hnothing]
    rfl
  | @atFeed row rest rows noFeed noReturn more ih =>
    rw [lines_of_read (readUntilFeed_feed noFeed rest) (by simp), dropLineEnd_feed, if_neg noReturn, ih]
    rfl
  | @atReturn row rest rows noFeed more ih =>
    have hreturn : (10 : UInt8) ∉ row ++ [13] := by simpa using noFeed
    have hread := readUntilFeed_feed hreturn rest
    rw [List.append_assoc, List.singleton_append] at hread
    rw [lines_of_read hread (by simp), dropLineEnd_feed, if_pos (by simp), List.dropLast_concat, ih]
    rfl

/-- **The lines of well-formed output** are those of the text that it reads as. -/
theorem lines_of_decode? {bs : Bytes} {text : String} (h : Utf8.decode? bs = some text) :
    lines bs = Text.lines text := by
  obtain rfl := Utf8.decode?_eq_some_iff.mp h
  have hchars : LinesOf '\n' '\r' text.toList (splitLines '\n' '\r' text.toList) :=
    (splitLines_eq_iff (by decide)).mp rfl
  have hrow : ∀ row : List Char, Utf8.decodeLossy (row.flatMap Utf8.encodeChar) = String.ofList row := by
    intro row
    have hwhole := Utf8.decodeLossy_encode (String.ofList row)
    rwa [Utf8.encode, String.toList_ofList] at hwhole
  rw [Utf8.encode, lines_of_linesOf hchars.encode, List.map_map, Text.lines]
  exact List.map_congr_left fun row _ => hrow row

/-! ## Captured output -/

/-- **Nothing is lost in a captured value**, also where it is one text. -/
theorem shows_valueOf (out err : List String) : (valueOf out err).Shows out err := by
  unfold valueOf
  split
  · exact ⟨rfl, rfl, rfl, rfl, rfl⟩
  · exact ⟨rfl, rfl, rfl, rfl, rfl⟩

/-! ## Programs that copy -/

/-- With these arguments, a program copies a stream to its output and writes nothing else. -/
def Copies (program : Program) (args : List String) : Prop :=
  ∀ i : Invocation, i.args = args → i.inputKind = .stream → i.outputFile = none →
    (program i).output = i.input ∧ (program i).errors = []

/-- The lines of a copy are the lines that were fed, if each of them is a line. -/
theorem lines_feed {ls : List String} (h : ∀ line ∈ ls, Text.IsLine line) : lines (feed ls) = ls := by
  rw [feed, lines_of_decode? (Utf8.decode?_encode _)]
  exact (Text.lines_unlines_iff ls).mpr h

variable {tools : Toolbox} {name : String} {args : List String} {program : Program} {s : State}

/-- A program that was found is run; its captured value shows what it wrote. -/
theorem call_captured (hfind : find? tools s.machine name args = some program)
    (input : Option (List String)) :
    ∃ o : Outcome, (call tools name args input true s).1 = .ok o ∧
      o.value.Shows (lines (called program name args input s).output)
        (lines (called program name args input s).errors) := by
  rw [call_apply, hfind]
  exact ⟨_, rfl, shows_valueOf _ _⟩

/-- A value is taken for another one of the same lines, unless one of the two is absent. -/
theorem alike_of_lines {v w : Value} (hlines : w.lineList = v.lineList)
    (harguments : w.arguments = w.lineList) (hv : v ≠ .absent) :
    w.joined = v.joined ∧ w.contribution = v.contribution ∧ w.arguments = v.arguments := by
  have hown : v.arguments = v.lineList := by
    cases v with
    | absent => exact absurd rfl hv
    | scalar | lines | streams => rfl
  refine ⟨?_, ?_, ?_⟩
  · rw [Value.joined, Value.joined, hlines]
  · rw [Value.contribution, Value.contribution, hlines]
  · rw [harguments, hown, hlines]

/-- **Captured output, files and values have the same lines.**
* The lines of output that is well-formed UTF-8 are the lines of the text that it reads as; so they are
  what is read from a file with the same bytes.
* The value of captured lines gives the output as its lines and as arguments, and each redirection
  takes its streams from it, also where the value is one text. Such is the value of every program that
  is found and run with its output captured.
* A program that copies its input, run with the lines of a value, yields a value that cannot be told
  from that one by its lines, joined or concatenated, or as arguments, if each of these lines is one. -/
theorem streams_agree :
    (∀ (bs : Bytes) (text : String), Utf8.decode? bs = some text →
      lines bs = Text.lines text ∧
      ∀ (device : String) (s : State), Device.classify device = .file →
        s.machine.tree.readBytes s.machine.cwd device = .ok bs →
        Device.read device s = (.ok (lines bs), s)) ∧
    (∀ out err : List String, (valueOf out err).Shows out err) ∧
    (∀ (tools : Toolbox) (name : String) (args : List String) (input : Option (List String))
      (program : Program) (s : State), find? tools s.machine name args = some program →
      ∃ o : Outcome, (call tools name args input true s).1 = .ok o ∧
        o.value.Shows (lines (called program name args input s).output)
          (lines (called program name args input s).errors)) ∧
    (∀ (tools : Toolbox) (name : String) (args : List String) (program : Program) (s : State)
      (v : Value), find? tools s.machine name args = some program → program.Copies args →
      v ≠ .absent → (∀ line ∈ v.lineList, '\n' ∉ line.toList ∧ line.toList.getLast? ≠ some '\r') →
      ∃ o : Outcome, (call tools name args (some v.lineList) true s).1 = .ok o ∧
        o.value.lineList = v.lineList ∧ o.value.joined = v.joined ∧
        o.value.contribution = v.contribution ∧ o.value.arguments = v.arguments) := by
  refine ⟨?_, shows_valueOf, ?_, ?_⟩
  · intro bs text htext
    have hlines := lines_of_decode? htext
    refine ⟨hlines, ?_⟩
    intro device s hclass hbytes
    rw [hlines]
    exact Device.read_of_bytes hclass hbytes htext
  · intro tools name args input program s hfind
    exact call_captured hfind input
  · intro tools name args program s v hfind hcopies hv hclean
    obtain ⟨o, hcall, hshows⟩ := call_captured hfind (some v.lineList)
    have hcopy : (called program name args (some v.lineList) s).output = feed v.lineList :=
      (hcopies _ rfl rfl rfl).1
    have hlines : o.value.lineList = v.lineList := by
      rw [hshows.lines, hcopy, lines_feed hclean]
    have harguments : o.value.arguments = o.value.lineList := by
      rw [hshows.arguments, hshows.lines]
    exact ⟨o, hcall, hlines, alike_of_lines hlines harguments hv⟩

/-- Writes what it reads. -/
def copyInput : Program := fun i => ⟨[.out i.input], .exited 0, i.tree, []⟩

theorem copies_copyInput (args : List String) : Copies copyInput args :=
  fun _ _ _ _ => ⟨List.append_nil _, rfl⟩

/-- A machine with a program, and a file with both kinds of line ends. -/
def equipped : State :=
  ⟨{}, ⟨(FileTree.empty.put ["copy"] (.program "copy")).put ["mixed"]
    (.file (Utf8.encode "ä\r\nb\rc\n\nd\r")), [], [], none, []⟩, []⟩

theorem streams_agree_copy :
    (Device.read "mixed" equipped).1 = .ok ["ä", "b\rc", "", "d\r"] ∧
      (valueOf ["a"] []).select .stdOutAndErr = ["a"] ∧
      ∃ o : Outcome,
        (call (fun _ => some copyInput) "/copy" [] (some ["", "b\rc", "ö"]) true equipped).1 = .ok o ∧
        o.value.lineList = ["", "b\rc", "ö"] ∧ o.value.joined = "\nb\rc\nö" := by
  obtain ⟨hread, hvalue, -, hcopy⟩ := streams_agree
  have htext : Utf8.decode? (Utf8.encode "ä\r\nb\rc\n\nd\r") = some "ä\r\nb\rc\n\nd\r" := by
    decide +kernel
  obtain ⟨hlines, hfile⟩ := hread _ _ htext
  have hmixed := hfile "mixed" equipped (by decide +kernel) (by decide +kernel)
  have hfind : find? (fun _ => some copyInput) equipped.machine "/copy" [] = some copyInput := by
    have hname : equipped.machine.tree.findProgram? equipped.machine.cwd equipped.machine.env "/copy" =
        some "copy" := by decide +kernel
    simp only [find?, hname]
    rfl
  obtain ⟨o, hcall, hsame, hjoined, -⟩ := hcopy _ "/copy" [] _ equipped
    (.lines ["", "b\rc", "ö"]) hfind (copies_copyInput []) (by simp) (by decide +kernel)
  refine ⟨?_, (hvalue ["a"] []).stdOutAndErr, o, hcall, hsame, ?_⟩
  · rw [hmixed, hlines]
    decide +kernel
  · rw [hjoined]
    decide +kernel

end Program

end CommandShell
