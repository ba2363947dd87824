import CommandShell.Proofs.Path.Components
import CommandShell.Proofs.Text.Case
import CommandShell.Proofs.Text.Utf8

/-!
# Names at the end of paths

The last component of a path is found behind all slashes, and in front of slashes and dots that name
nothing.  Its stem is the name up to the last dot, unless that dot is at the front.  Both are found byte
by byte; for a path that is a text they are what its characters say.

* `Path.IsName`, `Path.IsTail` : names of entries, and what may stand behind them;
* `Path.IsStem`                : a name up to its last dot;
* `Path.stem?_of_isName`       : the stem of a path is that of its last name;
* `Path.isStem_iff`            : the stem that is computed is the stem;
* `Path.IsStem.fold`           : the stem in lower case is the stem of the name in lower case.
-/

namespace CommandShell.Path

/-! ## Names and what stands behind them -/

/-- The name of an entry of a directory. -/
structure IsName (n : String) : Prop where
  filled : n ≠ ""
  noSlash : '/' ∉ n.toList
  notCurrent : n ≠ "."
  notParent : n ≠ ".."

/-- Slashes, each with a dot behind it or not. -/
def IsTail (tail : String) : Prop :=
  ∃ steps : List String, (∀ step ∈ steps, step = "/" ∨ step = "/.") ∧ tail = String.join steps

variable {n n' tail stem : String}

theorem IsName.componentOf? (h : IsName n) : componentOf? n = some (.name n) := by
  simp [Path.componentOf?, Utf8.encode_eq_nil_iff, Utf8.encode_inj, h.filled, h.notCurrent, h.notParent]

/-- A character below 80 is in a text if its byte is in the bytes. -/
theorem mem_encode {mark : Char} (hmark : mark.toNat < 0x80) {s : String} :
    UInt8.ofNat mark.toNat ∈ Utf8.encode s ↔ mark ∈ s.toList := by
  have hbyte : (UInt8.ofNat mark.toNat).toNat = mark.toNat := Utf8.toNat_ofNat_of_lt (by omega)
  rw [Utf8.mem_encode_iff (by omega), hbyte]
  constructor
  · rintro ⟨c, hc, hcode⟩
    rwa [← Char.toNat_inj.mp hcode]
  · exact fun h => ⟨mark, h, rfl⟩

theorem slash_mem_encode {s : String} : slash ∈ Utf8.encode s ↔ '/' ∈ s.toList :=
  mem_encode (show '/'.toNat < 0x80 by decide)

theorem dot_mem_encode {s : String} : dot ∈ Utf8.encode s ↔ '.' ∈ s.toList :=
  mem_encode (show '.'.toNat < 0x80 by decide)

theorem IsName.slash_not_mem (h : IsName n) : slash ∉ Utf8.encode n :=
  fun hmem => h.noSlash (slash_mem_encode.mp hmem)

theorem IsName.not_absolute (h : IsName n) : isAbsolute n = false := by
  rw [Bool.eq_false_iff]
  intro habsolute
  obtain ⟨q, hq⟩ := isAbsolute_iff.mp habsolute
  exact h.slash_not_mem (by simp [hq])

theorem IsName.components (h : IsName n) : components n = [.name n] := by
  have hsplit := split_of_no_slash h.slash_not_mem
  have hcurrent : Utf8.encode n ≠ Utf8.encode "." := fun heq => h.notCurrent (Utf8.encode_inj.mp heq)
  rw [components_of_split hsplit, leading?, if_neg (by simp [h.not_absolute]), if_neg hcurrent,
    h.componentOf?]
  rfl

/-- What stands behind a piece names nothing more. -/
theorem split_tail {s : Bytes} (hs : slash ∉ s) (htail : IsTail tail) :
    ∃ fillers, split (s ++ Utf8.encode tail) = s :: fillers ∧ named fillers = [] := by
  obtain ⟨steps, hsteps, rfl⟩ := htail
  induction steps generalizing s with
  | nil =>
    refine ⟨[], ?_, rfl⟩
    rw [String.join_nil]
    exact (congrArg split (List.append_nil s)).trans (split_of_no_slash hs)
  | cons step steps ih =>
    have hmore : ∀ step ∈ steps, step = "/" ∨ step = "/." :=
      fun step hstep => hsteps step (List.mem_cons_of_mem _ hstep)
    rcases hsteps step List.mem_cons_self with rfl | rfl
    · obtain ⟨fillers, hsplit, hnamed⟩ := @ih [] (by simp) hmore
      refine ⟨[] :: fillers, ?_, hnamed⟩
      have hslash : Utf8.encode "/" = [slash] := by decide
      rw [List.nil_append] at hsplit
      rw [String.join_cons, Utf8.encode_append, hslash, List.singleton_append, split_slash,
        split_of_no_slash hs, hsplit]
      rfl
    · obtain ⟨fillers, hsplit, hnamed⟩ := @ih [dot] (by decide) hmore
      refine ⟨[dot] :: fillers, ?_, hnamed⟩
      have hdot : Utf8.encode "/." = slash :: [dot] := by decide
      rw [String.join_cons, Utf8.encode_append, hdot, List.cons_append, split_slash,
        split_of_no_slash hs, hsplit]
      rfl

/-- **The last component of a path** is the name behind its slashes. -/
theorem fileName?_of_isName (d : String) (hn : IsName n) (htail : IsTail tail) :
    fileName? (Utf8.encode (d ++ "/" ++ n ++ tail)) = some (Utf8.encode n) := by
  obtain ⟨fillers, hsplit, hnamed⟩ := split_tail hn.slash_not_mem htail
  have hlast : named (split (Utf8.encode n ++ Utf8.encode tail)) = [.name n] := by
    rw [hsplit, named, List.filterMap_cons_some hn.componentOf?]
    exact congrArg _ hnamed
  have hpath : Utf8.encode (d ++ "/" ++ n ++ tail) =
      Utf8.encode d ++ slash :: (Utf8.encode n ++ Utf8.encode tail) := by
    have hslash : Utf8.encode "/" = [slash] := by decide
    simp [Utf8.encode_append, hslash]
  have hfront : ∃ front, components (Utf8.encode (d ++ "/" ++ n ++ tail)) = front ++ [.name n] := by
    rw [hpath]
    by_cases hd : Utf8.encode d = []
    · rw [hd]
      exact ⟨[.root], (components_root _).trans (congrArg _ hlast)⟩
    · exact ⟨components d, by rw [components_slash hd, hlast]⟩
  obtain ⟨front, hcomponents⟩ := hfront
  rw [fileName?, hcomponents, List.getLast?_concat]

theorem IsName.fileName? (h : IsName n) : fileName? n = some (Utf8.encode n) := by
  rw [Path.fileName?, h.components]
  rfl

/-- **The stem of a path is that of its last name.** -/
theorem stem?_of_isName (d : String) (hn : IsName n) (htail : IsTail tail) :
    stem? (Utf8.encode (d ++ "/" ++ n ++ tail)) = stem? n := by
  rw [stem?, stem?, fileName?_of_isName d hn htail, hn.fileName?]

/-! ## Stems -/

/-- A name up to its last dot, but all of it if there is no dot behind its first character. -/
inductive IsStem : String → String → Prop
  | whole {name : String} (noDot : '.' ∉ name.toList.tail) : IsStem name name
  | upTo {stem extension : String} (filled : stem ≠ "") (noDot : '.' ∉ extension.toList) :
    IsStem (stem ++ "." ++ extension) stem

theorem dropWhile_of_no_dot {bs : Bytes} (h : dot ∉ bs) (rest : Bytes) :
    (bs ++ rest).dropWhile (· != dot) = rest.dropWhile (· != dot) := by
  rw [List.dropWhile_append_of_pos]
  intro b hb
  have hne : b ≠ dot := by
    rintro rfl
    exact h hb
  simpa using hne

/-- Without a dot behind the first byte there is no ending. -/
theorem stemOf_of_no_dot {b : UInt8} {bs : Bytes} (h : dot ∉ bs) : stemOf (b :: bs) = b :: bs := by
  have hdots : dot ∉ bs.reverse := by simpa using h
  unfold stemOf
  rw [List.reverse_cons, dropWhile_of_no_dot hdots]
  by_cases hb : b = dot
  · simp [hb]
  · simp [hb]

/-- The last dot is dropped with what stands behind it. -/
theorem stemOf_dot {front ending : Bytes} (hfront : front ≠ []) (h : dot ∉ ending) :
    stemOf (front ++ dot :: ending) = front := by
  have hlist : (front ++ dot :: ending).reverse = ending.reverse ++ dot :: front.reverse := by simp
  have hdots : dot ∉ ending.reverse := by simpa using h
  have hfilled : front.reverse ≠ [] := by simpa using hfront
  obtain ⟨b, bs, hbs⟩ := List.exists_cons_of_ne_nil hfilled
  unfold stemOf
  rw [hlist, dropWhile_of_no_dot hdots, hbs]
  show (b :: bs).reverse = front
  rw [← hbs, List.reverse_reverse]

theorem IsStem.stemOf_eq {name : String} (h : IsStem name stem) : stemOf name = stem := by
  cases h with
  | whole noDot =>
    cases hname : stem.toList with
    | nil =>
      obtain rfl : stem = "" := by simpa using hname
      decide
    | cons c cs =>
      have hbytes : Utf8.encode stem = Utf8.encodeChar c ++ Utf8.encode (String.ofList cs) := by
        simp [Utf8.encode, hname]
      obtain ⟨b, more, hchar⟩ := List.exists_cons_of_ne_nil (Utf8.encodeChar_ne_nil c)
      -- A dot among the bytes of the first character is its only byte.
      have hmore : dot ∉ more := by
        intro hmem
        have hone := Utf8.encodeChar_eq_singleton (b := dot) (by decide) (c := c) (by simp [hchar, hmem])
        rw [hchar] at hone
        simp [(List.cons.inj hone).2] at hmem
      have hrest : dot ∉ Utf8.encode (String.ofList cs) := by
        rw [dot_mem_encode, String.toList_ofList]
        simpa [hname] using noDot
      rw [hbytes, hchar, List.cons_append]
      exact stemOf_of_no_dot (by simp [hmore, hrest])
  | @upTo stem extension filled noDot =>
    have hbytes : Utf8.encode (stem ++ "." ++ extension) =
        Utf8.encode stem ++ dot :: Utf8.encode extension := by
      have hdot : Utf8.encode "." = [dot] := by decide
      simp [Utf8.encode_append, hdot]
    rw [hbytes]
    exact stemOf_dot (fun h => filled (Utf8.encode_eq_nil_iff.mp h)) (fun h => noDot (dot_mem_encode.mp h))

theorem exists_isStem (name : String) : ∃ stem, IsStem name stem := by
  by_cases hdot : '.' ∈ name.toList.tail
  · -- The last dot is the first one from behind.
    obtain ⟨after, before, hreverse, hafter⟩ := List.eq_append_cons_of_mem (List.mem_reverse.mpr hdot)
    have htail : name.toList.tail = before.reverse ++ '.' :: after.reverse := by
      rw [← List.reverse_reverse name.toList.tail, hreverse]
      simp
    cases hname : name.toList with
    | nil => simp [hname] at hdot
    | cons c cs =>
      rw [hname, List.tail_cons] at htail
      have hparts : name = String.ofList (c :: before.reverse) ++ "." ++ String.ofList after.reverse := by
        apply String.toList_inj.mp
        simp [hname, htail]
      rw [hparts]
      exact ⟨_, .upTo (by simp) (by simpa using hafter)⟩
  · exact ⟨name, .whole hdot⟩

/-- **The stem that is computed is the stem.** -/
theorem isStem_iff {name : String} : IsStem name stem ↔ stemOf name = stem := by
  refine ⟨IsStem.stemOf_eq, fun h => ?_⟩
  obtain ⟨other, hother⟩ := exists_isStem name
  have hsame : Utf8.encode other = Utf8.encode stem := hother.stemOf_eq.symm.trans h
  rwa [← Utf8.encode_inj.mp hsame]

theorem IsStem.unique {name stem' : String} (h : IsStem name stem) (h' : IsStem name stem') :
    stem = stem' :=
  Utf8.encode_inj.mp (h.stemOf_eq.symm.trans h'.stemOf_eq)

/-! ## Case -/

/-- **The stem in lower case is the stem of the name in lower case.** -/
theorem IsStem.fold {name : String} (h : IsStem name stem) : IsStem (Text.fold name) (Text.fold stem) := by
  cases h with
  | whole noDot =>
    refine .whole ?_
    rw [Text.fold, String.toList_ofList, ← List.map_tail, Text.mem_map_toLower (by decide)]
    exact noDot
  | @upTo stem extension filled noDot =>
    have hparts : Text.fold (stem ++ "." ++ extension) = Text.fold stem ++ "." ++ Text.fold extension := by
      apply String.toList_inj.mp
      simp [Text.fold]
    rw [hparts]
    refine .upTo (by simpa [Text.fold] using filled) ?_
    rw [Text.fold, String.toList_ofList, Text.mem_map_toLower (by decide)]
    exact noDot

/-- Names stay names when letters change their case. -/
theorem IsName.of_sameFold (h : IsName n) (hsame : Text.sameFold n n' = true) : IsName n' := by
  have hlists : n.toList.map Char.toLower = n'.toList.map Char.toLower :=
    String.ofList_inj.mp (Text.sameFold_iff.mp hsame)
  refine ⟨?_, ?_, ?_, ?_⟩
  · rintro rfl
    exact h.filled (Text.eq_of_sameFold_below (by simp) hsame)
  · rw [← Text.mem_map_toLower (by decide), ← hlists, Text.mem_map_toLower (by decide)]
    exact h.noSlash
  · rintro rfl
    exact h.notCurrent (Text.eq_of_sameFold_below (by simp) hsame)
  · rintro rfl
    exact h.notParent (Text.eq_of_sameFold_below (by simp) hsame)

end CommandShell.Path
