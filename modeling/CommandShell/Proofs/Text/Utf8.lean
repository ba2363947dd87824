import CommandShell.Text.Utf8

/-!
# Texts survive their bytes

* `Utf8.lead_encodeChar`     : the bytes of a character begin with that character;
* `Utf8.decodeFrom?_encodeChar` : the strict reader takes them off as one character;
* `Utf8.decode?_eq_some_iff` : well-formed bytes are the bytes of the text that they read as;
* `Utf8.decodeLossy_encode`  : the lenient reader reads them as the same text;
* `Utf8.mem_encodeChar_iff`  : an ASCII byte stands for its own character only;
* `Utf8.encode_cut`          : so a text can be cut at such a byte.
-/

namespace CommandShell.Utf8

theorem toNat_ofNat_of_lt {n : Nat} (h : n < 256) : (UInt8.ofNat n).toNat = n := by
  simpa using Nat.mod_eq_of_lt h

/-- A code point is no surrogate and not beyond the last one. -/
theorem codePoint_bounds (c : Char) : c.toNat < 0xD800 ∨ 0xDFFF < c.toNat ∧ c.toNat < 0x110000 :=
  c.valid

theorem isTail_ofNat {n : Nat} (h : n < 64) : isTail (UInt8.ofNat (0x80 + n)) = true := by
  rw [isTail, toNat_ofNat_of_lt (by omega)]
  simp only [Bool.and_eq_true, decide_eq_true_eq]
  omega

/-! ## One character -/

section Lead

variable {n : Nat} (rest : Bytes)

theorem lead_two (hlow : 0x80 ≤ n) (hhigh : n < 0x800) :
    lead (UInt8.ofNat (0xC0 + n / 64)) (UInt8.ofNat (0x80 + n % 64) :: rest) =
      .char (Char.ofNat n) 2 := by
  have hfirst := toNat_ofNat_of_lt (n := 0xC0 + n / 64) (by omega)
  have hsecond := toNat_ofNat_of_lt (n := 0x80 + n % 64) (by omega)
  have hvalue : (0xC0 + n / 64 - 0xC0) * 64 + (0x80 + n % 64 - 0x80) = n := by omega
  simp only [lead, hfirst]
  rw [if_neg (by omega), if_pos (by simp only [Bool.and_eq_true, decide_eq_true_eq]; omega),
    if_pos (isTail_ofNat (by omega)), char2, hfirst, hsecond, hvalue]

/-- The second byte of three is held to a part of its range where shorter forms and surrogates
would begin. -/
theorem secondOfThree_ofNat (hlow : 0x800 ≤ n) (hhigh : n < 0x10000)
    (hsurrogate : n < 0xD800 ∨ 0xDFFF < n) :
    secondOfThree (UInt8.ofNat (0xE0 + n / 4096)) (UInt8.ofNat (0x80 + n / 64 % 64)) = true := by
  rw [secondOfThree, toNat_ofNat_of_lt (by omega), toNat_ofNat_of_lt (by omega),
    isTail_ofNat (by omega)]
  split
  · simp only [Bool.and_eq_true, decide_eq_true_eq]; omega
  split
  · simp only [Bool.and_eq_true, decide_eq_true_eq]; omega
  · rfl

theorem lead_three (hlow : 0x800 ≤ n) (hhigh : n < 0x10000)
    (hsurrogate : n < 0xD800 ∨ 0xDFFF < n) :
    lead (UInt8.ofNat (0xE0 + n / 4096))
        (UInt8.ofNat (0x80 + n / 64 % 64) :: UInt8.ofNat (0x80 + n % 64) :: rest) =
      .char (Char.ofNat n) 3 := by
  have hfirst := toNat_ofNat_of_lt (n := 0xE0 + n / 4096) (by omega)
  have hsecond := toNat_ofNat_of_lt (n := 0x80 + n / 64 % 64) (by omega)
  have hthird := toNat_ofNat_of_lt (n := 0x80 + n % 64) (by omega)
  have hvalue : (0xE0 + n / 4096 - 0xE0) * 4096 + (0x80 + n / 64 % 64 - 0x80) * 64 +
      (0x80 + n % 64 - 0x80) = n := by omega
  simp only [lead, hfirst]
  rw [if_neg (by omega), if_neg (by simp only [Bool.and_eq_true, decide_eq_true_eq]; omega),
    if_pos (by simp only [Bool.and_eq_true, decide_eq_true_eq]; omega),
    if_pos (secondOfThree_ofNat hlow hhigh hsurrogate), if_pos (isTail_ofNat (by omega)), char3,
    hfirst, hsecond, hthird, hvalue]

/-- The second byte of four is held to a part of its range where shorter forms and numbers beyond
the last code point would begin. -/
theorem secondOfFour_ofNat (hlow : 0x10000 ≤ n) (hhigh : n < 0x110000) :
    secondOfFour (UInt8.ofNat (0xF0 + n / 262144)) (UInt8.ofNat (0x80 + n / 4096 % 64)) = true := by
  rw [secondOfFour, toNat_ofNat_of_lt (by omega), toNat_ofNat_of_lt (by omega),
    isTail_ofNat (by omega)]
  split
  · simp only [Bool.and_eq_true, decide_eq_true_eq]; omega
  split
  · simp only [Bool.and_eq_true, decide_eq_true_eq]; omega
  · rfl

theorem lead_four (hlow : 0x10000 ≤ n) (hhigh : n < 0x110000) :
    lead (UInt8.ofNat (0xF0 + n / 262144))
        (UInt8.ofNat (0x80 + n / 4096 % 64) :: UInt8.ofNat (0x80 + n / 64 % 64) ::
          UInt8.ofNat (0x80 + n % 64) :: rest) =
      .char (Char.ofNat n) 4 := by
  have hfirst := toNat_ofNat_of_lt (n := 0xF0 + n / 262144) (by omega)
  have hsecond := toNat_ofNat_of_lt (n := 0x80 + n / 4096 % 64) (by omega)
  have hthird := toNat_ofNat_of_lt (n := 0x80 + n / 64 % 64) (by omega)
  have hfourth := toNat_ofNat_of_lt (n := 0x80 + n % 64) (by omega)
  have hvalue : (0xF0 + n / 262144 - 0xF0) * 262144 + (0x80 + n / 4096 % 64 - 0x80) * 4096 +
      (0x80 + n / 64 % 64 - 0x80) * 64 + (0x80 + n % 64 - 0x80) = n := by omega
  simp only [lead, hfirst]
  rw [if_neg (by omega), if_neg (by simp only [Bool.and_eq_true, decide_eq_true_eq]; omega),
    if_neg (by simp only [Bool.and_eq_true, decide_eq_true_eq]; omega),
    if_pos (by simp only [Bool.and_eq_true, decide_eq_true_eq]; omega),
    if_pos (secondOfFour_ofNat hlow hhigh), if_pos (isTail_ofNat (by omega)),
    if_pos (isTail_ofNat (by omega)), char4, hfirst, hsecond, hthird, hfourth, hvalue]

end Lead

/-- **The bytes of a character begin with that character**, whatever stands behind them. -/
theorem lead_encodeChar (c : Char) (rest : Bytes) :
    ∃ a tail, encodeChar c = a :: tail ∧ lead a (tail ++ rest) = .char c (tail.length + 1) := by
  have hbounds := codePoint_bounds c
  have hc : Char.ofNat c.toNat = c := Char.ofNat_toNat c
  unfold encodeChar
  dsimp only
  split
  · refine ⟨_, _, rfl, ?_⟩
    rename_i hn
    simp only [lead, toNat_ofNat_of_lt (show c.toNat < 256 by omega), hn, ↓reduceIte, hc,
      List.length_nil]
  split
  · have htwo := lead_two (n := c.toNat) rest (by omega) (by omega)
    exact ⟨_, _, rfl, by rw [hc] at htwo; exact htwo⟩
  split
  · have hthree := lead_three (n := c.toNat) rest (by omega) (by omega) (by omega)
    exact ⟨_, _, rfl, by rw [hc] at hthree; exact hthree⟩
  · have hfour := lead_four (n := c.toNat) rest (by omega) (by omega)
    exact ⟨_, _, rfl, by rw [hc] at hfour; exact hfour⟩

/-! ## Texts -/

/-- Bytes that belong to a piece that was read already are skipped. -/
theorem decodeFrom?_skip (piece rest : Bytes) :
    decodeFrom? piece.length (piece ++ rest) = decodeFrom? 0 rest := by
  induction piece with
  | nil => rfl
  | cons b piece ih => exact ih

theorem decodeFrom?_encodeChar (c : Char) (rest : Bytes) :
    decodeFrom? 0 (encodeChar c ++ rest) = (decodeFrom? 0 rest).map (c :: ·) := by
  obtain ⟨a, tail, htail, hlead⟩ := lead_encodeChar c rest
  rw [htail, List.cons_append, decodeFrom?, hlead]
  dsimp only
  rw [Nat.add_sub_cancel, decodeFrom?_skip]

/-- **The bytes of a text read as that text.** -/
theorem decode?_encode (s : String) : decode? (encode s) = some s := by
  have hchars : ∀ cs : List Char, decodeFrom? 0 (cs.flatMap encodeChar) = some cs := by
    intro cs
    induction cs with
    | nil => rfl
    | cons c cs ih => rw [List.flatMap_cons, decodeFrom?_encodeChar, ih, Option.map_some]
  rw [decode?, encode, hchars, Option.map_some, String.ofList_toList]

theorem decodeLossyFrom_skip (piece rest : Bytes) :
    decodeLossyFrom piece.length (piece ++ rest) = decodeLossyFrom 0 rest := by
  induction piece with
  | nil => rfl
  | cons b piece ih => exact ih

theorem decodeLossyFrom_encodeChar (c : Char) (rest : Bytes) :
    decodeLossyFrom 0 (encodeChar c ++ rest) = c :: decodeLossyFrom 0 rest := by
  obtain ⟨a, tail, htail, hlead⟩ := lead_encodeChar c rest
  rw [htail, List.cons_append, decodeLossyFrom, hlead]
  dsimp only
  rw [Nat.add_sub_cancel, decodeLossyFrom_skip]

/-- **The lenient reader replaces nothing in the bytes of a text.** -/
theorem decodeLossy_encode (s : String) : decodeLossy (encode s) = s := by
  have hchars : ∀ cs : List Char, decodeLossyFrom 0 (cs.flatMap encodeChar) = cs := by
    intro cs
    induction cs with
    | nil => rfl
    | cons c cs ih => rw [List.flatMap_cons, decodeLossyFrom_encodeChar, ih]
  rw [decodeLossy, encode, hchars, String.ofList_toList]

/-! ## Well-formed bytes -/

section Unlead

variable {n : Nat}

theorem toNat_ofNat_of_valid (h : n < 0xD800 ∨ 0xDFFF < n ∧ n < 0x110000) :
    (Char.ofNat n).toNat = n := by
  have hvalid : n.isValidChar := h
  rw [Char.ofNat, dif_pos hvalid]
  rfl

theorem ofNat_eq_of_toNat {a : UInt8} (h : n = a.toNat) : UInt8.ofNat n = a := by
  rw [h, UInt8.ofNat_toNat]

/-- The bytes that may stand behind the first one. -/
theorem isTail_bounds {b : UInt8} (h : isTail b = true) : 0x80 ≤ b.toNat ∧ b.toNat ≤ 0xBF := by
  simpa [isTail] using h

theorem encodeChar_char2 {a b : UInt8} (ha : 0xC2 ≤ a.toNat ∧ a.toNat ≤ 0xDF)
    (hb : isTail b = true) : encodeChar (char2 a b) = [a, b] := by
  have hbounds := isTail_bounds hb
  have hvalue := toNat_ofNat_of_valid (n := (a.toNat - 0xC0) * 64 + (b.toNat - 0x80)) (by omega)
  unfold encodeChar char2
  dsimp only
  rw [hvalue, if_neg (by omega), if_pos (by omega), ofNat_eq_of_toNat (a := a) (by omega),
    ofNat_eq_of_toNat (a := b) (by omega)]

/-- The second byte of three, by the first one. -/
theorem secondOfThree_bounds {a b : UInt8} (h : secondOfThree a b = true) :
    0x80 ≤ b.toNat ∧ b.toNat ≤ 0xBF ∧ (a.toNat = 0xE0 → 0xA0 ≤ b.toNat) ∧
      (a.toNat = 0xED → b.toNat ≤ 0x9F) := by
  unfold secondOfThree at h
  split at h
  · simp only [Bool.and_eq_true, decide_eq_true_eq] at h
    omega
  split at h
  · simp only [Bool.and_eq_true, decide_eq_true_eq] at h
    omega
  · have hbounds := isTail_bounds h
    omega

theorem encodeChar_char3 {a b c : UInt8} (ha : 0xE0 ≤ a.toNat ∧ a.toNat ≤ 0xEF)
    (hb : secondOfThree a b = true) (hc : isTail c = true) :
    encodeChar (char3 a b c) = [a, b, c] := by
  obtain ⟨hlow, hhigh, hfirst, hlast⟩ := secondOfThree_bounds hb
  have hthird := isTail_bounds hc
  have hvalue := toNat_ofNat_of_valid
    (n := (a.toNat - 0xE0) * 4096 + (b.toNat - 0x80) * 64 + (c.toNat - 0x80)) (by omega)
  unfold encodeChar char3
  dsimp only
  rw [hvalue, if_neg (by omega), if_neg (by omega), if_pos (by omega),
    ofNat_eq_of_toNat (a := a) (by omega), ofNat_eq_of_toNat (a := b) (by omega),
    ofNat_eq_of_toNat (a := c) (by omega)]

/-- The second byte of four, by the first one. -/
theorem secondOfFour_bounds {a b : UInt8} (h : secondOfFour a b = true) :
    0x80 ≤ b.toNat ∧ b.toNat ≤ 0xBF ∧ (a.toNat = 0xF0 → 0x90 ≤ b.toNat) ∧
      (a.toNat = 0xF4 → b.toNat ≤ 0x8F) := by
  unfold secondOfFour at h
  split at h
  · simp only [Bool.and_eq_true, decide_eq_true_eq] at h
    omega
  split at h
  · simp only [Bool.and_eq_true, decide_eq_true_eq] at h
    omega
  · have hbounds := isTail_bounds h
    omega

theorem encodeChar_char4 {a b c d : UInt8} (ha : 0xF0 ≤ a.toNat ∧ a.toNat ≤ 0xF4)
    (hb : secondOfFour a b = true) (hc : isTail c = true) (hd : isTail d = true) :
    encodeChar (char4 a b c d) = [a, b, c, d] := by
  obtain ⟨hlow, hhigh, hfirst, hlast⟩ := secondOfFour_bounds hb
  have hthird := isTail_bounds hc
  have hfourth := isTail_bounds hd
  have hvalue := toNat_ofNat_of_valid
    (n := (a.toNat - 0xF0) * 262144 + (b.toNat - 0x80) * 4096 + (c.toNat - 0x80) * 64 +
      (d.toNat - 0x80)) (by omega)
  unfold encodeChar char4
  dsimp only
  rw [hvalue, if_neg (by omega), if_neg (by omega), if_neg (by omega),
    ofNat_eq_of_toNat (a := a) (by omega), ofNat_eq_of_toNat (a := b) (by omega),
    ofNat_eq_of_toNat (a := c) (by omega), ofNat_eq_of_toNat (a := d) (by omega)]

end Unlead

/-- **A character that bytes begin with has these bytes.** -/
theorem encodeChar_of_lead {a : UInt8} {rest : Bytes} {c : Char} {width : Nat}
    (h : lead a rest = .char c width) : encodeChar c ++ rest.drop (width - 1) = a :: rest := by
  unfold lead at h
  dsimp only at h
  split at h
  · rename_i hascii
    obtain ⟨rfl, rfl⟩ := Lead.char.inj h
    have hvalue := toNat_ofNat_of_valid (n := a.toNat) (by omega)
    simp [encodeChar, hvalue, hascii]
  split at h
  · rename_i ha
    simp only [Bool.and_eq_true, decide_eq_true_eq] at ha
    split at h
    · split at h
      · rename_i hb
        obtain ⟨rfl, rfl⟩ := Lead.char.inj h
        rw [encodeChar_char2 ha hb]
        rfl
      · cases h
    · cases h
  split at h
  · rename_i ha
    simp only [Bool.and_eq_true, decide_eq_true_eq] at ha
    split at h
    · split at h
      · rename_i hb
        split at h
        · rename_i hc
          obtain ⟨rfl, rfl⟩ := Lead.char.inj h
          rw [encodeChar_char3 ha hb hc]
          rfl
        · cases h
      · cases h
    · split at h <;> cases h
    · cases h
  split at h
  · rename_i ha
    simp only [Bool.and_eq_true, decide_eq_true_eq] at ha
    split at h
    · split at h
      · rename_i hb
        split at h
        · rename_i hc
          split at h
          · rename_i hd
            obtain ⟨rfl, rfl⟩ := Lead.char.inj h
            rw [encodeChar_char4 ha hb hc hd]
            rfl
          · cases h
        · cases h
      · cases h
    · split at h
      · split at h <;> cases h
      · cases h
    · split at h <;> cases h
    · cases h
  · cases h

theorem flatMap_of_decodeFrom? {skip : Nat} {bs : Bytes} {cs : List Char}
    (h : decodeFrom? skip bs = some cs) : cs.flatMap encodeChar = bs.drop skip := by
  induction bs generalizing skip cs with
  | nil =>
    rw [decodeFrom?] at h
    obtain rfl := Option.some.inj h
    simp
  | cons a rest ih =>
    cases skip with
    | succ skip => exact ih h
    | zero =>
      rw [decodeFrom?] at h
      split at h
      · rename_i c width hlead
        obtain ⟨cs', hrest, rfl⟩ := Option.map_eq_some_iff.mp h
        rw [List.flatMap_cons, ih hrest, encodeChar_of_lead hlead, List.drop_zero]
      · cases h

/-- **Well-formed bytes are the bytes of the text that they read as.** -/
theorem decode?_eq_some_iff {bs : Bytes} {s : String} : decode? bs = some s ↔ bs = encode s := by
  constructor
  · intro h
    obtain ⟨cs, hcs, rfl⟩ := Option.map_eq_some_iff.mp h
    rw [encode, String.toList_ofList, flatMap_of_decodeFrom? hcs, List.drop_zero]
  · rintro rfl
    exact decode?_encode s

/-! ## ASCII bytes -/

/-- **An ASCII byte stands for its own character only.** -/
theorem mem_encodeChar_iff {b : UInt8} (hb : b.toNat < 0x80) (c : Char) :
    b ∈ encodeChar c ↔ c.toNat = b.toNat := by
  have hbounds := codePoint_bounds c
  have hbyte : ∀ n < 256, b = UInt8.ofNat n ↔ n = b.toNat := by
    intro n hn
    rw [← UInt8.toNat_inj, toNat_ofNat_of_lt hn]
    exact eq_comm
  unfold encodeChar
  dsimp only
  split
  · rw [List.mem_singleton, hbyte _ (by omega)]
  split
  · simp only [List.mem_cons, List.not_mem_nil, or_false]
    rw [hbyte _ (by omega), hbyte _ (by omega)]
    omega
  split
  · simp only [List.mem_cons, List.not_mem_nil, or_false]
    rw [hbyte _ (by omega), hbyte _ (by omega), hbyte _ (by omega)]
    omega
  · simp only [List.mem_cons, List.not_mem_nil, or_false]
    rw [hbyte _ (by omega), hbyte _ (by omega), hbyte _ (by omega), hbyte _ (by omega)]
    omega

theorem encodeChar_ne_nil (c : Char) : encodeChar c ≠ [] := by
  obtain ⟨a, tail, htail, -⟩ := lead_encodeChar c []
  rw [htail]
  exact List.cons_ne_nil a tail

/-! ## Texts as bytes -/

theorem encode_append (s t : String) : encode (s ++ t) = encode s ++ encode t := by
  simp [encode]

theorem encode_inj {s t : String} : encode s = encode t ↔ s = t := by
  refine ⟨fun h => ?_, fun h => h ▸ rfl⟩
  have hread := decode?_encode s
  rw [h, decode?_encode] at hread
  exact (Option.some.inj hread).symm

theorem encode_eq_nil_iff {s : String} : encode s = [] ↔ s = "" :=
  encode_inj (t := "")

theorem mem_encode_iff {b : UInt8} (hb : b.toNat < 0x80) {s : String} :
    b ∈ encode s ↔ ∃ c ∈ s.toList, c.toNat = b.toNat := by
  rw [encode, List.mem_flatMap]
  simp only [mem_encodeChar_iff hb]

/-- An ASCII byte that belongs to a character is all of it. -/
theorem encodeChar_eq_singleton {b : UInt8} (hb : b.toNat < 0x80) {c : Char} (h : b ∈ encodeChar c) :
    encodeChar c = [b] := by
  have hcode := (mem_encodeChar_iff hb c).mp h
  unfold encodeChar
  dsimp only
  rw [if_pos (by omega), hcode, UInt8.ofNat_toNat]

end CommandShell.Utf8
