import CommandShell.Segment.Parse

/-!
# The grammar of lines

A declarative, left-recursive grammar over tokens.

* line      ::= statement | line (`;` | `&`) statement
* statement ::= operand | statement `|` operand | statement (`<` | `>` | `>>` | `>>>`) value
* operand   ::= string | call | reference
* call      ::= word value | call value
* value     ::= word | reference
* reference ::= `$` `(` line `)` | `$` string with a text

A string with pieces stands for the interpolation of its pieces, and each of them that is an
interpolation holds a whole line up to its first end mark.

* `Grammar.Derives`    : a list of tokens derives a tree as a phrase;
* `Grammar.Accepts`    : the tokens before the first end mark derive a line;
* `Derives.no_endMark` : a phrase holds no end mark.
-/

namespace CommandShell

/-- The token of a redirection. -/
def RedirectMode.kind : RedirectMode → Token.Kind
  | stdIn => .leftAngle
  | stdOut => .rightAngle
  | stdErr => .doubleRightAngle
  | stdOutAndErr => .tripleRightAngle

/-- The token between two statements of a line. -/
def Token.Kind.joint : Bool → Token.Kind
  | true => .ampersand
  | false => .semicolon

namespace Grammar

/-- What a list of tokens can stand for. -/
inductive Phrase where
  | line
  | statement
  | operand
  | call
  | value
  | word
  | reference
  /-- The pieces of one string. -/
  | pieces
  deriving DecidableEq, Repr

/-- No token of the list is an end mark. -/
def NoEndMark (ts : List Token) : Prop := ∀ t ∈ ts, t.kind ≠ .endOfInput

@[simp] theorem noEndMark_nil : NoEndMark [] := by
  intro t ht; cases ht

@[simp] theorem noEndMark_cons {t : Token} {ts : List Token} :
    NoEndMark (t :: ts) ↔ t.kind ≠ .endOfInput ∧ NoEndMark ts := by
  simp [NoEndMark]

@[simp] theorem noEndMark_append {ts us : List Token} :
    NoEndMark (ts ++ us) ↔ NoEndMark ts ∧ NoEndMark us := by
  simp only [NoEndMark, List.mem_append]
  exact ⟨fun h => ⟨fun t ht => h t (.inl ht), fun t ht => h t (.inr ht)⟩,
    fun h t ht => ht.elim (h.1 t) (h.2 t)⟩

/-- The tokens before the first end mark of a list are determined. -/
theorem before_endMark_unique {bs bs' as as' : List Token} {m m' : Token}
    (h : bs ++ m :: as = bs' ++ m' :: as') (hm : m.kind = .endOfInput) (hm' : m'.kind = .endOfInput)
    (hb : NoEndMark bs) (hb' : NoEndMark bs') : bs = bs' := by
  induction bs generalizing bs' with
  | nil =>
    cases bs' with
    | nil => rfl
    | cons b' bs' => cases h; exact absurd hm (noEndMark_cons.mp hb').1
  | cons b bs ih =>
    cases bs' with
    | nil => cases h; exact absurd hm' (noEndMark_cons.mp hb).1
    | cons b' bs' =>
      obtain ⟨rfl, htail⟩ := List.cons.inj h
      rw [ih htail (noEndMark_cons.mp hb).2 (noEndMark_cons.mp hb').2]

/-- The tokens derive the tree as a phrase. -/
inductive Derives : Phrase → List Token → Segment → Prop
  | single {ts : List Token} {t : Segment} (statement : Derives .statement ts t) :
    Derives .line ts t
  | join {ts us : List Token} {op : Token} {l r : Segment} (stop : Bool)
    (left : Derives .line ts l) (operator : op.kind = .joint stop)
    (right : Derives .statement us r) :
    Derives .line (ts ++ op :: us) (.sequence l r stop)
  | operand {ts : List Token} {t : Segment} (operand : Derives .operand ts t) :
    Derives .statement ts t
  | pipe {ts us : List Token} {op : Token} {l r : Segment} (left : Derives .statement ts l)
    (operator : op.kind = .pipe) (right : Derives .operand us r) :
    Derives .statement (ts ++ op :: us) (.pipe l r)
  | redirect {ts us : List Token} {op : Token} {l d : Segment} (mode : RedirectMode)
    (left : Derives .statement ts l) (operator : op.kind = mode.kind)
    (device : Derives .value us d) :
    Derives .statement (ts ++ op :: us) (.redirect l d mode)
  /-- A string without pieces that stands alone is a command. -/
  | bare {t : Token} (string : t.kind = .string) (whole : t.pieces = none) :
    Derives .operand [t] (.bare (.text t.literal))
  /-- A string with pieces that stands alone is a value. -/
  | string {t : Token} {ps : List Token} {s : Segment} (pieces : t.pieces = some ps)
    (word : Derives .word [t] s) :
    Derives .operand [t] s
  | command {ts : List Token} {t : Segment} (call : Derives .call ts t) :
    Derives .operand ts t
  | reference {ts : List Token} {t : Segment} (reference : Derives .reference ts t) :
    Derives .operand ts t
  | firstArgument {ts us : List Token} {h v : Segment} (head : Derives .word ts h)
    (argument : Derives .value us v) :
    Derives .call (ts ++ us) (.command h [v])
  | nextArgument {ts us : List Token} {h v : Segment} {args : List Segment}
    (call : Derives .call ts (.command h args)) (argument : Derives .value us v) :
    Derives .call (ts ++ us) (.command h (args ++ [v]))
  | valueWord {ts : List Token} {t : Segment} (word : Derives .word ts t) :
    Derives .value ts t
  | valueReference {ts : List Token} {t : Segment} (reference : Derives .reference ts t) :
    Derives .value ts t
  | text {t : Token} (string : t.kind = .string) (whole : t.pieces = none) :
    Derives .word [t] (.text t.literal)
  | interpolation {t : Token} {ps : List Token} {ss : List Segment} (string : t.kind = .string)
    (pieces : t.pieces = some ps) (parts : Derives .pieces ps (.interpolation ss)) :
    Derives .word [t] (.interpolation ss)
  | substitution {d o c : Token} {ts : List Token} {t : Segment} (dollar : d.kind = .dollar)
    (opening : o.kind = .leftParen) (inner : Derives .line ts t) (closing : c.kind = .rightParen) :
    Derives .reference (d :: o :: (ts ++ [c])) (.substitution t)
  | inScope {d t : Token} {scope name : String} (dollar : d.kind = .dollar)
    (string : t.kind = .string) (text : t.text = some (scope ++ ":" ++ name))
    (noColon : ':' ∉ scope.toList) :
    Derives .reference [d, t] (.reference (some scope) name)
  | inDefault {d t : Token} {name : String} (dollar : d.kind = .dollar)
    (string : t.kind = .string) (text : t.text = some name) (noColon : ':' ∉ name.toList) :
    Derives .reference [d, t] (.reference none name)
  | noPieces : Derives .pieces [] (.interpolation [])
  | textPiece {p : Token} {ps : List Token} {ss : List Segment} (kind : p.kind ≠ .interpolation)
    (rest : Derives .pieces ps (.interpolation ss)) :
    Derives .pieces (p :: ps) (.interpolation (.text p.literal :: ss))
  | linePiece {p mark : Token} {before after ps : List Token} {t : Segment} {ss : List Segment}
    (kind : p.kind = .interpolation) (inner : p.pieces = some (before ++ mark :: after))
    (endMark : mark.kind = .endOfInput) (first : NoEndMark before)
    (line : Derives .line before t) (rest : Derives .pieces ps (.interpolation ss)) :
    Derives .pieces (p :: ps) (.interpolation (t :: ss))

/-- The list has an end mark, and the tokens before the first one derive the tree as a line. -/
def Accepts (ts : List Token) (t : Segment) : Prop :=
  ∃ before mark after, ts = before ++ mark :: after ∧ mark.kind = .endOfInput ∧
    NoEndMark before ∧ Derives .line before t

/-- A phrase other than the pieces of a string holds no end mark. -/
theorem Derives.no_endMark {p : Phrase} {ts : List Token} {t : Segment} (h : Derives p ts t)
    (hp : p ≠ .pieces) : NoEndMark ts := by
  induction h with
  | single _ ih => exact ih (by decide)
  | join stop _ hop _ ihl ihr =>
    have hne : Token.Kind.joint stop ≠ .endOfInput := by cases stop <;> decide
    simp [hop, hne, ihl, ihr]
  | operand _ ih => exact ih (by decide)
  | pipe _ hop _ ihl ihr => simp [hop, ihl, ihr]
  | redirect mode _ hop _ ihl ihr =>
    have hne : mode.kind ≠ .endOfInput := by cases mode <;> decide
    simp [hop, hne, ihl, ihr]
  | bare hk _ => simp [hk]
  | string _ _ ih => exact ih (by decide)
  | command _ ih => exact ih (by decide)
  | reference _ ih => exact ih (by decide)
  | firstArgument _ _ ihh iha => simp [ihh, iha]
  | nextArgument _ _ ihc iha => simp [ihc, iha]
  | valueWord _ ih => exact ih (by decide)
  | valueReference _ ih => exact ih (by decide)
  | text hk _ => simp [hk]
  | interpolation hk _ _ _ => simp [hk]
  | substitution hd ho _ hc ih => simp [hd, ho, hc, ih]
  | inScope hd hk _ _ => simp [hd, hk]
  | inDefault hd hk _ _ => simp [hd, hk]
  | noPieces => exact absurd rfl hp
  | textPiece _ _ _ => exact absurd rfl hp
  | linePiece _ _ _ _ _ _ _ _ => exact absurd rfl hp

/-- A word is one string: a text, or an interpolation of its pieces. -/
theorem Derives.word_cases {ts : List Token} {s : Segment} (h : Derives .word ts s) :
    ∃ t, ts = [t] ∧ t.kind = .string ∧ ((t.pieces = none ∧ s = .text t.literal) ∨
      ∃ ps ss, t.pieces = some ps ∧ s = .interpolation ss ∧
        Derives .pieces ps (.interpolation ss)) := by
  cases h with
  | text hk hw => exact ⟨_, rfl, hk, .inl ⟨hw, rfl⟩⟩
  | interpolation hk hps hd => exact ⟨_, rfl, hk, .inr ⟨_, _, hps, rfl, hd⟩⟩

end Grammar

namespace Parse

/-! ## Names of variables -/

theorem bne_of_not_mem {m : Char} {cs : List Char} (h : m ∉ cs) : ∀ c ∈ cs, (c != m) = true := by
  intro c hc
  simp only [bne_iff_ne, ne_eq]
  rintro rfl
  exact h hc

theorem variableOf_of_not_mem {w : String} (h : ':' ∉ w.toList) :
    variableOf w = .reference none w := by
  have hd : w.toList.dropWhile (· != ':') = [] := by
    rw [← List.append_nil w.toList, List.dropWhile_append_of_pos (bne_of_not_mem h)]; rfl
  simp [variableOf, Text.splitAt?, hd]

theorem variableOf_scoped {scope : String} (name : String) (h : ':' ∉ scope.toList) :
    variableOf (scope ++ ":" ++ name) = .reference (some scope) name := by
  have hall := bne_of_not_mem h
  have hw : (scope ++ ":" ++ name).toList = scope.toList ++ ':' :: name.toList := by simp
  have hd : (scope ++ ":" ++ name).toList.dropWhile (· != ':') = ':' :: name.toList := by
    rw [hw, List.dropWhile_append_of_pos hall]; rfl
  have ht : (scope ++ ":" ++ name).toList.takeWhile (· != ':') = scope.toList := by
    rw [hw, List.takeWhile_append_of_pos hall]; simp
  simp only [variableOf, Text.splitAt?, hd, ht, String.ofList_toList]

/-- A text with a colon is a scope and a name. -/
theorem eq_scoped_of_mem {w : String} (h : ':' ∈ w.toList) :
    ∃ scope name, w = scope ++ ":" ++ name ∧ ':' ∉ scope.toList := by
  obtain ⟨as, bs, hw, ha⟩ := List.eq_append_cons_of_mem h
  refine ⟨String.ofList as, String.ofList bs, ?_, by simpa using ha⟩
  apply String.toList_inj.mp
  simp [hw]

end Parse

end CommandShell
