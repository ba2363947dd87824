import CommandShell.Program.Script.Arithmetic
import CommandShell.Program.Script.Field
import CommandShell.Program.Script.Glob

/-!
# Scripts: what words stand for

* `Script.expandParts`  : the characters that a word stands for;
* `Script.expandFields` : the fields that a word stands for;
* `Script.expandText`   : the text that a word stands for where it is not divided;
* `Script.expandPattern` : the pattern that a word stands for.

The functions take `outputOf`, which runs a command and gives what it writes.
-/

namespace CommandShell.Script

/-- How a word is used. -/
structure Manner where
  /-- It is divided into fields. -/
  fields : Bool := false
  /-- It stands in quotes. -/
  quoted : Bool := false
  /-- Its plain text is divided, too. -/
  divided : Bool := false
  /-- A tilde at its front stands for the home directory. -/
  tilde : Bool := false
  /-- So does one behind a colon. -/
  tildes : Bool := false

/-- What runs a command and gives what it writes. -/
abbrev OutputOf := Command → Run String

/-- The letters of options, in the order that they are shown in. -/
def optionLetters : List Char := "pubaCEVvxsnmiIfe".toList

/-- The characters that fields are divided at. -/
def State.separators (s : State) : List Char :=
  ((s.get? "IFS").getD " \t\n").toList

/-- The value of a parameter that is one text. -/
def State.parameter? (s : State) (name : String) : Option String :=
  match name with
  | "$" => some (toString scriptNumber)
  | "?" => some (toString s.status)
  | "#" => some (toString s.args.length)
  | "!" => s.lastJob.map toString
  | "-" => some (String.ofList (optionLetters.filter s.has))
  | _ =>
    match name.toList with
    | c :: _ =>
      if c.isDigit then
        let n := name.toList.foldl (fun n c => n * 10 + (c.toNat - 48)) 0
        if n = 0 then some s.name else s.args[n - 1]?
      else s.get? name
    | [] => none

/-- Texts with something between them. -/
def between (sep : List Glyph) : List (List Glyph) → List Glyph
  | [] => []
  | [gs] => gs
  | gs :: rest => gs ++ sep ++ between sep rest

/-- The value of a parameter as characters, and whether it is divided at gaps. -/
def State.value? (s : State) (m : Manner) (quoted : Bool) (name : String) :
    Option (List Glyph × Bool) :=
  if name = "@" ∨ name = "*" then
    let texts := s.args.map (glyphsOf quoted)
    if name = "@" ∧ quoted ∧ m.fields then some (between [.gap] texts, true)
    else
      match s.separators with
      | c :: _ => some (between [.char c quoted] texts, false)
      | [] =>
        if m.fields ∧ !quoted ∧ !texts.isEmpty then some (between [.gap] texts, true)
        else some (between [] texts, false)
  else (s.parameter? name).map fun text => (glyphsOf quoted text, false)

/-- The stretch of a value. -/
def stretchOf (s : State) (quoted : Bool) (name : String) (value : List Glyph × Bool) : Stretch :=
  let division : Division :=
    if quoted then (if name = "@" ∧ !s.args.isEmpty then .atGaps else .whole)
    else if value.2 then .atGaps
    else .atSeparators
  ⟨value.1, division⟩

/-- A number as a stretch. -/
def numberStretch (quoted : Bool) (text : String) : Stretch :=
  ⟨glyphsOf quoted text, if quoted then .whole else .atSeparators⟩

/-- The name of an account behind a tilde, and what follows it. -/
def accountName (tildes : Bool) : List Part → Option (List Char × List Part)
  | [] => some ([], [])
  | .char c false :: rest =>
    if c = '/' ∨ (tildes ∧ c = ':') then some ([], .char c false :: rest)
    else (accountName tildes rest).map fun (name, after) => (c :: name, after)
  | _ => none

/-- A tilde at the front of a word: the home directory, and what follows. -/
def homeAt (s : State) (tildes : Bool) : List Part → Option (Stretch × List Part)
  | .char '~' false :: rest =>
    match accountName tildes rest, s.get? "HOME" with
    | some ([], after), some home => some (⟨glyphsOf true home, .whole⟩, after)
    | _, _ => none
  | _ => none

/-- The plain characters at the front. -/
def plainRun : List Part → List Char × List Part
  | .char c false :: rest =>
    let (cs, after) := plainRun rest
    (c :: cs, after)
  | ps => ([], ps)

/-- Fails because a parameter has no value. -/
def missing {α : Type} (name : String) : Run α := raise (name ++ ": parameter not set")

/-- Whether a value counts, where an empty one may not. -/
def counts (orEmpty : Bool) : Option (List Glyph × Bool) → Bool
  | none => false
  | some (gs, _) => !orEmpty || !gs.isEmpty

/-- The characters that a word stands for; `inQuotes` tells that a quote is open. -/
def expandParts (outputOf : OutputOf) :
    Nat → Manner → (inQuotes : Bool) → List Part → Run (List Stretch)
  | 0, _, _, _ => return []
  | _, _, _, [] => return []
  | fuel + 1, m, inQuotes, part :: rest => do
    let s ← Action.get
    let home := if m.tilde then homeAt s m.tildes (part :: rest) else none
    let later : Manner := { m with tilde := false }
    let quoted := m.quoted || inQuotes
    match home with
    | some (h, after) => do
      return h :: (← expandParts outputOf fuel later inQuotes after)
    | none =>
    match part with
    | .char c true => do
      let more ← expandParts outputOf fuel later inQuotes rest
      return ⟨[.char c true], .whole⟩ :: more
    | .char c false =>
      if m.divided && !quoted then do
        let (cs, after) := plainRun (part :: rest)
        let more ← expandParts outputOf fuel later inQuotes after
        return ⟨cs.map (.char · false), .atSeparators⟩ :: more
      else do
        let next : Manner := { m with tilde := m.tildes && c == ':' }
        let more ← expandParts outputOf fuel next inQuotes rest
        return ⟨[.char c quoted], .whole⟩ :: more
    | .mark =>
      match inQuotes, rest with
      | false, .parameter "@" .value [] :: .mark :: after => do
        let value := (s.value? m true "@").map (stretchOf s true "@")
        let more ← expandParts outputOf fuel later false after
        return value.toList ++ more
      | _, _ => do
        let more ← expandParts outputOf fuel later (!inQuotes) rest
        return ⟨[.mark], .whole⟩ :: more
    | .arithmetic expression => do
      let inner ← expandParts outputOf fuel { quoted := true } false expression
      let n ← calculate (textOf (allGlyphs inner))
      let more ← expandParts outputOf fuel later inQuotes rest
      return numberStretch quoted (toString n) :: more
    | .output script => do
      let text ← outputOf script
      let more ← expandParts outputOf fuel later inQuotes rest
      return numberStretch quoted text :: more
    | .parameter name use operand => do
      let value := s.value? m quoted name
      let operandManner : Manner :=
        { fields := m.fields, quoted := quoted, divided := true, tilde := true, tildes := m.tildes }
      let found : List Stretch ←
        match use with
        | .invalid => raise "Bad substitution"
        | .value =>
          match value with
          | some v => pure [stretchOf s quoted name v]
          | none => if s.has 'u' then missing name else pure []
        | .length =>
          match value with
          | some v => pure [numberStretch quoted (toString v.1.length)]
          | none => if s.has 'u' then missing name else pure [numberStretch quoted "0"]
        | .otherwise orEmpty =>
          match value with
          | some v =>
            if counts orEmpty value then pure [stretchOf s quoted name v]
            else expandParts outputOf fuel operandManner false operand
          | none => expandParts outputOf fuel operandManner false operand
        | .instead orEmpty =>
          if counts orEmpty value then expandParts outputOf fuel operandManner false operand
          else pure []
        | .assign orEmpty =>
          match value, counts orEmpty value with
          | some v, true => pure [stretchOf s quoted name v]
          | _, _ => do
            let inner ← expandParts outputOf fuel { tilde := true, quoted := quoted } false operand
            assignNamed name (textOf (allGlyphs inner))
            let s ← Action.get
            pure ((s.value? m quoted name).map (stretchOf s quoted name)).toList
        | .demand orEmpty =>
          match value, counts orEmpty value with
          | some v, true => pure [stretchOf s quoted name v]
          | _, _ => do
            let inner ← expandParts outputOf fuel { tilde := true, quoted := quoted } false operand
            if operand.isEmpty then
              raise (name ++ ": parameter not set" ++ (if orEmpty then " or null" else ""))
            else raise (name ++ ": " ++ textOf (allGlyphs inner))
        | .dropEnd longest =>
          match value with
          | none => if s.has 'u' then missing name else pure []
          | some v => do
            let inner ← expandParts outputOf fuel { tilde := true } false operand
            let text := dropEnd longest (patternOfGlyphs (allGlyphs inner)) (codesOf v.1)
            pure [stretchOf s quoted name (glyphsOfCodes quoted text, v.2)]
        | .dropFront longest =>
          match value with
          | none => if s.has 'u' then missing name else pure []
          | some v => do
            let inner ← expandParts outputOf fuel { tilde := true } false operand
            let text := dropFront longest (patternOfGlyphs (allGlyphs inner)) (codesOf v.1)
            pure [stretchOf s quoted name (glyphsOfCodes quoted text, v.2)]
      let more ← expandParts outputOf fuel later inQuotes rest
      return found ++ more

/-- The fields that a word stands for. -/
def expandFields (outputOf : OutputOf) (w : Word) : Run (List String) := do
  let ss ← expandParts outputOf stepLimit { fields := true, tilde := true } false w
  let s ← Action.get
  let fields := breakUp s.separators none ss
  return fields.flatMap fun gs =>
    match if s.has 'f' then [] else fileNames s.tree s.cwd (patternOfGlyphs gs) with
    | [] => [textOf gs]
    | names => names

/-- The text that a word stands for. -/
def expandText (outputOf : OutputOf) (w : Word) : Run String := do
  return textOf (allGlyphs (← expandParts outputOf stepLimit { tilde := true } false w))

/-- The text that a word in quotes stands for. -/
def expandQuoted (outputOf : OutputOf) (w : Word) : Run String := do
  return textOf (allGlyphs (← expandParts outputOf stepLimit { quoted := true } false w))

/-- The pattern that a word stands for. -/
def expandPattern (outputOf : OutputOf) (w : Word) : Run Pattern := do
  return patternOfGlyphs (allGlyphs (← expandParts outputOf stepLimit { tilde := true } false w))

/-- The name and the value of an assignment. -/
def expandAssignment (outputOf : OutputOf) (w : Word) : Run (String × String) := do
  let name := (assignedName w []).getD []
  let ss ← expandParts outputOf stepLimit { tilde := true, tildes := true } false
    (w.drop (name.length + 1))
  return (String.ofList name, textOf (allGlyphs ss))

end CommandShell.Script
