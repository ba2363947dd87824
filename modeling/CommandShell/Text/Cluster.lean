import CommandShell.Text.ClusterClass

/-!
# Clusters and backspaces

A cluster is what a reader takes for one character: a base with its marks, a flag, a syllable.

* `Text.clusters`         : the extended grapheme clusters of a text;
* `Text.applyBackspaces`  : a text in which every backspace has taken back the cluster before it.
-/

namespace CommandShell.Text

/-- Where the characters before a boundary stand in a sequence of pictographs. -/
inductive PictographState where
  | none
  /-- A pictograph, and then only extending marks. -/
  | begun
  /-- The same, and then a joiner. -/
  | joined
  deriving DecidableEq, Repr

/-- Where the characters before a boundary stand in a conjunct. -/
inductive ConjunctState where
  | none
  /-- A consonant, and then only marks. -/
  | begun
  /-- The same with a linker among the marks. -/
  | linked
  deriving DecidableEq, Repr

/-- What a cluster boundary needs to know of the characters before it. -/
structure ClusterState where
  last : ClusterClass
  /-- An odd number of regional indicators stands right before. -/
  oddRegionals : Bool
  pictographs : PictographState
  conjunct : ConjunctState
  deriving DecidableEq, Repr

/-- Classes that are a cluster of their own. -/
def ClusterClass.standsAlone : ClusterClass → Bool
  | returns | feed | control => true
  | _ => false

/-- Hangul letters and syllables that belong to one syllable. -/
def sameSyllable : ClusterClass → ClusterClass → Bool
  | .initialJamo, .initialJamo | .initialJamo, .vowelJamo => true
  | .initialJamo, .openSyllable | .initialJamo, .closedSyllable => true
  | .openSyllable, .vowelJamo | .openSyllable, .finalJamo => true
  | .vowelJamo, .vowelJamo | .vowelJamo, .finalJamo => true
  | .closedSyllable, .finalJamo | .finalJamo, .finalJamo => true
  | _, _ => false

/-- Whether a character belongs to the cluster of those before it. -/
def ClusterState.joins (s : ClusterState) (c : Char) : Bool :=
  let next := clusterClass c
  if s.last == .returns && next == .feed then true
  else if s.last.standsAlone || next.standsAlone then false
  else
    sameSyllable s.last next
      || next == .extending || next == .joiner || next == .spacing
      || s.last == .leading
      || (s.conjunct == .linked && isConsonant c)
      || (s.pictographs == .joined && next == .pictograph)
      || (s.oddRegionals && next == .regional)

/-- The pictograph state behind one more character. -/
def PictographState.step (s : PictographState) : ClusterClass → PictographState
  | .pictograph => .begun
  | .extending => if s == .begun then .begun else .none
  | .joiner => if s == .begun then .joined else .none
  | _ => .none

/-- The conjunct state behind one more character. -/
def ConjunctState.step (s : ConjunctState) (c : Char) : ConjunctState :=
  if isConsonant c then .begun
  else if s == .none then .none
  else if isLinker c then .linked
  else
    match clusterClass c with
    | .extending => if c.toNat = 0x200C then .none else s
    | .joiner => s
    | _ => .none

/-- The state behind one more character. -/
def ClusterState.step (s : ClusterState) (c : Char) : ClusterState where
  last := clusterClass c
  oddRegionals := clusterClass c == .regional && !s.oddRegionals
  pictographs := s.pictographs.step (clusterClass c)
  conjunct := s.conjunct.step c

/-- The state at the front of a text. -/
def ClusterState.start : ClusterState := ⟨.control, false, .none, .none⟩

/-- The clusters of a text, with `held` the one under way, in reverse. -/
def clustersFrom : ClusterState → List Char → List Char → List (List Char)
  | _, [], [] => []
  | _, held, [] => [held.reverse]
  | s, held, c :: cs =>
    if held.isEmpty || s.joins c then clustersFrom (s.step c) (c :: held) cs
    else held.reverse :: clustersFrom (s.step c) [c] cs

/-- The extended grapheme clusters of a text. -/
def clusters (cs : List Char) : List (List Char) :=
  clustersFrom .start [] cs

/-- The size of a cluster in bytes, which is kept in eight bits. -/
def clusterSize (cluster : List Char) : Nat :=
  cluster.foldl (fun n c => n + c.utf8Size) 0 % 256

/-- Takes `size` bytes off the end of a text that is held in reverse. -/
def takeBack : Nat → List Char → List Char
  | 0, cs => cs
  | _, [] => []
  | size, c :: cs => takeBack (size - c.utf8Size) cs

/-- A text under construction, in reverse, with the sizes of its clusters. -/
structure Typed where
  text : List Char := []
  sizes : List Nat := []

/-- Adds a cluster; a backspace takes the last one back. -/
def Typed.add (t : Typed) (cluster : List Char) : Typed :=
  if cluster = ['\x08'] then
    match t.sizes with
    | [] => t
    | size :: sizes => ⟨takeBack size t.text, sizes⟩
  else ⟨cluster.reverse ++ t.text, clusterSize cluster :: t.sizes⟩

/-- A text in which every backspace has taken back the cluster before it. -/
def applyBackspaces (s : String) : String :=
  String.ofList ((clusters s.toList).foldl Typed.add {}).text.reverse

end CommandShell.Text
