import CommandShell.Text.Split
import CommandShell.Text.Utf8

/-!
# Paths

A path is a sequence of bytes whose pieces stand between slashes; it need not be a text.  Empty
pieces and pieces `.` name nothing, except for a `.` at the very front of a relative path; the other
pieces are its components.

* `Path.components` : what the pieces of a path name;
* `Path.join`       : a path taken from another one on;
* `Path.parent?`    : the path without its last component;
* `Path.fileName?`, `Path.stem?` : the last component and its part before the last dot;
* `Path.below?`     : the path from a directory on, if it lies there;
* `Path.display`    : the path as a text.
-/

namespace CommandShell.Path

/-- The byte between pieces. -/
def slash : UInt8 := 0x2F

/-- The byte before the ending of a name. -/
def dot : UInt8 := 0x2E

/-- The pieces between slashes. -/
def split (p : Bytes) : List Bytes :=
  splitOn [slash] p

/-- Pieces with slashes between them. -/
def unsplit (pieces : List Bytes) : Bytes :=
  [slash].intercalate pieces

/-- A path as it is shown: bytes that are not UTF-8 are replaced. -/
def display (p : Bytes) : String :=
  Utf8.decodeLossy p

/-- A path that begins at the root. -/
def isAbsolute (p : Bytes) : Bool :=
  p.head? == some slash

/-- What a piece of a path names. -/
inductive Component where
  | root
  /-- The directory itself, at the front of a relative path. -/
  | current
  /-- The directory above. -/
  | parent
  /-- An entry of a directory. -/
  | name (s : Bytes)
  deriving DecidableEq, Repr

/-- What a piece after the first one names. -/
def componentOf? (piece : Bytes) : Option Component :=
  if piece = [] ∨ piece = "." then none
  else if piece = ".." then some .parent
  else some (.name piece)

/-- A piece of a path with what it names. -/
abbrev Piece := Bytes × Option Component

/-- A piece that names nothing. -/
def isFiller (p : Piece) : Bool := p.2.isNone

/-- The pieces between slashes, each with what it names; the empty piece before the slash of an
absolute path names the root, and a `.` at the front of a relative path names the directory
itself. -/
def pieces (p : Bytes) : List Piece :=
  match split p with
  | [] => []
  | first :: rest =>
    let rest := rest.map fun s => (s, componentOf? s)
    if isAbsolute p then (first, some .root) :: rest
    else if first = "." then (first, some .current) :: rest
    else (first, componentOf? first) :: rest

/-- What the pieces of a path name, in order. -/
def components (p : Bytes) : List Component :=
  (pieces p).filterMap (·.2)

/-- Pieces with slashes between them, as a path. -/
def ofPieces : List Piece → Bytes
  | [(_, some .root)] => "/"
  | ps => unsplit (ps.map (·.1))

/-- Drops the pieces at the end that name nothing. -/
def dropTrailing (ps : List Piece) : List Piece :=
  (ps.reverse.dropWhile isFiller).reverse

/-- The path without its last component. The root and the empty path have none. -/
def parent? (p : Bytes) : Option Bytes :=
  match (dropTrailing (pieces p)).reverse with
  | [] => none
  | (_, some .root) :: _ => none
  | _ :: before => some (ofPieces (dropTrailing before.reverse))

/-- The last component, if it names an entry. -/
def fileName? (p : Bytes) : Option Bytes :=
  match (components p).getLast? with
  | some (.name s) => some s
  | _ => none

/-- A name up to its last dot; a name with no dot, or with its only dot at the front, has no end to
leave out. -/
def stemOf (name : Bytes) : Bytes :=
  match name.reverse.dropWhile (· != dot) with
  | [] => name
  | [_] => name
  | _ :: before => before.reverse

/-- The name of the last component up to its last dot. -/
def stem? (p : Bytes) : Option Bytes :=
  (fileName? p).map stemOf

/-- The path `p` taken from `base` on: an absolute `p` stands for itself. -/
def join (base p : Bytes) : Bytes :=
  if isAbsolute p then p
  else if base = [] ∨ base.getLast? = some slash then base ++ p
  else base ++ slash :: p

/-- Takes pieces off the front that name the given components. -/
def dropComponents? : List Component → List Piece → Option (List Piece)
  | [], ps => some ps
  | _ :: _, [] => none
  | c :: cs, (_, named) :: ps =>
    match named with
    | none => dropComponents? (c :: cs) ps
    | some d => if c = d then dropComponents? cs ps else none

/-- The part of `p` below `base`, if the components of `base` are the first ones of `p`. -/
def below? (base p : Bytes) : Option Bytes :=
  match components base with
  | [] => some (ofPieces (dropTrailing (pieces p)))
  | cs =>
    (dropComponents? cs (pieces p)).map fun rest =>
      ofPieces (dropTrailing (rest.dropWhile isFiller))

end CommandShell.Path
