import CommandShell.Machine.OsError
import CommandShell.Path.Basic

/-!
# File trees

A tree maps the names on the way from the root to a file, a directory or a program.  A path is
followed from a directory on, name by name; each name but the last has to lead to a directory, `.`
stays and `..` goes up.

* `Entry.read`, `Entry.written` : what is read from an entry, and what becomes of it when it is written;
* `FileTree.get?`    : what stands at a place;
* `FileTree.locate`  : the directory and the last name that a path leads to;
* `FileTree.stat`, `FileTree.readBytes`, `FileTree.write`, `FileTree.mkdir`, `FileTree.createAll`,
  `FileTree.chdir` : file operations by path, with the error each of them gives.
-/

namespace CommandShell

/-- What stands at a place of a tree. Who runs the shell may write all files, and read those that
they make; other permissions show in the entry. -/
inductive Entry where
  | directory
  /-- A directory that is there, but may not be entered. -/
  | closed
  | file (content : Bytes)
  /-- A file that may be written, but not read. -/
  | writeOnly (content : Bytes)
  /-- A program that can be run by this name. -/
  | program (name : String)
  /-- Holds nothing and takes everything. -/
  | null
  /-- The name of a process. It takes a text of any length, but keeps few bytes of it, and it is
  read with a line feed behind them. -/
  | processName (name : Bytes)
  deriving DecidableEq, Repr

namespace Entry

def isDirectory : Entry → Bool
  | directory | closed => true
  | _ => false

def isFile : Entry → Bool
  | file _ | writeOnly _ | program _ | processName _ => true
  | _ => false

/-- What is read from an entry. -/
def read : Entry → Except OsError Bytes
  | directory => .error .isDirectory
  | closed | writeOnly _ => .error .permissionDenied
  | file content => .ok content
  | program name => .ok (0x7F :: 0xFF :: Utf8.encode name)
  | null => .ok []
  | processName name => .ok (name ++ [0x0A])

/-- What stands at a place after it was written, by what stood there. The name of a process ends at a
NUL and after 15 bytes, and stays if there is nothing to write. -/
def written (content : Bytes) : Option Entry → Entry
  | some (writeOnly _) => writeOnly content
  | some null => null
  | some (processName name) =>
    processName (if content = [] then name else (content.take 15).takeWhile (· != 0))
  | _ => file content

end Entry

/-- The names on the way from the root. -/
abbrev Place := List Bytes

/-- Places and what stands there. The root is always a directory. -/
structure FileTree where
  entries : List (Place × Entry)
  deriving DecidableEq, Repr

namespace FileTree

/-- The tree with nothing but the root. -/
def empty : FileTree := ⟨[]⟩

/-- What stands at a place. -/
def get? (t : FileTree) (p : Place) : Option Entry :=
  if p = [] then some .directory else t.entries.lookup p

/-- Puts an entry at a place. -/
def putEntry (p : Place) (e : Entry) : List (Place × Entry) → List (Place × Entry)
  | [] => [(p, e)]
  | (q, f) :: rest => if q = p then (p, e) :: rest else (q, f) :: putEntry p e rest

/-- Puts an entry at a place. -/
def put (t : FileTree) (p : Place) (e : Entry) : FileTree :=
  ⟨putEntry p e t.entries⟩

/-- The entries below a place, each with the names from there on. -/
def below (t : FileTree) (p : Place) : List (Place × Entry) :=
  t.entries.filterMap fun (q, e) =>
    match after? p q with
    | some (n :: ns) => some (n :: ns, e)
    | _ => none

/-- Where a path leads: to a directory that is there, or to a name in such a directory. -/
inductive Target where
  | directory (p : Place)
  /-- A name in a directory; `slash` tells of a slash after it. -/
  | name (dir : Place) (name : Bytes) (slash : Bool)
  deriving DecidableEq, Repr

/-- A name that the tree cannot hold. -/
def isTooLong (name : Bytes) : Bool :=
  name.length > 255

/-- Follows one name from a directory into another one. -/
def enter (t : FileTree) (dir : Place) (name : Bytes) : Except OsError Place :=
  if name = "." then .ok dir
  else if name = ".." then .ok dir.dropLast
  else if isTooLong name then .error .nameTooLong
  else
    match t.get? (dir ++ [name]) with
    | some .directory => .ok (dir ++ [name])
    | some .closed => .error .permissionDenied
    | some _ => .error .notDirectory
    | none => .error .notFound

/-- Follows names up to the last one. -/
def follow (t : FileTree) (slash : Bool) : Place → List Bytes → Except OsError Target
  | dir, [] => .ok (.directory dir)
  | dir, [last] =>
    if last = "." then .ok (.directory dir)
    else if last = ".." then .ok (.directory dir.dropLast)
    else .ok (.name dir last slash)
  | dir, name :: rest =>
    match enter t dir name with
    | .error e => .error e
    | .ok dir' => follow t slash dir' rest

/-- Where a path leads from a directory on. -/
def locate (t : FileTree) (cwd : Place) (path : Bytes) : Except OsError Target :=
  if path.contains 0 then .error .nulInPath
  else if path = [] then .error .notFound
  else if path.length ≥ 4096 then .error .nameTooLong
  else
    follow t (path.getLast? == some Path.slash) (if Path.isAbsolute path then [] else cwd)
      ((Path.split path).filter (· != []))

/-- The place and the entry that a path leads to. -/
def stat (t : FileTree) (cwd : Place) (path : Bytes) : Except OsError (Place × Entry) :=
  match t.locate cwd path with
  | .error e => .error e
  | .ok (.directory p) => .ok (p, .directory)
  | .ok (.name dir name slash) =>
    if isTooLong name then .error .nameTooLong
    else
      match t.get? (dir ++ [name]) with
      | none => .error .notFound
      | some e =>
        if slash && !e.isDirectory then .error .notDirectory else .ok (dir ++ [name], e)

/-- A path leads to something. -/
def hasPath (t : FileTree) (cwd : Place) (path : Bytes) : Bool :=
  match t.stat cwd path with
  | .ok _ => true
  | .error _ => false

/-- A path leads to a directory. -/
def isDirectory (t : FileTree) (cwd : Place) (path : Bytes) : Bool :=
  match t.stat cwd path with
  | .ok (_, e) => e.isDirectory
  | .error _ => false

/-- A path leads to a file. -/
def isFile (t : FileTree) (cwd : Place) (path : Bytes) : Bool :=
  match t.stat cwd path with
  | .ok (_, e) => e.isFile
  | .error _ => false

/-- The bytes of the file that a path leads to. -/
def readBytes (t : FileTree) (cwd : Place) (path : Bytes) : Except OsError Bytes :=
  match t.stat cwd path with
  | .error e => .error e
  | .ok (_, e) => e.read

/-- The text of the file that a path leads to. -/
def readText (t : FileTree) (cwd : Place) (path : Bytes) : Except OsError String :=
  match t.readBytes cwd path with
  | .error e => .error e
  | .ok bs =>
    match Utf8.decode? bs with
    | some s => .ok s
    | none => .error .invalidText

/-- The place that a file would take which is written to a path. -/
def writePlace (t : FileTree) (cwd : Place) (path : Bytes) : Except OsError Place :=
  match t.locate cwd path with
  | .error e => .error e
  | .ok (.directory _) => .error .isDirectory
  | .ok (.name dir name slash) =>
    if slash then .error .isDirectory
    else if isTooLong name then .error .nameTooLong
    else if (t.get? (dir ++ [name])).any Entry.isDirectory then .error .isDirectory
    else .ok (dir ++ [name])

/-- Writes a file at a place: over the one that is there, or a new one. -/
def putFile (t : FileTree) (p : Place) (content : Bytes) : FileTree :=
  t.put p (.written content (t.get? p))

/-- Writes a file; what it held before is gone. -/
def write (t : FileTree) (cwd : Place) (path : Bytes) (content : Bytes) :
    Except OsError FileTree :=
  match t.writePlace cwd path with
  | .error e => .error e
  | .ok p => .ok (t.putFile p content)

/-- The directory that becomes the working directory by a path. -/
def chdir (t : FileTree) (cwd : Place) (path : Bytes) : Except OsError Place :=
  match t.stat cwd path with
  | .error e => .error e
  | .ok (p, .directory) => .ok p
  | .ok (_, .closed) => .error .permissionDenied
  | .ok _ => .error .notDirectory

/-- Makes a directory. -/
def mkdir (t : FileTree) (cwd : Place) (path : Bytes) : Except OsError FileTree :=
  match t.locate cwd path with
  | .error e => .error e
  | .ok (.directory _) => .error .alreadyExists
  | .ok (.name dir name _) =>
    if isTooLong name then .error .nameTooLong
    else
      match t.get? (dir ++ [name]) with
      | some _ => .error .alreadyExists
      | none => .ok (t.put (dir ++ [name]) .directory)

/-- Makes a directory and those above it that are missing; `depth` bounds how far up. What was made
stays when a later step fails. -/
def createAllFrom (cwd : Place) : Nat → Bytes → FileTree → Except OsError Unit × FileTree
  | depth, path, t =>
    if path = [] then (.ok (), t)
    else
      match t.mkdir cwd path with
      | .ok t' => (.ok (), t')
      | .error .notFound =>
        match depth, Path.parent? path with
        | depth + 1, some above =>
          match createAllFrom cwd depth above t with
          | (.error e, t') => (.error e, t')
          | (.ok (), t') =>
            match t'.mkdir cwd path with
            | .ok t'' => (.ok (), t'')
            | .error e => if t'.isDirectory cwd path then (.ok (), t') else (.error e, t')
        | _, _ => (.error .notFound, t)
      | .error e => if t.isDirectory cwd path then (.ok (), t) else (.error e, t)

/-- Makes a directory and those above it that are missing. -/
def createAll (t : FileTree) (cwd : Place) (path : Bytes) : Except OsError Unit × FileTree :=
  createAllFrom cwd path.length path t

end FileTree

end CommandShell
