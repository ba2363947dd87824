import CommandShell.Program.Script.Expand

/-!
# Scripts: redirections

* `Script.redirect` : makes the streams of a command what its redirections ask for;
* `State.restore`   : puts them back.

A redirection that fails leaves the streams as far as they were changed; whoever asked for it puts
them back.
-/

namespace CommandShell.Script

/-- The text of an error where a file is opened. -/
def openReason : OsError → String
  | .notFound | .notDirectory => "No such file"
  | e => Message.reason e

/-- The text of an error where a file is made. -/
def createReason : OsError → String
  | .notFound | .notDirectory => "Directory nonexistent"
  | e => Message.reason e

/-- The open file that an entry of the tree gives. -/
def handleOf (place : Place) (append : Bool) : Entry → Handle
  | .null => .null
  | .directory => .folder
  | _ => .file place 0 append

/-- Opens a file for reading. -/
def openToRead (name : String) : Run Handle := do
  let s ← Action.get
  let refuse := fun (e : OsError) =>
    (raise ("cannot open " ++ name ++ ": " ++ openReason e) : Run Handle)
  match s.tree.stat s.cwd (Narrow.toBytes name) with
  | .ok (place, entry) =>
    match entry.read with
    | .error .permissionDenied => refuse .permissionDenied
    | _ => return handleOf place false entry
  | .error e => refuse e

/-- Opens a file for writing, and makes it if it is not there. -/
def openToWrite (name : String) (mode : Mode) : Run Handle := do
  let s ← Action.get
  let refuse := fun (reason : String) =>
    (raise ("cannot create " ++ name ++ ": " ++ reason) : Run Handle)
  match s.tree.writePlace s.cwd (Narrow.toBytes name) with
  | .error e => refuse (createReason e)
  | .ok place =>
    match s.tree.get? place, mode with
    | some .null, _ => return .null
    | some (.writeOnly _), .readWrite => refuse (createReason .permissionDenied)
    | some (.file _), .write false | some (.writeOnly _), .write false =>
      if s.has 'C' then refuse "File exists"
      else do
        Action.modify fun s => { s with tree := s.tree.putFile place [] }
        return .file place 0 false
    | some _, .append => return .file place 0 true
    | some _, .readWrite => return .file place 0 false
    | _, _ => do
      Action.modify fun s => { s with tree := s.tree.putFile place [] }
      return .file place 0 (mode == .append)

/-- A redirection with its words replaced. -/
inductive Channel where
  | file (stream : Nat) (mode : Mode) (name : String)
  | copy (stream : Nat) (source : Option Nat)
  | document (stream : Nat) (index : Nat)
  deriving DecidableEq, Repr

/-- Fails because a word is no number of a stream. -/
def badStream {α : Type} : Run α := do
  Action.modify fun s => { s with line := s.lineRead }
  raise "Syntax error: Bad fd number"

/-- Replaces the words of a redirection. -/
def channelOf (outputOf : OutputOf) : Redirect → Run Channel
  | .file stream mode name => do return .file stream mode (← expandText outputOf name)
  | .copy stream source => return .copy stream source
  | .copyWord stream source => do
    let text ← expandText outputOf source
    match text.toList with
    | [c] =>
      if c.isDigit then return .copy stream (some (c.toNat - 48))
      else if c = '-' then return .copy stream none
      else badStream
    | _ => badStream
  | .document stream index => return .document stream index

/-- The redirections of a command with their words replaced. -/
def channelsOf (outputOf : OutputOf) : List Redirect → Run (List Channel)
  | [] => return []
  | r :: rest => do
    let c ← channelOf outputOf r
    return c :: (← channelsOf outputOf rest)

/-- Makes a stream the same as another one. Where the streams are put back later, the stream is
closed before, so that a message about a missing one cannot go there. -/
def copyStream (restores : Bool) (stream : Nat) (source : Option Nat) : Run Unit := do
  match source with
  | none => Action.modify (·.closed stream)
  | some source =>
    if source = stream then pure ()
    else
      let s ← Action.get
      match s.streams.lookup source with
      | some index => Action.modify fun s => { s with streams := setStream stream index s.streams }
      | none => do
        if restores then Action.modify (·.closed stream)
        raise (toString source ++ ": Bad file descriptor")

/-- Makes one stream what it has to be. -/
def connect (outputOf : OutputOf) (restores : Bool) : Channel → Run Unit
  | .file stream mode name => do
    let h ← match mode with
      | .read => openToRead name
      | _ => openToWrite name mode
    Action.modify (·.opened stream h)
  | .copy stream source => copyStream restores stream source
  | .document stream index => do
    let s ← Action.get
    let text ← expandQuoted outputOf ((s.documents.lookup index).getD [])
    Action.modify (·.opened stream (.source (Narrow.toBytes text)))

/-- Makes the streams of a command what they have to be. -/
def redirect (outputOf : OutputOf) (restores : Bool) : List Channel → Run Unit
  | [] => pure ()
  | c :: rest => do
    connect outputOf restores c
    redirect outputOf restores rest

/-- The stream that a redirection changes. -/
def Channel.stream : Channel → Nat
  | .file stream _ _ | .copy stream _ | .document stream _ => stream

/-- Puts the streams back that redirections changed. -/
def State.restore (s before : State) : List Channel → State
  | [] => s
  | c :: rest =>
    let s := match before.streams.lookup c.stream with
      | some index => { s with streams := setStream c.stream index s.streams }
      | none => s.closed c.stream
    s.restore before rest

end CommandShell.Script
