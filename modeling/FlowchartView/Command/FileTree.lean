import FlowchartView.Command.File
import FlowchartView.OrderedMap
import FlowchartView.Text.Control
import FlowchartView.Text.Piece

namespace FlowchartView.Command

open Text

inductive Entry
  | file (bytes : ByteArray)
  | directory
  /-- Reads as empty and forgets what is written. -/
  | sink

abbrev Place := List Text

structure FileTree where
  entries : OrderedMap Place Entry := .empty
  workingDirectory : Place := []
  standardInput : ByteArray := .empty

namespace FileTree

def byteLength (s : Text) : Nat := (String.ofList s).utf8ByteSize

def isLongName (name : Text) : Bool := decide (255 < byteLength name)

def isLongPath (path : Text) : Bool := decide (4096 ≤ byteLength path)

def entry? (t : FileTree) (p : Place) : Option Entry :=
  if p.isEmpty then some .directory else t.entries.find? p

def checkDirectory (t : FileTree) (p : Place) : Except FileError Unit :=
  match t.entry? p with
  | none => .error .notFound
  | some .directory => .ok ()
  | some _ => .error .notDirectory

/-- A name that is empty or a dot stays where it is, and two dots lead to the directory above; above
the root is the root. -/
def follow (t : FileTree) (p : Place) : List Text → Except FileError Place
  | [] => .ok p
  | name :: names => do
    t.checkDirectory p
    if name = [] ∨ name = ['.'] then t.follow p names
    else if name = ['.', '.'] then t.follow p.dropLast names
    else if isLongName name then .error .nameTooLong
    else t.follow (p ++ [name]) names

def start (t : FileTree) : Text → Except FileError Place
  | [] => .error .notFound
  | c :: path =>
    if isLongPath (c :: path) then .error .nameTooLong
    else .ok (if c = '/' then [] else t.workingDirectory)

def resolve (t : FileTree) (path : Text) : Except FileError Entry := do
  let p ← t.follow (← t.start path) (pieces (· == '/') path)
  match t.entry? p with
  | none => .error .notFound
  | some e => .ok e

def contains (t : FileTree) (path : Text) : Bool := (t.resolve path).toBool

def read (t : FileTree) (path : Text) : Except FileError ByteArray := do
  match ← t.resolve path with
  | .directory => .error .isDirectory
  | .file bytes => .ok bytes
  | .sink => .ok .empty

/-- The path ends in a slash or in dots, and leads to a directory if anywhere. -/
def namesDirectory (path : Text) : Bool :=
  match (pieces (· == '/') path).getLast? with
  | none | some [] | some ['.'] | some ['.', '.'] => true
  | some _ => false

def write (t : FileTree) (path : Text) (bytes : ByteArray) : Except FileError FileTree := do
  let names := fields (· == '/') path
  let name := names.getLast?.getD []
  let directory ← t.follow (← t.start path) names.dropLast
  t.checkDirectory directory
  if namesDirectory path then .error .isDirectory
  else if isLongName name then .error .nameTooLong
  else
    let p := directory ++ [name]
    match t.entry? p with
    | some .directory => .error .isDirectory
    | some .sink => .ok t
    | _ => .ok { t with entries := t.entries.insert p (.file bytes) }

/-- Puts an entry at a path from the working directory on, and directories above it. -/
def add (t : FileTree) (path : Text) (e : Entry) : FileTree :=
  let p := t.workingDirectory ++ fields (· == '/') path
  let above := (List.range p.length).map p.take
  let t := above.foldl (fun t q ↦ { t with entries := t.entries.insert q .directory }) t
  { t with entries := t.entries.insert p e }

def localFiles (t : FileTree) : List (Text × ByteArray) :=
  t.entries.entries.filterMap fun e ↦
    match e.2, e.1.getLast? with
    | .file bytes, some name =>
      if e.1.dropLast = t.workingDirectory then some (name, bytes) else none
    | _, _ => none

def access (printed : Text → Text := stripControls) : Machine (StateM FileTree) where
  contains path := do return (← get).contains path
  read path := do return (← get).read path
  write path content := do
    match (← get).write path (String.ofList content).toUTF8 with
    | .error e => return .error e
    | .ok t =>
      set t
      return .ok ()
  standardInput := do return (← get).standardInput
  printed := printed

end FileTree

end FlowchartView.Command
