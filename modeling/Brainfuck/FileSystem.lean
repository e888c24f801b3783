import Brainfuck.Error
import Brainfuck.Path
/-!
# File system

A tree of files and directories as a table from absolute locations to nodes, with a current directory. The
operations fail for the reasons, and in the order, in which an operating system fails them; a failed
operation changes nothing.
-/

namespace Brainfuck

/-- What stands behind a file that stores nothing. An input is read, and a sink collects what is written. -/
inductive Device where
  | null
  | full
  | terminal
  | input (content : ByteArray)
  | sink (content : ByteArray)

inductive Node where
  | file (content : ByteArray) (executable : Bool)
  | device (d : Device)
  | directory

namespace Device

/-- What a reader gets. -/
def read : Device → Except SystemError ByteArray
  | null | full | sink _ => .ok .empty
  | terminal => .error .noDevice
  | input content => .ok content

/-- The device after a write. -/
def write (content : ByteArray) : Device → Except SystemError Device
  | null => .ok null
  | full => if content.isEmpty then .ok full else .error .noSpace
  | terminal => .error .noDevice
  | input held => .ok (input held)
  | sink held => .ok (sink (held ++ content))

end Device

/-- The names from the root to a node. -/
abbrev Location := List String

/-- Does a location come no later than another one in a walk that visits names in order? -/
def Location.isAtMost : Location → Location → Bool
  | [], _ => true
  | _ :: _, [] => false
  | a :: as, b :: bs => a < b || a = b && Location.isAtMost as bs

structure FileSystem where
  nodes : List (Location × Node)
  current : Location

namespace FileSystem

/-! ## The table -/

/-- The root always is a directory. -/
def node? (fs : FileSystem) (loc : Location) : Option Node :=
  if loc.isEmpty then some .directory else fs.nodes.lookup loc

def erase (fs : FileSystem) (loc : Location) : FileSystem :=
  { fs with nodes := fs.nodes.filter (·.1 ≠ loc) }

def insert (fs : FileSystem) (loc : Location) (node : Node) : FileSystem :=
  { fs with nodes := (loc, node) :: (fs.erase loc).nodes }

/-- Is the location the given one or below it? -/
def isWithin (top loc : Location) : Bool := top.isPrefixOf loc

/-- Takes a node away with all below it. -/
def eraseTree (fs : FileSystem) (top : Location) : FileSystem :=
  { fs with nodes := fs.nodes.filter fun entry => !isWithin top entry.1 }

/-- Moves a node with all below it to a place where nothing is. -/
def moveTree (fs : FileSystem) (source target : Location) : FileSystem :=
  { fs with
    nodes := fs.nodes.map fun (loc, node) =>
      if isWithin source loc then (target ++ loc.drop source.length, node) else (loc, node) }

def hasEntries (fs : FileSystem) (directory : Location) : Bool :=
  fs.nodes.any fun entry => isWithin directory entry.1 && entry.1 != directory

/-- The directories above a location, the root left out. -/
def ancestors (loc : Location) : List Location :=
  ((List.range loc.length).drop 1).map loc.take

/-- Puts a node in its place and makes the directories it needs. -/
def plant (fs : FileSystem) (loc : Location) (node : Node) : FileSystem :=
  let fs := (ancestors loc).foldl
    (fun fs above => if (fs.node? above).isNone then fs.insert above .directory else fs) fs
  fs.insert loc node

/-! ## Paths -/

/-- The longest name of a file, in bytes. -/
def maxNameSize : Nat := 255

/-- The longest path, in bytes. -/
def maxPathSize : Nat := 4095

/-- The node at a location whose directory is known to exist. -/
def lookup (fs : FileSystem) (loc : Location) : Except SystemError (Option Node) :=
  match loc.getLast? with
  | none => .ok (fs.node? loc)
  | some name => if maxNameSize < name.utf8ByteSize then .error .nameTooLong else .ok (fs.node? loc)

/-- One piece further on from a location, which must be a directory. -/
def enter (fs : FileSystem) (loc : Location) (piece : String) : Except SystemError Location := do
  match ← fs.lookup loc with
  | none => .error .noEntry
  | some .directory =>
    if piece = "." then .ok loc
    else if piece = ".." then .ok loc.dropLast
    else .ok (loc ++ [piece])
  | some _ => .error .notDirectory

/-- Where a path leads. All but its last name must exist. -/
def locate (fs : FileSystem) (path : String) : Except SystemError Location :=
  let p := Path.ofText path
  if path.isEmpty then .error .noEntry
  else if maxPathSize < path.utf8ByteSize then .error .nameTooLong
  else p.pieces.foldlM fs.enter (if p.absolute then [] else fs.current)

/-- Does the path end in a name, rather than in a dot, two dots or the root? -/
def endsInName (path : String) : Bool :=
  match (Path.ofText path).pieces.getLast? with
  | none => false
  | some last => last != "." && last != ".."

/-- The node a path leads to. -/
def find (fs : FileSystem) (path : String) : Except SystemError (Location × Node) := do
  let loc ← fs.locate path
  match ← fs.lookup loc with
  | none => .error .noEntry
  | some .directory => .ok (loc, .directory)
  | some node =>
    if (Path.ofText path).trailingSlash then .error .notDirectory
    else .ok (loc, node)

/-! ## Operations -/

def readFile (fs : FileSystem) (path : String) : Except SystemError ByteArray := do
  match ← fs.find path with
  | (_, .file content _) => .ok content
  | (_, .device d) => d.read
  | (_, .directory) => .error .isDirectory

/-- Where a file with the given path can be written. -/
def locateForWriting (fs : FileSystem) (path : String) : Except SystemError Location := do
  let loc ← fs.locate path
  if !endsInName path || (Path.ofText path).trailingSlash then
    .error .isDirectory
  else
    match ← fs.lookup loc with
    | some .directory => .error .isDirectory
    | _ => .ok loc

/-- Replaces the content of a file, or makes the file. A device takes what is written. -/
def writeFile (fs : FileSystem) (path : String) (content : ByteArray) : Except SystemError FileSystem := do
  let loc ← fs.locateForWriting path
  match fs.node? loc with
  | some (.file _ executable) => .ok (fs.insert loc (.file content executable))
  | some (.device d) => return fs.insert loc (.device (← d.write content))
  | _ => .ok (fs.insert loc (.file content false))

def createDirectory (fs : FileSystem) (path : String) : Except SystemError FileSystem := do
  let loc ← fs.locate path
  match ← fs.lookup loc with
  | some _ => .error .alreadyExists
  | none => .ok (fs.insert loc .directory)

/-- Takes away what a path leads to, with all below it. -/
def eraseAt (fs : FileSystem) (path : String) : FileSystem :=
  match fs.locate path with
  | .ok loc => fs.eraseTree loc
  | .error _ => fs

/-- Gives a node a new path. What is there already is replaced by the same kind of node, and a directory
only when it is empty. -/
def rename (fs : FileSystem) (source target : String) : Except SystemError FileSystem := do
  let origin ← fs.locate source
  let goal ← fs.locate target
  if !endsInName target then
    .error .busy
  else
    match ← fs.lookup origin with
    | none => .error .noEntry
    | some .directory =>
      let existing ← fs.lookup goal
      if origin = goal then .ok fs
      else if isWithin origin goal then .error .invalidArgument
      else
        match existing with
        | none => .ok (fs.moveTree origin goal)
        | some .directory =>
          if fs.hasEntries goal then .error .directoryNotEmpty
          else .ok ((fs.erase goal).moveTree origin goal)
        | some _ => .error .notDirectory
    | some node =>
      let existing ← fs.lookup goal
      if (Path.ofText target).trailingSlash then .error .notDirectory
      else
        match existing with
        | some .directory => .error .isDirectory
        | _ => .ok ((fs.erase origin).insert goal node)

/-! ## Differences -/

/-- The nodes below a directory, with the names that lead to them. -/
def below (fs : FileSystem) (top : Location) : List (Location × Node) :=
  fs.nodes.filterMap fun (loc, node) =>
    if isWithin top loc && loc != top then some (loc.drop top.length, node) else none

/-- Do two nodes look the same to a reader? -/
def sameContent : Node → Node → Bool
  | .file a _, .file b _ => a.data = b.data
  | .device _, .device _ => true
  | .directory, .directory => true
  | _, _ => false

/-- The nodes below a directory that are new or look different in `after`. -/
def changed (before after : FileSystem) (top : Location) : List (Location × Node) :=
  (after.below top).filter fun (loc, node) =>
    match before.node? (top ++ loc) with
    | none => true
    | some old => !sameContent old node

/-- What is no longer below a directory in `after`. -/
def removed (before after : FileSystem) (top : Location) : List Location :=
  (before.below top).filterMap fun (loc, _) =>
    if (after.node? (top ++ loc)).isNone then some loc else none

end FileSystem

end Brainfuck
