import Brainfuck.FileSystem
import Brainfuck.Shell.Command
import Brainfuck.Text.Bytes
/-!
# Open files

What the processes of a shell share: the files, the pipes between them, and what has been opened. A
descriptor of a process is a number for one of the opened files, which knows how far it has been read or
written.
-/

namespace Brainfuck.Shell

/-- Where an opened file leads. -/
inductive Channel where
  | pipe (index : Nat)
  | file (loc : Location)
deriving DecidableEq

structure OpenFile where
  channel : Channel
  offset : Nat
  access : Access

/-- `started` is the number that the latest process was given. -/
structure World where
  files : FileSystem
  pipes : Array ByteArray
  opened : Array OpenFile
  started : Nat

/-- Why nothing can be written. -/
inductive WriteFault where
  | badDescriptor
  | refused (e : SystemError)

def Access.canRead : Access → Bool
  | .read | .readWrite => true
  | _ => false

def Access.canWrite : Access → Bool
  | .read => false
  | _ => true

namespace World

/-- Opens something more. Answers its index. -/
def add (w : World) (channel : Channel) (access : Access) : Nat × World :=
  (w.opened.size, { w with opened := w.opened.push ⟨channel, 0, access⟩ })

/-- A new pipe that holds some bytes, opened for reading and writing. -/
def addPipe (w : World) (content : ByteArray) : Nat × World :=
  { w with pipes := w.pipes.push content }.add (.pipe w.pipes.size) .readWrite

/-- All that a reader of a channel could get from its start. -/
def content (w : World) : Channel → ByteArray
  | .pipe index => w.pipes.getD index .empty
  | .file loc =>
    match w.files.node? loc with
    | some (.file content _) => content
    | some (.device d) => d.read.toOption.getD .empty
    | _ => .empty

/-- What is left to read. -/
def rest (w : World) (index : Nat) : ByteArray :=
  match w.opened[index]? with
  | none => .empty
  | some f =>
    if f.access.canRead then
      let content := w.content f.channel
      content.extract f.offset content.size
    else .empty

/-- Goes on by a number of bytes. -/
def advance (w : World) (index n : Nat) : World :=
  { w with opened := w.opened.modify index fun f => { f with offset := f.offset + n } }

/-- The content of a file after some bytes have been written at an offset. -/
def overwritten (content bytes : ByteArray) (offset : Nat) : ByteArray :=
  let gap : ByteArray := (List.replicate (offset - content.size) (0 : UInt8)).toByteArray
  content.extract 0 offset ++ gap ++ bytes ++ content.extract (offset + bytes.size) content.size

def write (w : World) (index : Nat) (bytes : ByteArray) : Except WriteFault World :=
  match w.opened[index]? with
  | none => .error .badDescriptor
  | some f =>
    if !f.access.canWrite then .error .badDescriptor
    else
      match f.channel with
      | .pipe p => .ok { w with pipes := w.pipes.modify p (· ++ bytes) }
      | .file loc =>
        match w.files.node? loc with
        | some (.file content executable) =>
          let offset := if f.access = .append then content.size else f.offset
          let node := Node.file (overwritten content bytes offset) executable
          .ok ({ w with files := w.files.insert loc node }.advance index (offset + bytes.size - f.offset))
        | some (.device d) =>
          match d.write bytes with
          | .ok d => .ok { w with files := w.files.insert loc (.device d) }
          | .error e => .error (.refused e)
        | _ => .ok (w.advance index bytes.size)

/-- Opens a file by its path. Writing empties the file unless it appends; `overwrite` does so in any case. -/
def openFile (w : World) (path : String) (access : Access) : Except SystemError (Nat × World) := do
  let readable (loc : Location) : Except SystemError Unit :=
    match w.files.node? loc with
    | some (.device d) => d.read.map fun _ => ()
    | _ => .ok ()
  match access with
  | .read =>
    let (loc, _) ← w.files.find path
    readable loc
    return w.add (.file loc) .read
  | access =>
    let loc ← w.files.locateForWriting path
    readable loc
    match w.files.node? loc with
    | some (.file _ executable) =>
      if access = .append || access = .readWrite then return w.add (.file loc) access
      else return { w with files := w.files.insert loc (.file .empty executable) }.add (.file loc) access
    | some _ => return w.add (.file loc) access
    | none => return { w with files := w.files.insert loc (.file .empty false) }.add (.file loc) access

end World

end Brainfuck.Shell
