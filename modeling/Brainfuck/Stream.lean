import Brainfuck.Error
/-!
# Byte streams

What a running program reads from and writes to. A reader may serve bytes without end, and may fail at any
read; a writer keeps the bytes it accepts and may refuse a write or a flush at any point.
-/

namespace Brainfuck

/-! ## Readers -/

inductive Reader.Item where
  | byte (b : UInt8)
  | fault (f : StreamFault)
deriving DecidableEq

/-- How often the reader has been asked for a byte, and how many bytes it has served. `answer n` is what the
`n`-th read meets once interrupted calls have been tried again; nothing at the end of the stream. -/
structure Reader where
  answer : Nat → Option Reader.Item
  reads : Nat
  consumed : Nat

namespace Reader

/-- Answers from a script and is at its end behind it. -/
def ofItems (items : List Item) : Reader :=
  let served := (items.filter fun item => item ≠ .fault .interrupted).toArray
  { answer := fun n => served[n]?, reads := 0, consumed := 0 }

def ofBytes (bytes : List UInt8) : Reader :=
  let served := bytes.toArray
  { answer := fun n => served[n]?.map .byte, reads := 0, consumed := 0 }

/-- Reads a byte; the end of the stream, and a fault that announces it, read as 0. -/
def read (r : Reader) : Except StreamFault UInt8 × Reader :=
  match r with
  | ⟨answer, reads, consumed⟩ =>
    match answer reads with
    | some (.byte b) => (.ok b, ⟨answer, reads + 1, consumed + 1⟩)
    | none | some (.fault .unexpectedEof) => (.ok 0, ⟨answer, reads + 1, consumed⟩)
    | some (.fault f) => (.error f, ⟨answer, reads + 1, consumed⟩)

end Reader

/-! ## Writers -/

/-- The bytes accepted so far, and how often a byte or a flush was asked for. `onWrite n` is what the
`n`-th byte meets once interrupted calls have been tried again, `onFlush n` what the `n`-th flush meets. -/
structure Writer where
  bytes : Array UInt8
  writes : Nat
  flushes : Nat
  onWrite : Nat → Option IoError
  onFlush : Nat → Option IoError

namespace Writer

/-- A writer that never fails. -/
def unbounded : Writer :=
  { bytes := #[], writes := 0, flushes := 0, onWrite := fun _ => none, onFlush := fun _ => none }

/-- A writer that holds `capacity` bytes and refuses the others with `writeFault`, or else by accepting
nothing. Every flush meets `flushFault`. -/
def limited (capacity : Nat) (writeFault flushFault : Option StreamFault) : Writer :=
  { unbounded with
    onWrite := fun n =>
      if n < capacity then none else some ((writeFault.map .fault).getD .incompleteWrite)
    onFlush := fun _ => flushFault.map .fault }

/-- A writer of unlimited capacity whose flushes meet `flushFault`. -/
def unlimited (flushFault : Option StreamFault) : Writer :=
  { unbounded with onFlush := fun _ => flushFault.map .fault }

def write (w : Writer) (b : UInt8) : Except IoError Unit × Writer :=
  match w with
  | ⟨bytes, writes, flushes, onWrite, onFlush⟩ =>
    match onWrite writes with
    | none => (.ok (), ⟨bytes.push b, writes + 1, flushes, onWrite, onFlush⟩)
    | some e => (.error e, ⟨bytes, writes + 1, flushes, onWrite, onFlush⟩)

def flush (w : Writer) : Except IoError Unit × Writer :=
  match w with
  | ⟨bytes, writes, flushes, onWrite, onFlush⟩ =>
    match onFlush flushes with
    | none => (.ok (), ⟨bytes, writes, flushes + 1, onWrite, onFlush⟩)
    | some e => (.error e, ⟨bytes, writes, flushes + 1, onWrite, onFlush⟩)

end Writer

end Brainfuck
