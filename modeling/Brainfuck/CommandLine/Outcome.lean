import Brainfuck.CommandLine
/-!
# Outcomes

How a process comes out, but for what it writes to the error stream, and how the library comes out on the same text.
-/

namespace Brainfuck

/-- A file with the content is at the path, and nothing else is new. -/
structure FileSystem.Written (before after : FileSystem) (path : String) (content : ByteArray) : Prop where
  content : after.readFile path = .ok content
  current : after.current = before.current
  elsewhere : ∃ loc, before.locate path = .ok loc ∧ ∀ loc' ≠ loc, after.node? loc' = before.node? loc'

/-- A file can be written at the path, in place of another one or as a new one. -/
structure FileSystem.Writable (fs : FileSystem) (path : String) : Prop where
  noNul : '\x00' ∉ path.toList
  file : ∃ loc, fs.locateForWriting path = .ok loc ∧ ∀ d, fs.node? loc ≠ some (.device d)

namespace CommandLine

/-- The program comes with this text. -/
def Origin.Gives (files : FileSystem) (text : String) : Origin → Prop
  | .code given => given = text
  | .file path => '\x00' ∉ path.toList ∧ files.readFile path = .ok text.toUTF8

/-- With fuel enough the process ends with the exit code, and leaves the output and the files behind. -/
def ExitsWith (c : Context) (arguments : List String) (code : Nat) (output : Array UInt8) (files : FileSystem) : Prop :=
  ∃ fuel diagnostics, run fuel c arguments = some ⟨code, output, diagnostics, files⟩

/-- The process comes out so and in no other way. -/
def ExitsJustWith (c : Context) (arguments : List String) (code : Nat) (output : Array UInt8) (files : FileSystem) :
    Prop :=
  ∀ code' output' files', ExitsWith c arguments code' output' files' ↔
    code' = code ∧ output' = output ∧ files' = files

/-- What the interpreter of the library makes of a text and an input: 0 stands for success, and the output is what the
interpreter has written when it ends. -/
inductive Interprets (tapeLength : Nat) (input : List UInt8) (text : String) : Nat → Array UInt8 → Prop
  | refused {e} : Source.ofText text = .error e → Interprets tapeLength input text 1 #[]
  | succeeded {source fuel t writer} : Source.ofText text = .ok source →
      Interpreter.run source.instructions fuel (.create tapeLength (some (.ofBytes input)) (some .unbounded)) =
        some (.ok (), t) →
      t.output = some writer → Interprets tapeLength input text 0 writer.bytes
  | failed {source fuel e t writer} : Source.ofText text = .ok source →
      Interpreter.run source.instructions fuel (.create tapeLength (some (.ofBytes input)) (some .unbounded)) =
        some (.error e, t) →
      t.output = some writer → Interprets tapeLength input text 1 writer.bytes

end CommandLine

end Brainfuck
