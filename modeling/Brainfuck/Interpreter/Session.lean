import Brainfuck.Interpreter
/-!
# Interpreter sessions

A setup collects a tape length and streams for the interpreter to come. Making the interpreter hands the
streams over, so no stream reaches two interpreters; the tape length stays for the next one.

A session is a setup together with the interpreter in use.
-/

namespace Brainfuck.Interpreter

structure Setup where
  tapeLength : Nat
  input : Option Reader
  output : Option Writer

namespace Setup

def initial : Setup := ⟨defaultTapeLength, none, none⟩

/-- A tape has at least one cell. -/
def setTapeLength (s : Setup) (length : Nat) : Except Error Setup :=
  if length = 0 then .error .emptyTape else .ok { s with tapeLength := length }

def setInput (s : Setup) (input : Reader) : Setup := { s with input := some input }

def setOutput (s : Setup) (output : Writer) : Setup := { s with output := some output }

/-- The interpreter of a setup, and what is left of the setup. -/
def make (s : Setup) : Interpreter × Setup :=
  (.create s.tapeLength s.input s.output, ⟨s.tapeLength, none, none⟩)

end Setup

/-- An interpreter with a tape of the default length and no streams. -/
def initial : Interpreter := Setup.initial.make.1

structure Session where
  setup : Setup
  interpreter : Interpreter

namespace Session

inductive Command where
  | tapeLength (length : Nat)
  | input (reader : Reader)
  | output (writer : Writer)
  | make
  | restart
  | run (program : List Instruction)

def start : Session := ⟨.initial, .initial⟩

/-- Carries out a command. A command that fails leaves the setup as it was. -/
def perform (fuel : Nat) (s : Session) : Command → Option (Except Error Unit × Session)
  | .tapeLength length =>
    match s.setup.setTapeLength length with
    | .ok setup => some (.ok (), { s with setup := setup })
    | .error e => some (.error e, s)
  | .input reader => some (.ok (), { s with setup := s.setup.setInput reader })
  | .output writer => some (.ok (), { s with setup := s.setup.setOutput writer })
  | .make =>
    let (interpreter, setup) := s.setup.make
    some (.ok (), ⟨setup, interpreter⟩)
  | .restart => some (.ok (), { s with interpreter := .initial })
  | .run program =>
    match s with
    | ⟨setup, interpreter⟩ =>
      (interpreter.run program fuel).map fun (result, interpreter) => (result, ⟨setup, interpreter⟩)

end Session

end Brainfuck.Interpreter
