import Brainfuck.Interpreter.Session
/-!
# Workshops

Any number of setups and interpreters side by side. A task carries out a command with one setup and in the place of one
interpreter; all others stay as they are.

What a setup holds is told by the tasks so far: `Latest` is the last of them that had an effect on it.
-/

namespace Brainfuck.Interpreter

structure Workshop where
  setups : Nat → Setup
  interpreters : Nat → Interpreter

structure Task where
  setup : Nat
  interpreter : Nat
  command : Session.Command

namespace Workshop

def initial : Workshop := ⟨fun _ => .initial, fun _ => .initial⟩

/-- The session of a task. -/
def session (w : Workshop) (task : Task) : Session := ⟨w.setups task.setup, w.interpreters task.interpreter⟩

/-- Puts back what a session has made of its setup and its interpreter. -/
def store (w : Workshop) (task : Task) (s : Session) : Workshop where
  setups b := if b = task.setup then s.setup else w.setups b
  interpreters k := if k = task.interpreter then s.interpreter else w.interpreters k

/-- Carries out a task. -/
def perform (fuel : Nat) (w : Workshop) (task : Task) : Option (Except Error Unit × Workshop) :=
  ((w.session task).perform fuel task.command).map fun (result, s) => (result, w.store task s)

/-- The tasks lead from one workshop to another, whether they succeed or fail. -/
inductive Performs (w : Workshop) : List Task → Workshop → Prop
  | none : Performs w [] w
  | next {past w' task fuel result w''} : Performs w past w' → w'.perform fuel task = some (result, w'') →
      Performs w (past ++ [task]) w''

end Workshop

namespace Task

/-- Makes the task an interpreter in this place? -/
def builds (k : Nat) (task : Task) : Prop :=
  task.interpreter = k ∧ (task.command = .make ∨ task.command = .restart)

/-- The positive tape length that the task sets for a setup. -/
def length? (b : Nat) (task : Task) : Option Nat :=
  match task.command with
  | .tapeLength length => if task.setup = b ∧ 0 < length then some length else none
  | _ => none

/-- What the task makes of a stream of a setup: the command sets it, or it is handed over. -/
def stream? {α : Type} (sets : Session.Command → Option α) (b : Nat) (task : Task) : Option (Option α) :=
  if task.setup = b then
    match task.command with
    | .make => some none
    | command => (sets command).map some
  else none

def input? : Nat → Task → Option (Option Reader) :=
  stream? fun
    | .input reader => some reader
    | _ => none

def output? : Nat → Task → Option (Option Writer) :=
  stream? fun
    | .output writer => some writer
    | _ => none

end Task

/-- The same interpreter, some time later: a tape of the same length, and streams that behave alike. -/
structure Same (s t : Interpreter) : Prop where
  size : t.tape.size = s.tape.size
  answer : t.input.map Reader.answer = s.input.map Reader.answer
  onWrite : t.output.map Writer.onWrite = s.output.map Writer.onWrite
  onFlush : t.output.map Writer.onFlush = s.output.map Writer.onFlush

/-- Task `j` is the last one so far with an effect, which is `x`. -/
def Latest {α : Type} (effect : Task → Option α) (past : List Task) (j : Nat) (x : α) : Prop :=
  (∃ task, past[j]? = some task ∧ effect task = some x) ∧
    ∀ l task, j < l → past[l]? = some task → effect task = none

/-- The interpreter that setup `b` makes after these tasks: a zeroed tape of the last positive length that was set, or
of the default length, the head on its first cell, and the last streams set since the setup made one before. -/
structure Made (past : List Task) (b : Nat) (s : Interpreter) : Prop where
  tape : ∃ n, s.tape = Array.replicate n 0 ∧
    ((∃ j, Latest (Task.length? b) past j n) ∨ n = defaultTapeLength ∧ ∀ task ∈ past, task.length? b = none)
  head : s.head = 0
  input : ∀ reader, s.input = some reader ↔ ∃ j, Latest (Task.input? b) past j (some reader)
  output : ∀ writer, s.output = some writer ↔ ∃ j, Latest (Task.output? b) past j (some writer)

end Brainfuck.Interpreter
