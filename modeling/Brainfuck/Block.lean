import Brainfuck.Interpreter
/-!
# Blocks

Programs with their loops as trees. A block runs its commands in order and stops at the first that fails;
a loop runs its body again and again while the cell under the head is not zero, testing before each pass.

`Block.flatten` is the instruction list of a block, `Block.Runs` says how a block ends, and
`Block.Completes` adds the flush that ends a run. `Block.Endless` says how a block comes to no end.
-/

namespace Brainfuck

/-- The commands of a block, the first one outermost. -/
inductive Block where
  | done
  | increment (amount : Int) (next : Block)
  | moveHead (offset : Int) (next : Block)
  | input (next : Block)
  | output (next : Block)
  | loop (body next : Block)
deriving DecidableEq

namespace Block

def flatten : Block → List Instruction
  | done => []
  | increment amount next => .increment amount :: next.flatten
  | moveHead offset next => .moveHead offset :: next.flatten
  | input next => .input :: next.flatten
  | output next => .output :: next.flatten
  | loop body next => .startLoop :: body.flatten ++ .finishLoop :: next.flatten

/-! ## Meaning -/

/-- `Runs b s r t`: from state `s` the block ends with result `r` in state `t`. -/
inductive Runs : Block → Interpreter → Except Error Unit → Interpreter → Prop
  | done (s : Interpreter) : Runs done s (.ok ()) s
  | increment {amount next s r t} : Runs next (s.increment amount) r t → Runs (increment amount next) s r t
  | moveHead {offset next s s' r t} : s.moveHead offset = (.ok (), s') → Runs next s' r t →
      Runs (moveHead offset next) s r t
  | moveHead_error {offset next s e t} : s.moveHead offset = (.error e, t) →
      Runs (moveHead offset next) s (.error e) t
  | input {next s s' r t} : s.readCell = (.ok (), s') → Runs next s' r t → Runs (input next) s r t
  | input_error {next s e t} : s.readCell = (.error e, t) → Runs (input next) s (.error e) t
  | output {next s s' r t} : s.writeCell = (.ok (), s') → Runs next s' r t → Runs (output next) s r t
  | output_error {next s e t} : s.writeCell = (.error e, t) → Runs (output next) s (.error e) t
  | loop_done {body next s r t} : s.cell = 0 → Runs next s r t → Runs (loop body next) s r t
  | loop_pass {body next s s' r t} : s.cell ≠ 0 → Runs body s (.ok ()) s' →
      Runs (loop body next) s' r t → Runs (loop body next) s r t
  | loop_error {body next s e t} : s.cell ≠ 0 → Runs body s (.error e) t →
      Runs (loop body next) s (.error e) t

/-- A block that succeeds is followed by one flush, whose failure counts. -/
inductive Completes (b : Block) (s : Interpreter) : Except Error Unit → Interpreter → Prop
  | flushed {s' r t} : Runs b s (.ok ()) s' → s'.flush = (r, t) → Completes b s r t
  | failed {e t} : Runs b s (.error e) t → Completes b s (.error e) t

/-- A block that comes to no end. -/
def Diverges (b : Block) (s : Interpreter) : Prop := ¬ ∃ r t, Completes b s r t

/-! ## Without an end -/

/-- `Passes body s s'`: some passes of a loop with this body, all of them successful, lead from `s` to `s'`. -/
inductive Passes (body : Block) : Interpreter → Interpreter → Prop
  | none (s : Interpreter) : Passes body s s
  | more {s s' s''} : s.cell ≠ 0 → Runs body s (.ok ()) s' → Passes body s' s'' → Passes body s s''

/-- From state `s` the block goes on forever. A loop does so by passes without end, or, some passes later,
in one pass or in what follows the loop. -/
def Endless : Block → Interpreter → Prop
  | done, _ => False
  | increment amount next, s => next.Endless (s.increment amount)
  | moveHead offset next, s => ∃ s', s.moveHead offset = (.ok (), s') ∧ next.Endless s'
  | input next, s => ∃ s', s.readCell = (.ok (), s') ∧ next.Endless s'
  | output next, s => ∃ s', s.writeCell = (.ok (), s') ∧ next.Endless s'
  | loop body next, s =>
    (∃ states : Nat → Interpreter, states 0 = s ∧
        ∀ n, (states n).cell ≠ 0 ∧ Runs body (states n) (.ok ()) (states (n + 1))) ∨
      ∃ s', Passes body s s' ∧ (s'.cell ≠ 0 ∧ body.Endless s' ∨ s'.cell = 0 ∧ next.Endless s')

end Block

end Brainfuck
