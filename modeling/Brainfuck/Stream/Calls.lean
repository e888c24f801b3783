import Brainfuck.Stream
/-!
# Calls of a reader

A read may take several calls, since an interrupted call is tried again. `Retried` is one read in terms of calls, and
`Serves` says that a reader answers its reads from such calls.
-/

namespace Brainfuck.Reader

/-- `Retried calls k answer k'`: a read that begins with call `k` meets the answer, and the next begins with call
`k'`. -/
inductive Retried (calls : Nat → Option Item) : Nat → Option Item → Nat → Prop
  | answered {k} : calls k ≠ some (.fault .interrupted) → Retried calls k (calls k) (k + 1)
  | again {k answer k'} : calls k = some (.fault .interrupted) → Retried calls (k + 1) answer k' →
      Retried calls k answer k'

/-- The `n`-th read of the reader begins with call `place n`. -/
structure Serves (r : Reader) (calls : Nat → Option Item) (place : Nat → Nat) : Prop where
  start : place 0 = 0
  reads : ∀ n, Retried calls (place n) (r.answer n) (place (n + 1))

/-- The reader after so many reads. -/
def after : Nat → Reader → Reader
  | 0, r => r
  | n + 1, r => (after n r).read.2

/-- How many calls to a script the first reads take. Behind its end every call is a read. -/
def callsBefore : List Item → Nat → Nat
  | _, 0 => 0
  | [], n + 1 => n + 1
  | item :: items, n + 1 =>
    if item = .fault .interrupted then callsBefore items (n + 1) + 1 else callsBefore items n + 1

end Brainfuck.Reader
