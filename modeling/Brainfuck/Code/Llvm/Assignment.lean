import Brainfuck.Code.Llvm
/-!
# Single assignment

Which value a line defines and which values it uses, in its text too. A value has to be defined above the lines that
use it, in the same block.
-/

namespace Brainfuck.Llvm

/-- The value that a line defines. -/
def Line.result? : Line → Option Value
  | loadHead result | cellAddress result _ | loadCell result _ | addByte result _ _ | addHead result _ _
  | getchar result | isEof result _ | truncate result _ | zeroIf result _ _ | widen result _
  | isNonzero result _ => some result
  | _ => none

/-- The values that a line uses. -/
def Line.operands : Line → List Value
  | cellAddress _ head => [head]
  | loadCell _ address => [address]
  | addByte _ left _ | addHead _ left _ => [left]
  | storeCell value address => [value, address]
  | storeHead value => [value]
  | isEof _ read => [read]
  | truncate _ wide | putchar wide => [wide]
  | zeroIf _ condition byte => [condition, byte]
  | widen _ byte | isNonzero _ byte => [byte]
  | branchIf condition _ _ => [condition]
  | _ => []

/-- The values that a text names, in the order of their places. -/
def namedIn : List Char → List Value
  | [] => []
  | '%' :: 'v' :: rest => (String.ofList (rest.takeWhile Char.isDigit)).toNat?.toList ++ namedIn rest
  | _ :: rest => namedIn rest

/-- The text of a line assigns to its result and names its operands behind that, and no other values. -/
structure Line.NamesValues (line : Line) : Prop where
  assigned : ∀ v, line.result? = some v → ∃ operation, line.render = assignment v operation
  named : namedIn line.render.toList = line.result?.toList ++ line.operands

/-- The number of the loop whose end a line opens a block for. -/
def Line.loopEnd? : Line → Option Nat
  | block (.loopEnd index) => some index
  | _ => none

/-- Every value that a line uses is defined above it, and no block is opened in between. -/
def UsedInBlock (ls : List Line) : Prop :=
  ∀ before line after, ls = before ++ line :: after → ∀ v ∈ line.operands,
    ∃ front definition between, before = front ++ definition :: between ∧ definition.result? = some v ∧
      ∀ b, .block b ∉ between

end Brainfuck.Llvm
