import Brainfuck.Source
/-!
# Brackets by counting

Which brackets of a text have a partner, said without a stack: by how many brackets the stretches of the text open
and close. Positions count characters from 1.
-/

namespace Brainfuck

/-- How many more brackets a stretch of text opens than it closes. -/
def surplus (stretch : List Char) : Int := (stretch.count '[' : Int) - stretch.count ']'

/-- A stretch that closes just what it opens, and nothing before it is opened. -/
structure Nested (stretch : List Char) : Prop where
  beginnings : ∀ n, 0 ≤ surplus (stretch.take n)
  whole : surplus stretch = 0

/-- The first `position` characters are the shortest beginning that closes more brackets than it opens. -/
structure ShortestStray (text : List Char) (position : Nat) : Prop where
  within : position ≤ text.length
  stray : surplus (text.take position) < 0
  shortest : ∀ n < position, 0 ≤ surplus (text.take n)

/-- At the position stands a bracket that opens, and no stretch right behind it closes more than it opens. -/
def NeverClosed (text : List Char) (position : Nat) : Prop :=
  ∃ before behind, text = before ++ '[' :: behind ∧ position = before.length + 1 ∧
    ∀ n, 0 ≤ surplus (behind.take n)

/-- The positions are those of the brackets that are never closed, in the order of the text, and there are no
others without a partner in front of them. -/
structure LeftOpen (text : List Char) (positions : List Nat) : Prop where
  beginnings : ∀ n, 0 ≤ surplus (text.take n)
  more : 0 < surplus text
  ascending : positions.Pairwise (· < ·)
  mem_iff : ∀ i, i ∈ positions ↔ NeverClosed text i

/-- At the positions stand a bracket that opens and one that closes, and what is between them is nested. -/
def BracketPair (text : List Char) (opening closing : Nat) : Prop :=
  ∃ before inside behind, text = before ++ '[' :: (inside ++ ']' :: behind) ∧ opening = before.length + 1 ∧
    closing = opening + inside.length + 1 ∧ Nested inside

/-- At the position stands a bracket. -/
def BracketAt (text : List Char) (position : Nat) : Prop :=
  ∃ before c behind, text = before ++ c :: behind ∧ position = before.length + 1 ∧ (c = '[' ∨ c = ']')

/-- The bracket at the position has a partner. -/
def Paired (text : List Char) (position : Nat) : Prop :=
  ∃ partner, BracketPair text position partner ∨ BracketPair text partner position

end Brainfuck
