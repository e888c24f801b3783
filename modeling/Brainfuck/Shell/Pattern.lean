import Brainfuck.Text.NamedClass
import Brainfuck.Text.Regex
/-!
# Shell patterns

Patterns for texts and file names: a star stands for any text, a question mark for any character, brackets
for one character of a set. A quoted character stands for itself.
-/

namespace Brainfuck.Shell

/-- A character and whether it is quoted. -/
abbrev Glyph := Char × Bool

def Glyph.text (glyphs : List Glyph) : String := String.ofList (glyphs.map (·.1))

namespace Pattern

/-! ## Sets of characters -/

/-- The class that is named behind an opening bracket and a colon, with what follows it. -/
def className? (glyphs : List Glyph) : Option ((Char → Bool) × List Glyph) :=
  let name := glyphs.takeWhile fun g => g.1.isAlpha
  match glyphs.drop name.length with
  | (':', false) :: (']', false) :: rest =>
    (Text.namedClass? (Glyph.text name)).map fun accepts => (accepts, rest)
  | _ => none

def inRange (low high c : Char) : Bool := low.toNat ≤ c.toNat && c.toNat ≤ high.toNat

/-- The members of a set up to its closing bracket, and what follows it. A bracket at the start is a
member. -/
def members? : Nat → Bool → List Glyph → Option ((Char → Bool) × List Glyph)
  | 0, _, _ => none
  | n + 1, first, glyphs =>
    let also (accepts : Char → Bool) (rest : List Glyph) : Option ((Char → Bool) × List Glyph) :=
      (members? n false rest).map fun (others, rest) => (fun c => accepts c || others c, rest)
    match glyphs with
    | [] => none
    | (']', false) :: rest => if first then also (· == ']') rest else some (fun _ => false, rest)
    | ('[', false) :: (':', false) :: rest =>
      match className? rest with
      | some (accepts, rest) => also accepts rest
      | none => also (· == '[') ((':', false) :: rest)
    | (low, _) :: ('-', false) :: (']', false) :: rest => also (· == low) (('-', true) :: (']', false) :: rest)
    | (low, _) :: ('-', false) :: (high, _) :: rest => also (inRange low high) rest
    | (c, _) :: rest => also (· == c) rest

/-- The set behind an opening bracket, and what follows it. -/
def set? (glyphs : List Glyph) : Option ((Char → Bool) × List Glyph) :=
  match glyphs with
  | ('!', false) :: rest | ('^', false) :: rest =>
    (members? (rest.length + 1) true rest).map fun (accepts, rest) => (fun c => !accepts c, rest)
  | glyphs => members? (glyphs.length + 1) true glyphs

/-! ## Patterns -/

/-- The parts of a pattern. A bracket that opens no set stands for itself. -/
def parts : Nat → List Glyph → List Regex
  | 0, _ => []
  | _, [] => []
  | n + 1, g :: rest =>
    match g with
    | ('*', false) => .many (.char fun _ => true) 0 none :: parts n rest
    | ('?', false) => .char (fun _ => true) :: parts n rest
    | ('[', false) =>
      match set? rest with
      | some (accepts, rest) => .char accepts :: parts n rest
      | none => .char (· == '[') :: parts n rest
    | (c, _) => .char (· == c) :: parts n rest

def toRegex (glyphs : List Glyph) : Regex := .sequence (parts glyphs.length glyphs)

/-- Where matches that start at a position can end. -/
def endsFrom (pattern : List Glyph) (text : List Char) (position : Nat) : List Nat :=
  (Regex.places ⟨text.toArray, fun _ => false⟩ (toRegex pattern) (.start position)).map (·.position)

/-- Does the pattern match the whole text? -/
def isMatch (pattern : List Glyph) (text : String) : Bool :=
  (endsFrom pattern text.toList 0).contains text.length

/-- Could the pattern match something else than its own text? -/
def isOpen (pattern : List Glyph) : Bool :=
  pattern.any fun g => !g.2 && (g.1 == '*' || g.1 == '?' || g.1 == '[')

/-- The text without the longest or the shortest start that the pattern matches. -/
def trimStart (longest : Bool) (pattern : List Glyph) (text : String) : String :=
  let ends := endsFrom pattern text.toList 0
  let cut := if longest then ends.max? else ends.min?
  String.ofList (text.toList.drop (cut.getD 0))

/-- The text without the longest or the shortest end that the pattern matches. -/
def trimEnd (longest : Bool) (pattern : List Glyph) (text : String) : String :=
  let positions := List.range (text.length + 1)
  let starts := positions.filter fun i => (endsFrom pattern text.toList i).contains text.length
  let cut := if longest then starts.min? else starts.max?
  String.ofList (text.toList.take (cut.getD text.length))

end Pattern

end Brainfuck.Shell
