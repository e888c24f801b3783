/-!
# Regular expressions

Expressions over characters and what they match. Matching goes from places to places: from every place
where a match may start, `Regex.places` computes the places where it can end, the preferred ones first. Two
ways to one position count as one, so matching takes no more steps than there are positions and parts.
-/

namespace Brainfuck

/-- A condition on a position. -/
inductive Assertion where
  | textStart
  | textEnd
  | lineStart
  | lineEnd
  | boundary
  | notBoundary
  | wordStart
  | wordEnd
  | wordStartHalf
  | wordEndHalf
deriving DecidableEq

inductive Regex where
  | empty
  | char (accepts : Char → Bool)
  | assertion (a : Assertion)
  | seq (first second : Regex)
  | alt (first second : Regex)
  | many (r : Regex) (least : Nat) (most : Option Nat)
  | group (index : Nat) (r : Regex)
  | again (index : Nat)

/-- The highest number of a group. -/
def Regex.groupCount : Regex → Nat
  | seq first second | alt first second => max first.groupCount second.groupCount
  | many r _ _ => r.groupCount
  | group index r => max index r.groupCount
  | _ => 0

/-- A text to match against, and which characters make up words. -/
structure Subject where
  chars : Array Char
  isWord : Char → Bool

/-- A position in a text, with the stretches that groups have matched on the way. -/
structure Place where
  position : Nat
  groups : List (Nat × Nat × Nat)

namespace Subject

def ofText (text : String) (isWord : Char → Bool) : Subject := ⟨text.toList.toArray, isWord⟩

/-- Is there a character of a word at the position? -/
def wordAt (s : Subject) (position : Nat) : Bool := (s.chars[position]?).any s.isWord

/-- Is there a character of a word in front of the position? -/
def wordBefore (s : Subject) (position : Nat) : Bool := position != 0 && s.wordAt (position - 1)

def holds (s : Subject) (a : Assertion) (position : Nat) : Bool :=
  match a with
  | .textStart => position == 0
  | .textEnd => position == s.chars.size
  | .lineStart => position == 0 || s.chars[position - 1]? == some '\n'
  | .lineEnd => position == s.chars.size || s.chars[position]? == some '\n'
  | .boundary => s.wordBefore position != s.wordAt position
  | .notBoundary => s.wordBefore position == s.wordAt position
  | .wordStart => !s.wordBefore position && s.wordAt position
  | .wordEnd => s.wordBefore position && !s.wordAt position
  | .wordStartHalf => !s.wordBefore position
  | .wordEndHalf => !s.wordAt position

/-- The characters between two positions. -/
def stretch (s : Subject) (first last : Nat) : List Char := (s.chars.extract first last).toList

end Subject

namespace Place

def start (position : Nat) : Place := ⟨position, []⟩

/-- What a group has matched last. -/
def group? (p : Place) (index : Nat) : Option (Nat × Nat) := p.groups.lookup index

end Place

/-- Those places whose positions have not been seen yet, each position once. Answers the positions seen. -/
def unseen (seen : Array Bool) (places : List Place) : Array Bool × List Place :=
  let (seen, kept) := places.foldl
    (fun (seen, kept) p =>
      if seen.getD p.position true then (seen, kept)
      else (seen.setIfInBounds p.position true, p :: kept))
    (seen, [])
  (seen, kept.reverse)

def distinct (s : Subject) (places : List Place) : List Place :=
  (unseen (Array.replicate (s.chars.size + 1) false) places).2

/-- All places that up to so many steps lead to, the furthest first. -/
def spread (step : Place → List Place) : Nat → Array Bool → List Place → List Place → List Place
  | 0, _, _, reached => reached
  | n + 1, seen, frontier, reached =>
    let (seen, next) := unseen seen (frontier.flatMap step)
    if next.isEmpty then reached else spread step n seen next (next.reverse ++ reached)

/-- The places that exactly so many steps lead to. -/
def advance (s : Subject) (step : Place → List Place) : Nat → List Place → List Place
  | 0, places => places
  | n + 1, places =>
    let next := distinct s (places.flatMap step)
    if next.isEmpty then [] else advance s step n next

namespace Regex

/-- Where a match that starts at a place can end. -/
def places (s : Subject) : Regex → Place → List Place
  | empty, p => [p]
  | char accepts, p =>
    if (s.chars[p.position]?).any accepts then [{ p with position := p.position + 1 }] else []
  | assertion a, p => if s.holds a p.position then [p] else []
  | seq first second, p => distinct s ((places s first p).flatMap (places s second))
  | alt first second, p => distinct s (places s first p ++ places s second p)
  | many r least most, p =>
    let required := advance s (places s r) least [p]
    let (seen, frontier) := unseen (Array.replicate (s.chars.size + 1) false) required
    let bound := (most.map (· - least)).getD (s.chars.size + 1)
    spread (places s r) bound seen frontier frontier.reverse
  | group index r, p =>
    (places s r p).map fun q => { q with groups := (index, p.position, q.position) :: q.groups }
  | again index, p =>
    match p.group? index with
    | none => []
    | some (first, last) =>
      let expected := s.stretch first last
      if s.stretch p.position (p.position + expected.length) = expected then
        [{ p with position := p.position + expected.length }]
      else []

/-- The end of the longest match from a position. -/
def longestFrom? (r : Regex) (s : Subject) (position : Nat) : Option Place :=
  (r.places s (.start position)).foldl
    (fun best p =>
      match best with
      | none => some p
      | some q => if q.position < p.position then some p else best)
    none

/-- The first of so many positions from which there is a match, with the end of the longest. -/
def findFrom? (r : Regex) (s : Subject) : Nat → Nat → Option (Nat × Place)
  | 0, _ => none
  | n + 1, position =>
    match r.longestFrom? s position with
    | some p => some (position, p)
    | none => findFrom? r s n (position + 1)

/-- The first match at or behind a position. -/
def find? (r : Regex) (s : Subject) (position : Nat) : Option (Nat × Place) :=
  r.findFrom? s (s.chars.size + 1 - position) position

/-- Does the expression match anywhere? -/
def isMatch (r : Regex) (s : Subject) : Bool := (r.find? s 0).isSome

/-- One expression after another. -/
def sequence (rs : List Regex) : Regex :=
  match rs.reverse with
  | [] => empty
  | last :: earlier => earlier.foldl (fun rest r => seq r rest) last

/-- One expression or another. -/
def oneOf (rs : List Regex) : Regex :=
  match rs.reverse with
  | [] => empty
  | last :: earlier => earlier.foldl (fun rest r => alt r rest) last

end Regex

end Brainfuck
