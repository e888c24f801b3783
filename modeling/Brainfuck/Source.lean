import Brainfuck.Log
/-!
# Sources

A source is any non-empty text whose square brackets pair up. Everything but the eight command characters
is a comment, so a text without commands is a source as well.

`SourceError.ofText` diagnoses a text: the first closing bracket without a partner wins over opening
brackets that are never closed, and of those all are listed in the order of the text.
-/

namespace Brainfuck

/-- Reads brackets from `position` on with the given positions open, innermost first. Answers the
positions still open at the end, or the position of the first closing bracket without a partner. -/
def openBrackets : List Char → Nat → List Nat → Except Nat (List Nat)
  | [], _, opened => .ok opened
  | c :: rest, position, opened =>
    if c = '[' then
      openBrackets rest (position + 1) (position :: opened)
    else if c = ']' then
      match opened with
      | [] => .error position
      | _ :: outer => openBrackets rest (position + 1) outer
    else
      openBrackets rest (position + 1) opened

/-- What is wrong with a text, if anything. -/
def SourceError.ofText (text : String) : Option SourceError :=
  if text.isEmpty then
    some .empty
  else
    match openBrackets text.toList 1 [] with
    | .error position => some (.unexpectedClosing position)
    | .ok [] => none
    | .ok opened => some (.unclosedOpenings opened.reverse)

/-- A text in which nothing is wrong. -/
structure Source where
  text : String
  valid : SourceError.ofText text = none

namespace Source

def ofText (text : String) : Except SourceError Source :=
  match h : SourceError.ofText text with
  | none => .ok ⟨text, h⟩
  | some e => .error e

end Source

/-- What is reported about a validated text. -/
def Event.ofValidation : Except SourceError Source → Array Event
  | .ok _ => #[.sourceValidated]
  | .error .empty => #[]
  | .error (.unexpectedClosing position) => #[.unexpectedClosing position]
  | .error (.unclosedOpenings positions) => #[.unclosedOpenings positions.length]

/-- Reads a text as a source and reports the outcome. -/
def readSource (text : String) : Logged Source :=
  let outcome := Source.ofText text
  ⟨outcome.mapError .source, Event.ofValidation outcome⟩

end Brainfuck
