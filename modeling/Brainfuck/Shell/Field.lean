import Brainfuck.Shell.Pattern
import Brainfuck.FileSystem
import Brainfuck.Text.Bytes
/-!
# Fields

What words expand to. An expansion is a row of items; where its unquoted values have separators it is split
into fields, and a field that is a pattern stands for the names of the files that it matches.
-/

namespace Brainfuck.Shell

/-- A part of an expansion. An empty quoted text is a field even though it has no characters, and a border
parts two fields. -/
inductive Item where
  | char (c : Char) (quoted isValue : Bool)
  | empty
  | border
deriving DecidableEq

namespace Item

def ofText (quoted isValue : Bool) (s : String) : List Item := s.toList.map (char · quoted isValue)

/-- A value that has been expanded. -/
def ofValue (quoted : Bool) (s : String) : List Item :=
  if quoted && s.isEmpty then [empty] else ofText quoted (!quoted) s

def glyph? : Item → Option Glyph
  | char c quoted _ => some (c, quoted)
  | _ => none

/-- The characters of items that make up one field. -/
def text (items : List Item) : String := Glyph.text (items.filterMap glyph?)

end Item

/-! ## Splitting -/

/-- Fields while they are split off. Finished fields and the characters of the current one are kept newest
first. After a field that ended at blanks, a further separator still belongs to its end. -/
structure Splitting where
  fields : List (List Glyph)
  current : Option (List Glyph)
  afterBlanks : Bool

namespace Splitting

def close (s : Splitting) : Splitting :=
  match s.current with
  | none => s
  | some glyphs => { s with fields := glyphs.reverse :: s.fields, current := none }

def add (s : Splitting) (g : Glyph) : Splitting :=
  { s with current := some (g :: s.current.getD []), afterBlanks := false }

def step (separators : List Char) (s : Splitting) : Item → Splitting
  | .empty => { s with current := some (s.current.getD []), afterBlanks := false }
  | .border => { s.close with afterBlanks := false }
  | .char c quoted isValue =>
    if !isValue || !separators.contains c then s.add (c, quoted)
    else if c == ' ' || c == '\t' || c == '\n' then
      if s.current.isSome then { s.close with afterBlanks := true } else s
    else if s.afterBlanks then { s with afterBlanks := false }
    else { ({ s with current := some (s.current.getD []) } : Splitting).close with afterBlanks := false }

end Splitting

/-- The fields of an expansion. -/
def fieldsOf (separators : List Char) (items : List Item) : List (List Glyph) :=
  (items.foldl (Splitting.step separators) ⟨[], none, false⟩).close.fields.reverse

/-! ## File names -/

/-- The pieces of a pattern between its slashes. -/
def splitGlyphs : List Glyph → List (List Glyph)
  | [] => [[]]
  | g :: rest =>
    if g.1 = '/' then [] :: splitGlyphs rest
    else
      match splitGlyphs rest with
      | [] => [[g]]
      | piece :: pieces => (g :: piece) :: pieces

/-- The names in a directory, as texts of bytes. -/
def namesIn (files : FileSystem) (directory : String) : List String :=
  match files.find (Text.Bytes.toUnicode (if directory.isEmpty then "." else directory)) with
  | .ok (loc, .directory) =>
    (files.below loc).filterMap fun (inner, _) =>
      match inner with
      | [name] => some (Text.Bytes.ofUnicode name)
      | _ => none
  | _ => []

/-- The paths that a pattern matches, piece by piece. -/
def expandPieces (files : FileSystem) (lead : String) : List (List Glyph) → List String
  | [] => []
  | [last] =>
    if Pattern.isOpen last then matching last
    else
      let path := lead ++ Glyph.text last
      if (files.find (Text.Bytes.toUnicode path)).toBool then [path] else []
  | piece :: pieces =>
    if Pattern.isOpen piece then
      (matching piece).flatMap fun path =>
        if namesADirectory path then expandPieces files (path ++ "/") pieces else []
    else expandPieces files (lead ++ Glyph.text piece ++ "/") pieces
where
  matching (piece : List Glyph) : List String :=
    let isHidden := piece.head?.map (·.1) = some '.'
    let names := (namesIn files lead ++ [".", ".."]).filter fun name =>
      (isHidden || !name.startsWith ".") && Pattern.isMatch piece name
    (names.mergeSort (· ≤ ·)).map (lead ++ ·)
  namesADirectory (path : String) : Bool :=
    match files.find (Text.Bytes.toUnicode path) with
    | .ok (_, .directory) => true
    | _ => false

/-- The texts that a field stands for: the paths it matches, or else itself. -/
def pathsOf (files : FileSystem) (field : List Glyph) : List String :=
  if Pattern.isOpen field then
    match expandPieces files "" (splitGlyphs field) with
    | [] => [Glyph.text field]
    | paths => paths
  else [Glyph.text field]

end Brainfuck.Shell
