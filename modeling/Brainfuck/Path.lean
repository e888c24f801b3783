/-!
# Paths

A path as users write it: names between slashes. Empty pieces mean nothing, except that a slash at the end
asks for a directory.
-/

namespace Brainfuck

/-- The pieces of a text between its slashes. -/
def splitSlashes : List Char → List (List Char)
  | [] => [[]]
  | c :: rest =>
    if c = '/' then
      [] :: splitSlashes rest
    else
      match splitSlashes rest with
      | [] => [[c]]
      | piece :: pieces => (c :: piece) :: pieces

structure Path where
  absolute : Bool
  pieces : List String
  trailingSlash : Bool
deriving DecidableEq

namespace Path

def ofText (text : String) : Path :=
  { absolute := text.toList.head? = some '/'
    pieces := ((splitSlashes text.toList).filter (!·.isEmpty)).map String.ofList
    trailingSlash := text.toList.getLast? = some '/' }

/-- The pieces without those at the end that mean the directory they stand in. -/
def trimmed (p : Path) : List String :=
  (p.pieces.reverse.dropWhile (· = ".")).reverse

/-- The last name of a path. A path to a parent or to the root has none. -/
def fileName? (p : Path) : Option String :=
  match p.trimmed.getLast? with
  | some ".." => none
  | last => last

/-- The text of the directory that the last name of a path stands in. -/
def parentText (p : Path) : String :=
  match p.trimmed.dropLast with
  | [] => if p.absolute && !p.trimmed.isEmpty then "/" else "."
  | pieces => (if p.absolute then "/" else "") ++ "/".intercalate pieces

end Path

end Brainfuck
