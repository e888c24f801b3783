import Brainfuck.Text.Regex.Traditional
import Brainfuck.Utility
/-!
# Searching

Shows the lines of files that match one of several patterns.
-/

namespace Brainfuck.Utility

open Regex.Traditional (Dialect)

def searchKinds : List OptionKind :=
  [⟨'E', "extended-regexp", false⟩, ⟨'F', "fixed-strings", false⟩, ⟨'G', "basic-regexp", false⟩,
    ⟨'P', "perl-regexp", false⟩, ⟨'e', "regexp", true⟩, ⟨'f', "file", true⟩, ⟨'i', "ignore-case", false⟩,
    ⟨'y', "", false⟩, ⟨'v', "invert-match", false⟩, ⟨'w', "word-regexp", false⟩, ⟨'x', "line-regexp", false⟩,
    ⟨'c', "count", false⟩, ⟨'l', "files-with-matches", false⟩, ⟨'L', "files-without-match", false⟩,
    ⟨'m', "max-count", true⟩, ⟨'o', "only-matching", false⟩, ⟨'q', "quiet", false⟩, ⟨'s', "no-messages", false⟩,
    ⟨'n', "line-number", false⟩, ⟨'b', "byte-offset", false⟩, ⟨'H', "with-filename", false⟩,
    ⟨'h', "no-filename", false⟩, ⟨'r', "recursive", false⟩, ⟨'R', "dereference-recursive", false⟩,
    ⟨'a', "text", false⟩, ⟨'A', "after-context", true⟩, ⟨'B', "before-context", true⟩, ⟨'C', "context", true⟩]

/-- What matches a text as it stands. -/
def literal (d : Dialect) (text : String) : Regex := .sequence (text.toList.map d.literal)

/-- The expression for a pattern, which has an alternative on each line. -/
def searchPattern (p : Parsed) (text : String) : Except Regex.Traditional.Fault Regex := do
  let d : Dialect := ⟨p.has 'E' || p.has 'P', p.has 'i' || p.has 'y'⟩
  let alternatives ← (text.splitOn "\n").mapM fun line =>
    if p.has 'F' then .ok (literal d line) else Regex.Traditional.ofText d line
  let r := Regex.oneOf alternatives
  return if p.has 'x' then .sequence [.assertion .textStart, r, .assertion .textEnd]
    else if p.has 'w' then .sequence [.assertion .wordStartHalf, r, .assertion .wordEndHalf]
    else r

/-- The stretches of a line that match, without empty ones. -/
def stretches (r : Regex) (s : Subject) : Nat → Nat → List String
  | 0, _ => []
  | n + 1, position =>
    match r.find? s position with
    | none => []
    | some (first, place) =>
      if place.position = first then stretches r s n (first + 1)
      else String.ofList (s.stretch first place.position) :: stretches r s n place.position

/-- A selected line and those shown around it: which lines are shown, and whether each is selected. -/
def shownLines (before after : Nat) (selected : List Bool) : List (Nat × Bool) :=
  let marks := selected.toArray
  (List.range marks.size).filterMap fun i =>
    let near := (List.range (before + after + 1)).any fun k =>
      after ≤ i + k && marks.getD (i + k - after) false
    if near then some (i, marks.getD i false) else none

/-- Files below a directory, for a search that goes down. -/
def filesBelow (files : FileSystem) (path : String) : List String :=
  match files.find (Text.Bytes.toUnicode path) with
  | .ok (loc, .directory) =>
    ((files.below loc).filterMap fun (inner, node) =>
      match node with
      | .file _ _ =>
        let lead := if path.endsWith "/" then path else path ++ "/"
        some (lead ++ Text.Bytes.ofUnicode ("/".intercalate inner))
      | _ => none).mergeSort (· ≤ ·)
  | _ => [path]

/-- Searches the lines of a text. Answers how many are selected. -/
def searchText (p : Parsed) (r : Regex) (label : String) (text : String) : Act Nat := do
  let number (letter : Char) : Option Nat := (p.value? letter).bind (·.toNat?)
  let lines := (linesOf text).map chomp
  let selected := lines.map fun line => r.isMatch (Regex.Traditional.subject line) != p.has 'v'
  let limit := (number 'm').getD lines.length
  let selected := (selected.foldl
    (fun (n, marks) mark =>
      if mark && limit ≤ n then (n, false :: marks) else (if mark then n + 1 else n, mark :: marks))
    ((0, []) : Nat × List Bool)).2.reverse
  let found := selected.count true
  if p.has 'q' then return found
  else if p.has 'l' || p.has 'L' then
    if (found != 0) == p.has 'l' then Act.out ((if label.isEmpty then "(standard input)" else label) ++ "\n")
    return found
  else
    let lead (sign : String) (i : Nat) : String :=
      (if label.isEmpty || p.has 'h' then "" else label ++ sign) ++
        (if p.has 'n' then toString (i + 1) ++ sign else "")
    if p.has 'c' then
      Act.out ((if label.isEmpty || p.has 'h' then "" else label ++ ":") ++ toString found ++ "\n")
    else
      let around := number 'C'
      let before := ((number 'B').or around).getD 0
      let after := ((number 'A').or around).getD 0
      let rows := shownLines before after selected
      let _ ← rows.foldlM
        (fun (last : Option Nat) (i, isSelected) => do
          if "ABC".toList.any p.has && last.any fun last => last + 1 < i then Act.out "--\n"
          let line := lines.getD i ""
          if p.has 'o' then
            if !p.has 'v' && isSelected then
              (stretches r (Regex.Traditional.subject line) (line.length + 1) 0).forM fun s =>
                Act.out (lead ":" i ++ s ++ "\n")
          else Act.out (lead (if isSelected then ":" else "-") i ++ line ++ "\n")
          return some i)
        none
    return found

/-- Searches with the given notation where no option chooses one. -/
def searchWith (standard : List Char) : Utility := ofAct do
  match readOptions searchKinds false (← Act.arguments) with
  | .error text =>
    Act.write 2 ("grep: " ++ text ++ "\nUsage: grep [OPTION]... PATTERNS [FILE]...\n" ++
      "Try 'grep --help' for more information.\n")
    Act.setStatus 2
  | .ok p =>
    let p := { p with options := standard.map (fun c => (c, "")) ++ p.options }
    let fromFiles ← (p.options.filter (·.1 == 'f')).mapM fun (_, path) => do
      return ((← Act.readOr path 2).map chomp).toList
    let given := (p.options.filter (·.1 == 'e')).map (·.2) ++ fromFiles.flatten
    let (patterns, operands) := match given.isEmpty, p.operands with
      | true, first :: rest => ([first], rest)
      | _, operands => (given, operands)
    if patterns.isEmpty then
      Act.write 2 "Usage: grep [OPTION]... PATTERNS [FILE]...\nTry 'grep --help' for more information.\n"
      Act.setStatus 2
    else
      match searchPattern p ("\n".intercalate patterns) with
      | .error e => Act.fail e.message 2
      | .ok r =>
        let recursive := p.has 'r' || p.has 'R'
        let files ← Act.files
        let operands := if operands.isEmpty then (if recursive then ["."] else ["-"]) else operands
        let paths := if recursive then operands.flatMap (filesBelow files) else operands
        let labelled := p.has 'H' || (!p.has 'h' && (operands.length > 1 || recursive))
        let found ← paths.foldlM
          (fun (found : Nat) path => do
            match ← Act.read path with
            | .error e =>
              if !p.has 's' then Act.warn (path ++ ": " ++ e.description)
              Act.setStatus 2
              return found
            | .ok text =>
              let name := if path = "-" then "(standard input)" else path
              let label := if labelled || ((p.has 'l' || p.has 'L') && path != "-") then name else ""
              return found + (← searchText p r label text))
          0
        let failed := (← get).status != 0
        let success := found != 0
        if p.has 'q' && success then Act.setStatus 0
        else if failed then return ()
        else Act.setStatus (if success then 0 else 1)

end Brainfuck.Utility
