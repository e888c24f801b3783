import Brainfuck.Text.NamedClass
import Brainfuck.Utility
/-!
# Utilities for lines

Filters that show, count, sort or select the lines of files or of the input.
-/

namespace Brainfuck.Utility

/-! ## Whole texts -/

/-- The visible form of a byte. -/
def visible (c : Char) : String :=
  let n := c.toNat
  let low (n : Nat) : String :=
    if n < 32 then "^" ++ String.singleton (Char.ofNat (n + 64))
    else if n = 127 then "^?"
    else String.singleton (Char.ofNat n)
  if n < 128 then low n else "M-" ++ low (n - 128)

/-- How `concatenate` shows lines. -/
structure Display where
  numbersAll : Bool
  numbersFull : Bool
  squeezes : Bool
  showsEnds : Bool
  showsTabs : Bool
  showsBytes : Bool

/-- Shows lines, given the number of the line before and whether that one was empty. -/
def Display.present (d : Display) : List String → Nat → Bool → List String
  | [], _, _ => []
  | line :: rest, number, afterEmpty =>
    let body := chomp line
    let isEmpty := line = "\n"
    if d.squeezes && isEmpty && afterEmpty then d.present rest number true
    else
      let counts := if d.numbersFull then !isEmpty else d.numbersAll
      let number := if counts then number + 1 else number
      let head := if counts then padLeft 6 (toString number) ++ "\t" else ""
      let text := String.join <| body.toList.map fun c =>
        if c = '\t' then if d.showsTabs then "^I" else "\t"
        else if d.showsBytes then visible c
        else String.singleton c
      let tail := if line.endsWith "\n" then (if d.showsEnds then "$\n" else "\n") else ""
      (head ++ text ++ tail) :: d.present rest number isEmpty

def concatenate : Utility :=
  withOptions
    [⟨'n', "number", false⟩, ⟨'b', "number-nonblank", false⟩, ⟨'s', "squeeze-blank", false⟩,
      ⟨'E', "show-ends", false⟩, ⟨'T', "show-tabs", false⟩, ⟨'v', "show-nonprinting", false⟩,
      ⟨'A', "show-all", false⟩, ⟨'e', "", false⟩, ⟨'t', "", false⟩, ⟨'u', "", false⟩]
    1 fun p => do
    let any (letters : String) : Bool := letters.toList.any p.has
    if any "nbsETvAet" then
      let d : Display := ⟨p.has 'n', p.has 'b', p.has 's', any "EAe", any "TAt", any "vAet"⟩
      let texts ← (if p.operands.isEmpty then ["-"] else p.operands).mapM fun operand => Act.readOr operand 1
      let text := String.join (texts.map (·.getD ""))
      Act.out (String.join (d.present (linesOf text) 0 false))
    else overFiles p.operands Act.out

/-- Runs a filter over files, with its own complaint where one cannot be opened. -/
def overOpened (operands : List String) (complaint : String → String) (filter : String → Act Unit) : Act Unit :=
  (if operands.isEmpty then ["-"] else operands).forM fun operand => do
    match ← Act.read operand with
    | .ok text => filter text
    | .error e => Act.fail (complaint operand ++ ": " ++ e.description) 1

def reverseLines : Utility :=
  withOptions [] 1 fun p =>
    overOpened p.operands (fun path => "failed to open " ++ quoted path ++ " for reading") fun text =>
      Act.out (String.join (linesOf text).reverse)

def reverseCharacters : Utility :=
  withOptions [] 1 fun p =>
    overOpened p.operands (fun path => "cannot open " ++ path) fun text =>
      (linesOf text).forM fun line =>
        Act.out (String.ofList (chomp line).toList.reverse ++ if line.endsWith "\n" then "\n" else "")

/-- Writes the input to files and to the output. -/
def tee : Utility :=
  withOptions [⟨'a', "append", false⟩, ⟨'i', "ignore-interrupts", false⟩] 1 fun p => do
    let text ← Act.takeInput
    p.operands.forM fun operand => do
      let files ← Act.files
      let before :=
        if p.has 'a' then
          match files.find (Text.Bytes.toUnicode operand) with
          | .ok (_, .file content _) => content
          | _ => .empty
        else .empty
      Act.change (shown operand) fun files =>
        files.writeFile (Text.Bytes.toUnicode operand) (before ++ Text.Bytes.toArray text)
    Act.out text

/-! ## Parts of texts -/

/-- A count with a sign in front of it. -/
def signedCount? (text : String) : Option (Option Char × Nat) :=
  match text.toList with
  | c :: digits =>
    if c = '+' || c = '-' then
      if digits.all Char.isDigit then (String.ofList digits).toNat?.map fun n => (some c, n) else none
    else if text.all Char.isDigit then text.toNat?.map fun n => (none, n)
    else none
  | [] => none

/-- Options as they used to be written: a number behind a dash in front is a number of lines. -/
def withLineCount : List String → List String
  | [] => []
  | argument :: rest =>
    match argument.toList with
    | '-' :: digits =>
      if !digits.isEmpty && digits.all Char.isDigit then "-n" :: String.ofList digits :: rest
      else argument :: rest
    | _ => argument :: rest

/-- Runs a filter over several files, each under its name. -/
def underNames (p : Parsed) (filter : Bool → String → Act Unit) : Act Unit := do
  let operands := if p.operands.isEmpty then ["-"] else p.operands
  let names := (operands.length > 1 && !p.has 'q') || p.has 'v'
  operands.zipIdx.forM fun (operand, i) => do
    match ← Act.node operand, operand with
    | .ok (_, .directory), _ => Act.fail ("error reading " ++ quoted operand ++ ": Is a directory") 1
    | _, _ =>
      match ← Act.read operand with
      | .error e => Act.fail ("cannot open " ++ quoted operand ++ " for reading: " ++ e.description) 1
      | .ok text =>
        let name := if operand = "-" then "standard input" else operand
        if names then Act.out ((if i = 0 then "" else "\n") ++ "==> " ++ name ++ " <==\n")
        filter (operand = "-") text

def partKinds : List OptionKind :=
  [⟨'n', "lines", true⟩, ⟨'c', "bytes", true⟩, ⟨'q', "quiet", false⟩, ⟨'v', "verbose", false⟩,
    ⟨'f', "follow", false⟩, ⟨'z', "zero-terminated", false⟩]

/-- Shows a part of each file that is chosen by a count of bytes or lines. -/
def part (choose : (bytes : Bool) → Option Char × Nat → String → String) (leavesRest : Bool) : Utility :=
  ofAct do
    match readOptions partKinds false (withLineCount (← Act.arguments)) with
    | .error text => Act.misused text 1
    | .ok p =>
      let (bytes, text) := match p.options.reverse.find? fun o => o.1 == 'n' || o.1 == 'c' with
        | some (letter, text) => (letter == 'c', text)
        | none => (false, "10")
      match signedCount? text with
      | none => Act.fail ("invalid number of " ++ (if bytes then "bytes: " else "lines: ") ++ quoted text) 1
      | some count =>
        underNames p fun isInput text => do
          let chosen := choose bytes count text
          Act.out chosen
          if isInput && leavesRest && !(← get).call.isPiped then Act.giveBack (text.length - chosen.length)

def head : Utility :=
  part (fun bytes (sign, n) text =>
    if bytes then (text.take (if sign = some '-' then text.length - n else n)).toString
    else
      let lines := linesOf text
      String.join (lines.take (if sign = some '-' then lines.length - n else n)))
    true

def tail : Utility :=
  part (fun bytes (sign, n) text =>
    if bytes then (text.drop (if sign = some '+' then n - 1 else text.length - n)).toString
    else
      let lines := linesOf text
      String.join (lines.drop (if sign = some '+' then n - 1 else lines.length - n)))
    false

/-! ## Counting -/

def countWords (text : String) : Nat :=
  (text.toList.foldl
    (fun (n, inside) c => if Text.isSpace c then (n, false) else (if inside then n else n + 1, true))
    ((0, false) : Nat × Bool)).1

/-- The counts asked for: lines, words, characters, bytes, and the length of the longest line. -/
def counts (p : Parsed) (text : String) : List Nat :=
  let standard := !"lwcmL".toList.any p.has
  (if p.has 'l' || standard then [text.toList.count '\n'] else []) ++
    (if p.has 'w' || standard then [countWords text] else []) ++
    (if p.has 'm' then [text.length] else []) ++
    (if p.has 'c' || standard then [text.length] else []) ++
    (if p.has 'L' then [((linesOf text).map fun line => (chomp line).length).max?.getD 0] else [])

/-- How wide the counts of some files are written: as wide as their sizes need, or wider where a size is not
known. -/
def countWidth (operands : List String) : Act Nat := do
  let call := (← get).call
  let sizes ← operands.mapM fun operand => do
    if operand = "-" then return if call.isPiped then (0, 7) else (call.input.length, 1)
    else
      match ← Act.node operand with
      | .ok (_, .file content _) => return (content.size, 1)
      | .ok _ => return (0, 7)
      | .error _ => return (0, 1)
  let digits := (toString (sizes.foldl (fun total size => total + size.1) 0)).length
  return sizes.foldl (fun width size => Nat.max width size.2) digits

def count : Utility :=
  withOptions
    [⟨'l', "lines", false⟩, ⟨'w', "words", false⟩, ⟨'c', "bytes", false⟩, ⟨'m', "chars", false⟩,
      ⟨'L', "max-line-length", false⟩]
    1 fun p => do
    let operands := if p.operands.isEmpty then ["-"] else p.operands
    let zeros := counts p ""
    let width ← if operands.length = 1 && zeros.length = 1 then pure 1 else countWidth operands
    let write (name : String) (row : List Nat) : Act Unit :=
      Act.out (" ".intercalate (row.map fun n => padLeft width (toString n)) ++ name ++ "\n")
    let totals ← operands.foldlM
      (fun totals operand => do
        let text ← Act.readOr operand 1
        if text.isNone && !(← Act.isDirectory operand) then return totals
        else
          let row := counts p (text.getD "")
          write (if p.operands.isEmpty then "" else " " ++ operand) row
          return List.zipWith (· + ·) totals row)
      zeros
    if operands.length > 1 then write " total" totals

def numberLines : Utility :=
  withOptions [⟨'b', "body-numbering", true⟩, ⟨'w', "number-width", true⟩, ⟨'s', "number-separator", true⟩] 1
    fun p => do
    let all := p.value? 'b' = some "a"
    let width := ((p.value? 'w').bind (·.toNat?)).getD 6
    let separator := (p.value? 's').getD "\t"
    let texts ← (if p.operands.isEmpty then ["-"] else p.operands).mapM fun operand => Act.readOr operand 1
    let lines := linesOf (String.join (texts.map (·.getD "")))
    let _ ← lines.foldlM
      (fun n line => do
        if all || chomp line != "" then
          Act.out (padLeft width (toString n) ++ separator ++ chomp line ++ "\n")
          return n + 1
        else
          Act.out (padLeft (width + separator.length) "" ++ "\n")
          return n)
      1

/-! ## Sorting -/

/-- The number at the front of a text, in hundredths of the last place that counts. -/
def leadingNumber (text : String) : Int :=
  let chars := text.toList.dropWhile fun c => c == ' ' || c == '\t'
  let (negative, chars) := match chars with
    | '-' :: rest => (true, rest)
    | rest => (false, rest)
  let whole := chars.takeWhile Char.isDigit
  let fraction := match chars.drop whole.length with
    | '.' :: rest => rest.takeWhile Char.isDigit
    | _ => []
  let digits := whole ++ (fraction ++ List.replicate 20 '0').take 20
  let value : Nat := digits.foldl (fun n c => n * 10 + (c.toNat - 48)) 0
  if negative then -(value : Int) else value

/-- A key: its first and last field, and its own ways to compare. -/
structure SortKey where
  first : Nat
  last : Option Nat
  flags : List Char

/-- Reads a key such as `2,3n`. -/
def sortKey (text : String) : SortKey :=
  let number (part : String) : Option Nat :=
    (String.ofList (part.toList.takeWhile Char.isDigit)).toNat?
  match text.splitOn "," with
  | [first, last] => ⟨(number first).getD 1, number last, text.toList.filter Char.isAlpha⟩
  | _ => ⟨(number text).getD 1, none, text.toList.filter Char.isAlpha⟩

/-- The fields of a line. Without a separator the blanks in front belong to a field. -/
def sortFields (separator : Option Char) (line : String) : List String :=
  match separator with
  | some c => line.splitOn (String.singleton c)
  | none =>
    (line.toList.foldr
      (fun c (fields : List (List Char)) =>
        match fields with
        | [] => [[c]]
        | (d :: field) :: rest =>
          if (c != ' ' && c != '\t') && (d == ' ' || d == '\t') then [c] :: (d :: field) :: rest
          else (c :: d :: field) :: rest
        | [] :: rest => [c] :: rest)
      []).map String.ofList

def SortKey.extract (k : SortKey) (separator : Option Char) (line : String) : String :=
  let fields := (sortFields separator line).drop (k.first - 1)
  let chosen := match k.last with
    | none => fields
    | some last => fields.take (last + 1 - k.first)
  match separator with
  | some c => (String.singleton c).intercalate chosen
  | none => String.join chosen

def compareBy (flags : List Char) (a b : String) : Ordering :=
  let trim (s : String) : String :=
    if flags.contains 'b' then String.ofList (s.toList.dropWhile fun c => c == ' ' || c == '\t') else s
  let fold (s : String) : String := if flags.contains 'f' then s.toUpper else s
  let result :=
    if flags.contains 'n' then compare (leadingNumber a) (leadingNumber b)
    else compare (fold (trim a)) (fold (trim b))
  if flags.contains 'r' then result.swap else result

/-- Neighbouring lines that are the same, with their number. -/
def groups (same : String → String → Bool) (lines : List String) : List (String × Nat) :=
  (lines.foldl
    (fun (groups : List (String × Nat)) line =>
      match groups with
      | [] => [(line, 1)]
      | (last, n) :: rest => if same last line then (last, n + 1) :: rest else (line, 1) :: groups)
    []).reverse

def sort : Utility :=
  withOptions
    [⟨'r', "reverse", false⟩, ⟨'n', "numeric-sort", false⟩, ⟨'u', "unique", false⟩,
      ⟨'f', "ignore-case", false⟩, ⟨'b', "ignore-leading-blanks", false⟩, ⟨'s', "stable", false⟩,
      ⟨'k', "key", true⟩, ⟨'t', "field-separator", true⟩, ⟨'o', "output", true⟩, ⟨'c', "check", false⟩,
      ⟨'m', "merge", false⟩]
    2 fun p => do
    let flags := "rnfb".toList.filter p.has
    let separator := (p.value? 't').bind (·.toList.head?)
    let keys := p.options.filterMap fun (letter, text) => if letter == 'k' then some (sortKey text) else none
    let byKeys (a b : String) : Ordering :=
      if keys.isEmpty then compareBy flags a b
      else
        keys.foldl
          (fun result k =>
            let flags := if k.flags.isEmpty then flags else k.flags
            result.then (compareBy flags (k.extract separator a) (k.extract separator b)))
          .eq
    let whole (a b : String) : Ordering := if p.has 'r' then (compare a b).swap else compare a b
    let order (a b : String) : Ordering :=
      if p.has 's' || p.has 'u' then byKeys a b else (byKeys a b).then (whole a b)
    let texts ← (if p.operands.isEmpty then ["-"] else p.operands).mapM fun operand => do
      match ← Act.read operand with
      | .ok text => return text
      | .error e =>
        let what := if e = .isDirectory then "read failed: " else "cannot read: "
        Act.fail (what ++ shown operand ++ ": " ++ e.description) 2
        return ""
    if (← get).status != 0 then return ()
    else
      let lines := texts.flatMap fun text => (linesOf text).map chomp
      let sorted := lines.mergeSort fun a b => order a b != .gt
      let kept := if p.has 'u' then (groups (fun a b => byKeys a b == .eq) sorted).map (·.1) else sorted
      if p.has 'c' then
        match (lines.zip (lines.drop 1)).zipIdx.find? fun ((a, b), _) =>
            if p.has 'u' then order a b != .lt else order a b == .gt with
        | some ((_, b), i) =>
          let name := p.operands.head?.getD "-"
          Act.fail (name ++ ":" ++ toString (i + 2) ++ ": disorder: " ++ b) 1
        | none => return ()
      else
        let text := String.join (kept.map (· ++ "\n"))
        match p.value? 'o' with
        | none => Act.out text
        | some path =>
          Act.change ("open failed: " ++ path) fun files =>
            files.writeFile (Text.Bytes.toUnicode path) (Text.Bytes.toArray text)

def unique : Utility :=
  withOptions
    [⟨'c', "count", false⟩, ⟨'d', "repeated", false⟩, ⟨'u', "unique", false⟩, ⟨'i', "ignore-case", false⟩] 1
    fun p =>
    overFiles (p.operands.take 1) fun text =>
      let same (a b : String) : Bool := if p.has 'i' then a.toLower == b.toLower else a == b
      (groups same ((linesOf text).map chomp)).forM fun (line, n) =>
        if (p.has 'd' && n = 1) || (p.has 'u' && n != 1) then pure ()
        else Act.out ((if p.has 'c' then padLeft 7 (toString n) ++ " " else "") ++ line ++ "\n")

/-! ## Columns -/

/-- A list of ranges of numbers, such as `1,3-`. -/
def ranges? (text : String) : Option (List (Nat × Option Nat)) :=
  (text.splitOn ",").mapM fun range =>
    match range.splitOn "-" with
    | [n] => n.toNat?.map fun n => (n, some n)
    | [low, high] =>
      match low.isEmpty, high.isEmpty with
      | true, true => none
      | true, false => high.toNat?.map fun n => (1, some n)
      | false, true => low.toNat?.map fun n => (n, none)
      | false, false => do return (← low.toNat?, some (← high.toNat?))
    | _ => none

def inRanges (ranges : List (Nat × Option Nat)) (n : Nat) : Bool :=
  ranges.any fun (low, high) => low ≤ n && high.all fun high => n ≤ high

/-- The elements whose numbers, counted from 1, are in the ranges or, if that is asked for, are not. -/
def select {α : Type} (ranges : List (Nat × Option Nat)) (others : Bool) (elements : List α) : List α :=
  (elements.zipIdx.filter fun (_, i) => inRanges ranges (i + 1) != others).map (·.1)

def cut : Utility :=
  withOptions
    [⟨'d', "delimiter", true⟩, ⟨'f', "fields", true⟩, ⟨'c', "characters", true⟩, ⟨'b', "bytes", true⟩,
      ⟨'s', "only-delimited", false⟩, ⟨'o', "output-delimiter", true⟩, ⟨'v', "complement", false⟩,
      ⟨'n', "", false⟩]
    1 fun p => do
    let fromZero (ranges : List (Nat × Option Nat)) : Bool := ranges.any fun range => range.1 = 0
    let delimiter := (p.value? 'd').getD "\t"
    let outer := (p.value? 'o').getD delimiter
    if delimiter.length != 1 then Act.misused "the delimiter must be a single character" 1
    else match p.value? 'f', (p.value? 'c').or (p.value? 'b') with
    | none, none => Act.misused "you must specify a list of bytes, characters, or fields" 1
    | some list, _ =>
      match ranges? list with
      | none => Act.misused ("invalid field value " ++ quoted list) 1
      | some ranges =>
        if fromZero ranges then Act.misused "fields are numbered from 1" 1
        else overFiles p.operands fun text =>
          (linesOf text).forM fun line =>
            let line := chomp line
            match line.splitOn delimiter with
            | [_] => if p.has 's' then pure () else Act.out (line ++ "\n")
            | fields => Act.out (outer.intercalate (select ranges (p.has 'v') fields) ++ "\n")
    | none, some list =>
      match ranges? list with
      | none => Act.misused ("invalid byte/character position " ++ quoted list) 1
      | some ranges =>
        if fromZero ranges then Act.misused "byte/character positions are numbered from 1" 1
        else overFiles p.operands fun text =>
          (linesOf text).forM fun line =>
            Act.out (String.ofList (select ranges (p.has 'v') (chomp line).toList) ++ "\n")

/-- Joins lines of files side by side, or the lines of each file. -/
def paste : Utility :=
  withOptions [⟨'d', "delimiters", true⟩, ⟨'s', "serial", false⟩] 1 fun p => do
    let delimiter := (((p.value? 'd').getD "\t").take 1).toString
    let operands := if p.operands.isEmpty then ["-"] else p.operands
    let input ← if operands.contains "-" then Act.takeInput else pure ""
    let inputs := if p.has 's' then 1 else operands.count "-"
    let columns ← operands.zipIdx.mapM fun (operand, i) => do
      if operand = "-" then
        let place := (operands.take i).count "-"
        let lines := (linesOf input).zipIdx.filter fun (_, j) => j % inputs = place
        return lines.map fun (line, _) => chomp line
      else return (linesOf ((← Act.readOr operand 1).getD "")).map chomp
    if p.has 's' then columns.forM fun lines => Act.out (delimiter.intercalate lines ++ "\n")
    else
      let height := (columns.map (·.length)).max?.getD 0
      (List.range height).forM fun i =>
        Act.out (delimiter.intercalate (columns.map fun lines => lines.getD i "") ++ "\n")

/-! ## Characters -/

/-- The characters of a named class. -/
def classMembers? (name : String) : Option (List Char) :=
  (Text.namedClass? name).map ((List.range 256).map Char.ofNat).filter

/-- The characters of a set without its escapes; an escaped character is marked. -/
def unescapeSet : Nat → List Char → List (Char × Bool)
  | 0, _ => []
  | _, [] => []
  | n + 1, '\\' :: c :: rest =>
    match c with
    | 'n' => ('\n', true) :: unescapeSet n rest
    | 't' => ('\t', true) :: unescapeSet n rest
    | 'r' => ('\r', true) :: unescapeSet n rest
    | 'a' => (Char.ofNat 7, true) :: unescapeSet n rest
    | 'b' => (Char.ofNat 8, true) :: unescapeSet n rest
    | 'f' => (Char.ofNat 12, true) :: unescapeSet n rest
    | 'v' => (Char.ofNat 11, true) :: unescapeSet n rest
    | c =>
      let octal := ((c :: rest).take 3).takeWhile fun c => '0' ≤ c && c ≤ '7'
      if octal.isEmpty then (c, true) :: unescapeSet n rest
      else
        let value := octal.foldl (fun v c => v * 8 + (c.toNat - 48)) 0
        (Char.ofNat (value % 256), true) :: unescapeSet n ((c :: rest).drop octal.length)
  | n + 1, c :: rest => (c, false) :: unescapeSet n rest

/-- The characters of a set with its ranges, classes and repetitions written out. A repetition without a
number fills up any set. -/
def expandSet : Nat → List (Char × Bool) → List Char
  | 0, _ => []
  | _, [] => []
  | n + 1, ('[', false) :: (':', false) :: rest =>
    let name := rest.takeWhile fun g => g.1.isAlpha
    match rest.drop name.length, classMembers? (String.ofList (name.map (·.1))) with
    | (':', false) :: (']', false) :: rest, some members => members ++ expandSet n rest
    | _, _ => '[' :: expandSet n ((':', false) :: rest)
  | n + 1, ('[', false) :: (c, _) :: ('*', false) :: rest =>
    let digits := (rest.takeWhile fun g => g.1.isDigit).map (·.1)
    match rest.drop digits.length with
    | (']', false) :: rest =>
      let times := (String.ofList digits).toNat?.getD 0
      List.replicate (if times = 0 then 256 else times) c ++ expandSet n rest
    | _ => '[' :: expandSet n ((c, false) :: ('*', false) :: rest)
  | n + 1, (low, _) :: ('-', false) :: (high, _) :: rest =>
    ((List.range (high.toNat + 1)).drop low.toNat).map Char.ofNat ++ expandSet n rest
  | n + 1, (c, _) :: rest => c :: expandSet n rest

def charSet (text : String) : List Char :=
  let glyphs := unescapeSet text.length text.toList
  expandSet glyphs.length glyphs

/-- Joins runs of a character of the set. -/
def squeeze (set : List Char) (chars : List Char) : List Char :=
  (chars.foldl
    (fun kept c =>
      match kept with
      | last :: _ => if last == c && set.contains c then kept else c :: kept
      | [] => [c])
    []).reverse

def translate : Utility :=
  withOptions
    [⟨'d', "delete", false⟩, ⟨'s', "squeeze-repeats", false⟩, ⟨'c', "complement", false⟩, ⟨'C', "", false⟩,
      ⟨'t', "truncate-set1", false⟩]
    1 fun p => do
    let complement := p.has 'c' || p.has 'C'
    let first (text : String) : List Char :=
      let set := charSet text
      if complement then ((List.range 256).map Char.ofNat).filter fun c => !set.contains c else set
    match p.operands with
    | [] => Act.misused "missing operand" 1
    | [set] =>
      let set := first set
      if p.has 'd' then
        Act.out (String.ofList ((← Act.takeInput).toList.filter fun c => !set.contains c))
      else if p.has 's' then Act.out (String.ofList (squeeze set (← Act.takeInput).toList))
      else
        Act.misused ("missing operand after " ++ quoted (p.operands.head?.getD "") ++
          "\nTwo strings must be given when translating.") 1
    | _ :: _ :: extra :: _ => Act.misused ("extra operand " ++ quoted extra) 1
    | [set, second] =>
      let source := first set
      let target := charSet second
      let input := (← Act.takeInput).toList
      if p.has 'd' && !p.has 's' then
        Act.misused ("extra operand " ++ quoted second ++
          "\nOnly one string may be given when deleting without squeezing repeats.") 1
      else if target.isEmpty && !p.has 't' && !p.has 'd' then
        Act.fail "when not truncating set1, string2 must be non-empty" 1
      else if p.has 'd' then
        Act.out (String.ofList (squeeze target (input.filter fun c => !source.contains c)))
      else
        let last := target.getLast?.getD '\x00'
        let table := source.zipIdx.map fun (c, i) =>
          (c, if p.has 't' && target.length ≤ i then c else target.getD i last)
        let chars := input.map fun c => (table.reverse.lookup c).getD c
        Act.out (String.ofList (if p.has 's' then squeeze target chars else chars))

/-! ## Comparing -/

/-- Says where two files differ first. -/
def compareFiles : Utility :=
  withOptions [⟨'s', "quiet", false⟩, ⟨'l', "verbose", false⟩] 2 fun p => do
    match p.operands with
    | [a, b] =>
      match ← Act.readOr a 2, ← Act.readOr b 2 with
      | some x, some y =>
        let same := ((x.toList.zip y.toList).takeWhile fun (c, d) => c == d).length
        let line := ((x.toList.take same).count '\n') + 1
        if x = y then return ()
        else
          Act.setStatus 1
          if p.has 's' then return ()
          else if same < x.length && same < y.length then
            Act.out (a ++ " " ++ b ++ " differ: char " ++ toString (same + 1) ++ ", line " ++ toString line
              ++ "\n")
          else
            let short := if x.length < y.length then a else b
            if same = 0 then Act.warn ("EOF on " ++ short ++ " which is empty")
            else
              let text := if x.length < y.length then x else y
              let place :=
                if text.endsWith "\n" then "line " ++ toString (line - 1) else "in line " ++ toString line
              Act.warn ("EOF on " ++ short ++ " after byte " ++ toString same ++ ", " ++ place)
      | _, _ => return ()
    | _ => Act.misused "missing operand" 2

end Brainfuck.Utility
