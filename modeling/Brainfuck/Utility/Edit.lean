import Brainfuck.Utility.Edit.Script
/-!
# Editing streams

Edits texts line by line by a script. A line goes through all steps of the script and is then written, unless
the script says otherwise.
-/

namespace Brainfuck.Utility.Edit

/-- The state of an edit. Lines still to come have a mark for their line break; output is kept newest first.
`active` holds for each step with two addresses the line at which its stretch ends, if it is in one. -/
structure State where
  pattern : String
  held : String
  number : Nat
  rest : List (String × Bool)
  isEnded : Bool
  lacksBreak : Bool
  queued : List String
  output : List String
  active : List (Nat × Option Nat)
  last : Option Regex
  replaced : Bool
  written : List (String × String)

/-- How the steps for a line come to an end. -/
inductive Outcome where
  | done
  | dropped
  | again
  | stopped (prints : Bool) (status : Nat)

namespace State

def start (lines : List (String × Bool)) : State :=
  { pattern := "", held := "", number := 0, rest := lines, isEnded := true, lacksBreak := false, queued := []
    output := [], active := [], last := none, replaced := false, written := [] }

/-- Writes a text. Where the one before had no line break it gets one. -/
def write (s : State) (text : String) (isEnded : Bool) : State :=
  let text := (if s.lacksBreak then "\n" else "") ++ text ++ (if isEnded then "\n" else "")
  { s with output := text :: s.output, lacksBreak := !isEnded }

def print (s : State) : State := s.write s.pattern s.isEnded

/-- Writes what has been queued for the end of a cycle. -/
def flush (s : State) : State :=
  let s := s.queued.reverse.foldl
    (fun s text =>
      let isEnded := text.endsWith "\n"
      s.write (if isEnded then (text.dropEnd 1).toString else text) isEnded)
    { s with queued := [] }
  s

/-- The expression that is meant, which becomes the last one used. -/
def resolve (s : State) (r : Option Regex) : Option Regex × State :=
  let r := r.or s.last
  (r, { s with last := r })

/-- The next line as the pattern space. -/
def next? (s : State) : Option State :=
  match s.rest with
  | [] => none
  | (line, isEnded) :: rest =>
    some { s with pattern := line, isEnded := isEnded, rest := rest, number := s.number + 1 }

end State

/-- Does a single address select the current line? -/
def selects (s : State) : Address → Bool × State
  | .line n => (s.number = n, s)
  | .last => (s.rest.isEmpty, s)
  | .every first step =>
    (if step = 0 then s.number = first else first ≤ s.number && (s.number - first) % step = 0, s)
  | .further _ => (false, s)
  | .pattern r =>
    let (r, s) := s.resolve r
    ((r.map fun r => r.isMatch (Regex.Traditional.subject s.pattern)).getD false, s)

/-- Is the step with the given index for the current line? -/
def applies (s : State) (index : Nat) (step : Step) : Bool × State :=
  let (selected, s) := match step.first, step.second with
    | none, _ => (true, s)
    | some a, none => selects s a
    | some a, some b =>
      let inactive := s.active.filter (·.1 != index)
      match s.active.lookup index with
      | some until? =>
        match b, until? with
        | .pattern _, _ =>
          let (found, s) := selects s b
          (true, if found then { s with active := inactive } else s)
        | .last, _ => (true, if s.rest.isEmpty then { s with active := inactive } else s)
        | _, some n =>
          if n < s.number then
            let s := { s with active := inactive }
            selects s a
          else (true, if s.number = n then { s with active := inactive } else s)
        | _, none => (true, s)
      | none =>
        let (found, s) := match a with
          | .line 0 => (s.number = 1, s)
          | a => selects s a
        if !found then (false, s)
        else
          let atZero := match a with
            | .line 0 => true
            | _ => false
          match b with
          | .line n => (true, if n ≤ s.number then s else { s with active := (index, some n) :: inactive })
          | .further n =>
            (true, if n = 0 then s else { s with active := (index, some (s.number + n)) :: inactive })
          | .last => (true, if s.rest.isEmpty then s else { s with active := (index, none) :: inactive })
          | .pattern _ =>
            if atZero then
              let (found, s) := selects s b
              (true, if found then s else { s with active := (index, none) :: inactive })
            else (true, { s with active := (index, none) :: inactive })
          | .every _ step =>
            let ends := if step = 0 then s.number else (s.number + step - 1) / step * step
            (true, if ends ≤ s.number then s else { s with active := (index, some ends) :: inactive })
  (selected != step.negated, s)

/-! ## Substitution -/

/-- How letters of a replacement are changed. -/
inductive CaseChange where
  | none
  | upper
  | lower
deriving DecidableEq

def CaseChange.apply : CaseChange → Char → Char
  | none, c => c
  | upper, c => c.toUpper
  | lower, c => c.toLower

/-- The text that replaces a match. -/
def replacementText (subject : Subject) (first : Nat) (place : Place) (parts : List Replacement) : String :=
  let add (state : List Char × CaseChange × Option CaseChange) (chars : List Char) :=
    chars.foldl
      (fun (out, change, once) c =>
        ((match once with
          | some o => o.apply c
          | .none => change.apply c) :: out, change, Option.none))
      state
  let (out, _, _) := parts.foldl
    (fun (state : List Char × CaseChange × Option CaseChange) part =>
      let (out, change, _) := state
      match part with
      | .text s => add state s.toList
      | .group 0 => add state (subject.stretch first place.position)
      | .group index =>
        match place.group? index with
        | some (a, b) => add state (subject.stretch a b)
        | .none => state
      | .upper => (out, .upper, .none)
      | .lower => (out, .lower, .none)
      | .asIs => (out, .none, .none)
      | .upperNext => (out, change, some .upper)
      | .lowerNext => (out, change, some .lower))
    ([], .none, .none)
  String.ofList out.reverse

/-- Replaces matches from a position on. `count` says how many there have been. Answers the new text, and
whether anything was replaced. -/
def replaceFrom (r : Regex) (subject : Subject) (sub : Substitution) :
    Nat → (position count : Nat) → (afterMatch : Bool) → List Char × Bool
  | 0, position, _, _ => (subject.stretch position subject.chars.size, false)
  | n + 1, position, count, afterMatch =>
    match r.find? subject position with
    | none => (subject.stretch position subject.chars.size, false)
    | some (first, place) =>
      let isEmptyAgain := afterMatch && first = position && place.position = first
      let before := subject.stretch position first
      let chosen := !isEmptyAgain && sub.number ≤ count + 1
      let text := if chosen then (replacementText subject first place sub.replacement).toList
        else subject.stretch first place.position
      let count := if isEmptyAgain then count else count + 1
      if chosen && !sub.all then (before ++ text ++ subject.stretch place.position subject.chars.size, true)
      else if place.position = first then
        if subject.chars.size ≤ first then (before ++ text, chosen)
        else
          let (rest, replaced) := replaceFrom r subject sub n (first + 1) count false
          (before ++ text ++ subject.stretch first (first + 1) ++ rest, chosen || replaced)
      else
        let (rest, replaced) := replaceFrom r subject sub n place.position count true
        (before ++ text ++ rest, chosen || replaced)

def State.substitute (s : State) (sub : Substitution) : State :=
  match s.resolve sub.pattern with
  | (none, s) => s
  | (some r, s) =>
    let subject := Regex.Traditional.subject s.pattern
    let (chars, replaced) := replaceFrom r subject sub (s.pattern.length + 2) 0 0 false
    if !replaced then s
    else
      let s := { s with pattern := String.ofList chars, replaced := true }
      let s := if sub.prints then s.print else s
      match sub.file with
      | none => s
      | some path => { s with written := (path, s.pattern ++ "\n") :: s.written }

/-! ## Steps -/

/-- The index behind the brace that closes the one before an index. -/
def behindClose (steps : Array Step) : Nat → Nat → Nat → Nat
  | 0, index, _ => index
  | n + 1, index, depth =>
    match steps[index]? with
    | none => index
    | some step =>
      match step.action with
      | .block => behindClose steps n (index + 1) (depth + 1)
      | .close => if depth = 0 then index + 1 else behindClose steps n (index + 1) (depth - 1)
      | _ => behindClose steps n (index + 1) depth

/-- Where a label leads; an empty one leads to the end. -/
def labelIndex (steps : Array Step) (label : String) : Nat :=
  if label.isEmpty then steps.size
  else
    (steps.findIdx? fun step =>
      match step.action with
      | .label name => name = label
      | _ => false).getD steps.size

/-- The text up to the first line break. -/
def firstLine (text : String) : String := String.ofList (text.toList.takeWhile (· != '\n'))

/-- A text with its special characters made visible. -/
def shown (text : String) : String :=
  String.join <| text.toList.map fun c =>
    match c with
    | '\\' => "\\\\"
    | '\n' => "\\n"
    | '\t' => "\\t"
    | '\r' => "\\r"
    | c =>
      if 32 ≤ c.toNat && c.toNat < 127 then String.singleton c
      else
        let n := c.toNat
        "\\" ++ toString (n / 64) ++ toString (n / 8 % 8) ++ toString (n % 8)

/-- Runs the steps from an index on for the current line. -/
def runSteps (files : FileSystem) (quiet : Bool) (steps : Array Step) : Nat → Nat → State → Outcome × State
  | 0, _, s => (.done, s)
  | n + 1, index, s =>
    match steps[index]? with
    | none => (.done, s)
    | some step =>
      let (selected, s) := applies s index step
      let go (s : State) : Outcome × State := runSteps files quiet steps n (index + 1) s
      let jump (label : String) (s : State) : Outcome × State :=
        runSteps files quiet steps n (labelIndex steps label) s
      if !selected then
        match step.action with
        | .block => runSteps files quiet steps n (behindClose steps steps.size (index + 1) 0) s
        | _ => go s
      else
        match step.action with
        | .block | .close | .label _ => go s
        | .print => go s.print
        | .printFirst => go (s.write (firstLine s.pattern) true)
        | .delete => (.dropped, s)
        | .deleteFirst =>
          let first := firstLine s.pattern
          if first.length = s.pattern.length then (.dropped, s)
          else (.again, { s with pattern := (s.pattern.drop (first.length + 1)).toString })
        | .quit prints status => (.stopped prints status, s)
        | .next =>
          if s.rest.isEmpty then (.stopped true 0, s)
          else
            let s := if quiet then s else s.print
            match s.flush.next? with
            | some s => go s
            | none => (.stopped false 0, s)
        | .appendNext =>
          match s.flush.next? with
          | none => (.stopped true 0, s)
          | some next => go { next with pattern := s.pattern ++ "\n" ++ next.pattern }
        | .hold => go { s with held := s.pattern }
        | .appendHold => go { s with held := s.held ++ "\n" ++ s.pattern }
        | .get => go { s with pattern := s.held }
        | .appendGet => go { s with pattern := s.pattern ++ "\n" ++ s.held }
        | .exchange => go { s with pattern := s.held, held := s.pattern }
        | .number => go (s.write (toString s.number) true)
        | .display => go (s.write (shown s.pattern ++ "$") true)
        | .append text => go { s with queued := text :: s.queued }
        | .insert text => go (s.write (chomp text) true)
        | .change text =>
          let atEnd := step.negated || step.second.isNone || (s.active.lookup index).isNone
          (.dropped, if atEnd then s.write (chomp text) true else s)
        | .branch label => jump label s
        | .branchIf label => if s.replaced then jump label { s with replaced := false } else go s
        | .branchUnless label => if s.replaced then go { s with replaced := false } else jump label s
        | .translate table =>
          go { s with pattern := String.ofList (s.pattern.toList.map fun c => (table.lookup c).getD c) }
        | .substitute sub => go (s.substitute sub)
        | .readFile path =>
          match files.readFile (Text.Bytes.toUnicode path) with
          | .ok content => go { s with queued := Text.Bytes.ofArray content :: s.queued }
          | .error _ => go s
        | .writeFile path => go { s with written := (path, s.pattern ++ "\n") :: s.written }

/-- Edits line after line. Answers the status. -/
def runLines (files : FileSystem) (quiet : Bool) (steps : Array Step) : Nat → State → Nat × State
  | 0, s => (0, s)
  | n + 1, s =>
    match s.next? with
    | none => (0, s)
    | some s => cycle n { s with replaced := false }
where
  cycle (n : Nat) (s : State) : Nat × State :=
    match n with
    | 0 => (0, s)
    | n + 1 =>
      match runSteps files quiet steps 100000 0 s with
      | (.done, s) => runLines files quiet steps n (if quiet then s else s.print).flush
      | (.dropped, s) => runLines files quiet steps n s.flush
      | (.again, s) => cycle n s.flush
      | (.stopped prints status, s) => (status, (if prints && !quiet then s.print else s).flush)

/-- Edits a text. -/
def edit (files : FileSystem) (quiet : Bool) (steps : List Step) (text : String) : Nat × State :=
  let lines := (linesOf text).map fun line => (chomp line, line.endsWith "\n")
  runLines files quiet steps.toArray (3 * lines.length + 100000) (.start lines)

end Edit

open Edit in
/-- Edits files, or the input, by a script. -/
def edit : Utility := buffered <| ofAct do
  let kinds : List OptionKind :=
    [⟨'n', "quiet", false⟩, ⟨'e', "expression", true⟩, ⟨'f', "file", true⟩, ⟨'E', "regexp-extended", false⟩,
      ⟨'r', "", false⟩, ⟨'i', "in-place", false⟩, ⟨'s', "separate", false⟩, ⟨'u', "unbuffered", false⟩]
  let arguments := (← Act.arguments).map fun a =>
    if a.startsWith "-i" && !a.startsWith "--" then "-i" else if a = "--silent" then "-n" else a
  match readOptions kinds false arguments with
  | .error text => Act.misused text 1
  | .ok p =>
    let scripts ← p.options.filterMapM fun (letter, text) => do
      if letter == 'e' then return some text
      else if letter == 'f' then
        match ← Act.read text with
        | .ok script => return some (chomp script)
        | .error e =>
          Act.fail ("couldn't open file " ++ text ++ ": " ++ e.description) 4
          return none
      else return none
    let (script, operands) := match scripts, p.operands with
      | [], first :: rest => (some first, rest)
      | [], [] => (none, [])
      | scripts, operands => (some ("\n".intercalate scripts), operands)
    if (← get).status = 4 then return ()
    else match script with
    | none =>
      Act.write 2 "Usage: sed [OPTION]... \x7bscript-only-if-no-other-script\x7d [input-file]...\n"
      Act.setStatus 1
    | some script =>
      match stepsOf (p.has 'E' || p.has 'r') script with
      | .error (position, text) =>
        Act.fail ("-e expression #1, char " ++ toString position ++ ": " ++ text) 1
      | .ok steps =>
        let files ← Act.files
        let save (s : State) : Act Unit :=
          (s.written.reverse.map (·.1)).eraseDups.forM fun path => do
            let text := String.join ((s.written.reverse.filter (·.1 == path)).map (·.2))
            if path = "/dev/stdout" then Act.out text
            else Act.change ("couldn't open file " ++ path) fun files =>
              files.writeFile (Text.Bytes.toUnicode path) (Text.Bytes.toArray text)
        let finish (answer : Nat × State) : Act Unit := do
          save answer.2
          if answer.1 != 0 then Act.setStatus answer.1
        if p.has 'i' || p.has 's' then
          operands.forM fun path => do
            match ← Act.read path with
            | .error e => Act.fail ("can't read " ++ path ++ ": " ++ e.description) 2
            | .ok text =>
              let answer := Edit.edit files (p.has 'n') steps text
              let output := String.join answer.2.output.reverse
              if p.has 'i' then
                Act.change ("couldn't open file " ++ path) fun files =>
                  files.writeFile (Text.Bytes.toUnicode path) (Text.Bytes.toArray output)
              else Act.out output
              finish answer
        else
          let texts ← (if operands.isEmpty then ["-"] else operands).mapM fun path => do
            match ← Act.read path with
            | .ok text => return text
            | .error .isDirectory =>
              Act.fail ("couldn't edit " ++ path ++ ": not a regular file") 2
              return ""
            | .error e =>
              Act.fail ("can't read " ++ path ++ ": " ++ e.description) 2
              return ""
          let whole := texts.foldl
            (fun all text =>
              if all.isEmpty || all.endsWith "\n" || text.isEmpty then all ++ text else all ++ "\n" ++ text)
            ""
          let answer := Edit.edit files (p.has 'n') steps whole
          Act.out (String.join answer.2.output.reverse)
          finish answer

end Brainfuck.Utility
