import Brainfuck.Shell.Builtin.Texts
import Brainfuck.Shell.Execution
/-!
# Evaluating commands

What each form of a command does. Commands inside others are run by an engine; engines are built on each
other, so a command that is nested more deeply than there are engines is never finished.
-/

namespace Brainfuck.Shell

/-! ## Builtins by name -/

def specialTable : List (String × Builtin) :=
  [(":", fun _ _ => return 0), ("break", Builtin.leavingLoops .broken),
    ("continue", Builtin.leavingLoops .continued), ("eval", Builtin.eval), ("exit", Builtin.exit),
    ("export", Builtin.exportVariables), ("local", Builtin.makeLocal), ("readonly", Builtin.fixVariables),
    ("return", Builtin.leaveFunction),
    ("set", Builtin.changeSettings), ("shift", Builtin.shiftArguments), ("times", Builtin.times),
    ("trap", Builtin.trap), ("unset", Builtin.unset)]

def regularTable : List (String × Builtin) :=
  [("[", Builtin.bracket), ("alias", Builtin.defineAliases), ("bg", Builtin.resume),
    ("cd", Builtin.changeDirectory), ("chdir", Builtin.changeDirectory), ("echo", Builtin.echo), ("false", fun _ _ => return 1),
    ("fg", Builtin.resume), ("getopts", Builtin.nextOption), ("jobs", fun _ _ => return 0),
    ("kill", Builtin.kill), ("printf", Builtin.printf), ("pwd", Builtin.showDirectory),
    ("read", Builtin.readVariables), ("test", Builtin.test), ("true", fun _ _ => return 0),
    ("ulimit", Builtin.limits), ("umask", Builtin.creationMask), ("unalias", Builtin.removeAliases),
    ("wait", Builtin.wait)]

/-- The builtins that find commands. -/
def findingBuiltins : List String := ["command", "hash", "type"]

def isBuiltin (name : String) : Bool :=
  specialBuiltins.contains name || findingBuiltins.contains name || (regularTable.lookup name).isSome

/-! ## Descriptions -/

/-- Where a command is found. -/
def locate (name : String) : Run (Except SystemError String) := do
  return locateCommand (← get).world.files (← Run.valueD "PATH" "") name

/-- Remembers that a program has been found. -/
def remember (name : String) : Run Unit :=
  modify fun p => { p with located := p.located.filter (·.1 != name) ++ [(name, false)] }

/-- Describes a command, in words or just by what is run. -/
def describe (inWords : Bool) (name : String) : Run Nat := do
  let p ← get
  let say (words : String) : Run Nat := Builtin.tell ((if inWords then name ++ words else name) ++ "\n")
  if keywords.contains name then say " is a shell keyword"
  else if let some value := p.aliases.lookup name then
    Builtin.tell
      (if inWords then name ++ " is an alias for " ++ value ++ "\n"
        else "alias " ++ name ++ "=" ++ Builtin.inQuotes value ++ "\n")
  else if (p.functions.lookup name).isSome then say " is a shell function"
  else if specialBuiltins.contains name then say " is a special shell builtin"
  else if isBuiltin name then say " is a shell builtin"
  else
    let found : Option String :=
      match ← locate name with
      | .ok path =>
        if name.contains '/' && !(p.world.files.find (Text.Bytes.toUnicode path)).toBool then none else some path
      | .error _ => none
    match found with
    | some path =>
      if !name.contains '/' then remember name
      if inWords then
        let kind := if (p.located.lookup name).isSome then " is a tracked alias for " else " is "
        Builtin.tell (name ++ kind ++ path ++ "\n")
      else Builtin.tell (path ++ "\n")
    | none =>
      if inWords then
        let _ ← Builtin.tell (name ++ ": not found\n")
      return 127

def describeAll (names : List String) : Run Nat :=
  names.foldlM (fun status name => do return max status (← describe true name)) 0

/-- Shows where commands have been found, or looks for some. -/
def rehash (arguments : List String) : Run Nat := do
  let (options, names) ← Builtin.readOptions ['r', 'v'] [] arguments
  if options.any (·.1 == 'r') then
    modify fun p => { p with located := [] }
    return 0
  else if names.isEmpty then
    let lines ← (← get).located.filterMapM fun (name, isOld) => do
      return (← locate name).toOption.map fun path => path ++ (if isOld then "*\n" else "\n")
    Builtin.tell (String.join lines)
  else
    names.foldlM
      (fun status name => do
        if isBuiltin name then return status
        else
          match ← locate name with
          | .ok _ =>
            remember name
            return status
          | .error _ =>
            Run.complain (name ++ ": not found")
            return 1)
      0

/-! ## Running by name -/

/-- Why a command cannot be executed, and the status that says so. -/
def executionRefusal (e : SystemError) : String × Nat :=
  match e with
  | .noEntry | .notDirectory => ("not found", 127)
  | .nameTooLong => (e.description, 127)
  | e => (e.description, 126)

/-- Runs a program. What the shell has to say of how it ended comes afterwards. -/
def runProgram (e : Engine) (words : List String) : Run Ending := do
  let name := words.headD ""
  let env ← Run.environment
  match ← locate name with
  | .error refusal =>
    Run.complain (name ++ ": " ++ (executionRefusal refusal).1)
    return .exited 127
  | .ok path =>
    if !name.contains '/' then
      remember name
    match ← executeForShell e path words env with
    | .ok ending => return ending
    | .error refusal =>
      let (text, status) := executionRefusal refusal
      Run.complain (name ++ ": " ++ text)
      return .exited status

/-- Becomes a program. -/
def replaceBy (e : Engine) (words : List String) : Run Nat := do
  let name := words.headD ""
  let refuse (refusal : SystemError) : Run Nat := do
    let (text, status) := executionRefusal refusal
    Run.complain (name ++ ": " ++ text)
    throw (.exited status)
  match ← locate name with
  | .error refusal => refuse refusal
  | .ok path =>
    match ← executeForShell e path words (← Run.environment) with
    | .error refusal => refuse refusal
    | .ok ending =>
      modify fun p => { p with traps := [] }
      match ending with
      | .exited status => throw (.exited status)
      | .killed signal => throw (.killed signal)

/-- Runs a function. Its variables and arguments end with it. -/
def callFunction (e : Engine) (body : Command) (arguments : List String) : Run Unit := do
  let before ← get
  let index ← Run.entry? "OPTIND"
  set { before with
    arguments := arguments, optionOffset := 0, loops := 0, calls := before.calls + 1
    frames := [] :: before.frames }
  let restore : Run Unit := do
    let hidden := (← get).frames.headD []
    modify fun p =>
      let kept := p.bindings.filter fun v => (hidden.lookup v.1).isNone
      { p with
        arguments := before.arguments, optionOffset := before.optionOffset, loops := before.loops
        flags := match hidden.lookup "-" with
          | some (some v) => (v.value.getD "").toList
          | _ => p.flags
        calls := before.calls, frames := before.frames
        bindings :=
          (hidden.filterMap fun (name, v) => if name = "-" then none else v.map fun v => (name, v)) ++ kept }
    index.forM (Run.setVariable "OPTIND")
  tryCatch (e.run before.tested body) fun i =>
    match i with
    | .returned status => Run.setStatus status
    | i => do
      restore
      throw i
  restore

/-- Runs the text of a file in this shell. -/
def runFile (e : Engine) (arguments : List String) : Run Nat := do
  match (← Builtin.readOptions [] [] arguments).2 with
  | [] => return 0
  | name :: _ =>
    let files := (← get).world.files
    let isText (path : String) : Bool := (files.readFile (Text.Bytes.toUnicode path)).toBool
    let found : Option String ←
      if name.contains '/' then pure (some name)
      else do
        let search ← Run.valueD "PATH" ""
        pure (((search.splitOn ":").map fun directory =>
          if directory.isEmpty then name else directory ++ "/" ++ name).find? isText)
    match found with
    | none => Run.fail (name ++ ": not found")
    | some path =>
      match files.readFile (Text.Bytes.toUnicode path) with
      | .error e => refuseOpening .read path e
      | .ok content =>
        modify fun p => { p with builtin := some path }
        let ran ← tryCatch (e.runText false (Text.Bytes.ofArray content)) fun i =>
          match i with
          | .returned status => do
            Run.setStatus status
            return true
          | i => throw i
        let status := (← get).status
        return if ran then status else 0

/-- Runs a builtin. It is named in complaints. -/
def asBuiltin (name : String) (action : Run Nat) : Run Unit := do
  let before := (← get).builtin
  modify fun p => { p with builtin := some name }
  let restore : Run Unit := modify fun p => { p with builtin := before }
  let status ← tryCatch action fun i => do
    restore
    throw i
  restore
  Run.setStatus status

/-- An error ends the action but not the shell. -/
def surviving (action : Run Unit) : Run Unit :=
  tryCatch action fun i =>
    match i with
    | .failed status => Run.setStatus status
    | i => throw i

/-! ## Simple commands -/

/-- What the words in front of a command ask for: to leave out functions and to let errors pass, or just a
description of the command. -/
structure Prefixed where
  isPlain : Bool
  description : Option Bool
  words : List String

/-- Takes `command` and its options from the front of the words. -/
def readPrefix : Nat → List String → Prefixed
  | 0, words => ⟨false, none, words⟩
  | n + 1, "command" :: rest =>
    let rec options : List String → Option Bool × Bool × List String
      | [] => (none, true, [])
      | "--" :: rest => (none, true, rest)
      | word :: rest =>
        match word.toList with
        | '-' :: c :: letters =>
          let (further, isFine, words) := options rest
          let isFine := isFine && (c :: letters).all fun c => c == 'p' || c == 'v' || c == 'V'
          if (c :: letters).contains 'V' then (some true, isFine, words)
          else if (c :: letters).contains 'v' then (further.or (some false), isFine, words)
          else (further, isFine, words)
        | _ => (none, true, word :: rest)
    match options rest with
    | (_, false, _) => ⟨false, none, "command" :: rest⟩
    | (some inWords, _, words) => ⟨true, some inWords, words⟩
    | (none, _, []) => ⟨true, none, []⟩
    | (none, _, words) => { readPrefix n words with isPlain := true }
  | _, words => ⟨false, none, words⟩

/-- Runs a command that is already expanded. -/
def dispatch (e : Engine) (words : List String) : Run Ending := do
  let asked := readPrefix words.length words
  let finished (action : Run Unit) : Run Ending := do
    action
    return .exited (← get).status
  match asked.description, asked.words with
  | some inWords, name :: _ => finished (surviving (asBuiltin "command" (describe inWords name)))
  | _, [] =>
    Run.setStatus 0
    return .exited 0
  | none, name :: arguments =>
    let functions := (← get).functions
    let function? := if asked.isPlain then none else functions.lookup name
    let special (action : Run Nat) : Run Ending :=
      finished (if asked.isPlain then surviving (asBuiltin name action) else asBuiltin name action)
    let regular (action : Run Nat) : Run Ending := finished (surviving (asBuiltin name action))
    match specialTable.lookup name, function? with
    | some builtin, _ => special (builtin e arguments)
    | none, some body => finished (callFunction e body arguments)
    | none, none =>
      match name, regularTable.lookup name with
      | ".", _ => special (runFile e arguments)
      | "exec", _ =>
        special do
          match (← Builtin.readOptions [] [] arguments).2 with
          | [] => return 0
          | words => replaceBy e words
      | "command", _ =>
        regular do
          let _ ← Builtin.readOptions ['p', 'v', 'V'] [] arguments
          return 0
      | "type", _ => regular (describeAll arguments)
      | "hash", _ => regular (rehash arguments)
      | _, some builtin => regular (builtin e arguments)
      | _, none => runProgram e (name :: arguments)

/-- Runs the actions of the signals that have come. The status stays. -/
def runPending (e : Engine) : Run Unit := do
  let p ← get
  if p.pending.isEmpty then return ()
  else
    set { p with pending := [], heldStatus := some p.status }
    p.pending.forM fun action => discard (e.runText false action)
    modify fun q => { q with status := p.status, heldStatus := p.heldStatus }

/-- Ends a shell that ends at the first failure. -/
def checkFailure (tested : Bool) : Run Unit := do
  let p ← get
  if !tested && p.flags.contains 'e' && p.status != 0 then throw (.exited p.status)

/-- Is the word one that gives a variable a value? -/
def isAssignment (w : Word) : Bool := w.assignment?.isSome

/-- The fields of the words of a command. Behind a command that marks variables, values are not split. -/
def fieldsOfCommand (e : Engine) (words : List Word) : Run (List String) := do
  let marks := match words.head?.bind Word.plain? with
    | some name => ["export", "readonly", "local"].contains name
    | none => false
  let fields ← words.mapM fun w => do
    if marks && isAssignment w then
      match w.assignment? with
      | some (name, value) => return [name ++ "=" ++ (← valueOfWord e value)]
      | none => fieldsOfWord e w
    else fieldsOfWord e w
  return fields.flatten

/-- Does something while some variables have the values that they were given for it. -/
def withVariables {α : Type} (hidden : List (String × Option Variable)) (action : Run α) : Run α := do
  let restore : Run Unit :=
    hidden.forM fun (name, v) =>
      match v with
      | some v => Run.setVariable name v
      | none => modify fun p => { p with bindings := p.bindings.filter (·.1 != name) }
  let a ← tryCatch action fun i => do
    restore
    throw i
  restore
  return a

/-- Gives variables values, one after the other. Where they are not to stay they are exported, and the answer
says what they were. -/
def assignAll (e : Engine) (stay : Bool) :
    List (String × Word) → Run (List String × List (String × Option Variable))
  | [] => return ([], [])
  | (name, value) :: rest => do
    let text ← valueOfWord e value
    let before ← Run.entry? name
    Run.assign name text
    if !stay then
      (← Run.entry? name).forM fun v => Run.setVariable name { v with exported := true }
    let (shown, hidden) ← assignAll e stay rest
    return ((name ++ "=" ++ text) :: shown, hidden ++ [(name, before)])

/-- Shows a command before it runs. -/
def trace (e : Engine) (errors : Option Nat) (words : List String) : Run Unit := do
  if ← Run.hasFlag 'x' then
    let lead ← Run.valueD "PS4" ""
    let lead ← match Scanner.document? lead with
      | some w => textOfDocument e w
      | none => pure lead
    Run.keepingDescriptors do
      Run.setDescriptor 2 errors
      Run.send 2 (lead ++ " ".intercalate words ++ "\n")

def runSimple (e : Engine) (tested : Bool) (line : Nat) (assignments : List (String × Word)) (words : List Word)
    (redirections : List Redirection) : Run Unit := do
  modify fun p => { p with line := line, substitutionStatus := 0 }
  let fields ← fieldsOfCommand e words
  let asked := readPrefix fields.length fields
  let name := asked.words.headD ""
  let isSpecial := specialBuiltins.contains name && asked.description.isNone && !asked.isPlain
  let stay := fields.isEmpty || isSpecial
  let openings ← redirections.mapM (Redirection.expand e)
  let before := (← get).descriptors
  let action : Run Ending := do
    let done ← performAll e openings
    let (shown, hidden) ← assignAll e (stay && name != "exec") assignments
    withVariables (if stay then [] else hidden) do
      trace e (before.lookup 2) (shown ++ fields)
      if !done then
        if isSpecial then throw (.failed 2) else return .exited 2
      else if fields.isEmpty then return .exited (← get).substitutionStatus
      else
        modify fun p => { p with tested := tested }
        let ending ← dispatch e fields
        match ending with
        | .killed signal =>
          if !(Signal.epitaph signal).isEmpty then Run.send 2 (Signal.epitaph signal ++ "\n")
        | .exited _ => pure ()
        return ending
  let ending ←
    if name = "exec" && asked.words.length = 1 then do
      let ending ← action
      if ending.status != 0 then modify fun p => { p with descriptors := before }
      pure ending
    else Run.keepingDescriptors action
  Run.setStatus ending.status
  runPending e
  checkFailure tested

/-! ## Compound commands -/

/-- Runs the body of a loop once. Answers whether the loop goes on. -/
def runBody (action : Run Unit) : Run Bool := do
  let loops := (← get).loops
  let leave : Run Unit := modify fun p => { p with loops := loops }
  modify fun p => { p with loops := loops + 1 }
  let goesOn ← tryCatch
    (do
      action
      return true)
    fun i =>
      match i with
      | .broken n => do
        Run.setStatus 0
        if n ≤ 1 then return false
        else
          leave
          throw (.broken (n - 1))
      | .continued n => do
        Run.setStatus 0
        if n ≤ 1 then return true
        else
          leave
          throw (.continued (n - 1))
      | i => throw i
  leave
  return goesOn

/-- How often a loop may go round. -/
def maxRounds : Nat := 1000000000

/-- Runs a body as long as a test comes out as expected. The status is the one of the last body. -/
def runLoop (e : Engine) (tested expected : Bool) (test body : Command) : Nat → Nat → Run Unit
  | 0, _ => throw .exhausted
  | n + 1, status => do
    let mut holds := false
    let goesOn ← runBody (e.run true test)
    holds := ((← get).status = 0) = expected
    if !goesOn || !holds then Run.setStatus status
    else if ← runBody (e.run tested body) then runLoop e tested expected test body n (← get).status
    else return ()

def runForEach (e : Engine) (tested : Bool) (name : String) (body : Command) : List String → Run Unit
  | [] => return ()
  | value :: rest => do
    Run.assign name value
    if ← runBody (e.run tested body) then runForEach e tested name body rest

/-- Runs the first branch with a pattern that matches. -/
def runChoice (e : Engine) (tested : Bool) (subject : String) : List (List Word × Command) → Run Unit
  | [] => Run.setStatus 0
  | (patterns, body) :: rest => do
    if ← matchesAny patterns then
      match body with
      | .nothing => Run.setStatus 0
      | body => e.run tested body
    else runChoice e tested subject rest
where
  matchesAny : List Word → Run Bool
    | [] => return false
    | w :: rest => do
      if Pattern.isMatch (← patternOfWord e w) subject then return true else matchesAny rest

/-- A descriptor that nothing can be read from. -/
def emptyInput : Run Nat :=
  modifyGet fun p =>
    let (index, world) := p.world.addPipe .empty
    (index, { p with world := world })

/-- Runs commands apart, each on what the one before has written. -/
def runPiped (e : Engine) (tested : Bool) : Option Nat → List Command → Run Unit
  | _, [] => return ()
  | input, c :: rest => do
    let before := (← get).descriptors
    input.forM fun index => Run.setDescriptor 0 (some index)
    let output ← match rest with
      | [] => pure none
      | _ => do
        let index ← emptyInput
        Run.setDescriptor 1 (some index)
        pure (some index)
    let status ← Run.keepingDescriptors (Run.apart e (e.run tested c))
    modify fun p => { p with descriptors := before }
    match rest with
    | [] => Run.setStatus status
    | rest => runPiped e tested output rest

/-- Runs a command in the background, which is at once, and remembers how it ended. -/
def runBackground (e : Engine) (body : Command) : Run Unit := do
  let number ← newNumber
  let index ← emptyInput
  let status ← Run.keepingDescriptors do
    Run.setDescriptor 0 (some index)
    Run.apart e (e.run false body)
  modify fun p => { p with children := ⟨number, .exited status, false⟩ :: p.children, status := 0 }

def runForm (e : Engine) (tested : Bool) : Command → Run Unit
  | .nothing => return ()
  | .simple line assignments words redirections => runSimple e tested line assignments words redirections
  | .redirected line body redirections => do
    Run.setLine line
    redirecting e redirections (e.run tested body)
  | .subshell line body redirections => do
    Run.setLine line
    let status ← Run.apart e do
      let openings ← redirections.mapM (Redirection.expand e)
      if ← performAll e openings then e.run tested body else throw (.failed 2)
    Run.setStatus status
    checkFailure tested
  | .background body => runBackground e body
  | .pipeline commands => do
    runPiped e tested none commands
    checkFailure tested
  | .negation body => do
    e.run true body
    modify fun p => { p with status := if p.status = 0 then 1 else 0 }
  | .both first second => do
    e.run true first
    if (← get).status = 0 then e.run tested second
  | .either first second => do
    e.run true first
    if (← get).status != 0 then e.run tested second
  | .sequence first second => do
    e.run tested first
    e.run tested second
  | .conditional test positive negative => do
    e.run true test
    if (← get).status = 0 then e.run tested positive
    else
      match negative with
      | .nothing => Run.setStatus 0
      | negative => e.run tested negative
  | .loop _ expected test body => runLoop e tested expected test body maxRounds 0
  | .forEach line name words body => do
    Run.setLine line
    let fields ← fieldsOfWords e words
    if fields.isEmpty then Run.setStatus 0 else runForEach e tested name body fields
  | .choice line subject branches => do
    Run.setLine line
    runChoice e tested (← textOfWord e subject) branches
  | .define _ name body => do
    modify fun p => { p with functions := (name, body) :: p.functions.filter (·.1 != name), status := 0 }

/-- Runs a command, unless the shell only reads. -/
def runCommand (e : Engine) (tested : Bool) (c : Command) : Run Unit := do
  if !(← Run.hasFlag 'n') then runForm e tested c

/-- An engine for commands that are nested up to the given depth. -/
def Engine.upTo : Nat → Engine
  | 0 => ⟨fun _ _ => throw .exhausted, fun _ _ => throw .exhausted⟩
  | n + 1 =>
    { run := fun tested c => runCommand (.upTo n) tested c
      runText := fun tested text => runWhole (.upTo n) tested false text }

/-- The depth that commands may have. -/
def maxDepth : Nat := 100000

def Engine.standard : Engine := .upTo maxDepth

end Brainfuck.Shell
