import Brainfuck.Utility
/-!
# Utilities for files and directories

Copying, moving, removing and making files. Each operand that fails leaves a complaint; the others are still
worked on.
-/

namespace Brainfuck.Utility

/-- A path of the text of bytes. -/
def unicode (path : String) : String := Text.Bytes.toUnicode path

/-- The last name of a path. -/
def lastName (path : String) : String :=
  (((path.splitOn "/").filter (!·.isEmpty)).getLast?).getD "/"

def joinPath (directory name : String) : String :=
  if directory.endsWith "/" then directory ++ name else directory ++ "/" ++ name

/-! ## Sources and targets -/

/-- Works from each source to the target. Into a directory a source keeps its name. -/
def toTargets (p : Parsed) (move : String → String → Act Unit) : Act Unit := do
  let into (sources : List String) (directory : String) : Act Unit :=
    sources.forM fun source => move source (joinPath directory (lastName source))
  match p.value? 't', p.operands.reverse with
  | _, [] => Act.misused "missing file operand" 1
  | some directory, sources =>
    if ← Act.isDirectory directory then into sources.reverse directory
    else Act.fail ("target directory " ++ quoted directory ++ ": " ++
      (match ← Act.node directory with
        | .ok _ => SystemError.notDirectory
        | .error e => e).description) 1
  | none, [only] => Act.misused ("missing destination file operand after " ++ quoted only) 1
  | none, target :: sources =>
    if p.has 'T' then
      match sources with
      | [source] => move source target
      | _ => Act.misused ("extra operand " ++ quoted target) 1
    else if ← Act.isDirectory target then into sources.reverse target
    else
      match sources with
      | [source] => move source target
      | _ => Act.fail ("target " ++ quoted target ++ ": " ++
          (match ← Act.node target with
            | .ok _ => SystemError.notDirectory
            | .error e => e).description) 1

/-- Writes a file with the content of another. -/
def copyContent (source target : String) (loc : Location) (content : ByteArray) (executable : Bool) :
    Act Unit := do
  let files ← Act.files
  let existing := files.find (unicode target)
  if existing.toOption.map (·.1) = some loc then
    Act.fail (quoted source ++ " and " ++ quoted target ++ " are the same file") 1
  else
    match existing with
    | .ok (_, .directory) =>
      Act.fail ("cannot overwrite directory " ++ quoted target ++ " with non-directory") 1
    | _ =>
      match files.locateForWriting (unicode target) with
      | .error e =>
        let e := if (Path.ofText target).trailingSlash && e = .isDirectory then .notDirectory else e
        Act.fail ("cannot create regular file " ++ quoted target ++ ": " ++ e.description) 1
      | .ok goal =>
        match files.node? goal with
        | some (.file _ old) => Act.setFiles (files.insert goal (.file content old))
        | some (.device d) =>
          match d.write content with
          | .ok d => Act.setFiles (files.insert goal (.device d))
          | .error e => Act.fail ("error writing " ++ quoted target ++ ": " ++ e.description) 1
        | _ => Act.setFiles (files.insert goal (.file content executable))

/-- Copies a directory with all below it. -/
def copyTree (source target : String) (loc : Location) : Act Unit := do
  let files ← Act.files
  match files.find (unicode target) with
  | .ok (_, .file _ _) | .ok (_, .device _) =>
    Act.fail ("cannot overwrite non-directory " ++ quoted target ++ " with directory " ++ quoted source) 1
  | existing =>
    let goal? := match existing with
      | .ok (goal, _) => Except.ok goal
      | .error _ => files.locate (unicode target)
    match goal? with
    | .error e => Act.fail ("cannot create directory " ++ quoted target ++ ": " ++ e.description) 1
    | .ok goal =>
      if FileSystem.isWithin loc goal then
        Act.fail ("cannot copy a directory, " ++ quoted source ++ ", into itself, " ++ quoted target) 1
      else if (files.node? goal.dropLast).isNone then
        Act.fail ("cannot create directory " ++ quoted target ++ ": " ++ SystemError.noEntry.description) 1
      else
        let copies := (files.below loc).map fun (inner, node) => (goal ++ inner, node)
        let files := if (files.node? goal).isNone then files.insert goal .directory else files
        Act.setFiles (copies.foldl (fun files (loc, node) => files.insert loc node) files)

def copy : Utility :=
  withOptions
    [⟨'r', "recursive", false⟩, ⟨'R', "", false⟩, ⟨'a', "archive", false⟩, ⟨'f', "force", false⟩,
      ⟨'i', "interactive", false⟩, ⟨'n', "no-clobber", false⟩, ⟨'p', "preserve", false⟩,
      ⟨'v', "verbose", false⟩, ⟨'t', "target-directory", true⟩, ⟨'T', "no-target-directory", false⟩,
      ⟨'d', "", false⟩, ⟨'u', "update", false⟩, ⟨'L', "dereference", false⟩, ⟨'P', "no-dereference", false⟩,
      ⟨'H', "", false⟩]
    1 fun p =>
    toTargets p fun source target => do
      let announce : Act Unit :=
        if p.has 'v' then Act.out (quoted source ++ " -> " ++ quoted target ++ "\n") else pure ()
      match ← Act.node source with
      | .error e => Act.fail ("cannot stat " ++ quoted source ++ ": " ++ e.description) 1
      | .ok (loc, .directory) =>
        if p.has 'r' || p.has 'R' || p.has 'a' then
          announce
          copyTree source target loc
        else Act.fail ("-r not specified; omitting directory " ++ quoted source) 1
      | .ok (loc, .file content executable) =>
        if p.has 'n' && (← Act.node target).toBool then return ()
        else
          announce
          copyContent source target loc content executable
      | .ok (loc, .device d) =>
        match d.read with
        | .ok content => copyContent source target loc content false
        | .error e => Act.fail ("error reading " ++ quoted source ++ ": " ++ e.description) 1

def move : Utility :=
  withOptions
    [⟨'f', "force", false⟩, ⟨'i', "interactive", false⟩, ⟨'n', "no-clobber", false⟩, ⟨'u', "update", false⟩,
      ⟨'v', "verbose", false⟩, ⟨'t', "target-directory", true⟩, ⟨'T', "no-target-directory", false⟩]
    1 fun p =>
    toTargets p fun source target => do
      let existing ← Act.node target
      match ← Act.node source with
      | .error e => Act.fail ("cannot stat " ++ quoted source ++ ": " ++ e.description) 1
      | .ok (loc, node) =>
        let isDirectory := match node with
          | .directory => true
          | _ => false
        let overDirectory := match existing with
          | .ok (_, .directory) => true
          | _ => false
        if existing.toOption.map (·.1) = some loc then
          Act.fail (quoted source ++ " and " ++ quoted target ++ " are the same file") 1
        else if existing.toBool && p.has 'n' then return ()
        else if isDirectory && existing.toBool && !overDirectory then
          Act.fail ("cannot overwrite non-directory " ++ quoted target ++ " with directory " ++ quoted source) 1
        else if !isDirectory && overDirectory then
          Act.fail ("cannot overwrite directory " ++ quoted target ++ " with non-directory") 1
        else
          match (← Act.files).rename (unicode source) (unicode target) with
          | .ok files =>
            Act.setFiles files
            if p.has 'v' then Act.out ("renamed " ++ quoted source ++ " -> " ++ quoted target ++ "\n")
          | .error .invalidArgument =>
            Act.fail ("cannot move " ++ quoted source ++ " to a subdirectory of itself, " ++ quoted target) 1
          | .error e =>
            Act.fail ("cannot move " ++ quoted source ++ " to " ++ quoted target ++ ": " ++ e.description) 1

/-- A second name for a file has its content. -/
def link : Utility :=
  withOptions
    [⟨'s', "symbolic", false⟩, ⟨'f', "force", false⟩, ⟨'n', "no-dereference", false⟩, ⟨'v', "verbose", false⟩,
      ⟨'t', "target-directory", true⟩, ⟨'T', "no-target-directory", false⟩]
    1 fun p =>
    toTargets p fun source target => do
      match ← Act.node source with
      | .error e => Act.fail ("failed to access " ++ quoted source ++ ": " ++ e.description) 1
      | .ok (_, .directory) => Act.fail (source ++ ": hard link not allowed for directory") 1
      | .ok (_, node) =>
        let files ← Act.files
        let complaint := "failed to create hard link " ++ quoted target
        match files.find (unicode target), files.locate (unicode target) with
        | .ok (loc, _), _ =>
          if p.has 'f' then Act.setFiles (files.insert loc node)
          else Act.fail (complaint ++ ": " ++ SystemError.alreadyExists.description) 1
        | _, .ok loc => Act.setFiles (files.insert loc node)
        | _, .error e =>
          Act.fail (complaint ++ " => " ++ quoted source ++ ": " ++ e.description) 1

/-! ## Removing -/

def remove : Utility :=
  withOptions
    [⟨'r', "recursive", false⟩, ⟨'R', "", false⟩, ⟨'f', "force", false⟩, ⟨'d', "dir", false⟩,
      ⟨'i', "", false⟩, ⟨'I', "", false⟩, ⟨'v', "verbose", false⟩]
    1 fun p => do
    if p.operands.isEmpty && !p.has 'f' then Act.misused "missing operand" 1
    else
      p.operands.forM fun operand => do
        let complaint := "cannot remove " ++ quoted operand
        let removed (what : String) : Act Unit :=
          if p.has 'v' then Act.out ("removed " ++ what ++ quoted operand ++ "\n") else pure ()
        let last := ((operand.splitOn "/").filter (!·.isEmpty)).getLast?
        if (last = some "." || last = some "..") && (p.has 'r' || p.has 'R') then
          Act.fail ("refusing to remove '.' or '..' directory: skipping " ++ quoted operand) 1
        else
          let files ← Act.files
          match files.find (unicode operand) with
          | .error .noEntry | .error .notDirectory =>
            if p.has 'f' then return ()
            else Act.change complaint fun _ => (files.find (unicode operand)).map fun _ => files
          | .error e => Act.fail (complaint ++ ": " ++ e.description) 1
          | .ok (loc, .directory) =>
            if p.has 'r' || p.has 'R' then
              if p.has 'v' then
                let inner := (files.below loc).mergeSort fun a b => Location.isAtMost b.1 a.1
                inner.forM fun (inside, node) =>
                  let what := match node with
                    | .directory => "removed directory "
                    | _ => "removed "
                  let path := operand ++ "/" ++ Text.Bytes.ofUnicode ("/".intercalate inside)
                  Act.out (what ++ quoted path ++ "\n")
              Act.setFiles (files.eraseTree loc)
              removed "directory "
            else if p.has 'd' then
              if files.hasEntries loc then
                Act.fail (complaint ++ ": " ++ SystemError.directoryNotEmpty.description) 1
              else
                Act.setFiles (files.erase loc)
                removed "directory "
            else Act.fail (complaint ++ ": " ++ SystemError.isDirectory.description) 1
          | .ok (loc, _) =>
            Act.setFiles (files.erase loc)
            removed ""

/-- The paths of the directories above a path, the nearest first. -/
def pathsAbove (path : String) : List String :=
  let pieces := (path.splitOn "/").filter (!·.isEmpty)
  let lead := if path.startsWith "/" then "/" else ""
  ((List.range pieces.length).drop 1).reverse.map fun n => lead ++ "/".intercalate (pieces.take n)

def removeDirectory : Utility :=
  withOptions [⟨'p', "parents", false⟩, ⟨'v', "verbose", false⟩] 1 fun p => do
    if p.operands.isEmpty then Act.misused "missing operand" 1
    else
      p.operands.forM fun operand =>
        (operand :: if p.has 'p' then pathsAbove operand else []).forM fun path =>
          Act.change ("failed to remove " ++ quoted path) fun files => do
            match ← files.find (unicode path) with
            | (loc, .directory) =>
              if files.hasEntries loc then .error .directoryNotEmpty else .ok (files.erase loc)
            | _ => .error .notDirectory

/-! ## Making -/

def makeDirectory : Utility :=
  withOptions [⟨'p', "parents", false⟩, ⟨'m', "mode", true⟩, ⟨'v', "verbose", false⟩] 1 fun p => do
    if p.operands.isEmpty then Act.misused "missing operand" 1
    else
      p.operands.forM fun operand => do
        let complaint (path : String) : String := "cannot create directory " ++ quoted path
        let create (path : String) : Act Unit := do
          Act.change (complaint path) fun files => files.createDirectory (unicode path)
          if p.has 'v' then Act.out ("mkdir: created directory " ++ quoted path ++ "\n")
        if p.has 'p' then
          ((pathsAbove operand).reverse ++ [operand]).forM fun path => do
            match ← Act.node path with
            | .ok (_, .directory) => return ()
            | .ok _ =>
              let e := if path = operand then SystemError.alreadyExists else .notDirectory
              Act.fail (complaint path ++ ": " ++ e.description) 1
            | .error .noEntry => create path
            | .error _ => return ()
        else create operand

def touch : Utility :=
  withOptions
    [⟨'c', "no-create", false⟩, ⟨'a', "", false⟩, ⟨'m', "", false⟩, ⟨'d', "date", true⟩, ⟨'t', "", true⟩,
      ⟨'r', "reference", true⟩]
    1 fun p => do
    if p.operands.isEmpty then Act.misused "missing file operand" 1
    else
      p.operands.forM fun operand => do
        match ← Act.node operand with
        | .ok _ => return ()
        | .error .noEntry =>
          if p.has 'c' then return ()
          else
            match (← Act.files).writeFile (unicode operand) .empty with
            | .ok files => Act.setFiles files
            | .error e =>
              let what := if e = .isDirectory then "setting times of " else "cannot touch "
              let e := if e = .isDirectory then SystemError.noEntry else e
              Act.fail (what ++ quoted operand ++ ": " ++ e.description) 1
        | .error e => Act.fail ("cannot touch " ++ quoted operand ++ ": " ++ e.description) 1

/-- Makes an empty file or directory with a new name and writes the name. -/
def makeTemporary : Utility :=
  withOptions [⟨'d', "directory", false⟩, ⟨'p', "tmpdir", true⟩, ⟨'t', "", false⟩, ⟨'u', "dry-run", false⟩] 1
    fun p => do
    let files ← Act.files
    let temporary := (← get).call.environment.temporaryDirectory
    let template := p.operands.head?.getD "tmp.XXXXXXXXXX"
    let lead :=
      match p.value? 'p' with
      | some directory => directory ++ "/"
      | none => if p.operands.isEmpty || p.has 't' then temporary ++ "/" else ""
    let marks := (template.toList.reverse.takeWhile (· = 'X')).length
    let stem := (template.dropEnd marks).toString
    let pathOf (n : Nat) : String :=
      let digits := toString n
      lead ++ stem ++ String.ofList (List.replicate (marks - digits.length) 'q') ++ digits
    let path := ((List.range 1000).map pathOf).find? fun path => !(files.find (unicode path)).toBool
    let path := path.getD (pathOf 1000)
    let kind := if p.has 'd' then "directory" else "file"
    let complaint := "failed to create " ++ kind ++ " via template " ++ quoted (lead ++ template)
    if marks < 3 then Act.fail ("too few X's in template " ++ quoted template) 1
    else Act.change complaint fun files =>
      if p.has 'u' then .ok files
      else if p.has 'd' then files.createDirectory (unicode path)
      else files.writeFile (unicode path) .empty
    if (← get).status = 0 then Act.out (path ++ "\n")

/-! ## Modes -/

/-- What a mode makes of the permission to execute; none if the mode means nothing. -/
def executableBy? (mode : String) (before : Bool) : Option Bool :=
  let chars := mode.toList
  if !chars.isEmpty && chars.all fun c => '0' ≤ c && c ≤ '7' then
    some <| chars.reverse.take 3 |>.any fun c => (c.toNat - 48) % 2 == 1
  else
    (mode.splitOn ",").foldl
      (fun result clause =>
        let who := clause.toList.takeWhile fun c => "ugoa".toList.contains c
        match result, clause.toList.drop who.length with
        | some held, sign :: permissions =>
          if !permissions.all fun c => "rwxXst".toList.contains c then none
          else
            let mentioned := permissions.contains 'x' || (permissions.contains 'X' && held)
            if sign = '+' then some (held || mentioned)
            else if sign = '-' then some (held && !mentioned)
            else if sign = '=' then some mentioned
            else none
        | _, _ => none)
      (some before)

def setExecutable (path : String) (mode : String) : Act Unit := do
  match ← Act.node path with
  | .ok (loc, .file content before) =>
    match executableBy? mode before with
    | some after => Act.setFiles ((← Act.files).insert loc (.file content after))
    | none => return ()
  | _ => return ()

def changeMode : Utility := ofAct do
  let arguments := (← Act.arguments).filter fun a => a != "-R" && a != "-v" && a != "-f" && a != "--"
  match arguments with
  | [] => Act.misused "missing operand" 1
  | [mode] => Act.misused ("missing operand after " ++ quoted mode) 1
  | mode :: paths =>
    if (executableBy? mode false).isNone then Act.misused ("invalid mode: " ++ quoted mode) 1
    else
      paths.forM fun path => do
        match ← Act.node path with
        | .error e => Act.fail ("cannot access " ++ quoted path ++ ": " ++ e.description) 1
        | .ok _ => setExecutable path mode

/-- Copies files that are to be run. -/
def install : Utility :=
  withOptions
    [⟨'m', "mode", true⟩, ⟨'d', "directory", false⟩, ⟨'D', "", false⟩, ⟨'v', "verbose", false⟩,
      ⟨'c', "", false⟩, ⟨'p', "preserve-timestamps", false⟩, ⟨'s', "strip", false⟩,
      ⟨'t', "target-directory", true⟩, ⟨'T', "no-target-directory", false⟩]
    1 fun p => do
    let makeMissing (path : String) : Act Unit := do
      if ← Act.isDirectory path then return ()
      else
        Act.change ("cannot create directory " ++ quoted path) fun files =>
          files.createDirectory (unicode path)
    if p.has 'd' then
      p.operands.forM fun operand =>
        (pathsAbove operand).reverse ++ [operand] |>.forM makeMissing
    else
      toTargets p fun source target => do
        if p.has 'D' then
          (pathsAbove target).reverse.forM makeMissing
        match ← Act.node source with
        | .error e => Act.fail ("cannot stat " ++ quoted source ++ ": " ++ e.description) 1
        | .ok (_, .directory) => Act.fail ("omitting directory " ++ quoted source) 1
        | .ok (loc, .file content _) =>
          copyContent source target loc content true
          setExecutable target ((p.value? 'm').getD "755")
        | .ok (loc, .device d) =>
          copyContent source target loc (d.read.toOption.getD .empty) true
          setExecutable target ((p.value? 'm').getD "755")

end Brainfuck.Utility
