import Brainfuck.Shell.Expansion
/-!
# Redirections

All targets are expanded before the first file is opened. A redirection that cannot be done is an error of
the shell, which its commands survive.
-/

namespace Brainfuck.Shell

/-- A redirection with its target expanded. No source closes the descriptor. -/
inductive Opening where
  | file (descriptor : Nat) (access : Access) (path : String)
  | duplicate (descriptor : Nat) (source : Option Nat)
  | document (descriptor : Nat) (index : Nat)

/-! ## Targets -/

def Redirection.expand (e : Engine) : Redirection → Run Opening
  | .file descriptor access target => return .file descriptor access (← textOfWord e target)
  | .document descriptor index => return .document descriptor index
  | .duplicate descriptor target => do
    let text ← textOfWord e target
    if text = "-" then return .duplicate descriptor none
    else if text.length = 1 && text.all Char.isDigit then return .duplicate descriptor text.toNat?
    else
      modify fun p => { p with line := p.reached }
      Run.fail "Syntax error: Bad fd number"

/-! ## Opening -/

/-- The descriptor that a path stands for. -/
def descriptorOfPath? (path : String) : Option Nat :=
  match path with
  | "/dev/stdin" => some 0
  | "/dev/stdout" => some 1
  | "/dev/stderr" => some 2
  | path =>
    match (path.dropPrefix? "/dev/fd/").or (path.dropPrefix? "/proc/self/fd/") with
    | some digits => if digits.isEmpty || !digits.all Char.isDigit then none else digits.toNat?
    | none => none

/-- How the shell words a refusal to open a file. -/
def openingRefusal (access : Access) (e : SystemError) : String :=
  match e with
  | .noEntry | .notDirectory => if access = .read then "No such file" else "Directory nonexistent"
  | e => e.description

def refuseOpening {α : Type} (access : Access) (path : String) (e : SystemError) : Run α :=
  Run.fail
    ((if access = .read then "cannot open " else "cannot create ") ++ path ++ ": " ++ openingRefusal access e)

/-- Opens a path. A path that stands for a descriptor opens again what the descriptor leads to. -/
def openPath (access : Access) (path : String) : Run Nat := do
  let p ← get
  let opened (path : String) : Run Nat := do
    match p.world.openFile (Text.Bytes.toUnicode path) access with
    | .error e => refuseOpening access path e
    | .ok (index, world) =>
      set { p with world := world }
      return index
  match descriptorOfPath? path with
  | none =>
    let isThere := (p.world.files.find (Text.Bytes.toUnicode path)).toOption.any fun (_, node) =>
      match node with
      | .file _ _ => true
      | _ => false
    if access = .write && p.flags.contains 'C' && isThere then refuseOpening access path .alreadyExists
    else opened path
  | some descriptor =>
    match p.descriptors.lookup descriptor with
    | none => refuseOpening access path .noEntry
    | some index =>
      match p.world.opened[index]? with
      | some ⟨.file loc, _, _⟩ => opened (Text.Bytes.ofUnicode ("/" ++ "/".intercalate loc))
      | _ => return index

def Opening.perform (e : Engine) : Opening → Run Unit
  | .file descriptor access path => do
    let index ← openPath access path
    Run.setDescriptor descriptor (some index)
  | .duplicate descriptor none => Run.setDescriptor descriptor none
  | .duplicate descriptor (some source) => do
    if source = descriptor then return ()
    else
      match (← get).descriptors.lookup source with
      | none => Run.fail (toString source ++ ": Bad file descriptor")
      | some index => Run.setDescriptor descriptor (some index)
  | .document descriptor index => do
    let text ← textOfDocument e ((← get).documents.getD index [])
    let p ← get
    let (opened, world) := p.world.addPipe (Text.Bytes.toArray text)
    set { p with world := world }
    Run.setDescriptor descriptor (some opened)

/-- Performs redirections one after the other. Answers whether all could be done. -/
def performAll (e : Engine) (openings : List Opening) : Run Bool := do
  tryCatch
    (do
      openings.forM (Opening.perform e)
      return true)
    fun i =>
      match i with
      | .failed status => do
        Run.setStatus status
        return false
      | i => throw i

/-- Does something with redirections. They end with it. Where one cannot be done the status says so. -/
def redirecting (e : Engine) (redirections : List Redirection) (action : Run Unit) : Run Unit := do
  let openings ← redirections.mapM (Redirection.expand e)
  Run.keepingDescriptors do
    if ← performAll e openings then action

end Brainfuck.Shell
