import Brainfuck.CommandLine
/-!
# The program

`CommandLine.run` between the system's input and output. The files that the arguments name are loaded
before the run, and what the run changed is stored after it. No process can be started from here, so every
driver counts as one that the system does not run.
-/

namespace Brainfuck.Main

open CommandLine

def loadEnvironment : IO Environment := do
  let entries ← ["BFCC_CC", "CC", "BFCC_LOG", "TMPDIR"].filterMapM fun name => do
    return (← IO.getEnv name).map fun value => (name, value)
  return ⟨entries⟩

partial def readToEnd (stream : IO.FS.Stream) (content : ByteArray) : IO ByteArray := do
  let chunk ← stream.read 65536
  if chunk.isEmpty then return content else readToEnd stream (content ++ chunk)

/-- Where pieces lead from a location, two dots to the directory above. -/
def follow (loc : Location) (pieces : List String) : Location :=
  pieces.foldl
    (fun loc piece => if piece = "." then loc else if piece = ".." then loc.dropLast else loc ++ [piece]) loc

/-- Puts what stands at a path, if anything, into its place. -/
def load (path : String) (loc : Location) (files : FileSystem) : IO FileSystem := do
  try
    if ← (← IO.FS.realPath path).isDir then return files.plant loc .directory
    else return files.plant loc (.file (← IO.FS.readBinFile path) false)
  catch _ => return files

/-- Loads a path with all directories that lead to it. -/
def loadPath (files : FileSystem) (path : String) : IO FileSystem := do
  let p := Path.ofText path
  let base := if p.absolute then [] else files.current
  let lead := if p.absolute then "/" else ""
  ((List.range p.pieces.length).map (p.pieces.take <| · + 1)).foldlM
    (fun files pieces => load (lead ++ "/".intercalate pieces) (follow base pieces) files) files

/-- The files that a run with the given arguments can see. -/
def loadFiles (a : Arguments) (temporaryDirectory : String) : IO FileSystem := do
  let current := (Path.ofText (← IO.currentDir).toString).pieces
  let files := FileSystem.plant ⟨[], current⟩ current .directory
  (temporaryDirectory :: a.file.toList ++ a.out.toList).foldlM loadPath files

def store (before after : FileSystem) : IO Unit :=
  (FileSystem.changed before after []).forM fun (loc, node) =>
    match node with
    | .file content _ => IO.FS.writeBinFile ("/" ++ "/".intercalate loc) content
    | _ => pure ()

def noLauncher : Launcher := fun _ _ files => (.notStarted (.system .notImplemented), files)

def maxSteps : Nat := 4611686018427387904

/-- Gathers what the run needs; the input is read only where a program is to be run. -/
def context (arguments : List String) : IO Context := do
  let environment ← loadEnvironment
  let toolchain : Toolchain :=
    ⟨noLauncher, environment.temporaryDirectory, toString (← IO.rand 100000 999999)⟩
  match parseArguments arguments with
  | .arguments a =>
    let files ← loadFiles a toolchain.temporaryDirectory
    let input ← if a.run then readToEnd (← IO.getStdin) .empty else pure .empty
    return ⟨environment, input.toList, files, toolchain⟩
  | _ => return ⟨environment, [], ⟨[], []⟩, toolchain⟩

def diagnosticTexts : Diagnostics → List String
  | .texts ts => ts
  | .malformedArguments => ["error: The arguments are malformed\n", usageText]

def start (arguments : List String) : IO UInt32 := do
  let c ← context arguments
  match CommandLine.run maxSteps c arguments with
  | none =>
    IO.eprintln "error: The program does not end"
    return 1
  | some exit =>
    let stdout ← IO.getStdout
    stdout.write ⟨exit.output⟩
    stdout.flush
    (diagnosticTexts exit.diagnostics).forM fun text => IO.eprintln text
    store c.files exit.files
    return exit.code.toUInt32

end Brainfuck.Main

def main (arguments : List String) : IO UInt32 :=
  Brainfuck.Main.start arguments
