import Brainfuck.Shell.Evaluation
import Brainfuck.Toolchain
/-!
# Launching drivers

A launcher for machines whose programs are those of the library and scripts for its shell. A driver gets an
environment, an empty input and pipes for what it writes. It succeeds if it ends by itself with status 0.
-/

namespace Brainfuck.Shell

/-- What launches a driver: a process with nothing as its input and with two pipes. The pipe for errors is the
last one. -/
def launchingProcess (files : FileSystem) : Process :=
  let world : World :=
    { files := files, pipes := #[.empty, .empty, .empty], started := 1000
      opened := #[⟨.pipe 0, 0, .read⟩, ⟨.pipe 1, 0, .write⟩, ⟨.pipe 2, 0, .write⟩] }
  .start world [(0, 0), (1, 1), (2, 2)] [] ⟨[]⟩ 999 1 "" [] []

/-- Finds a driver by its path or among the programs. -/
def launch (env : Environment) (words : List String) : Run (Except SystemError Ending) := do
  let name := words.headD ""
  let search := (env.value? "PATH").getD standardSearch
  let files := (← get).world.files
  match if name.isEmpty then .error .noEntry else locateCommand files search name with
  | .error e => return .error e
  | .ok path => execute .standard maxNesting path words env

/-- Runs drivers in an environment. -/
def launcher (env : Environment) : Launcher := fun driver arguments files =>
  if (driver :: arguments).any fun text => text.toList.contains '\x00' then
    (.notStarted .nulInArgument, files)
  else
    let bytes (text : String) : String := Text.Bytes.ofUnicode text
    let env : Environment := ⟨env.entries.map fun (name, value) => (bytes name, bytes value)⟩
    let ended (success : Bool) (p : Process) : Launch × FileSystem :=
      (.ended success ((p.world.pipes.getD 2 .empty).toList),
        { p.world.files with current := files.current })
    match launch env ((driver :: arguments).map bytes) (launchingProcess files) with
    | .ok (.error e) _ => (.notStarted (.system e), files)
    | .ok (.ok (.exited status)) p => ended (status = 0) p
    | .ok (.ok (.killed _)) p => ended false p
    | .error _ p => ended false p

end Brainfuck.Shell
