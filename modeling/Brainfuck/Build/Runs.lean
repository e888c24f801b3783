import Brainfuck.Build
import Brainfuck.FileSystem.Tree
/-!
# Runs of drivers

The runs of drivers that a build makes, and what a build may rely on: new names for its scratch files, and drivers
that write below its staging directory only.
-/

namespace Brainfuck

/-- A run of a driver on the files as they are. -/
structure DriverRun where
  driver : String
  arguments : List String
  files : FileSystem

namespace Toolchain

/-- Runs drivers as the toolchain does, and writes the runs down. -/
def launchRecorded (toolchain : Toolchain) : LauncherIn (StateM (List DriverRun)) :=
  fun driver arguments files => do
    modify (· ++ [⟨driver, arguments, files⟩])
    return toolchain.launch driver arguments files

/-- Whatever the driver is and meets, it changes nothing but what is below the staging directory. -/
def Confined (toolchain : Toolchain) (scratch : Scratch) : Prop :=
  ∀ (driver : String) (optimizationLevel : Nat) (files : FileSystem) (staging : Location),
    files.locate scratch.staging = .ok staging →
    FileSystem.ChangesBelow staging files (toolchain.launch driver (scratch.arguments optimizationLevel) files).2

end Toolchain

/-- The tag can be part of a name, and the temporary file is new: nothing is at its path, and the executable goes
elsewhere. -/
structure Scratch.IsNew (scratch : Scratch) (toolchain : Toolchain) (path : String) (files : FileSystem) : Prop where
  tag : '/' ∉ toolchain.tag.toList
  temporary : ∀ {loc}, files.locate scratch.temporary = .ok loc → files.node? loc = none
  path : ∀ {loc}, files.locate scratch.temporary = .ok loc → files.locate path ≠ .ok loc

namespace Options

/-- The scratch files of a build. -/
def scratch (toolchain : Toolchain) (options : Options) (path : String) (files : FileSystem) : Scratch :=
  .forPath toolchain options.target path files.current

/-- The runs of drivers that a build makes, in order. -/
def driverRuns (toolchain : Toolchain) (options : Options) (text path : String) (files : FileSystem) :
    List DriverRun :=
  ((options.buildIn toolchain.launchRecorded toolchain text path files).run []).2

end Options

/-- The last name in the path of the driver contains `clang`. -/
def NamesClang (driver : String) : Prop :=
  ∃ name, (Path.ofText driver).fileName? = some name ∧ "clang".toList <:+: name.toList

end Brainfuck
