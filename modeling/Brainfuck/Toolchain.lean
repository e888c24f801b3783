import Brainfuck.FileSystem
/-!
# Toolchains

A compiler driver is a program that is given arguments and files. Nothing is assumed about what it does:
whoever runs the library supplies a `Launcher`.
-/

namespace Brainfuck

/-- How an attempt to run a driver came out. -/
inductive Launch where
  | notStarted (e : IoError)
  | ended (success : Bool) (errorOutput : List UInt8)

/-- Runs a driver, found by its name or path, with arguments on files. The run is a step of the monad. -/
abbrev LauncherIn (m : Type → Type) :=
  (driver : String) → (arguments : List String) → FileSystem → m (Launch × FileSystem)

abbrev Launcher := LauncherIn Id

/-- What builds work with: how drivers are run, where temporary files go, and what makes their names
unique. -/
structure Toolchain where
  launch : Launcher
  temporaryDirectory : String
  tag : String

end Brainfuck
