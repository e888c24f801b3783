/-!
# Targets

The languages a program can be written in, with the names users give them and the file extensions by which
compiler drivers recognise them.
-/

namespace Brainfuck

inductive Target where
  | llvm
  | c
deriving DecidableEq

/-- A name that stands for no target. -/
structure UnknownTarget where
  name : String
deriving DecidableEq

def UnknownTarget.message (e : UnknownTarget) : String :=
  "Unknown target: " ++ e.name

namespace Target

instance : Inhabited Target := ⟨llvm⟩

def name : Target → String
  | llvm => "llvm"
  | c => "c"

def fileExtension : Target → String
  | llvm => "ll"
  | c => "c"

/-- The target with the given name. -/
def ofName (name : String) : Except UnknownTarget Target :=
  if name = "llvm" then .ok llvm
  else if name = "c" then .ok c
  else .error ⟨name⟩

end Target

end Brainfuck
