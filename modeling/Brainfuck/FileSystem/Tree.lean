import Brainfuck.FileSystem
/-!
# File systems as trees

When the table of a file system is a tree of directories, and what it means that a program leaves directories in
place or writes below one location only.
-/

namespace Brainfuck

/-- A name under which a directory can hold a node. -/
structure IsName (name : String) : Prop where
  nonempty : name ≠ ""
  noSlash : '/' ∉ name.toList
  ne_dot : name ≠ "."
  ne_dots : name ≠ ".."

namespace FileSystem

/-- Every node but the root stands in a directory under a name, and the current directory is one. -/
structure WellFormed (fs : FileSystem) : Prop where
  parent : ∀ {loc name}, (fs.node? (loc ++ [name])).isSome → fs.node? loc = some .directory
  name : ∀ {loc name}, (fs.node? (loc ++ [name])).isSome → IsName name
  current : fs.node? fs.current = some .directory

/-- The directories of `fs` are directories of `fs'` too. -/
structure KeepsDirectories (fs fs' : FileSystem) : Prop where
  current : fs'.current = fs.current
  directory : ∀ {loc}, fs.node? loc = some .directory → fs'.node? loc = some .directory

/-- Whatever `fs'` has other than `fs` stands below the location. -/
structure ChangesBelow (top : Location) (fs fs' : FileSystem) : Prop where
  current : fs'.current = fs.current
  elsewhere : ∀ {loc}, (top <+: loc → loc = top) → fs'.node? loc = fs.node? loc
  wellFormed : fs.WellFormed → fs'.WellFormed

end FileSystem

end Brainfuck
