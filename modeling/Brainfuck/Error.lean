import Brainfuck.Target
/-!
# Errors

Every way in which validating, generating, running or writing a program can fail, as a cause. The wording
of a cause is in its `message`; nothing else in the library inspects texts.
-/

namespace Brainfuck

/-! ## Input and output -/

/-- What a byte stream can answer in place of a byte. -/
inductive StreamFault where
  | notFound
  | permissionDenied
  | brokenPipe
  | wouldBlock
  | invalidData
  | timedOut
  | writeZero
  | interrupted
  | unexpectedEof
  | other
deriving DecidableEq

/-- The refusals of an operating system that files and processes meet. -/
inductive SystemError where
  | noEntry
  | noDevice
  | badExecutable
  | permissionDenied
  | busy
  | alreadyExists
  | notDirectory
  | isDirectory
  | invalidArgument
  | noSpace
  | nameTooLong
  | notImplemented
  | directoryNotEmpty
deriving DecidableEq

inductive IoError where
  | fault (f : StreamFault)
  | incompleteWrite
  | system (e : SystemError)
  | invalidUtf8
  | nulInPath
  | nulInArgument
  | atPath (e : IoError) (path : String)
  | described (text : String)
deriving DecidableEq

namespace StreamFault

def message : StreamFault → String
  | notFound => "entity not found"
  | permissionDenied => "permission denied"
  | brokenPipe => "broken pipe"
  | wouldBlock => "operation would block"
  | invalidData => "invalid data"
  | timedOut => "timed out"
  | writeZero => "write zero"
  | interrupted => "operation interrupted"
  | unexpectedEof => "unexpected end of file"
  | other => "other error"

end StreamFault

namespace SystemError

/-- The number under which the system reports the error. -/
def code : SystemError → Nat
  | noEntry => 2
  | noDevice => 6
  | badExecutable => 8
  | permissionDenied => 13
  | busy => 16
  | alreadyExists => 17
  | notDirectory => 20
  | isDirectory => 21
  | invalidArgument => 22
  | noSpace => 28
  | nameTooLong => 36
  | notImplemented => 38
  | directoryNotEmpty => 39

def description : SystemError → String
  | noEntry => "No such file or directory"
  | noDevice => "No such device or address"
  | badExecutable => "Exec format error"
  | permissionDenied => "Permission denied"
  | busy => "Device or resource busy"
  | alreadyExists => "File exists"
  | notDirectory => "Not a directory"
  | isDirectory => "Is a directory"
  | invalidArgument => "Invalid argument"
  | noSpace => "No space left on device"
  | nameTooLong => "File name too long"
  | notImplemented => "Function not implemented"
  | directoryNotEmpty => "Directory not empty"

def message (e : SystemError) : String :=
  e.description ++ " (os error " ++ toString e.code ++ ")"

end SystemError

namespace IoError

def message : IoError → String
  | fault f => f.message
  | incompleteWrite => "failed to write whole buffer"
  | system e => e.message
  | invalidUtf8 => "stream did not contain valid UTF-8"
  | nulInPath => "file name contained an unexpected NUL byte"
  | nulInArgument => "nul byte found in provided data"
  | atPath e path => e.message ++ " at path \"" ++ path ++ "\""
  | described text => text

end IoError

/-! ## Sources and programs -/

/-- Why a source is no program. Positions count characters from 1. -/
inductive SourceError where
  | empty
  | unexpectedClosing (position : Nat)
  | unclosedOpenings (positions : List Nat)
deriving DecidableEq

/-- How the loops of an instruction list fail to pair up. -/
inductive Inconsistency where
  | unmatchedFinish
  | unmatchedStart
  | loopsLeftOpen
  | described (text : String)
deriving DecidableEq

/-- Why a compiler driver produced no executable. -/
inductive ToolchainFailure where
  | needsClang (target : Target)
  | notStarted (e : IoError)
  | reported (text : String)
deriving DecidableEq

inductive Error where
  | source (e : SourceError)
  | inconsistent (e : Inconsistency)
  | invalidTapeLength (length : Nat)
  | io (e : IoError)
  | toolchain (driver : String) (failure : ToolchainFailure)
  | tapeUnderflow
  | tapeOverflow
  | headOverflow
  | emptyTape
deriving DecidableEq

namespace SourceError

def message : SourceError → String
  | empty => "Invalid source: the program is empty"
  | unexpectedClosing position => "Position " ++ toString position ++ ": Unexpected ']'"
  | unclosedOpenings positions =>
    "Unmatched '[': " ++ ", ".intercalate (positions.map toString) ++ " are unclosed"

end SourceError

namespace Inconsistency

def message : Inconsistency → String
  | unmatchedFinish => "loop end without a matching loop start"
  | unmatchedStart => "loop start without a matching loop end"
  | loopsLeftOpen => "loop stack not empty at end of program"
  | described text => text

end Inconsistency

namespace ToolchainFailure

def message : ToolchainFailure → String
  | needsClang target =>
    target.name ++ " code can only be linked with clang. Use the C target or a clang driver"
  | notStarted e => e.message ++ ". Be sure that it is installed and available in $PATH"
  | reported text => text

end ToolchainFailure

namespace Error

def message : Error → String
  | source e => e.message
  | inconsistent e => "Internal inconsistency: " ++ e.message
  | invalidTapeLength length => "Invalid tape length: " ++ toString length
  | io e => "I/O error: " ++ e.message
  | toolchain driver failure => "Cannot link using " ++ driver ++ ": " ++ failure.message
  | tapeUnderflow => "Tape underflow"
  | tapeOverflow => "Tape overflow"
  | headOverflow => "attempt to add with overflow"
  | emptyTape => "Tape size must be at least 1."

end Error

end Brainfuck
