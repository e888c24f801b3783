import Brainfuck.Block
import Brainfuck.Code.C.Machine
import Brainfuck.Code.Linear.Machine
import Brainfuck.Code.Llvm.Graph
import Brainfuck.Code.Llvm.Machine
import Brainfuck.Instruction.Agreement
import Brainfuck.Instruction.Balance
import Brainfuck.Interpreter.Checked
import Brainfuck.Interpreter.History
import Brainfuck.Interpreter.Trace
import Brainfuck.Interpreter.Workshop
import Brainfuck.Main
import Brainfuck.Shell.Arithmetic
import Brainfuck.Shell.Builtin
import Brainfuck.Shell.Builtin.Control
import Brainfuck.Shell.Builtin.Texts
import Brainfuck.Shell.Builtin.Variables
import Brainfuck.Shell.Command
import Brainfuck.Shell.Condition
import Brainfuck.Shell.Evaluation
import Brainfuck.Shell.Execution
import Brainfuck.Shell.Expansion
import Brainfuck.Shell.Field
import Brainfuck.Shell.Format
import Brainfuck.Shell.Launcher
import Brainfuck.Shell.Process
import Brainfuck.Shell.Program
import Brainfuck.Shell.Redirection
import Brainfuck.Shell.Scanner
import Brainfuck.Shell.Scanner.Command
import Brainfuck.Shell.Scanner.Word
import Brainfuck.Shell.Signal
import Brainfuck.Source.Brackets
import Brainfuck.Source.RunLength
import Brainfuck.Text.Bytes
import Brainfuck.Text.CharacterClass
import Brainfuck.Text.Regex
import Brainfuck.Text.Regex.Notation
import Brainfuck.Text.Regex.Traditional
import Brainfuck.Utility
import Brainfuck.Utility.Edit
import Brainfuck.Utility.Files
import Brainfuck.Utility.Lines
import Brainfuck.Utility.Search
import Brainfuck.Utility.Values
import Brainfuck.Proofs.Balance
import Brainfuck.Proofs.Blocks
import Brainfuck.Proofs.Brackets
import Brainfuck.Proofs.C.Reading
import Brainfuck.Proofs.C.Refinement
import Brainfuck.Proofs.Coalescing
import Brainfuck.Proofs.Code
import Brainfuck.Proofs.Decoding
import Brainfuck.Proofs.Heights
import Brainfuck.Proofs.Diagnosis
import Brainfuck.Proofs.Endless
import Brainfuck.Proofs.Execution
import Brainfuck.Proofs.Failure
import Brainfuck.Proofs.Linear
import Brainfuck.Proofs.Llvm.Graph
import Brainfuck.Proofs.Llvm.Listing
import Brainfuck.Proofs.Llvm.Reading
import Brainfuck.Proofs.Llvm.Refinement
import Brainfuck.Proofs.Lockstep
import Brainfuck.Proofs.Optimisation
import Brainfuck.Proofs.Partners
import Brainfuck.Proofs.Refinement
import Brainfuck.Proofs.RunLength
import Brainfuck.Proofs.Sessions
import Brainfuck.Proofs.Targets
import Brainfuck.Proofs.Rendering
import Brainfuck.Proofs.LongerTape
import Brainfuck.Proofs.Concatenation
import Brainfuck.Build.Runs
import Brainfuck.Proofs.FileSystem
import Brainfuck.Proofs.Builds
import Brainfuck.Proofs.Histories
import Brainfuck.Proofs.Conservation
import Brainfuck.Code.Linear.Labels
import Brainfuck.Proofs.Labels
import Brainfuck.CommandLine.Sense
import Brainfuck.Proofs.Requests
import Brainfuck.CommandLine.Outcome
import Brainfuck.Proofs.Outcomes
import Brainfuck.Interpreter.Pairing
import Brainfuck.Proofs.Pairing
import Brainfuck.Code.Llvm.Assignment
import Brainfuck.Proofs.Llvm.Assignment
import Brainfuck.Options.Calls
import Brainfuck.Proofs.Choices
