/-!
# Signals

The names of the signals, which are numbered from 1, and what is said of a process that one has killed.
-/

namespace Brainfuck.Shell.Signal

def names : List String :=
  ["HUP", "INT", "QUIT", "ILL", "TRAP", "ABRT", "BUS", "FPE", "KILL", "USR1", "SEGV", "USR2", "PIPE", "ALRM",
    "TERM", "STKFLT", "CHLD", "CONT", "STOP", "TSTP", "TTIN", "TTOU", "URG", "XCPU", "XFSZ", "VTALRM", "PROF",
    "WINCH", "IO", "PWR", "SYS", "32", "33", "RTMIN"]
    ++ (List.range 15).map (fun i => "RTMIN+" ++ toString (i + 1))
    ++ (List.range 14).map (fun i => "RTMAX-" ++ toString (14 - i)) ++ ["RTMAX"]

/-- The name of a number. The end of a shell counts as number 0. -/
def name? (number : Nat) : Option String :=
  if number = 0 then some "EXIT" else names[number - 1]?

/-- The number that a text stands for: a number or a name in any case. -/
def ofText? (text : String) : Option Nat :=
  if !text.isEmpty && text.all Char.isDigit then text.toNat?.filter (· ≤ names.length)
  else if text.toUpper = "EXIT" then some 0
  else (names.findIdx? (· == text.toUpper)).map (· + 1)

/-- Does a process live on that does nothing about the signal? -/
def isHarmless (number : Nat) : Bool := number = 0 || number = 17 || number = 18 || number = 23 || number = 28

/-- What a shell says of a process that the signal has killed. -/
def epitaph : Nat → String
  | 1 => "Hangup"
  | 2 | 13 => ""
  | 3 => "Quit"
  | 4 => "Illegal instruction"
  | 5 => "Trace/breakpoint trap"
  | 6 => "Aborted"
  | 7 => "Bus error"
  | 8 => "Floating point exception"
  | 9 => "Killed"
  | 10 => "User defined signal 1"
  | 11 => "Segmentation fault"
  | 12 => "User defined signal 2"
  | 14 => "Alarm clock"
  | 15 => "Terminated"
  | 16 => "Stack fault"
  | 24 => "CPU time limit exceeded"
  | 25 => "File size limit exceeded"
  | 26 => "Virtual timer expired"
  | 27 => "Profiling timer expired"
  | 29 => "I/O possible"
  | 30 => "Power failure"
  | 31 => "Bad system call"
  | n => "Real-time signal " ++ toString (n - 34)

end Brainfuck.Shell.Signal
