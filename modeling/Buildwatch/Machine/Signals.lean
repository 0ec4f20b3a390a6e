import Buildwatch.Machine.Raw

/-!
# Signals

The numbers and names of signals, and what is said of a task that one of them has ended.
-/

namespace Buildwatch.Machine.Signals

/-- The names of signals; number zero stands for the end of a shell. -/
def names : List (String × Nat) :=
  [("EXIT", 0), ("HUP", 1), ("INT", 2), ("QUIT", 3), ("ILL", 4), ("TRAP", 5), ("ABRT", 6), ("BUS", 7),
    ("FPE", 8), ("KILL", 9), ("USR1", 10), ("SEGV", 11), ("USR2", 12), ("PIPE", 13), ("ALRM", 14),
    ("TERM", 15), ("CHLD", 17), ("CONT", 18), ("STOP", 19), ("TSTP", 20),
    ("TTIN", 21), ("TTOU", 22), ("URG", 23), ("XCPU", 24), ("XFSZ", 25), ("VTALRM", 26),
    ("PROF", 27), ("WINCH", 28), ("IO", 29), ("PWR", 30), ("SYS", 31)]

def name (n : Nat) : Raw :=
  match names.find? (·.2 = n) with
  | some (name, _) => Raw.ascii name
  | none =>
    if n < 34 then Raw.ofNat n
    else if n = 34 then Raw.ascii "RTMIN"
    else if n < 50 then Raw.ascii "RTMIN+" ++ Raw.ofNat (n - 34)
    else if n < 64 then Raw.ascii "RTMAX-" ++ Raw.ofNat (64 - n)
    else Raw.ascii "RTMAX"

/-- The number of a signal, given as number or name. -/
def number? (r : Raw) : Option Nat :=
  match Raw.natural? r with
  | some n => if n < 65 then some n else none
  | none =>
    let given := Raw.upper r
    let given := if Raw.startsWith (Raw.ascii "SIG") given then given.drop 3 else given
    (List.range 65).find? fun n => (n ≠ 32 && n ≠ 33) && name n = given

/-- What is said about a task that a signal has ended. -/
def text? (signal : Nat) : Option String :=
  match signal with
  | 1 => some "Hangup"
  | 3 => some "Quit"
  | 4 => some "Illegal instruction"
  | 5 => some "Trace/breakpoint trap"
  | 6 => some "Aborted"
  | 7 => some "Bus error"
  | 8 => some "Floating point exception"
  | 9 => some "Killed"
  | 10 => some "User defined signal 1"
  | 11 => some "Segmentation fault"
  | 12 => some "User defined signal 2"
  | 14 => some "Alarm clock"
  | 15 => some "Terminated"
  | 16 => some "Stack fault"
  | 24 => some "CPU time limit exceeded"
  | 25 => some "File size limit exceeded"
  | 26 => some "Virtual timer expired"
  | 27 => some "Profiling timer expired"
  | 29 => some "I/O possible"
  | 30 => some "Power failure"
  | 31 => some "Bad system call"
  | n => if 34 ≤ n && n ≤ 64 then some ("Real-time signal " ++ toString (n - 34)) else none

/-- The signals that do nothing unless asked for. -/
def harmless : List Nat := [17, 18, 19, 20, 21, 22, 23, 28]

end Buildwatch.Machine.Signals
