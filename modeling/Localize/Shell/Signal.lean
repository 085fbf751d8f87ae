import Localize.Text

/-! The signals that processes send each other. -/

namespace Localize.Shell.Signal

/-- The names of the first signals, from 0, which stands for the end of a script. -/
def firstNames : List Text :=
  ["EXIT", "HUP", "INT", "QUIT", "ILL", "TRAP", "ABRT", "BUS", "FPE", "KILL", "USR1", "SEGV",
    "USR2", "PIPE", "ALRM", "TERM", "16", "CHLD", "CONT", "STOP", "TSTP", "TTIN", "TTOU", "URG",
    "XCPU", "XFSZ", "VTALRM", "PROF", "WINCH", "IO", "PWR", "SYS", "32", "33"].map String.toList

def firstRealTime : Nat := 34

def lastRealTime : Nat := 64

def realTimeName (n : Nat) : Text :=
  let distance (n : Nat) (sign : Char) : Text := if n = 0 then [] else sign :: Text.ofNat n
  if n - firstRealTime ≤ 15 then "RTMIN".toList ++ distance (n - firstRealTime) '+'
  else "RTMAX".toList ++ distance (lastRealTime - n) '-'

def names : List Text :=
  firstNames ++ (List.range' firstRealTime (lastRealTime + 1 - firstRealTime)).map realTimeName

def exit : Nat := 0

def kill : Nat := 9

def terminate : Nat := 15

def limit : Nat := lastRealTime + 1

def isHarmless (n : Nat) : Bool := [0, 17, 18, 23, 28].contains n

def stops (n : Nat) : Bool := [19, 20, 21, 22].contains n

def upper (c : Char) : Char := if 'a' ≤ c && c ≤ 'z' then Char.ofNat (c.toNat - 32) else c

def ofText? (lowest : Nat) (t : Text) : Option Nat :=
  if t ≠ [] && t.all Text.isDigit then
    if Text.natValue t < limit then some (Text.natValue t) else none
  else (names.findIdx? (· = t.map upper)).filter (lowest ≤ ·)

def name (n : Nat) : Text := names.getD n (Text.ofNat n)

def description (n : Nat) : Text :=
  match n with
  | 1 => "Hangup".toList
  | 2 => "Interrupt".toList
  | 3 => "Quit".toList
  | 4 => "Illegal instruction".toList
  | 5 => "Trace/breakpoint trap".toList
  | 6 => "Aborted".toList
  | 7 => "Bus error".toList
  | 8 => "Floating point exception".toList
  | 9 => "Killed".toList
  | 10 => "User defined signal 1".toList
  | 11 => "Segmentation fault".toList
  | 12 => "User defined signal 2".toList
  | 13 => "Broken pipe".toList
  | 14 => "Alarm clock".toList
  | 15 => "Terminated".toList
  | 16 => "Stack fault".toList
  | 24 => "CPU time limit exceeded".toList
  | 25 => "File size limit exceeded".toList
  | 26 => "Virtual timer expired".toList
  | 27 => "Profiling timer expired".toList
  | 29 => "I/O possible".toList
  | 30 => "Power failure".toList
  | 31 => "Bad system call".toList
  | n => if firstRealTime ≤ n then "Real-time signal ".toList ++ Text.ofNat (n - firstRealTime)
    else "Unknown signal ".toList ++ Text.ofNat n

end Localize.Shell.Signal
