/-!
# Signals

The signals that processes are sent, by their numbers and names, and what is said of a process that
one has ended.
-/

namespace CallForest.Shell.Signal

/-- The names of the signals, the first of which has the number one. -/
def names : List String :=
  ["HUP", "INT", "QUIT", "ILL", "TRAP", "ABRT", "BUS", "FPE", "KILL", "USR1", "SEGV", "USR2",
    "PIPE", "ALRM", "TERM", "STKFLT", "CHLD", "CONT", "STOP", "TSTP", "TTIN", "TTOU", "URG", "XCPU",
    "XFSZ", "VTALRM", "PROF", "WINCH", "IO", "PWR", "SYS"]

/-- The name that stands for the end of a script among the signals. -/
def exitName : String := "EXIT"

/-- The greatest number of a signal. -/
def last : Nat := 64

/-- The first of the signals for other purposes, which are named by their distances from both
ends. -/
def firstFree : Nat := 34

/-- The name of a signal; two that are reserved have their numbers. -/
def name? (n : Nat) : Option String :=
  if n = 0 then some exitName
  else if n ≤ names.length then names[n - 1]?
  else if n < firstFree then some (toString n)
  else if n = firstFree then some "RTMIN"
  else if n < 50 then some ("RTMIN+" ++ toString (n - firstFree))
  else if n < last then some ("RTMAX-" ++ toString (last - n))
  else if n = last then some "RTMAX"
  else none

/-- The name of a signal in the plain shell, which knows one name less. -/
def plainName? (n : Nat) : Option String := if n = 16 then some "16" else name? n

/-- The number that digits show, if it is that of a signal or zero. -/
def ofDigits? (s : List Char) : Option Nat :=
  if !s.isEmpty && s.all Char.isDigit then
    let n := s.foldl (fun n c => n * 10 + (c.toNat - 48)) 0
    if n ≤ last then some n else none
  else none

/-- The number from `least` on of the signal that has a name, whose letters may be of any size. -/
def named? (nameOf : Nat → Option String) (least : Nat) (s : List Char) : Option Nat :=
  let upper := some (String.ofList (s.map Char.toUpper))
  (List.range (last + 1)).find? fun n => least ≤ n && nameOf n == upper

/-- The number that a text stands for: a number, or a name with or without `SIG` in front. -/
def number? (s : List Char) : Option Nat :=
  let upper := s.map Char.toUpper
  let bare := if ['S', 'I', 'G'].isPrefixOf upper then upper.drop 3 else upper
  ofDigits? s <|> named? name? 0 bare

/-- The number that a text stands for in the plain shell: a number, or a name of one from `least`
on. -/
def plainNumber? (least : Nat) (s : List Char) : Option Nat :=
  ofDigits? s <|> named? plainName? least s

/-- What is said of a process that a signal has ended; nothing of some. -/
def description (n : Nat) : String :=
  match n with
  | 1 => "Hangup"
  | 3 => "Quit"
  | 4 => "Illegal instruction"
  | 5 => "Trace/breakpoint trap"
  | 6 => "Aborted"
  | 7 => "Bus error"
  | 8 => "Floating point exception"
  | 9 => "Killed"
  | 10 => "User defined signal 1"
  | 11 => "Segmentation fault"
  | 12 => "User defined signal 2"
  | 14 => "Alarm clock"
  | 15 => "Terminated"
  | 16 => "Stack fault"
  | 24 => "CPU time limit exceeded"
  | 25 => "File size limit exceeded"
  | 26 => "Virtual timer expired"
  | 27 => "Profiling timer expired"
  | 29 => "I/O possible"
  | 30 => "Power failure"
  | 31 => "Bad system call"
  | n =>
    if n ≤ names.length || last < n then ""
    else if n < firstFree then "Unknown signal " ++ toString n
    else "Real-time signal " ++ toString (n - firstFree)

/-- Whether a process takes no notice of a signal unless it asks to be told. -/
def isHarmless (n : Nat) : Bool := n ∈ [0, 17, 18, 19, 20, 21, 22, 23, 28]

/-- What a signal does to a shell. -/
inductive Response where
  | ignored
  /-- The shell runs what it has been told to run. -/
  | action
  | death
  deriving DecidableEq, Repr

/-- What a signal does to a shell with these traps. Two signals cannot be trapped, and zero is
none. -/
def response {α : Type} (traps : List (String × List α)) (n : Nat) : Response :=
  let trap := if n = 0 ∨ n = 9 ∨ n = 19 then none else (name? n).bind fun s => traps.lookup s
  match trap with
  | some [] => .ignored
  | some _ => .action
  | none => if isHarmless n then .ignored else .death

end CallForest.Shell.Signal
