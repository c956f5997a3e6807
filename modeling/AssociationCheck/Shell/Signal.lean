/-
How a program ends.

A program ends with a code, which is zero for success, or through a signal. Signals are numbered;
most have a name, and programs that a signal ends are reported in words.
-/

namespace AssociationCheck.Shell

structure Signal where
  number : Nat
  deriving DecidableEq, Repr

namespace Signal

/-- The signals with a name, with what is said of a program that they end. -/
def named : List (Nat × String × String) :=
  [ (1, "HUP", "Hangup"), (2, "INT", "Interrupt"), (3, "QUIT", "Quit"),
    (4, "ILL", "Illegal instruction"), (5, "TRAP", "Trace/breakpoint trap"),
    (6, "ABRT", "Aborted"), (7, "BUS", "Bus error"), (8, "FPE", "Floating point exception"),
    (9, "KILL", "Killed"), (10, "USR1", "User defined signal 1"),
    (11, "SEGV", "Segmentation fault"), (12, "USR2", "User defined signal 2"),
    (13, "PIPE", "Broken pipe"), (14, "ALRM", "Alarm clock"), (15, "TERM", "Terminated"),
    (16, "STKFLT", "Stack fault"), (17, "CHLD", "Child exited"), (18, "CONT", "Continued"),
    (19, "STOP", "Stopped (signal)"), (20, "TSTP", "Stopped"), (21, "TTIN", "Stopped (tty input)"),
    (22, "TTOU", "Stopped (tty output)"), (23, "URG", "Urgent I/O condition"),
    (24, "XCPU", "CPU time limit exceeded"), (25, "XFSZ", "File size limit exceeded"),
    (26, "VTALRM", "Virtual timer expired"), (27, "PROF", "Profiling timer expired"),
    (28, "WINCH", "Window changed"), (29, "IO", "I/O possible"), (30, "PWR", "Power failure"),
    (31, "SYS", "Bad system call") ]

def greatest : Nat := 64

def name? (signal : Signal) : Option String :=
  (named.find? (fun (number, _, _) => number = signal.number)).map (fun (_, name, _) => name)

def report (signal : Signal) : String :=
  match named.find? (fun (number, _, _) => number = signal.number) with
  | some (_, _, report) => report
  | none =>
      if 34 ≤ signal.number then "Real-time signal " ++ toString (signal.number - 34)
      else "Unknown signal " ++ toString signal.number

def ofName? (name : String) : Option Signal :=
  (named.find? (fun (_, known, _) => known == name.map Char.toUpper)).map
    (fun (number, _, _) => ⟨number⟩)

/-- A signal by its number or its name. -/
def ofWord? (word : String) : Option Signal :=
  match word.toNat? with
  | some number => if number ≤ greatest then some ⟨number⟩ else none
  | none => ofName? word

/-- Signals that change nothing unless a program asks for them. -/
def isHarmless (signal : Signal) : Bool := [0, 17, 18, 23, 28].contains signal.number

end Signal

inductive ExitStatus
  | code (value : Nat)
  | signal (ending : Signal)
  deriving DecidableEq, Repr

namespace ExitStatus

def succeeded (status : ExitStatus) : Bool := status == code 0

def message : ExitStatus → String
  | code value => "exit status: " ++ toString value
  | signal ending =>
      "signal: " ++ toString ending.number ++
        (match ending.name? with
          | some name => " (SIG" ++ name ++ ")"
          | none => "")

/-- The code by which another program sees the end: of signals, those above 128. -/
def seen : ExitStatus → Nat
  | code value => value
  | signal ending => 128 + ending.number

end ExitStatus

structure Outcome where
  output : List UInt8
  errors : List UInt8
  status : ExitStatus
  deriving DecidableEq, Repr

end AssociationCheck.Shell
