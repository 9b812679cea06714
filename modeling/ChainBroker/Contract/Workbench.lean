import ChainBroker.Dialogue
import ChainBroker.Failure
import ChainBroker.Text.Utf8

/-!
# The workbench

Where contracts are deployed: temporary files, and a tool that is run on them. A temporary file gets
a name of its own between a given start and a given ending, and `Workbench.withFile` removes it
again whatever comes of its use.
-/

namespace ChainBroker

/-- How a program ends. -/
inductive ExitStatus where
  /-- By itself, with a code. -/
  | code (n : Nat)
  /-- By a signal, which may leave a dump of its memory. -/
  | signal (n : Nat) (dumped : Bool := false)
deriving DecidableEq, Repr

namespace ExitStatus

/-- The names of the signals, from the first one on. -/
def signalNames : List String :=
  ["SIGHUP", "SIGINT", "SIGQUIT", "SIGILL", "SIGTRAP", "SIGABRT", "SIGBUS", "SIGFPE", "SIGKILL",
    "SIGUSR1", "SIGSEGV", "SIGUSR2", "SIGPIPE", "SIGALRM", "SIGTERM", "SIGSTKFLT", "SIGCHLD",
    "SIGCONT", "SIGSTOP", "SIGTSTP", "SIGTTIN", "SIGTTOU", "SIGURG", "SIGXCPU", "SIGXFSZ",
    "SIGVTALRM", "SIGPROF", "SIGWINCH", "SIGIO", "SIGPWR", "SIGSYS"]

/-- The status in words. -/
def message : ExitStatus → String
  | code n => "exit status: " ++ toString n
  | signal n dumped =>
    let name := match signalNames[n - 1]? with
      | some name => if n = 0 then "" else " (" ++ name ++ ")"
      | none => ""
    "signal: " ++ toString n ++ name ++ if dumped then " (core dumped)" else ""

end ExitStatus

namespace Workbench

/-- A program with its arguments. -/
structure Command where
  program : String
  arguments : List String
deriving DecidableEq, Repr

/-- What comes of running a program. -/
inductive Outcome where
  /-- It cannot be started. -/
  | notStarted (cause : OsError)
  /-- It is stopped because it takes too long. -/
  | timedOut
  | ended (status : ExitStatus) (stdout stderr : Bytes)

/-- The questions to the workbench. -/
inductive Call where
  /-- Create a temporary file. -/
  | create (start ending : String)
  /-- Write a file. -/
  | write (path : String) (content : Bytes)
  /-- Read a file. -/
  | read (path : String)
  /-- Remove a file. -/
  | remove (path : String)
  /-- Run a program for at most so many milliseconds. -/
  | run (command : Command) (timeout : Nat)

/-- What the workbench answers. -/
abbrev Call.Answer : Call → Type
  | .create _ _ => Except OsError String
  | .write _ _ => Except OsError Unit
  | .read _ => Except OsError Bytes
  | .remove _ => Unit
  | .run _ _ => Outcome

/-- The questions to the workbench and its answers. -/
abbrev interface : Interface := ⟨Call, Call.Answer⟩

/-- Asks the workbench. -/
def ask (call : Call) : Attempt interface Failure call.Answer :=
  Attempt.question (I := interface) call

/-- Creates a temporary file, uses it and removes it. -/
def withFile {α : Type} (start ending : String) (use : String → Attempt interface Failure α) :
    Attempt interface Failure α := do
  let path ← Attempt.ofExcept .file (← ask (.create start ending))
  (use path).followedBy fun _ => Dialogue.question (I := interface) (.remove path)

/-- A program and arguments that no operating system takes because one of them holds a NUL. -/
def Command.holdsNul (c : Command) : Bool :=
  (c.program :: c.arguments).any fun s => '\x00' ∈ s.toList

/-- Runs a program. -/
def run (command : Command) (timeout : Nat) : Attempt interface Failure Outcome :=
  if command.holdsNul then pure (.notStarted .nulInArgument) else ask (.run command timeout)

end Workbench

end ChainBroker
