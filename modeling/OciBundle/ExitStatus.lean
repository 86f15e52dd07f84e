/-
**How a program has ended.**

* `ExitStatus`: by itself with a code, or by a signal.
* `ExitStatus.text`: the text of a status; the usual signals have their names in it.
-/

namespace OciBundle

/-- How a program has ended. -/
inductive ExitStatus where
  /-- The program has ended by itself; zero is the code for success. -/
  | code (number : Nat)
  /-- The program has been ended by a signal, which may have left an image of its memory. -/
  | signal (number : Nat) (coreDumped : Bool)
  deriving DecidableEq

namespace ExitStatus

/-- The names of the signals from the first one on, as Linux numbers them. -/
def signalNames : List String :=
  ["SIGHUP", "SIGINT", "SIGQUIT", "SIGILL", "SIGTRAP", "SIGABRT", "SIGBUS", "SIGFPE", "SIGKILL",
    "SIGUSR1", "SIGSEGV", "SIGUSR2", "SIGPIPE", "SIGALRM", "SIGTERM", "SIGSTKFLT", "SIGCHLD",
    "SIGCONT", "SIGSTOP", "SIGTSTP", "SIGTTIN", "SIGTTOU", "SIGURG", "SIGXCPU", "SIGXFSZ",
    "SIGVTALRM", "SIGPROF", "SIGWINCH", "SIGIO", "SIGPWR", "SIGSYS"]

/-- The name of a signal; those that only have a number are without one. -/
def signalName? : Nat → Option String
  | 0 => none
  | index + 1 => signalNames[index]?

/-- The text of a status. -/
def text : ExitStatus → String
  | .code number => "exit status: " ++ toString number
  | .signal number coreDumped =>
    "signal: " ++ toString number
      ++ (signalName? number).elim "" (fun name => " (" ++ name ++ ")")
      ++ if coreDumped then " (core dumped)" else ""

end ExitStatus

end OciBundle
