import RouteWatch.Text.Blank
import RouteWatch.Text.Utf8
import RouteWatch.Time.Timed

/-!
# Running programs

A program is run with arguments and leaves its output and the way it ended. Everything outside of
the library is reached through a `Runner`; what it does and how long it takes is up to the world.
-/

namespace RouteWatch

/-- A program with its arguments. -/
structure Invocation where
  program : String
  args : List String
  /-- The text that it reads from its standard input, if that is given. -/
  input : Option String := none
  /-- The content of the local file that it copies, if it copies one. -/
  file : Option String := none
  deriving DecidableEq

/-- The program and its arguments, separated by spaces. -/
def Invocation.line (i : Invocation) : String :=
  " ".intercalate (i.program :: i.args)

/-- Why a program was not run. -/
inductive LaunchFault where
  | notFound
  | nulInArgument
  deriving DecidableEq

def LaunchFault.message : LaunchFault → String
  | .notFound => "No such file or directory (os error 2)"
  | .nulInArgument => "nul byte found in provided data"

/-- How a program ended. -/
inductive ExitStatus where
  | exited (code : Nat)
  | killed (signal : Nat)
  deriving DecidableEq

namespace ExitStatus

/-- The names of the signals, from 1 on. -/
def signalNames : List String :=
  ["SIGHUP", "SIGINT", "SIGQUIT", "SIGILL", "SIGTRAP", "SIGABRT", "SIGBUS", "SIGFPE", "SIGKILL",
   "SIGUSR1", "SIGSEGV", "SIGUSR2", "SIGPIPE", "SIGALRM", "SIGTERM", "SIGSTKFLT", "SIGCHLD",
   "SIGCONT", "SIGSTOP", "SIGTSTP", "SIGTTIN", "SIGTTOU", "SIGURG", "SIGXCPU", "SIGXFSZ",
   "SIGVTALRM", "SIGPROF", "SIGWINCH", "SIGIO", "SIGPWR", "SIGSYS"]

def success (s : ExitStatus) : Bool :=
  s == .exited 0

/-- The code with which the program ended; 0 if a signal ended it. -/
def codeOrZero : ExitStatus → Nat
  | .exited code => code
  | .killed _ => 0

def text : ExitStatus → String
  | .exited code => s!"exit status: {code}"
  | .killed signal =>
    match signalNames[signal - 1]? with
    | some name => s!"signal: {signal} ({name})"
    | none => s!"signal: {signal}"

instance : ToString ExitStatus :=
  ⟨text⟩

end ExitStatus

/-- What a program leaves. -/
structure Reply where
  stdout : List UInt8 := []
  stderr : List UInt8 := []
  status : ExitStatus := .exited 0
  deriving DecidableEq

/-- What the program wrote to its standard error, without blanks around it. -/
def Reply.complaint (r : Reply) : String :=
  Text.trim (Text.Utf8.decodeLossy r.stderr)

/-- A way to run programs in a world. -/
abbrev Runner (σ : Type) := Invocation → Timed σ (Except LaunchFault Reply)

end RouteWatch
