import RouteWatch.Command
import RouteWatch.Config.Basic

/-!
# Commands on the host

The host of the external router is reached with `ssh`, one process for each command, over one shared
connection. The arguments of a command are joined by spaces and split again by the shell there. A
session is open once the host has echoed a word.
-/

namespace RouteWatch

/-- A host that can be reached, and how. -/
structure HostSession where
  destination : String
  /-- The options of every `ssh` and `scp`. -/
  options : List String
  deriving DecidableEq

/-- Why a command on the host failed. -/
inductive HostError where
  /-- The host did not echo the word. -/
  | setup (host reason : String)
  /-- The host did not answer in time. -/
  | timeout (host : String)
  /-- There is no `ssh` or `scp` to run. -/
  | client (fault : LaunchFault)
  | command (host line : String) (status : ExitStatus) (complaint : String)
  /-- What the command wrote is no text. -/
  | notText (fault : Text.Utf8.Fault)
  deriving DecidableEq

def HostError.message : HostError → String
  | .setup host reason => s!"Cannot set up the session with {host}: {reason}"
  | .timeout host => s!"Timeout while connecting to {host}"
  | .client fault => s!"Cannot execute ssh: {fault.message}"
  | .command host line status complaint => s!"`{line}` failed on {host} with {status}: {complaint}"
  | .notText fault => s!"Cannot parse output as UTF-8: {fault.message}"

namespace HostSession

variable {σ : Type}

/-- The options that share one connection, never ask for a password, and name the user and the key
if they are configured. -/
def connectionOptions (config : HostConfig) : List String :=
  ["-oControlMaster=auto", "-oControlPath=/tmp/.ssh-%r@%h:%p", "-oControlPersist=30m",
    "-oBatchMode=yes"]
    ++ (config.user.map fun user => s!"-oUser={user}").toList
    ++ (config.identityFile.map fun key => s!"-oIdentityFile={key}").toList

/-- The call of `ssh` that runs the arguments on the host. -/
def invocation (host : HostSession) (args : List String) : Invocation :=
  { program := "ssh", args := host.options ++ host.destination :: args }

/-- The call runs, however it ends. -/
def call (rn : Runner σ) (i : Invocation) : Action σ HostError Reply := do
  match ← Action.time (rn i) with
  | .ok reply => return reply
  | .error fault => throw (.client fault)

/-- The call runs and succeeds. `line` is what errors show of it. -/
def succeed (rn : Runner σ) (host : HostSession) (line : String) (i : Invocation) :
    Action σ HostError Reply := do
  let reply ← call rn i
  unless reply.status.success do
    throw (.command host.destination line reply.status reply.complaint)
  return reply

/-- The command succeeds on the host. -/
def exec (rn : Runner σ) (host : HostSession) (args : List String) : Action σ HostError Reply :=
  succeed rn host (" ".intercalate args) (host.invocation args)

/-- The command succeeds on the host and prints this. -/
def execText (rn : Runner σ) (host : HostSession) (args : List String) :
    Action σ HostError String := do
  let reply ← exec rn host args
  Action.ofExcept ((Text.Utf8.decode reply.stdout).mapError .notText)

/-- The command line succeeds in the shell of the host and prints this. -/
def shell (rn : Runner σ) (host : HostSession) (line : String) : Action σ HostError String :=
  execText rn host [line]

/-- The command ends like this on the host. -/
def execStatus (rn : Runner σ) (host : HostSession) (args : List String) :
    Action σ HostError ExitStatus := do
  return (← call rn (host.invocation args)).status

/-- The command line ends like this in the shell of the host. -/
def shellStatus (rn : Runner σ) (host : HostSession) (line : String) :
    Timed σ (Except LaunchFault ExitStatus) := do
  return (← rn (host.invocation [line])).map (·.status)

/-- The local file with that content is copied to the host. -/
def upload (rn : Runner σ) (host : HostSession) (file content remote : String) :
    Action σ HostError Unit := do
  let target := s!"{host.destination}:{remote}"
  discard <| succeed rn host s!"scp {file} {target}"
    { program := "scp", args := host.options ++ [file, target], file := some content }

/-- The word that the host echoes. -/
def probe : String :=
  "frr-lab-ready"

/-- The time within which the host has to echo it. -/
def connectTimeout : Millis :=
  10000

/-- A session with the host, once it has echoed the word in time. -/
def connect (rn : Runner σ) (config : HostConfig) : Action σ HostError HostSession := do
  let host : HostSession := ⟨config.sshName, connectionOptions config⟩
  let some echoed ← Action.time (Timed.within connectTimeout (execText rn host ["echo", probe]).run)
    | throw (.timeout host.destination)
  let echoed := Text.trim (← Action.ofExcept echoed)
  unless echoed = probe do
    throw (.setup host.destination
      s!"expected `{probe}`, but the host printed `{echoed}`")
  return host

end HostSession

end RouteWatch
