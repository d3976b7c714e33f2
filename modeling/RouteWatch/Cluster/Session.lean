import RouteWatch.Cluster.Error
import RouteWatch.Config.Basic

/-!
# Commands to the cluster

The cluster is reached through its command line program, one process for each command.
-/

namespace RouteWatch.Cluster

variable {σ : Type}

/-- The call of the program with these arguments, to which the credentials are added. -/
def invocation (c : ClusterConfig) (args : List String) (input : Option String := none) :
    Invocation :=
  let credentials := c.kubeconfig.elim [] fun file => ["--kubeconfig", file]
  { program := c.oc, args := credentials ++ args, input }

/-- What the program printed, if it succeeded. -/
def printed (args : List String) (reply : Reply) : Except ClusterError String :=
  if reply.status.success then (Text.Utf8.decode reply.stdout).mapError .notText
  else .error (.command (" ".intercalate args) reply.status.codeOrZero reply.complaint)

/-- The program succeeds and prints this. -/
def runWith (rn : Runner σ) (c : ClusterConfig) (args : List String) (input : Option String) :
    Action σ ClusterError String := do
  match ← Action.time (rn (invocation c args input)) with
  | .ok reply => Action.ofExcept (printed args reply)
  | .error fault => throw (.launch fault)

def run (rn : Runner σ) (c : ClusterConfig) (args : List String) : Action σ ClusterError String :=
  runWith rn c args none

def inNamespace (space : Option String) : List String :=
  space.elim [] fun space => ["-n", space]

/-- A field of an object, as text without blanks around it. -/
def field (rn : Runner σ) (c : ClusterConfig) (kind : String) (space : Option String)
    (name path : String) : Action σ ClusterError String := do
  let args := ["get", kind, name, s!"-ojsonpath={path}"] ++ inNamespace space
  return Text.trim (← run rn c args)

/-- The path of the names of all objects in a list. -/
def namesPath : String :=
  "-ojsonpath=\x7b.items[*].metadata.name\x7d"

/-- The routing agent on the node. -/
def agentPod (rn : Runner σ) (c : ClusterConfig) (node : String) :
    Action σ ClusterError String := do
  let names ← run rn c ["get", "pods", "-n", c.frrNamespace, "-l", c.frrPods,
    "--field-selector", s!"spec.nodeName={node}", namesPath]
  Action.ofOption (.noAgentPod node) (Text.words names).head?

/-- What a command of the daemon's shell prints on the node. -/
def daemonShell (rn : Runner σ) (c : ClusterConfig) (node line : String) :
    Action σ ClusterError String := do
  let pod ← agentPod rn c node
  run rn c ["exec", "-n", c.frrNamespace, "-c", c.frrContainer, pod, "--", "vtysh", "-c", line]

/-- What a command line prints on the node. -/
def nodeShell (rn : Runner σ) (c : ClusterConfig) (node line : String) :
    Action σ ClusterError String :=
  run rn c ["debug", "-n", c.debugNamespace, s!"node/{node}", "--quiet", "--", "bash", "-c", line]

end RouteWatch.Cluster
