import RouteWatch.Cluster.Session
import RouteWatch.Router.Container
import RouteWatch.Sampling

/-!
# Samples from a lab

Samples are taken from the external router on its host and from the nodes by way of the cluster.
-/

namespace RouteWatch

/-- Why no sample was taken. -/
inductive SampleError where
  | host (e : HostError)
  | cluster (e : ClusterError)
  | unknownTarget (target : Target)
  deriving DecidableEq

def SampleError.message : SampleError → String
  | .host e => s!"Cannot sample the external router: {e.message}"
  | .cluster e => s!"Cannot sample the cluster: {e.message}"
  | .unknownTarget target => s!"Unknown target: {target}"

variable {σ : Type}

def printedAt (rn : Runner σ) (router : ExternalRouter) (cluster : ClusterConfig) :
    Target → QueryCommand → Action σ SampleError String
  | .external, .daemon line => Action.mapError .host (router.daemonShell rn line)
  | .external, .shell line => Action.mapError .host (router.hostShell rn line)
  | .node name, .daemon line => Action.mapError .cluster (Cluster.daemonShell rn cluster name line)
  | .node name, .shell line => Action.mapError .cluster (Cluster.nodeShell rn cluster name line)

/-- Samples from the router and from the nodes of the cluster. -/
def labSampler (rn : Runner σ) (router : ExternalRouter) (cluster : ClusterConfig) :
    Sampler σ SampleError := fun target query => do
  let text ← printedAt rn router cluster target query.command
  return ⟨target, query.command.text, text⟩

end RouteWatch
