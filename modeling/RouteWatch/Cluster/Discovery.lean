import RouteWatch.Cluster.Objects
import RouteWatch.Cluster.Session
import RouteWatch.Json.Printer
import RouteWatch.Topology.Basic

/-!
# Discovering the cluster

The families that the cluster uses, its nodes, and whether it advertises routes at all.
-/

namespace RouteWatch.Cluster

variable {σ : Type}

/-- The path of the service networks. -/
def networksPath : String :=
  "\x7b.spec.serviceNetwork\x7d"

/-- The path of the programs that may add routes. -/
def providersPath : String :=
  "\x7b.spec.additionalRoutingCapabilities.providers\x7d"

/-- The path of the switch for route advertisements. -/
def advertisementsPath : String :=
  "\x7b.spec.defaultNetwork.ovnKubernetesConfig.routeAdvertisements\x7d"

/-- A field of the object that configures the network. -/
def networkField (rn : Runner σ) (c : ClusterConfig) (path : String) :
    Action σ ClusterError String :=
  field rn c "network.operator" none "cluster" path

def stack (rn : Runner σ) (c : ClusterConfig) : Action σ ClusterError Stack := do
  let networks ← networkField rn c networksPath
  Action.ofOption (.topology (.unknownStack networks)) (Stack.ofNetworks? networks)

/-- The nodes of the cluster, or those with the labels. -/
def nodes (rn : Runner σ) (c : ClusterConfig) (labels : Option String) :
    Action σ ClusterError (List Node) := do
  let args := ["get", "nodes", "-ojson"] ++ labels.elim [] fun labels => ["-l", labels]
  Action.ofExcept (Node.ofJson (← run rn c args))

def topology (rn : Runner σ) (c : ClusterConfig) : Action σ ClusterError Topology := do
  let stack ← stack rn c
  let nodes ← nodes rn c none
  Action.ofExcept ((Topology.ofNodes stack nodes).mapError .topology)

/-- Routes are advertised on request. -/
def advertisesRoutes (rn : Runner σ) (c : ClusterConfig) : Action σ ClusterError Bool := do
  let providers ← networkField rn c providersPath
  let enabled ← networkField rn c advertisementsPath
  return Text.contains providers "FRR" && enabled == "Enabled"

/-- The change of the network's configuration by which routes are advertised on request. -/
def advertisementsPatch : Json :=
  .map [("spec", .map [
    ("additionalRoutingCapabilities", .map [("providers", .array [.text "FRR"])]),
    ("defaultNetwork", .map [
      ("ovnKubernetesConfig", .map [("routeAdvertisements", .text "Enabled")])])])]

/-- From now on, routes are advertised on request. -/
def enableAdvertisements (rn : Runner σ) (c : ClusterConfig) : Action σ ClusterError Unit := do
  discard <| run rn c
    ["patch", "network.operator", "cluster", "--type=merge", "-p", advertisementsPatch.compact]

def egressAssignments (rn : Runner σ) (c : ClusterConfig) (name : String) :
    Action σ ClusterError (List EgressAssignment) := do
  Action.ofExcept
    (EgressAssignment.ofJson (← field rn c "egressip" none name "\x7b.status.items\x7d"))

end RouteWatch.Cluster
