import RouteWatch.Cluster.Discovery
import RouteWatch.Cluster.Health
import RouteWatch.Router.Container
import RouteWatch.Scenario.Environment

/-!
# Labs

A lab is an external router that runs and peers with all nodes of a cluster. To set it up changes the
host and the cluster; if that fails, the router is removed again. A lab is torn down, which removes
the configuration of its peering and the router, or given up, which removes the router alone. While
it stands, it is an environment of scenarios.
-/

namespace RouteWatch

/-- A lab that was set up. -/
structure Lab where
  cluster : ClusterConfig
  topology : Topology
  router : ExternalRouter
  /-- The addresses of the external router towards the nodes, one of each family of the cluster. -/
  routers : List Ip
  /-- The networks of these families that the external router originates. -/
  statics : List Subnet
  /-- The configuration that makes the nodes peer with the external router. -/
  peering : FrrConfiguration

namespace Lab

variable {σ α : Type}

def onCluster (x : Action σ ClusterError α) : Action σ ScenarioError α :=
  x.mapError fun e => .lab (.cluster e)

def onHost (x : Action σ HostError α) : Action σ ScenarioError α :=
  x.mapError fun e => .lab (.host e)

def onRouter (x : Action σ RouterError α) : Action σ ScenarioError α :=
  x.mapError fun e => .lab (.router e)

def peeringName : String :=
  "receive-all"

/-- The cluster advertises routes on request, perhaps because it is told to. -/
def ensureAdvertisements (rn : Runner σ) (cluster : ClusterConfig) (enable : Bool) :
    Action σ ScenarioError Unit := do
  unless ← onCluster (Cluster.advertisesRoutes rn cluster) do
    unless enable do throw .advertisementsDisabled
    onCluster (Cluster.enableAdvertisements rn cluster)
    onCluster (Cluster.awaitOperator rn cluster Cluster.networkOperator)
    unless ← onCluster (Cluster.advertisesRoutes rn cluster) do throw .advertisementsDisabled

/-- The address of the host towards the first node, in the family. -/
def routerAddress (rn : Runner σ) (host : HostSession) (topology : Topology) (family : Family) :
    Action σ ScenarioError Ip := do
  let first := topology.nodes.head topology.nonempty
  let address ← Action.ofOption (.lab (.topology (.missingAddress first.name family)))
    (first.address? family)
  onRouter (host.sourceTowards rn address)

def firstV4? (ips : List Ip) : Option Ipv4 :=
  ips.findSome? fun
    | .v4 ip => some ip
    | .v6 _ => none

/-- The router that peers with all nodes. One of its own addresses identifies it, if it has one of
four octets. -/
def routerSpec (config : RouterConfig) (topology : Topology) (routers : List Ip) : RouterSpec :=
  let spec := (RouterSpec.ofConfig config).withPeers (topology.families.flatMap topology.peers)
  (firstV4? routers).elim spec spec.withRouterId

/-- The configuration that makes the nodes peer with the router. -/
def peeringOf (cluster : ClusterConfig) (spec : RouterSpec) (routers : List Ip) :
    FrrConfiguration :=
  .ofNeighbors peeringName cluster.frrNamespace spec.remoteAsn spec.asn routers

/-- The router is removed, one way or the other. -/
def remove (rn : Runner σ) (router : ExternalRouter) : Action σ ScenarioError Unit := do
  match ← (router.deprovision rn).outcome with
  | .ok _ => return ()
  | .error e => do
    Action.time (router.release rn)
    throw (.lab (.router e))

/-- The configuration of the peering is declared, or the router is removed. -/
def declarePeering (rn : Runner σ) (cluster : ClusterConfig) (router : ExternalRouter)
    (peering : FrrConfiguration) : Action σ ScenarioError Unit := do
  match ← (Cluster.declare rn cluster peering.resource).outcome with
  | .ok _ => return ()
  | .error e => do
    discard (remove rn router).outcome
    throw (.lab (.cluster e))

/-- The lab is set up: the cluster advertises routes on request and is ready, the router runs and
peers with all nodes. -/
def setup (rn : Runner σ) (config : LabConfig) (enable : Bool) (suffix localDir : String) :
    Action σ ScenarioError Lab := do
  let cluster := config.cluster
  ensureAdvertisements rn cluster enable
  onCluster (Cluster.awaitFrr rn cluster)
  let topology ← onCluster (Cluster.topology rn cluster)
  let host ← onHost (HostSession.connect rn config.host)
  discard <| onRouter (host.runningRouters rn config.router)
  let routers ← topology.families.mapM (routerAddress rn host topology)
  let spec := routerSpec config.router topology routers
  let router ← onRouter <|
    ExternalRouter.provision rn host config.host config.router spec suffix localDir
  let peering := peeringOf cluster spec routers
  declarePeering rn cluster router peering
  return {
    cluster, topology, router, routers, peering
    statics := topology.families.flatMap spec.staticsOf }

/-- The lab is given up: the router is removed. -/
def release (rn : Runner σ) (lab : Lab) : Timed σ Unit :=
  lab.router.release rn

/-- The lab is torn down. Both the configuration of the peering and the router are removed, whatever
fails; the first failure is the result. -/
def teardown (rn : Runner σ) (lab : Lab) : Action σ ScenarioError Unit := do
  let deleted ← (onCluster (Cluster.deleteResource rn lab.cluster lab.peering.resource)).outcome
  let removed ← (remove rn lab.router).outcome
  Action.ofExcept deleted
  Action.ofExcept removed

/-- The routes are advertised, and the cluster has accepted it. -/
def advertise (rn : Runner σ) (lab : Lab) (ra : RouteAdvertisement) :
    Action σ ScenarioError Unit :=
  onCluster do
    Cluster.declare rn lab.cluster ra.resource
    discard <| Cluster.awaitCondition rn lab.cluster RouteAdvertisement.kind none ra.name
      RouteAdvertisement.accepted

/-- The part of the cluster is restarted and ready again. -/
def disrupt (rn : Runner σ) (lab : Lab) : Disruption → Action σ ScenarioError Unit
  | .frr => onCluster (Cluster.restartFrr rn lab.cluster)
  | .ovn => onCluster (Cluster.restartOvn rn lab.cluster)

def sampler (rn : Runner σ) (lab : Lab) : Sampler σ SampleError :=
  labSampler rn lab.router lab.cluster

/-- The lab as an environment of scenarios. -/
def environment (rn : Runner σ) (lab : Lab) : Environment σ where
  topology := lab.topology
  routers := lab.routers
  statics := lab.statics
  converge := RouteWatch.converge (lab.sampler rn) SampleError.message
  advertise := lab.advertise rn
  withdraw ra := onCluster (Cluster.deleteResource rn lab.cluster ra.resource)
  labels object := onCluster (Cluster.labels rn lab.cluster object.kind none object.name)
  label object key value :=
    onCluster (Cluster.label rn lab.cluster object.kind none object.name key value)
  unlabel object key := onCluster (Cluster.unlabel rn lab.cluster object.kind none object.name key)
  egressAssignments name := onCluster (Cluster.egressAssignments rn lab.cluster name)
  disrupt := lab.disrupt rn

end Lab

end RouteWatch
