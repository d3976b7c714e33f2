import RouteWatch.Cluster.Manifest
import RouteWatch.Mesh
import RouteWatch.Scenario.Error

/-!
# What a scenario works with

A scenario declares route advertisements, changes labels, restarts parts of the cluster, and waits
for plans to converge. All that is done by an environment: that of a real lab, or a simulated one.
-/

namespace RouteWatch

/-- A part of the cluster that is restarted while routes are advertised. -/
inductive Disruption where
  /-- The routing agents and their webhook. -/
  | frr
  /-- The network's own pods. -/
  | ovn
  deriving DecidableEq

namespace Disruption

def text : Disruption → String
  | .frr => "restart of the frr-k8s pods"
  | .ovn => "restart of the ovnkube-node pods"

instance : ToString Disruption :=
  ⟨text⟩

/-- The part of that name; each has two. Otherwise, what is wrong with the name. -/
def parse (s : String) : Except String Disruption :=
  if s = "frr-k8s" || s = "frr" then .ok .frr
  else if s = "ovnkube-node" || s = "ovn" then .ok .ovn
  else .error s!"unknown disruption {Text.quoted s}, expected `frr-k8s` or `ovnkube-node`"

end Disruption

/-- A label with its value. -/
structure Label where
  key : String
  /-- The value, which may be empty. -/
  value : String
  deriving DecidableEq

namespace Label

def text (l : Label) : String :=
  s!"{l.key}={l.value}"

/-- The label that is written like this, or what is wrong with it. -/
def parse (s : String) : Except String Label :=
  match Text.splitOnce '=' s with
  | some (key, value) =>
    if key.isEmpty then .error s!"invalid label {Text.quoted s}, expected `key=value`"
    else .ok ⟨key, value⟩
  | none => .error s!"invalid label {Text.quoted s}, expected `key=value`"

end Label

/-- An object that is not in a namespace: its kind and its name. -/
@[ext]
structure ObjectKey where
  kind : String
  name : String
  deriving DecidableEq

namespace ObjectKey

/-- Objects are ordered by kind and then by name. -/
instance : Ord ObjectKey :=
  ⟨compareLex (compareOn kind) (compareOn name)⟩

instance : Std.TransOrd ObjectKey :=
  inferInstanceAs (Std.TransCmp (compareLex (compareOn kind) (compareOn name)))

instance : Std.LawfulEqOrd ObjectKey :=
  lawfulEqCmp_compareLex fun _ _ hkind hname =>
    ObjectKey.ext hkind (Std.LawfulEqOrd.eq_of_compare hname)

def networkKind : String :=
  "clusteruserdefinednetwork"

def nodeKind : String :=
  "node"

def network (name : String) : ObjectKey :=
  ⟨networkKind, name⟩

def node (name : String) : ObjectKey :=
  ⟨nodeKind, name⟩

end ObjectKey

/-- The label of nodes that may hold egress addresses. -/
def egressLabel : String :=
  "k8s.ovn.org/egress-assignable"

/-- What a scenario works with. -/
structure Environment (σ : Type) where
  topology : Topology
  /-- The addresses of the external router. -/
  routers : List Ip
  /-- The networks that the external router originates. -/
  statics : List Subnet
  /-- Samples are taken until the plan holds, or until the time has passed. -/
  converge : Plan → Poll.Settings → Timed σ Convergence
  /-- The routes are advertised, and the cluster has said so. -/
  advertise : RouteAdvertisement → Action σ ScenarioError Unit
  withdraw : RouteAdvertisement → Action σ ScenarioError Unit
  labels : ObjectKey → Action σ ScenarioError (Table String String)
  label : ObjectKey → (key value : String) → Action σ ScenarioError Unit
  unlabel : ObjectKey → (key : String) → Action σ ScenarioError Unit
  egressAssignments : (name : String) → Action σ ScenarioError (List EgressAssignment)
  /-- The part of the cluster is restarted and ready again. -/
  disrupt : Disruption → Action σ ScenarioError Unit

end RouteWatch
