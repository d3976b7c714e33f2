import RouteWatch.Distinct
import RouteWatch.Ip.Printer
import RouteWatch.Json.Printer

/-!
# Objects declared in the cluster

Two kinds of objects are declared: route advertisements, which say what is advertised, and the
configuration that makes the nodes peer with the external router.
-/

namespace RouteWatch

/-- An object to declare. -/
structure Resource where
  /-- The kind of the object, as it is named in commands. -/
  kind : String
  name : String
  /-- The namespace, if the object lies in one. -/
  space : Option String
  manifest : Json

/-- The networks that are advertised. -/
inductive NetworkSelector where
  | default
  /-- The cluster-wide user-defined networks with that label. -/
  | labeled (key value : String)
  deriving DecidableEq

inductive Advertisement where
  /-- The pod subnets of the nodes. -/
  | podNetwork
  | egressIp
  deriving DecidableEq

/-- What is advertised, as manifests name it. -/
def Advertisement.text : Advertisement → String
  | .podNetwork => "PodNetwork"
  | .egressIp => "EgressIP"

/-- The selector of labels of that kind; it selects all if there are none. -/
def Json.labelSelector (labels : Table String String) : Json :=
  if labels.entries.isEmpty then .map [] else .map [("matchLabels", .ofTable labels)]

def NetworkSelector.manifest : NetworkSelector → Json
  | .default => .map [("networkSelectionType", .text "DefaultNetwork")]
  | .labeled key value => .map [
      ("networkSelectionType", .text "ClusterUserDefinedNetworks"),
      ("clusterUserDefinedNetworkSelector", .map [
        ("networkSelector", .map [("matchLabels", .map [(key, .text value)])])])]

/-- The wish that routes are advertised. -/
structure RouteAdvertisement where
  name : String
  selector : NetworkSelector
  advertisements : List Advertisement := [.podNetwork]
  /-- The labels of the nodes that advertise. -/
  nodeSelector : Table String String := ∅
  /-- The labels of the configurations by which they do. -/
  configurationSelector : Table String String := ∅
  deriving DecidableEq

namespace RouteAdvertisement

def kind : String :=
  "routeadvertisements"

/-- The reason of the condition of an advertisement that is in force. -/
def accepted : String :=
  "Accepted"

/-- The object with these advertisements, each once and in their order. -/
def withAdvertisements (ra : RouteAdvertisement) (as : List Advertisement) : RouteAdvertisement :=
  { ra with advertisements := [.podNetwork, .egressIp].filter as.contains }

def manifest (ra : RouteAdvertisement) : Json :=
  .map [
    ("apiVersion", .text "k8s.ovn.org/v1"),
    ("kind", .text "RouteAdvertisements"),
    ("metadata", .map [("name", .text ra.name)]),
    ("spec", .map [
      ("networkSelectors", .array [ra.selector.manifest]),
      ("advertisements", .array (ra.advertisements.map fun a => .text a.text)),
      ("nodeSelector", .labelSelector ra.nodeSelector),
      ("frrConfigurationSelector", .labelSelector ra.configurationSelector)])]

/-- The object to declare. It lies in no namespace. -/
def resource (ra : RouteAdvertisement) : Resource :=
  ⟨kind, ra.name, none, ra.manifest⟩

end RouteAdvertisement

/-- The configuration that makes all nodes peer with the external router. -/
structure FrrConfiguration where
  name : String
  space : String
  /-- The number of the nodes' system. -/
  asn : UInt32
  /-- The addresses of the external router. -/
  neighbors : List Ip
  /-- The number of the external router's system. -/
  neighborAsn : UInt32
  labels : Table String String := ∅
  deriving DecidableEq

namespace FrrConfiguration

def kind : String :=
  "frrconfigurations"

/-- The configuration with these neighbors, each once. -/
def ofNeighbors (name space : String) (asn neighborAsn : UInt32) (neighbors : List Ip) :
    FrrConfiguration :=
  { name, space, asn, neighborAsn, neighbors := distinct neighbors }

def withLabel (c : FrrConfiguration) (key value : String) : FrrConfiguration :=
  { c with labels := c.labels.insert key value }

/-- What is said about a neighbor. All its routes are taken. -/
def neighborManifest (c : FrrConfiguration) (neighbor : Ip) : Json :=
  .map [
    ("address", .text neighbor.text),
    ("asn", .nat c.neighborAsn.toNat),
    ("disableMP", .bool true),
    ("toReceive", .map [("allowed", .map [("mode", .text "all")])])]

def manifest (c : FrrConfiguration) : Json :=
  .map [
    ("apiVersion", .text "frrk8s.metallb.io/v1beta1"),
    ("kind", .text "FRRConfiguration"),
    ("metadata", .map [
      ("name", .text c.name), ("namespace", .text c.space), ("labels", .ofTable c.labels)]),
    ("spec", .map [
      ("nodeSelector", .map []),
      ("bgp", .map [("routers", .array [.map [
        ("asn", .nat c.asn.toNat),
        ("neighbors", .array (c.neighbors.map c.neighborManifest))]])])])]

def resource (c : FrrConfiguration) : Resource :=
  ⟨kind, c.name, some c.space, c.manifest⟩

end FrrConfiguration

end RouteWatch
