import RouteWatch.Lab

/-!
# Showing a lab

The status of a lab as JSON: the topology of the cluster, and the router with all that it was made to
be. Addresses and subnets of a node stand at the place of their family.
-/

namespace RouteWatch

/-- What each family has, in the order of the families. -/
def Json.ofFamilies (text? : Family → Option String) : Json :=
  .array (Family.all.map fun family => .ofText? (text? family))

/-- The subnets of the node in the network, as JSON. -/
def Node.networkJson (n : Node) (network : NetworkName) : Json :=
  .array [.text network.text, .ofFamilies fun family => (n.subnet? network family).map Subnet.text]

def Node.json (n : Node) : Json :=
  .map [
    ("name", .text n.name),
    ("addresses", .ofFamilies fun family => (n.address? family).map Ip.text),
    ("subnets", .array (n.networks.map n.networkJson))]

def Topology.json (t : Topology) : Json :=
  .map [("stack", .text t.stack.text), ("nodes", .array (t.nodes.map Node.json))]

def VrfSpec.json (v : VrfSpec) : Json :=
  .map [
    ("name", .text v.name),
    ("peers_v4", .ofTexts (v.peers4.map Ip.text)),
    ("peers_v6", .ofTexts (v.peers6.map Ip.text))]

/-- What the router should be, as JSON, with what follows from it. -/
def RouterSpec.json (s : RouterSpec) : Json :=
  .map [
    ("asn", .nat s.asn.toNat),
    ("peer_asn", s.peerAsn.elim .null fun (asn : Asn) => .nat asn.toNat),
    ("remote_asn", .nat s.remoteAsn.toNat),
    ("is_ibgp", .bool s.isInternal),
    ("router_id", .ofText? (s.routerId.map Ipv4.text)),
    ("peers_v4", .ofTexts (s.peers4.map Ip.text)),
    ("peers_v6", .ofTexts (s.peers6.map Ip.text)),
    ("static_networks", .ofTexts (s.statics.map Subnet.text)),
    ("static_v4", .ofTexts ((s.staticsOf .v4).map Subnet.text)),
    ("static_v6", .ofTexts ((s.staticsOf .v6).map Subnet.text)),
    ("vrf", s.vrf.elim .null VrfSpec.json)]

def ExternalRouter.json (r : ExternalRouter) : Json :=
  .map [
    ("name", .text r.name),
    ("id", .text r.id),
    ("staging_dir", .text r.stagingDir),
    ("active", .bool r.active),
    ("spec", r.spec.json),
    ("session", .text r.host.destination)]

def Lab.json (lab : Lab) : Json :=
  .map [
    ("topology", lab.topology.json),
    ("router_addresses", .ofTexts (lab.routers.map Ip.text)),
    ("static_networks", .ofTexts (lab.statics.map Subnet.text)),
    ("router", lab.router.json)]

end RouteWatch
