import RouteWatch.Plan
import RouteWatch.Topology.Basic

/-!
# What a full mesh looks like

Plans about a topology. Once a network is advertised, the external router has a session with every
node and a route to the subnet of every node, by way of that node; every node has a route to the
subnet of every other node, and to the static networks of the external router. Each route is
expected in both views.
-/

namespace RouteWatch

/-- The query whose sample shows routes of the family in the view. -/
def View.query (view : View) (family : Family) : Query :=
  match view with
  | .bgp => .table family
  | .kernel => .kernel family

namespace Plan

/-- The plan with the route expected in both views, or expected to be missing from both. -/
def pushRoute (plan : Plan) (target : Target) (subnet : Subnet) (nextHop : Ip) (present : Bool) :
    Plan :=
  View.all.foldl
    (fun plan view =>
      plan.push target (view.query subnet.family) ⟨.route view subnet nextHop, present⟩)
    plan

/-- The plan with the routes expected, or expected to be missing. -/
def pushRoutes (plan : Plan) (target : Target) (routes : List (Subnet × Ip)) (present : Bool) :
    Plan :=
  routes.foldl (fun plan r => plan.pushRoute target r.1 r.2 present) plan

end Plan

namespace Mesh

/-- The external router has a session with every node. -/
def sessions (topology : Topology) : Plan :=
  (topology.families.flatMap topology.peers).foldl
    (fun plan peer => plan.push .external (.neighbor peer) ⟨.neighbor peer, true⟩)
    { description := "BGP sessions of the external router" }

/-- The routes as networks with next hops. -/
def hops (routes : List AdvertisedRoute) : List (Subnet × Ip) :=
  routes.map fun r => (r.subnet, r.nextHop)

/-- The external router has the routes of the network, or has none of them. -/
def externalRoutes (topology : Topology) (network : NetworkName) (present : Bool) : Plan :=
  Plan.pushRoutes { description := s!"routes of network {network} on the external router" }
    .external (hops (topology.advertisedRoutes network)) present

/-- Every node has the routes of the network to the other nodes, or has none of them. A node never
learns its own subnet. -/
def nodeRoutes (topology : Topology) (network : NetworkName) (present : Bool) : Plan :=
  topology.nodes.foldl
    (fun plan node =>
      plan.pushRoutes (.node node.name)
        (hops ((topology.advertisedRoutes network).filter (·.node != node.name))) present)
    { description := s!"routes of network {network} on the nodes" }

/-- The static networks of families that the cluster uses, each with the router's address of its
family, if the router has one. -/
def staticHops (topology : Topology) (statics : List Subnet) (routers : List Ip) :
    List (Subnet × Ip) :=
  (statics.filter fun net => topology.stack.has net.family).filterMap fun net =>
    (routers.find? (·.family == net.family)).map (net, ·)

/-- Every node has the static networks of the external router. -/
def staticRoutes (topology : Topology) (statics : List Subnet) (routers : List Ip) : Plan :=
  topology.nodes.foldl
    (fun plan node =>
      plan.pushRoutes (.node node.name) (staticHops topology statics routers) true)
    { description := "static networks of the external router on the nodes" }

/-- The network is advertised everywhere, or is withdrawn everywhere. -/
def routes (topology : Topology) (network : NetworkName) (present : Bool) : Plan :=
  let what := if present then "advertised" else "withdrawn"
  [externalRoutes topology network present, nodeRoutes topology network present].foldl
    Plan.extend { description := s!"network {network} {what}" }

/-- All that has to be there once the network is advertised. -/
def full (topology : Topology) (network : NetworkName) (statics : List Subnet)
    (routers : List Ip) : Plan :=
  [sessions topology, routes topology network true, staticRoutes topology statics routers].foldl
    Plan.extend { description := s!"full mesh of network {network}" }

/-- The external router has the egress address by way of the next hop, or has not. -/
def egressRoute (egress nextHop : Ip) (present : Bool) : Plan :=
  let what := if present then "via" else "not via"
  Plan.pushRoute { description := s!"egress IP {egress} {what} {nextHop}" }
    .external (Subnet.host egress) nextHop present

/-- The network has a subnet somewhere. A plan about any other network would hold at once. -/
def hasSubnets (topology : Topology) (network : NetworkName) : Bool :=
  !(topology.advertisedRoutes network).isEmpty

end Mesh

end RouteWatch
