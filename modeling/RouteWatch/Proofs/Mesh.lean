import RouteWatch.Mesh
import RouteWatch.Proofs.Plan.Triples
import RouteWatch.Proofs.Topology

/-!
# What the plans about a mesh expect

The plans are told by the sessions and the routes that they expect, and where. A route is always
expected in both views.

* `expects_sessions`: the sessions of the external router;
* `expects_routes`: the routes of a network, at the external router and at the other nodes;
* `expects_full`: all that has to be there;
* `expects_egressRoute`: the route to an egress address, at the external router;
* `full_content`: exactly what is in the plan of a full mesh, each once.
-/

namespace RouteWatch

/-- The query whose sample shows whether the fact is there. -/
def Check.query : Check → Query
  | .route view subnet _ => view.query subnet.family
  | .neighbor peer => .neighbor peer

variable {topology : Topology} {target : Target} {query : Query} {e : Expectation}

/-- The query and the expectation are those of a route in one of the views. -/
def OfRoute (subnet : Subnet) (nextHop : Ip) (present : Bool) (query : Query) (e : Expectation) :
    Prop :=
  ∃ view : View, query = view.query subnet.family ∧ e = ⟨.route view subnet nextHop, present⟩

namespace Plan

theorem expects_pushRoute (plan : Plan) (place : Target) (subnet : Subnet) (nextHop : Ip)
    (present : Bool) :
    (plan.pushRoute place subnet nextHop present).Expects target query e ↔
      (target = place ∧ OfRoute subnet nextHop present query e) ∨ plan.Expects target query e := by
  have hviews : ∀ view, view ∈ View.all := fun view => by cases view <;> decide
  rw [pushRoute, expects_foldl fun plan view =>
    expects_push plan place (view.query subnet.family) ⟨.route view subnet nextHop, present⟩]
  simp [OfRoute, hviews]

theorem expects_pushRoutes (plan : Plan) (place : Target) (routes : List (Subnet × Ip))
    (present : Bool) :
    (plan.pushRoutes place routes present).Expects target query e ↔
      (target = place ∧ ∃ r ∈ routes, OfRoute r.1 r.2 present query e) ∨
        plan.Expects target query e := by
  rw [pushRoutes, expects_foldl fun plan r => expects_pushRoute plan place r.1 r.2 present]
  grind

theorem filled_pushRoute {plan : Plan} (h : plan.Filled) (place : Target) (subnet : Subnet) (nextHop : Ip)
    (present : Bool) : (plan.pushRoute place subnet nextHop present).Filled :=
  List.foldlRecOn _ _ h fun _ h _ _ => filled_push h _ _ _

end Plan

namespace Mesh

open Plan

theorem expects_sessions :
    (sessions topology).Expects target query e ↔
      ∃ peer ∈ topology.families.flatMap topology.peers,
        target = .external ∧ query = .neighbor peer ∧ e = ⟨.neighbor peer, true⟩ := by
  rw [sessions, expects_foldl fun plan peer =>
    expects_push plan .external (.neighbor peer) ⟨.neighbor peer, true⟩]
  simp

theorem exists_mem_hops_iff {routes : List AdvertisedRoute} {P : Subnet → Ip → Prop} :
    (∃ r ∈ hops routes, P r.1 r.2) ↔ ∃ r ∈ routes, P r.subnet r.nextHop := by
  simp only [hops, List.mem_map]
  grind

theorem expects_externalRoutes {network : NetworkName} {present : Bool} :
    (externalRoutes topology network present).Expects target query e ↔
      target = .external ∧ ∃ r ∈ topology.advertisedRoutes network,
        OfRoute r.subnet r.nextHop present query e := by
  rw [externalRoutes, expects_pushRoutes,
    exists_mem_hops_iff (P := fun subnet nextHop => OfRoute subnet nextHop present query e)]
  simp

theorem expects_nodeRoutes {network : NetworkName} {present : Bool} :
    (nodeRoutes topology network present).Expects target query e ↔
      ∃ node ∈ topology.nodes, target = .node node.name ∧
        ∃ r ∈ topology.advertisedRoutes network, r.node ≠ node.name ∧
          OfRoute r.subnet r.nextHop present query e := by
  rw [nodeRoutes, expects_foldl fun plan node => expects_pushRoutes plan (.node node.name)
    (hops ((topology.advertisedRoutes network).filter (·.node != node.name))) present]
  simp only [exists_mem_hops_iff (P := fun subnet nextHop => OfRoute subnet nextHop present query e),
    not_expects_nil, or_false, List.mem_filter, bne_iff_ne, and_assoc]

theorem expects_staticRoutes {statics : List Subnet} {routers : List Ip} :
    (staticRoutes topology statics routers).Expects target query e ↔
      ∃ node ∈ topology.nodes, target = .node node.name ∧
        ∃ r ∈ staticHops topology statics routers, OfRoute r.1 r.2 true query e := by
  rw [staticRoutes, expects_foldl fun plan node =>
    expects_pushRoutes plan (.node node.name) (staticHops topology statics routers) true]
  simp

theorem mem_staticHops_iff {statics : List Subnet} {routers : List Ip} {net : Subnet} {router : Ip} :
    (net, router) ∈ staticHops topology statics routers ↔
      net ∈ statics ∧ topology.stack.has net.family = true ∧
        routers.find? (·.family == net.family) = some router := by
  simp only [staticHops, List.mem_filterMap, List.mem_filter, Option.map_eq_some_iff,
    Prod.mk.injEq]
  grind

/-- The routes of a network are expected at the external router, and at each node those to other
nodes. -/
theorem expects_routes {network : NetworkName} {present : Bool} :
    (routes topology network present).Expects target query e ↔
      ∃ r ∈ topology.advertisedRoutes network, OfRoute r.subnet r.nextHop present query e ∧
        (target = .external ∨
          ∃ node ∈ topology.nodes, target = .node node.name ∧ r.node ≠ node.name) := by
  simp only [routes, List.foldl_cons, List.foldl_nil, expects_extend, expects_nodeRoutes,
    expects_externalRoutes, not_expects_nil, or_false]
  grind

theorem expects_full {network : NetworkName} {statics : List Subnet} {routers : List Ip} :
    (full topology network statics routers).Expects target query e ↔
      (sessions topology).Expects target query e ∨
        (routes topology network true).Expects target query e ∨
          (staticRoutes topology statics routers).Expects target query e := by
  simp only [full, List.foldl_cons, List.foldl_nil, expects_extend, not_expects_nil, or_false]
  grind

theorem expects_egressRoute {egress nextHop : Ip} {present : Bool} :
    (egressRoute egress nextHop present).Expects target query e ↔
      target = .external ∧ OfRoute (.host egress) nextHop present query e := by
  rw [egressRoute, expects_pushRoute]
  simp

theorem hasSubnets_of_ne_nil {network : NetworkName} (h : topology.advertisedRoutes network ≠ []) :
    hasSubnets topology network = true := by
  rw [hasSubnets, List.isEmpty_eq_false_iff.2 h]
  rfl

theorem routes_probes_ne_nil {network : NetworkName}
    (hroutes : topology.advertisedRoutes network ≠ []) (present : Bool) :
    (routes topology network present).probes ≠ [] := by
  obtain ⟨r, hr⟩ := List.exists_mem_of_ne_nil _ hroutes
  exact (expects_routes.2 ⟨r, hr, ⟨.bgp, rfl, rfl⟩, .inl rfl⟩).probes_ne_nil

theorem egressRoute_probes_ne_nil (egress nextHop : Ip) (present : Bool) :
    (egressRoute egress nextHop present).probes ≠ [] :=
  (expects_egressRoute.2 ⟨rfl, .bgp, rfl, rfl⟩).probes_ne_nil

/-! ## No idle probes -/

theorem filled_sessions (topology : Topology) : (sessions topology).Filled :=
  List.foldlRecOn _ _ (filled_nil _) fun _ h _ _ => filled_push h _ _ _

theorem filled_routes (topology : Topology) (network : NetworkName) (present : Bool) :
    (routes topology network present).Filled :=
  List.foldlRecOn _ _ (filled_nil _) fun _ h _ _ => filled_extend h _

theorem filled_egressRoute (egress nextHop : Ip) (present : Bool) :
    (egressRoute egress nextHop present).Filled :=
  filled_pushRoute (filled_nil _) _ _ _ _

theorem filled_full (topology : Topology) (network : NetworkName) (statics : List Subnet)
    (routers : List Ip) : (full topology network statics routers).Filled :=
  List.foldlRecOn _ _ (filled_nil _) fun _ h _ _ => filled_extend h _

/-! ## The content of a full mesh -/

/-- What has to be there once the network is advertised, and on which sample it shows. -/
inductive Due (topology : Topology) (network : NetworkName) (statics : List Subnet)
    (routers : List Ip) : Target → Query → Expectation → Prop
  /-- The external router has a session with every node, in every family of the cluster. -/
  | session {family node peer} : family ∈ topology.families → node ∈ topology.nodes →
      node.address? family = some peer →
      Due topology network statics routers .external (.neighbor peer) ⟨.neighbor peer, true⟩
  /-- The external router has the routes of the network. -/
  | external {r} (view : View) : r ∈ topology.advertisedRoutes network →
      Due topology network statics routers .external (view.query r.subnet.family)
        ⟨.route view r.subnet r.nextHop, true⟩
  /-- Every node has those to the other nodes. -/
  | node {node r} (view : View) : node ∈ topology.nodes → r ∈ topology.advertisedRoutes network →
      r.node ≠ node.name →
      Due topology network statics routers (.node node.name) (view.query r.subnet.family)
        ⟨.route view r.subnet r.nextHop, true⟩
  /-- Every node has the static networks by way of the router's first address of their family. -/
  | static {node net router} (view : View) : node ∈ topology.nodes → net ∈ statics →
      net.family ∈ topology.families → routers.find? (·.family == net.family) = some router →
      Due topology network statics routers (.node node.name) (view.query net.family)
        ⟨.route view net router, true⟩

variable {network : NetworkName} {statics : List Subnet} {routers : List Ip}

theorem Due.of_expects_full (h : (full topology network statics routers).Expects target query e) :
    Due topology network statics routers target query e := by
  rcases expects_full.1 h with hsession | hroute | hstatic
  · obtain ⟨peer, hpeer, rfl, rfl, rfl⟩ := expects_sessions.1 hsession
    obtain ⟨family, -, hpeer⟩ := List.mem_flatMap.1 hpeer
    obtain ⟨hfamily, node, hnode, haddress⟩ := Topology.mem_peers_iff.1 hpeer
    exact .session hfamily hnode haddress
  · obtain ⟨r, hr, ⟨view, rfl, rfl⟩, rfl | ⟨node, hnode, rfl, hother⟩⟩ := expects_routes.1 hroute
    · exact .external view hr
    · exact .node view hnode hr hother
  · obtain ⟨node, hnode, rfl, ⟨net, router⟩, hhop, view, rfl, rfl⟩ := expects_staticRoutes.1 hstatic
    obtain ⟨hnet, hfamily, hrouter⟩ := mem_staticHops_iff.1 hhop
    exact .static view hnode hnet (Topology.has_iff.1 hfamily) hrouter

theorem Due.expects_full (h : Due topology network statics routers target query e) :
    (full topology network statics routers).Expects target query e := by
  apply Mesh.expects_full.2
  cases h with
  | session hfamily hnode haddress =>
    have hpeer := List.mem_flatMap.2
      ⟨_, hfamily, Topology.mem_peers_iff.2 ⟨hfamily, _, hnode, haddress⟩⟩
    exact .inl (expects_sessions.2 ⟨_, hpeer, rfl, rfl, rfl⟩)
  | external view hr =>
    exact .inr (.inl (expects_routes.2 ⟨_, hr, ⟨view, rfl, rfl⟩, .inl rfl⟩))
  | node view hnode hr hother =>
    exact .inr (.inl (expects_routes.2 ⟨_, hr, ⟨view, rfl, rfl⟩, .inr ⟨_, hnode, rfl, hother⟩⟩))
  | static view hnode hnet hfamily hrouter =>
    have hhop := mem_staticHops_iff.2 ⟨hnet, Topology.has_iff.2 hfamily, hrouter⟩
    exact .inr (.inr (expects_staticRoutes.2 ⟨_, hnode, rfl, _, hhop, view, rfl, rfl⟩))

/-- Whatever is due has to be there, and shows on the sample of its own view and family. -/
theorem Due.present (h : Due topology network statics routers target query e) :
    e.present = true ∧ query = e.check.query := by
  cases h with
  | session | external | node | static => exact ⟨rfl, rfl⟩

/-- The plan of a full mesh expects what is due, each thing once, and nothing else: nothing is expected
to be missing, and nothing is looked for in the sample of another view or family. -/
theorem full_content (topology : Topology) (network : NetworkName) (statics : List Subnet)
    (routers : List Ip) :
    let plan := full topology network statics routers
    (∀ target query e, (target, query, e) ∈ plan.triples ↔
      Due topology network statics routers target query e) ∧
    plan.triples.Nodup ∧
    ∀ p ∈ plan.probes, ∀ e ∈ p.expectations, e.present = true ∧ p.query = e.check.query := by
  intro plan
  have hapart : plan.Apart :=
    List.foldlRecOn _ _ (apart_nil _) fun _ h _ _ => apart_extend h _
  have honce : plan.Once :=
    List.foldlRecOn _ _ (once_nil _) fun _ h _ _ => once_extend h _
  refine ⟨fun target query e => ?_, nodup_triples hapart honce, fun p hp e he => ?_⟩
  · rw [mem_triples_iff]
    exact ⟨Due.of_expects_full, Due.expects_full⟩
  · have hdue : Due topology network statics routers p.target p.query e :=
      .of_expects_full ⟨p, hp, rfl, rfl, he⟩
    exact hdue.present

end Mesh

end RouteWatch
