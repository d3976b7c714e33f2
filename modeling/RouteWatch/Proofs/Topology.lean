import RouteWatch.Proofs.Node
import RouteWatch.Topology.Basic

/-!
# What a topology lists

The peers and the routes of a topology are those of its nodes: a route has the subnet of a node in
the network and the address of that node in the family of the subnet.
-/

namespace RouteWatch

namespace Topology

variable {topology : Topology}

theorem has_iff {family : Family} : topology.stack.has family = true ↔ family ∈ topology.families := by
  simp [Stack.has, families]

theorem exists_family (topology : Topology) : ∃ family, family ∈ topology.families := by
  rw [families]
  cases topology.stack
  · exact ⟨.v4, by simp [Stack.families]⟩
  · exact ⟨.v6, by simp [Stack.families]⟩
  · exact ⟨.v4, by simp [Stack.families]⟩

theorem mem_peers_iff {family : Family} {ip : Ip} :
    ip ∈ topology.peers family ↔
      family ∈ topology.families ∧ ∃ node ∈ topology.nodes, node.address? family = some ip := by
  rw [peers, ← has_iff]
  split
  next h => simp [h]
  next h => simp [h]

/-- A topology has nodes, and they have addresses. -/
theorem exists_address (topology : Topology) {family : Family} (h : family ∈ topology.families) :
    ∃ node ∈ topology.nodes, ∃ ip, node.address? family = some ip := by
  obtain ⟨node, hnode⟩ := List.exists_mem_of_ne_nil _ topology.nonempty
  exact ⟨node, hnode, Option.isSome_iff_exists.1 (topology.addressed node hnode family h)⟩

theorem exists_peer (topology : Topology) :
    ∃ peer, peer ∈ topology.families.flatMap topology.peers := by
  obtain ⟨family, hfamily⟩ := topology.exists_family
  obtain ⟨node, hnode, ip, hip⟩ := topology.exists_address hfamily
  exact ⟨ip, List.mem_flatMap.2 ⟨family, hfamily, mem_peers_iff.2 ⟨hfamily, node, hnode, hip⟩⟩⟩

theorem route_eq_some_iff {network : NetworkName} {family : Family} {node : Node}
    {r : AdvertisedRoute} :
    (do return ⟨node.name, ← node.subnet? network family, ← node.address? family⟩) = some r ↔
      node.name = r.node ∧ node.subnet? network family = some r.subnet ∧
        node.address? family = some r.nextHop := by
  obtain ⟨name, subnet, nextHop⟩ := r
  constructor
  · intro h
    obtain ⟨subnet', hsubnet, h⟩ := Option.bind_eq_some_iff.1 h
    obtain ⟨nextHop', haddress, h⟩ := Option.bind_eq_some_iff.1 h
    cases h
    exact ⟨rfl, hsubnet, haddress⟩
  · rintro ⟨rfl, hsubnet, haddress⟩
    simp only [hsubnet, haddress]
    rfl

theorem mem_advertisedRoutes_iff {network : NetworkName} {r : AdvertisedRoute} :
    r ∈ topology.advertisedRoutes network ↔
      ∃ node ∈ topology.nodes, node.name = r.node ∧ r.subnet.family ∈ topology.families ∧
        node.subnet? network r.subnet.family = some r.subnet ∧
        node.address? r.subnet.family = some r.nextHop := by
  simp only [advertisedRoutes, List.mem_flatMap, List.mem_filterMap, route_eq_some_iff]
  constructor
  · rintro ⟨family, hfamily, node, hnode, hname, hsubnet, haddress⟩
    obtain rfl := (node.subnets_fit _ _ hsubnet).1
    exact ⟨node, hnode, hname, hfamily, hsubnet, haddress⟩
  · rintro ⟨node, hnode, hname, hfamily, hsubnet, haddress⟩
    exact ⟨r.subnet.family, hfamily, node, hnode, hname, hsubnet, haddress⟩

/-- The subnets of routes have no host bits. -/
theorem trunc_of_mem_advertisedRoutes {network : NetworkName} {r : AdvertisedRoute}
    (h : r ∈ topology.advertisedRoutes network) : r.subnet.trunc = r.subnet := by
  obtain ⟨node, -, -, -, hsubnet, -⟩ := mem_advertisedRoutes_iff.1 h
  exact (node.subnets_fit _ _ hsubnet).2

theorem isSome_node? {node : Node} (h : node ∈ topology.nodes) :
    (topology.node? node.name).isSome = true :=
  List.find?_isSome.2 ⟨node, h, by simp⟩

/-- The node that is found first is the one with the least name. -/
theorem find?_nodes_iff {p : Node → Bool} {node : Node} :
    topology.nodes.find? p = some node ↔
      node ∈ topology.nodes ∧ p node = true ∧
        ∀ other ∈ topology.nodes, other.name < node.name → p other = false := by
  have hascending := topology.ascending
  rw [List.find?_eq_some_iff_append]
  constructor
  · rintro ⟨hp, before, after, hnodes, hbefore⟩
    rw [hnodes] at hascending ⊢
    obtain ⟨-, hafter, -⟩ := List.pairwise_append.1 hascending
    refine ⟨by simp, hp, fun other hother hlt => ?_⟩
    rcases List.mem_append.1 hother with hother | hother
    · simpa using hbefore other hother
    · rcases List.mem_cons.1 hother with rfl | hother
      · exact absurd hlt (String.lt_irrefl _)
      · exact absurd hlt (String.lt_asymm ((List.pairwise_cons.1 hafter).1 other hother))
  · rintro ⟨hnode, hp, hfirst⟩
    obtain ⟨before, after, hnodes⟩ := List.append_of_mem hnode
    rw [hnodes] at hascending
    obtain ⟨-, -, hbefore⟩ := List.pairwise_append.1 hascending
    refine ⟨hp, before, after, hnodes, fun other hother => ?_⟩
    have hmem : other ∈ topology.nodes := hnodes ▸ List.mem_append_left _ hother
    simpa using hfirst other hmem (hbefore other hother node List.mem_cons_self)

theorem node?_eq_some_iff {name : String} {node : Node} :
    topology.node? name = some node ↔ node ∈ topology.nodes ∧ node.name = name := by
  rw [node?, find?_nodes_iff, beq_iff_eq]
  constructor
  · rintro ⟨hnode, hname, -⟩
    exact ⟨hnode, hname⟩
  · rintro ⟨hnode, rfl⟩
    exact ⟨hnode, rfl, fun other _ hlt => by simpa using String.ne_of_lt hlt⟩

end Topology

end RouteWatch
