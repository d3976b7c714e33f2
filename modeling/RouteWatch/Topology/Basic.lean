import RouteWatch.Node
import RouteWatch.Stack

/-!
# Topologies

A topology is a non-empty set of nodes with different names, listed by name, where each node has an
address of every family that the cluster uses. `Topology.ofNodes` checks this.
-/

namespace RouteWatch

/-- The nodes of a cluster and the address families that it uses. -/
structure Topology where
  stack : Stack
  nodes : List Node
  nonempty : nodes ≠ []
  /-- The nodes are listed by name, and each name is that of one node. -/
  ascending : nodes.Pairwise fun a b => a.name < b.name
  /-- Every node has an address of every family. -/
  addressed : ∀ n ∈ nodes, ∀ f ∈ stack.families, (n.address? f).isSome

/-- A route that the cluster should advertise: the subnet of a node, by way of that node. -/
structure AdvertisedRoute where
  /-- The node that owns the subnet. -/
  node : String
  subnet : Subnet
  /-- The address of the node in the family of the subnet. -/
  nextHop : Ip
  deriving DecidableEq

namespace Topology

def sortByName (nodes : List Node) : List Node :=
  nodes.mergeSort fun a b => decide (a.name ≤ b.name)

/-- The first node that has the same name as the one after it. -/
def repeated? : List Node → Option Node
  | a :: b :: rest => if a.name = b.name then some a else repeated? (b :: rest)
  | _ => none

/-- The first node without an address of some family, and the family. -/
def unaddressed? (families : List Family) (nodes : List Node) : Option (Node × Family) :=
  nodes.findSome? fun n =>
    families.findSome? fun f => if (n.address? f).isNone then some (n, f) else none

theorem pairwise_le_sortByName (nodes : List Node) :
    (sortByName nodes).Pairwise fun a b => a.name ≤ b.name := by
  have h : (sortByName nodes).Pairwise fun a b => decide (a.name ≤ b.name) = true :=
    List.pairwise_mergeSort
      (fun a b c hab hbc => by
        simp only [decide_eq_true_eq] at *
        exact String.le_trans hab hbc)
      (fun a b => by simpa using String.le_total a.name b.name) nodes
  exact h.imp fun h => by simpa using h

theorem pairwise_lt_of_repeated? {nodes : List Node}
    (hle : nodes.Pairwise fun a b => a.name ≤ b.name) (h : repeated? nodes = none) :
    nodes.Pairwise fun a b => a.name < b.name := by
  induction nodes with
  | nil => exact .nil
  | cons a rest ih =>
    cases rest with
    | nil => simp
    | cons b rest =>
      rw [repeated?] at h
      split at h
      next => cases h
      next hne =>
        obtain ⟨ha, hb⟩ := List.pairwise_cons.1 hle
        have ih := ih hb h
        have hab : a.name < b.name :=
          String.not_le.1 fun hba => hne (String.le_antisymm (ha b List.mem_cons_self) hba)
        refine List.pairwise_cons.2 ⟨fun c hc => ?_, ih⟩
        rcases List.mem_cons.1 hc with rfl | hc
        · exact hab
        · exact String.lt_trans hab ((List.pairwise_cons.1 ih).1 c hc)

theorem unaddressed?_eq_none_iff {families : List Family} {nodes : List Node} :
    unaddressed? families nodes = none ↔
      ∀ n ∈ nodes, ∀ f ∈ families, (n.address? f).isSome := by
  simp [unaddressed?, List.findSome?_eq_none_iff, Option.isSome_iff_ne_none]

theorem sortByName_eq_nil_iff {nodes : List Node} : sortByName nodes = [] ↔ nodes = [] := by
  rw [← List.length_eq_zero_iff, ← List.length_eq_zero_iff, sortByName, List.length_mergeSort]

/-- The topology of these nodes, in any order. -/
def ofNodes (stack : Stack) (nodes : List Node) : Except TopologyError Topology :=
  if hn : nodes = [] then .error .noNodes
  else
    match hr : repeated? (sortByName nodes) with
    | some n => .error (.duplicateNode n.name)
    | none =>
      match ha : unaddressed? stack.families (sortByName nodes) with
      | some (n, f) => .error (.missingAddress n.name f)
      | none => .ok {
          stack
          nodes := sortByName nodes
          nonempty := fun h => hn (sortByName_eq_nil_iff.1 h)
          ascending := pairwise_lt_of_repeated? (pairwise_le_sortByName nodes) hr
          addressed := unaddressed?_eq_none_iff.1 ha }

def families (topology : Topology) : List Family :=
  topology.stack.families

def node? (topology : Topology) (name : String) : Option Node :=
  topology.nodes.find? (·.name == name)

/-- The addresses of all nodes in a family that the cluster uses. -/
def peers (topology : Topology) (family : Family) : List Ip :=
  if topology.stack.has family then topology.nodes.filterMap (·.address? family) else []

/-- The routes to the subnets of the network, by family and then by node. -/
def advertisedRoutes (topology : Topology) (network : NetworkName) : List AdvertisedRoute :=
  topology.families.flatMap fun family =>
    topology.nodes.filterMap fun n => do
      return ⟨n.name, ← n.subnet? network family, ← n.address? family⟩

end Topology

end RouteWatch
