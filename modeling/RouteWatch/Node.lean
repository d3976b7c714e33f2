import RouteWatch.Table
import RouteWatch.Topology.Error

/-!
# Nodes of a cluster

A node has at most one address of each family, and at most one subnet of each family in each pod
network. Subnets are kept without host bits, and one that is there stays.
-/

namespace RouteWatch

/-- What a subnet of a node is for: a pod network, in one family. -/
@[ext]
structure SubnetKey where
  network : NetworkName
  family : Family
  deriving DecidableEq

namespace SubnetKey

/-- Keys are ordered by network, and by family within a network. -/
instance : Ord SubnetKey :=
  ⟨compareLex (compareOn network) (compareOn fun k => k.family.rank)⟩

instance : Std.TransOrd SubnetKey :=
  inferInstanceAs (Std.TransCmp (compareLex (compareOn network) (compareOn fun k => k.family.rank)))

instance : Std.LawfulEqOrd SubnetKey :=
  lawfulEqCmp_compareLex fun _ _ hnetwork hrank =>
    SubnetKey.ext hnetwork (Family.rank_inj.1 (Std.LawfulEqOrd.eq_of_compare hrank))

end SubnetKey

/-- A node of the cluster. -/
structure Node where
  name : String
  v4 : Option Ipv4 := none
  v6 : Option Ipv6 := none
  subnets : Table SubnetKey Subnet := ∅
  /-- Each subnet has the family of its key and no host bits. -/
  subnets_fit : ∀ key subnet, subnets.get? key = some subnet →
    subnet.family = key.family ∧ subnet.trunc = subnet := by nofun
  deriving DecidableEq

namespace Node

def address? (node : Node) : Family → Option Ip
  | .v4 => node.v4.map .v4
  | .v6 => node.v6.map .v6

/-- The node with the address, in the place of the former one of its family. -/
def setAddress (node : Node) : Ip → Node
  | .v4 ip => { node with v4 := some ip }
  | .v6 ip => { node with v6 := some ip }

def subnet? (node : Node) (network : NetworkName) (family : Family) : Option Subnet :=
  node.subnets.get? ⟨network, family⟩

/-- The subnet is given to the node in the network, unless the node has one of that family there:
how that ends, and the node afterwards. -/
def assign (node : Node) (network : NetworkName) (subnet : Subnet) :
    Except TopologyError Unit × Node :=
  match node.subnet? network subnet.family with
  | some existing => (.error (.duplicateSubnet node.name network subnet.family existing subnet), node)
  | none =>
    (.ok (), { node with
      subnets := node.subnets.insert ⟨network, subnet.family⟩ subnet.trunc
      subnets_fit := fun key other h => by
        rw [Table.get?_insert] at h
        split at h
        next hkey =>
          obtain rfl := Std.LawfulEqOrd.eq_of_compare hkey
          obtain rfl : subnet.trunc = other := by simpa using h
          exact ⟨Subnet.family_trunc subnet, Subnet.trunc_trunc subnet⟩
        next => exact node.subnets_fit key other h })

/-- The node with the subnet in the network, for those that give up a node when an assignment
fails. -/
def assignSubnet (node : Node) (network : NetworkName) (subnet : Subnet) :
    Except TopologyError Node :=
  match node.assign network subnet with
  | (.ok (), node) => .ok node
  | (.error e, _) => .error e

/-- The networks in which the node has a subnet, in ascending order. -/
def networks (node : Node) : List NetworkName :=
  (node.subnets.keys.map (·.network)).eraseReps

@[simp] theorem address?_setAddress (node : Node) (ip : Ip) (family : Family) :
    (node.setAddress ip).address? family =
      if ip.family = family then some ip else node.address? family := by
  cases ip <;> cases family <;> rfl

@[simp] theorem name_setAddress (node : Node) (ip : Ip) : (node.setAddress ip).name = node.name := by
  cases ip <;> rfl

end Node

end RouteWatch
