import RouteWatch.Node

/-!
# The history of a node

A node starts without addresses and subnets. Of the addresses that are set in a family the last one
stays; of the subnets that are assigned in a network, the first one of each family does. A later
assignment fails, and everything goes on as if it had not been tried.

* `address?_after`, `subnet?_after`: what the node has after any calls;
* `pairwise_networks`: its networks are listed in ascending order, each once;
* `node_history`: all of it, and which calls fail.
-/

namespace RouteWatch

/-! ## Repetitions in an ascending list -/

section Repetitions

variable {α : Type}

theorem eraseRepsBy_loop_append (r : α → α → Bool) (a : α) (l acc : List α) :
    List.eraseRepsBy.loop r a l acc = acc.reverse ++ List.eraseRepsBy.loop r a l [] := by
  induction l generalizing a acc with
  | nil => simp [List.eraseRepsBy.loop]
  | cons b l ih =>
    rw [List.eraseRepsBy.loop, List.eraseRepsBy.loop]
    split
    next => rw [ih]
    next => rw [ih b (a :: acc), ih b [a], List.reverse_cons, List.append_assoc]; rfl

theorem eraseReps_cons_cons [BEq α] (a b : α) (l : List α) :
    (a :: b :: l).eraseReps = if a == b then (a :: l).eraseReps else a :: (b :: l).eraseReps := by
  rw [List.eraseReps, List.eraseRepsBy, List.eraseRepsBy.loop]
  split
  next h => rw [if_pos h]; rfl
  next h => rw [if_neg (Bool.eq_false_iff.1 h), eraseRepsBy_loop_append]; rfl

theorem mem_eraseReps [BEq α] [LawfulBEq α] {a : α} {l : List α} : a ∈ l.eraseReps ↔ a ∈ l := by
  cases l with
  | nil => exact Iff.rfl
  | cons b l =>
    induction l generalizing b with
    | nil => exact Iff.rfl
    | cons c l ih =>
      rw [eraseReps_cons_cons]
      split
      next h =>
        obtain rfl := LawfulBEq.eq_of_beq h
        rw [ih, List.mem_cons, List.mem_cons, List.mem_cons, ← or_assoc, or_self]
      next => rw [List.mem_cons, ih, ← List.mem_cons]

/-- Where equal items stand together, it is enough to look at neighbors. -/
theorem pairwise_eraseReps [BEq α] [LawfulBEq α] [Ord α] [Std.TransOrd α] [Std.LawfulEqOrd α]
    {l : List α} (h : l.Pairwise fun a b => compare a b ≠ .gt) :
    l.eraseReps.Pairwise fun a b => compare a b = .lt := by
  cases l with
  | nil => exact .nil
  | cons a l =>
    induction l generalizing a with
    | nil => exact List.pairwise_singleton _ a
    | cons b l ih =>
      obtain ⟨ha, hrest⟩ := List.pairwise_cons.1 h
      rw [eraseReps_cons_cons]
      split
      next heq =>
        refine ih a (List.pairwise_cons.2 ⟨fun c hc => ha c (List.mem_cons_of_mem b hc), ?_⟩)
        exact (List.pairwise_cons.1 hrest).2
      next hne =>
        have hab : compare a b = .lt := by
          cases hcompare : compare a b with
          | lt => rfl
          | eq => exact absurd (beq_iff_eq.2 (Std.LawfulEqOrd.eq_of_compare hcompare)) hne
          | gt => exact absurd hcompare (ha b List.mem_cons_self)
        refine List.pairwise_cons.2 ⟨fun c hc => ?_, ih b hrest⟩
        rcases List.mem_cons.1 (mem_eraseReps.1 hc) with rfl | hc
        · exact hab
        · have hbc := (List.pairwise_cons.1 hrest).1 c hc
          exact Std.TransCmp.lt_of_lt_of_isLE hab (Ordering.isLE_iff_ne_gt.2 hbc)

end Repetitions

theorem SubnetKey.compare_network_ne_gt {a b : SubnetKey} (h : compare a b = .lt) :
    compare a.network b.network ≠ .gt := by
  have hthen : (compare a.network b.network).then (compare a.family.rank b.family.rank) = .lt := h
  intro hgt
  rw [hgt] at hthen
  cases hthen

theorem empty_subnets_fit (key : SubnetKey) (subnet : Subnet)
    (h : (∅ : Table SubnetKey Subnet).get? key = some subnet) :
    subnet.family = key.family ∧ subnet.trunc = subnet := by
  cases h

/-- What is done to a node. -/
inductive NodeCall where
  /-- The address takes the place of the former one of its family. -/
  | setAddress (ip : Ip)
  /-- The subnet is to be that of its family in the network. -/
  | assignSubnet (network : NetworkName) (subnet : Subnet)

namespace NodeCall

/-- How the call ends, and the node afterwards. -/
def run (node : Node) : NodeCall → Except TopologyError Unit × Node
  | setAddress ip => (.ok (), node.setAddress ip)
  | assignSubnet network subnet => node.assign network subnet

/-- The address that the call sets in the family. -/
def address? (family : Family) : NodeCall → Option Ip
  | setAddress ip => if ip.family = family then some ip else none
  | assignSubnet .. => none

/-- The subnet of the family that the call assigns in the network, as it was given. -/
def subnet? (network : NetworkName) (family : Family) : NodeCall → Option Subnet
  | setAddress _ => none
  | assignSubnet other subnet =>
    if other = network ∧ subnet.family = family then some subnet else none

end NodeCall

namespace Node

variable {node : Node} {network : NetworkName} {family : Family} {subnet : Subnet}

theorem mem_networks_iff :
    network ∈ node.networks ↔ ∃ family subnet, node.subnet? network family = some subnet := by
  rw [networks, mem_eraseReps, List.mem_map]
  constructor
  · rintro ⟨⟨network, family⟩, hkey, rfl⟩
    obtain ⟨subnet, hsubnet⟩ := (Table.mem_keys_iff _).1 hkey
    exact ⟨family, subnet, hsubnet⟩
  · rintro ⟨family, subnet, hsubnet⟩
    exact ⟨⟨network, family⟩, (Table.mem_keys_iff _).2 ⟨subnet, hsubnet⟩, rfl⟩

/-- The networks are in ascending order, and so none is there twice. -/
theorem pairwise_networks (node : Node) :
    node.networks.Pairwise fun a b => compare a b = .lt := by
  have hkeys : node.subnets.keys.Pairwise fun a b => compare a b = .lt :=
    List.pairwise_map.2 node.subnets.sorted
  exact pairwise_eraseReps (List.pairwise_map.2 (hkeys.imp SubnetKey.compare_network_ne_gt))

/-- A node is what is seen of it. -/
theorem eq_of_views {node node' : Node} (hname : node.name = node'.name)
    (haddress : ∀ family, node.address? family = node'.address? family)
    (hsubnet : ∀ network family, node.subnet? network family = node'.subnet? network family) :
    node = node' := by
  obtain ⟨name, v4, v6, subnets, fit⟩ := node
  obtain ⟨name', v4', v6', subnets', fit'⟩ := node'
  have h4 : v4 = v4' := Option.map_injective (fun _ _ h => (Ip.v4.inj h)) (haddress .v4)
  have h6 : v6 = v6' := Option.map_injective (fun _ _ h => (Ip.v6.inj h)) (haddress .v6)
  have hsubnets : subnets = subnets' := by
    apply Table.ext_get?
    funext key
    exact hsubnet key.network key.family
  cases hname
  cases h4
  cases h6
  cases hsubnets
  rfl

theorem family_of_address? {ip : Ip} (h : node.address? family = some ip) : ip.family = family := by
  cases family with
  | v4 | v6 =>
    obtain ⟨ip', -, rfl⟩ := Option.map_eq_some_iff.1 h
    rfl

/-! ## One call -/

@[simp] theorem subnet?_setAddress (node : Node) (ip : Ip) :
    (node.setAddress ip).subnet? network family = node.subnet? network family := by
  cases ip <;> rfl

/-- An assignment to a place that is taken fails, and changes nothing. -/
theorem assign_of_some {existing : Subnet}
    (h : node.subnet? network subnet.family = some existing) :
    node.assign network subnet =
      (.error (.duplicateSubnet node.name network subnet.family existing subnet), node) := by
  rw [assign, h]

/-- An assignment to a free place succeeds, and changes nothing else. -/
theorem exists_assign_eq_ok (h : node.subnet? network subnet.family = none) :
    ∃ next, node.assign network subnet = (.ok (), next) ∧ next.name = node.name ∧
      next.address? = node.address? ∧
      ∀ other family, next.subnet? other family =
        if network = other ∧ subnet.family = family then some subnet.trunc
        else node.subnet? other family := by
  unfold assign
  split
  next hsome => rw [h] at hsome; cases hsome
  next =>
    refine ⟨_, rfl, rfl, rfl, fun other family => ?_⟩
    have hplace : (⟨other, family⟩ : SubnetKey) = ⟨network, subnet.family⟩ ↔
        network = other ∧ subnet.family = family := by
      rw [SubnetKey.mk.injEq, eq_comm, @eq_comm _ family]
    simp only [subnet?, Table.get?_insert, Std.LawfulEqOrd.compare_eq_iff_eq, hplace]

/-! ## Any calls -/

/-- A node without addresses and subnets. -/
def fresh (name : String) : Node where
  name
  subnets_fit := empty_subnets_fit

/-- The node after the call. -/
def next (node : Node) (call : NodeCall) : Node :=
  (call.run node).2

/-- The node after the calls, one after the other. -/
def after (node : Node) (calls : List NodeCall) : Node :=
  calls.foldl next node

theorem after_append (node : Node) (calls more : List NodeCall) :
    node.after (calls ++ more) = (node.after calls).after more :=
  List.foldl_append

theorem next_setAddress (node : Node) (ip : Ip) : node.next (.setAddress ip) = node.setAddress ip :=
  rfl

theorem next_assignSubnet_of_some {existing : Subnet}
    (h : node.subnet? network subnet.family = some existing) :
    node.next (.assignSubnet network subnet) = node := by
  rw [next, NodeCall.run, assign_of_some h]

theorem name_next (node : Node) (call : NodeCall) : (node.next call).name = node.name := by
  cases call with
  | setAddress ip => exact name_setAddress node ip
  | assignSubnet network subnet =>
    cases h : node.subnet? network subnet.family with
    | some existing => rw [next_assignSubnet_of_some h]
    | none =>
      obtain ⟨other, hok, hname, -⟩ := exists_assign_eq_ok h
      rw [next, NodeCall.run, hok]
      exact hname

theorem address?_next (node : Node) (call : NodeCall) :
    (node.next call).address? family = (call.address? family).or (node.address? family) := by
  cases call with
  | setAddress ip =>
    rw [next_setAddress, address?_setAddress, NodeCall.address?]
    split <;> rfl
  | assignSubnet network subnet =>
    cases h : node.subnet? network subnet.family with
    | some existing => rw [next_assignSubnet_of_some h]; rfl
    | none =>
      obtain ⟨other, hok, -, haddress, -⟩ := exists_assign_eq_ok h
      rw [next, NodeCall.run, hok]
      exact congrFun haddress family

theorem subnet?_next (node : Node) (call : NodeCall) :
    (node.next call).subnet? network family =
      (node.subnet? network family).or ((call.subnet? network family).map Subnet.trunc) := by
  cases call with
  | setAddress ip =>
    rw [next_setAddress, subnet?_setAddress, NodeCall.subnet?, Option.map_none, Option.or_none]
  | assignSubnet other subnet =>
    cases h : node.subnet? other subnet.family with
    | some existing =>
      rw [next_assignSubnet_of_some h, NodeCall.subnet?]
      split
      next hplace =>
        obtain ⟨rfl, rfl⟩ := hplace
        rw [h]
        rfl
      next => rw [Option.map_none, Option.or_none]
    | none =>
      obtain ⟨changed, hok, -, -, hsubnet⟩ := exists_assign_eq_ok h
      rw [next, NodeCall.run, hok, NodeCall.subnet?]
      refine (hsubnet network family).trans ?_
      split
      next hplace =>
        obtain ⟨rfl, rfl⟩ := hplace
        rw [h]
        rfl
      next => rw [Option.map_none, Option.or_none]

theorem name_after (node : Node) (calls : List NodeCall) : (node.after calls).name = node.name := by
  induction calls generalizing node with
  | nil => rfl
  | cons call calls ih =>
    rw [after, List.foldl_cons]
    exact (ih (node.next call)).trans (name_next node call)

/-- The address of the family that was set last stays. -/
theorem address?_after (node : Node) (calls : List NodeCall) :
    (node.after calls).address? family =
      (calls.filterMap (·.address? family)).getLast?.or (node.address? family) := by
  induction calls generalizing node with
  | nil => rfl
  | cons call calls ih =>
    rw [after, List.foldl_cons]
    refine (ih (node.next call)).trans ?_
    rw [address?_next, List.filterMap_cons]
    cases call.address? family with
    | none => rfl
    | some ip =>
      rw [List.getLast?_cons]
      cases (calls.filterMap (·.address? family)).getLast? <;> rfl

/-- The subnet of the family that was assigned first in the network stays, without its host bits. -/
theorem subnet?_after (node : Node) (calls : List NodeCall) :
    (node.after calls).subnet? network family =
      (node.subnet? network family).or
        ((calls.findSome? (·.subnet? network family)).map Subnet.trunc) := by
  induction calls generalizing node with
  | nil => exact (Option.or_none).symm
  | cons call calls ih =>
    rw [after, List.foldl_cons]
    refine (ih (node.next call)).trans ?_
    rw [subnet?_next, List.findSome?_cons, Option.or_assoc]
    cases call.subnet? network family with
    | none => rfl
    | some subnet => rfl

/-! ## From the start -/

/-- Whatever is done to a new node: its address of a family is the one that was set last, and its
subnet of a family in a network is the one that was assigned there first, without host bits. A later
assignment there fails, with both subnets in its error, and leaves the node as it was, so that all
goes on as if it had not been tried; any other one succeeds. The networks with a subnet are listed in
ascending order, each once. -/
theorem node_history (name : String) (calls : List NodeCall) :
    let node := (fresh name).after calls
    (∀ family, node.address? family = (calls.filterMap (·.address? family)).getLast?) ∧
    (∀ network family, node.subnet? network family =
      (calls.findSome? (·.subnet? network family)).map Subnet.trunc) ∧
    (∀ network subnet first, calls.findSome? (·.subnet? network subnet.family) = some first →
      node.assign network subnet =
        (.error (.duplicateSubnet name network subnet.family first.trunc subnet), node) ∧
      ∀ more, (fresh name).after (calls ++ .assignSubnet network subnet :: more) =
        (fresh name).after (calls ++ more)) ∧
    (∀ network subnet, calls.findSome? (·.subnet? network subnet.family) = none →
      node.assign network subnet =
        (.ok (), (fresh name).after (calls ++ [.assignSubnet network subnet]))) ∧
    (∀ network family subnet, node.subnet? network family = some subnet →
      subnet.family = family ∧ subnet.trunc = subnet) ∧
    (∀ network, network ∈ node.networks ↔
      ∃ family subnet, node.subnet? network family = some subnet) ∧
    node.networks.Pairwise fun a b => compare a b = .lt := by
  intro node
  have haddress : ∀ family, node.address? family = (calls.filterMap (·.address? family)).getLast? := by
    intro family
    have hnone : (fresh name).address? family = none := by cases family <;> rfl
    rw [address?_after, hnone, Option.or_none]
  have hsubnet : ∀ network family, node.subnet? network family =
      (calls.findSome? (·.subnet? network family)).map Subnet.trunc := by
    intro network family
    exact (subnet?_after (fresh name) calls).trans (Option.none_or)
  refine ⟨haddress, hsubnet, fun network subnet first hfirst => ?_, fun network subnet hfree => ?_,
    fun network family subnet h => node.subnets_fit _ _ h, fun network => mem_networks_iff,
    pairwise_networks node⟩
  · have hexisting : node.subnet? network subnet.family = some first.trunc := by
      rw [hsubnet, hfirst, Option.map_some]
    refine ⟨?_, fun more => ?_⟩
    · rw [assign_of_some hexisting, name_after]
      rfl
    · rw [after_append, after_append, after, List.foldl_cons, next_assignSubnet_of_some hexisting]
      rfl
  · have hnone : node.subnet? network subnet.family = none := by
      rw [hsubnet, hfree, Option.map_none]
    obtain ⟨other, hok, -⟩ := exists_assign_eq_ok hnone
    have hnext : node.next (.assignSubnet network subnet) = other := by
      rw [next, NodeCall.run, hok]
    rw [after_append, hok, ← hnext]
    rfl

end Node

end RouteWatch
