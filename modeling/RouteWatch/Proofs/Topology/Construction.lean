import RouteWatch.Proofs.Topology

/-!
# Topologies of given nodes

Nodes make a topology if there are any, their names differ and none lacks an address. The order in
which they are given does not matter, not even for the error if they make none: the names in order
are the same, and the first one that comes twice is the name of the error.

* `ofNodes_perm`: nodes in another order give the same topology or the same error;
* `listsRoutes_advertisedRoutes`: the routes of a network, none missing and none twice;
* `ofNodes_loses_nothing`: all of it.
-/

namespace RouteWatch.Topology

variable {stack : Stack} {nodes other : List Node} {topology : Topology}

/-! ## Sorting -/

theorem sortByName_perm (nodes : List Node) : (sortByName nodes).Perm nodes :=
  List.mergeSort_perm _ _

/-- Nodes in another order have the same names in order. -/
theorem map_name_sortByName (h : other.Perm nodes) :
    (sortByName other).map (·.name) = (sortByName nodes).map (·.name) := by
  have hnames : ((sortByName other).map (·.name)).Perm ((sortByName nodes).map (·.name)) :=
    (((sortByName_perm other).trans h).trans (sortByName_perm nodes).symm).map (·.name)
  exact hnames.eq_of_pairwise (fun _ _ _ _ hab hba => String.le_antisymm hab hba)
    (List.pairwise_map.2 (pairwise_le_sortByName other))
    (List.pairwise_map.2 (pairwise_le_sortByName nodes))

/-- Whether a name comes twice, and which one does first, is told by the names. -/
theorem map_name_repeated? (h : other.map (·.name) = nodes.map (·.name)) :
    (repeated? other).map (·.name) = (repeated? nodes).map (·.name) := by
  induction nodes generalizing other with
  | nil => rw [List.map_eq_nil_iff.1 h]
  | cons a nodes ih =>
    obtain ⟨a', other, rfl, ha, hrest⟩ := List.map_eq_cons_iff.1 h
    cases nodes with
    | nil => rw [List.map_eq_nil_iff.1 hrest]; rfl
    | cons b nodes =>
      obtain ⟨b', other, rfl, hb, -⟩ := List.map_eq_cons_iff.1 hrest
      rw [repeated?, repeated?, ha, hb]
      split
      next => exact congrArg some ha
      next => exact ih hrest

theorem repeated?_eq_none (h : nodes.Pairwise fun a b => a.name ≠ b.name) :
    repeated? nodes = none := by
  induction nodes with
  | nil => rfl
  | cons a nodes ih =>
    cases nodes with
    | nil => rfl
    | cons b nodes =>
      obtain ⟨ha, hrest⟩ := List.pairwise_cons.1 h
      rw [repeated?, if_neg (ha b List.mem_cons_self), ih hrest]

theorem repeated?_sortByName_eq_none_iff :
    repeated? (sortByName nodes) = none ↔ (nodes.map (·.name)).Nodup := by
  have hperm : ((sortByName nodes).map (·.name)).Perm (nodes.map (·.name)) :=
    (sortByName_perm nodes).map (·.name)
  rw [← hperm.nodup_iff, List.Nodup, List.pairwise_map]
  constructor
  · intro h
    exact (pairwise_lt_of_repeated? (pairwise_le_sortByName nodes) h).imp String.ne_of_lt
  · exact repeated?_eq_none

/-- Without repetition of names there is one order only. -/
theorem sortByName_eq (h : other.Perm nodes) (hr : repeated? (sortByName nodes) = none)
    (hr' : repeated? (sortByName other) = none) : sortByName other = sortByName nodes := by
  have hperm := ((sortByName_perm other).trans h).trans (sortByName_perm nodes).symm
  exact hperm.eq_of_pairwise (fun _ _ _ _ hab hba => absurd hba (String.lt_asymm hab))
    (pairwise_lt_of_repeated? (pairwise_le_sortByName other) hr')
    (pairwise_lt_of_repeated? (pairwise_le_sortByName nodes) hr)

/-! ## The outcomes of the construction -/

theorem ofNodes_of_repeated {n : Node} (hr : repeated? (sortByName nodes) = some n) :
    ofNodes stack nodes = .error (.duplicateNode n.name) := by
  have hne : nodes ≠ [] := by
    rintro rfl
    rw [sortByName_eq_nil_iff.2 rfl] at hr
    cases hr
  unfold ofNodes
  rw [dif_neg hne]
  split
  next n' h =>
    rw [hr] at h
    cases h
    rfl
  next h => rw [hr] at h; cases h

theorem ofNodes_of_unaddressed {n : Node} {f : Family}
    (hr : repeated? (sortByName nodes) = none)
    (ha : unaddressed? stack.families (sortByName nodes) = some (n, f)) :
    ofNodes stack nodes = .error (.missingAddress n.name f) := by
  have hne : nodes ≠ [] := by
    rintro rfl
    rw [sortByName_eq_nil_iff.2 rfl] at ha
    cases ha
  unfold ofNodes
  rw [dif_neg hne]
  split
  next h => rw [hr] at h; cases h
  next =>
    split
    next h =>
      rw [ha] at h
      cases h
      rfl
    next h => rw [ha] at h; cases h

theorem exists_ofNodes_eq_ok (hne : nodes ≠ []) (hr : repeated? (sortByName nodes) = none)
    (ha : unaddressed? stack.families (sortByName nodes) = none) :
    ∃ topology, ofNodes stack nodes = .ok topology ∧ topology.stack = stack ∧
      topology.nodes = sortByName nodes := by
  unfold ofNodes
  rw [dif_neg hne]
  split
  next h => rw [hr] at h; cases h
  next =>
    split
    next h => rw [ha] at h; cases h
    next => exact ⟨_, rfl, rfl, rfl⟩

theorem ext_nodes {t t' : Topology} (hstack : t.stack = t'.stack) (hnodes : t.nodes = t'.nodes) :
    t = t' := by
  cases t
  cases t'
  cases hstack
  cases hnodes
  rfl

/-- The checks pass if and only if there are nodes, with different names and all addresses. -/
theorem exists_ofNodes_iff :
    (∃ topology, ofNodes stack nodes = .ok topology) ↔
      nodes ≠ [] ∧ (nodes.map (·.name)).Nodup ∧
        ∀ n ∈ nodes, ∀ f ∈ stack.families, (n.address? f).isSome = true := by
  have haddressed : unaddressed? stack.families (sortByName nodes) = none ↔
      ∀ n ∈ nodes, ∀ f ∈ stack.families, (n.address? f).isSome = true := by
    rw [unaddressed?_eq_none_iff]
    exact forall_congr' fun n => imp_congr_left (sortByName_perm nodes).mem_iff
  rw [← repeated?_sortByName_eq_none_iff, ← haddressed]
  constructor
  · rintro ⟨topology, hok⟩
    refine ⟨?_, ?_, ?_⟩
    · rintro rfl
      cases hok
    · cases hr : repeated? (sortByName nodes) with
      | none => rfl
      | some n => rw [ofNodes_of_repeated hr] at hok; cases hok
    · cases hr : repeated? (sortByName nodes) with
      | some n => rw [ofNodes_of_repeated hr] at hok; cases hok
      | none =>
        cases ha : unaddressed? stack.families (sortByName nodes) with
        | none => rfl
        | some p => rw [ofNodes_of_unaddressed hr ha] at hok; cases hok
  · rintro ⟨hne, hr, ha⟩
    obtain ⟨topology, hok, -⟩ := exists_ofNodes_eq_ok hne hr ha
    exact ⟨topology, hok⟩

/-- The topology has the nodes that were given, and no others. -/
theorem of_ofNodes_eq_ok (h : ofNodes stack nodes = .ok topology) :
    topology.stack = stack ∧ topology.nodes.Perm nodes := by
  obtain ⟨hne, hnodup, haddressed⟩ := exists_ofNodes_iff.1 ⟨topology, h⟩
  have ha : unaddressed? stack.families (sortByName nodes) = none :=
    unaddressed?_eq_none_iff.2 fun n hn => haddressed n ((sortByName_perm nodes).mem_iff.1 hn)
  obtain ⟨topology', hok, hstack, hnodes⟩ :=
    exists_ofNodes_eq_ok hne (repeated?_sortByName_eq_none_iff.2 hnodup) ha
  obtain rfl : topology = topology' := by
    rw [h] at hok
    cases hok
    rfl
  exact ⟨hstack, hnodes ▸ sortByName_perm nodes⟩

theorem ofNodes_perm (h : other.Perm nodes) : ofNodes stack other = ofNodes stack nodes := by
  have hnames := map_name_repeated? (map_name_sortByName h)
  cases hr : repeated? (sortByName nodes) with
  | some n =>
    rw [hr] at hnames
    obtain ⟨n', hr', hname⟩ := Option.map_eq_some_iff.1 hnames
    rw [ofNodes_of_repeated hr, ofNodes_of_repeated hr', hname]
  | none =>
    rw [hr] at hnames
    have hr' := Option.map_eq_none_iff.1 hnames
    have hsort := sortByName_eq h hr hr'
    by_cases hne : nodes = []
    · subst hne
      rw [h.eq_nil]
    · have hne' : other ≠ [] := fun hnil => hne (hnil ▸ h).nil_eq.symm
      cases ha : unaddressed? stack.families (sortByName nodes) with
      | some p => rw [ofNodes_of_unaddressed hr ha, ofNodes_of_unaddressed hr' (hsort ▸ ha)]
      | none =>
        obtain ⟨topology, hok, hstack, hnodes⟩ := exists_ofNodes_eq_ok hne hr ha
        obtain ⟨topology', hok', hstack', hnodes'⟩ := exists_ofNodes_eq_ok hne' hr' (hsort ▸ ha)
        rw [hok, hok', ext_nodes (hstack'.trans hstack.symm) (by rw [hnodes', hnodes, hsort])]

/-! ## The routes -/

/-- The routes to the subnets that the nodes have in the network, in families of the cluster. -/
structure ListsRoutes (stack : Stack) (nodes : List Node) (network : NetworkName)
    (routes : List AdvertisedRoute) : Prop where
  /-- They are listed by family and then by node, so there is one for each of both at most. -/
  ordered : routes.Pairwise fun a b =>
    a.subnet.family.rank < b.subnet.family.rank ∨
      a.subnet.family = b.subnet.family ∧ a.node < b.node
  /-- Each has a subnet of its node, and the address of that node in the same family. -/
  owned : ∀ r ∈ routes, r.subnet.family ∈ stack.families ∧
    ∃ node ∈ nodes, node.name = r.node ∧
      node.subnet? network r.subnet.family = some r.subnet ∧
      node.address? r.subnet.family = some r.nextHop
  /-- No subnet is left out, and no node for the want of an address. -/
  complete : ∀ node ∈ nodes, ∀ family ∈ stack.families, ∀ subnet,
    node.subnet? network family = some subnet →
      ∃ nextHop, node.address? family = some nextHop ∧ ⟨node.name, subnet, nextHop⟩ ∈ routes

theorem ListsRoutes.of_perm {network : NetworkName} {routes : List AdvertisedRoute}
    (h : ListsRoutes stack other network routes) (hperm : other.Perm nodes) :
    ListsRoutes stack nodes network routes where
  ordered := h.ordered
  owned r hr := by
    obtain ⟨hfamily, node, hnode, hroute⟩ := h.owned r hr
    exact ⟨hfamily, node, hperm.mem_iff.1 hnode, hroute⟩
  complete node hnode := h.complete node (hperm.mem_iff.2 hnode)

theorem pairwise_families (stack : Stack) :
    stack.families.Pairwise fun a b => a.rank < b.rank := by
  cases stack with
  | v4 | v6 => exact List.pairwise_singleton _ _
  | dual => exact List.pairwise_pair.2 (by decide)

theorem listsRoutes_advertisedRoutes (topology : Topology) (network : NetworkName) :
    ListsRoutes topology.stack topology.nodes network (topology.advertisedRoutes network) where
  ordered := by
    have hfamily : ∀ {family : Family} {r : AdvertisedRoute}, (r ∈ topology.nodes.filterMap fun n => do
        return ⟨n.name, ← n.subnet? network family, ← n.address? family⟩) →
          r.subnet.family = family := by
      intro family r hr
      obtain ⟨node, -, hroute⟩ := List.mem_filterMap.1 hr
      exact (node.subnets_fit _ _ (route_eq_some_iff.1 hroute).2.1).1
    refine List.pairwise_flatMap.2 ⟨fun family _ => ?_, ?_⟩
    · refine List.pairwise_filterMap.2 (topology.ascending.imp fun {a b} hlt r hr r' hr' => .inr ?_)
      obtain ⟨hname, hsubnet, -⟩ := route_eq_some_iff.1 hr
      obtain ⟨hname', hsubnet', -⟩ := route_eq_some_iff.1 hr'
      rw [(a.subnets_fit _ _ hsubnet).1, (b.subnets_fit _ _ hsubnet').1, ← hname, ← hname']
      exact ⟨rfl, hlt⟩
    · refine (pairwise_families topology.stack).imp fun hrank r hr r' hr' => .inl ?_
      rw [hfamily hr, hfamily hr']
      exact hrank
  owned r hr := by
    obtain ⟨node, hnode, hname, hfamily, hsubnet, haddress⟩ := mem_advertisedRoutes_iff.1 hr
    exact ⟨hfamily, node, hnode, hname, hsubnet, haddress⟩
  complete node hnode family hfamily subnet hsubnet := by
    obtain ⟨nextHop, haddress⟩ := Option.isSome_iff_exists.1 (topology.addressed node hnode family hfamily)
    obtain rfl := (node.subnets_fit _ _ hsubnet).1
    exact ⟨nextHop, haddress,
      mem_advertisedRoutes_iff.2 ⟨node, hnode, rfl, hfamily, hsubnet, haddress⟩⟩

/-- Nodes make a topology if and only if there are any, with different names and an address of every
family of the cluster. In another order they make the same topology, or give the same error. The
topology has just these nodes, in ascending order of their names, and the routes of a network are those
to all of their subnets there. -/
theorem ofNodes_loses_nothing (stack : Stack) (nodes : List Node) :
    ((∃ topology, ofNodes stack nodes = .ok topology) ↔
      nodes ≠ [] ∧ (nodes.map (·.name)).Nodup ∧
        ∀ n ∈ nodes, ∀ f ∈ stack.families, (n.address? f).isSome = true) ∧
    (∀ other, other.Perm nodes → ofNodes stack other = ofNodes stack nodes) ∧
    ∀ topology, ofNodes stack nodes = .ok topology →
      topology.stack = stack ∧ topology.nodes.Perm nodes ∧
      (topology.nodes.Pairwise fun a b => a.name < b.name) ∧
      ∀ network, ListsRoutes stack nodes network (topology.advertisedRoutes network) := by
  refine ⟨exists_ofNodes_iff, fun other => ofNodes_perm, fun topology hok => ?_⟩
  obtain ⟨rfl, hperm⟩ := of_ofNodes_eq_ok hok
  refine ⟨rfl, hperm, topology.ascending, fun network => ?_⟩
  exact (listsRoutes_advertisedRoutes topology network).of_perm hperm

end RouteWatch.Topology
