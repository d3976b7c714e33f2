import RouteWatch.Proofs.Mesh
import RouteWatch.Proofs.Plan.Recipe

/-!
# The order in which a full mesh is sampled

The samples of a tick are meant to be taken at the external router first and then at the nodes, one
node after the other. A plan takes each sample where it was first asked for. The plan of a full mesh
asks for the routes of the network on every node, and only then for the static networks on every node;
so a node that learns no route in the family of a static network is sampled once more after nodes that
come later.

* `pairwise_distinct_append_iff`: when what is asked for later spoils an order;
* `targets_probes_full`: the external router comes first;
* `sampling_order_iff`: when the nodes are in order;
* `full_out_of_order`: a mesh where they are not.
-/

namespace RouteWatch

/-! ## Lists in an order -/

section Order

variable {α κ : Type}

theorem pairwise_distinct_append_iff [DecidableEq α] {R : α → α → Prop} {first later : List α}
    (hfirst : first.Pairwise R) (hlater : later.Pairwise R) :
    (distinct (first ++ later)).Pairwise R ↔
      ∀ a ∈ first, ∀ b ∈ later, b ∉ first → R a b := by
  have hunseen : (unseen first (distinct later)).Pairwise R :=
    hlater.sublist (List.filter_sublist.trans (distinct_sublist later))
  rw [distinct_append, List.pairwise_append,
    and_iff_right (hfirst.sublist (distinct_sublist first)), and_iff_right hunseen]
  simp only [unseen, List.mem_filter, mem_distinct, decide_eq_true_eq, and_imp]

/-- What has to come first does come first. -/
theorem eq_filter_append_filter {p : α → Prop} [DecidablePred p] {l : List α}
    (h : l.Pairwise fun a b => p b → p a) : l = l.filter p ++ l.filter (¬ p ·) := by
  induction l with
  | nil => rfl
  | cons a l ih =>
    obtain ⟨ha, hl⟩ := List.pairwise_cons.1 h
    by_cases hp : p a
    · rw [List.filter_cons_of_pos (by simpa using hp), List.filter_cons_of_neg (by simpa using hp),
        List.cons_append, ← ih hl]
    · have hnone : ∀ b ∈ a :: l, ¬ p b :=
        List.forall_mem_cons.2 ⟨hp, fun b hb hpb => hp (ha b hb hpb)⟩
      rw [List.filter_eq_nil_iff.2 (by simpa using hnone), List.nil_append,
        List.filter_eq_self.2 (by simpa using hnone)]

/-- A list is in the order of its keys if and only if the items of the first key come first, then those
of the second one, and so on. -/
theorem eq_flatMap_filter_iff [DecidableEq κ] {R : κ → κ → Prop} {key : α → κ} {keys : List κ}
    {l : List α} (hrefl : ∀ k, R k k) (hkeys : keys.Pairwise fun a b => R a b ∧ ¬ R b a)
    (hmem : ∀ a ∈ l, key a ∈ keys) :
    (l = keys.flatMap fun k => l.filter (key · = k)) ↔ l.Pairwise fun a b => R (key a) (key b) := by
  constructor
  · intro h
    rw [h, List.pairwise_flatMap]
    have hkey : ∀ {k a}, a ∈ l.filter (key · = k) → key a = k := fun ha =>
      of_decide_eq_true (List.mem_filter.1 ha).2
    refine ⟨fun k _ => ?_, hkeys.imp fun hk a ha b hb => ?_⟩
    · refine (List.pairwise_of_forall_mem_list fun a ha b hb => ?_)
      rw [hkey ha, hkey hb]
      exact hrefl k
    · rw [hkey ha, hkey hb]
      exact hk.1
  · intro hl
    induction keys generalizing l with
    | nil => exact List.eq_nil_iff_forall_not_mem.2 fun a ha => List.not_mem_nil (hmem a ha)
    | cons k keys ih =>
      obtain ⟨hk, hkeys⟩ := List.pairwise_cons.1 hkeys
      have hother : ∀ a ∈ l, key a ≠ k → key a ∈ keys := fun a ha hne =>
        (List.mem_cons.1 (hmem a ha)).resolve_left hne
      -- the items of the first key come first, and the rest is in the order of the other keys
      have hfirst : l.Pairwise fun a b => key b = k → key a = k := by
        refine hl.imp_of_mem fun {a b} ha _ hab hb => ?_
        by_contra hne
        exact (hk _ (hother a ha hne)).2 (hb ▸ hab)
      have hrest := ih (l := l.filter (¬ key · = k)) hkeys
        (fun a ha => hother a (List.mem_of_mem_filter ha) (by simpa using (List.mem_filter.1 ha).2))
        (hl.filter _)
      have hsame : ∀ k' ∈ keys,
          (l.filter (¬ key · = k)).filter (key · = k') = l.filter (key · = k') := by
        intro k' hk'
        have hne : k' ≠ k := fun heq => (hk k' hk').2 (heq ▸ hrefl k)
        rw [List.filter_filter]
        refine List.filter_congr fun a _ => ?_
        by_cases ha : key a = k' <;> simp [ha, hne]
      calc l = l.filter (key · = k) ++ l.filter (¬ key · = k) := eq_filter_append_filter hfirst
        _ = l.filter (key · = k) ++ keys.flatMap fun k' => l.filter (key · = k') := by
          rw [hrest, List.flatMap_congr hsame]
        _ = (k :: keys).flatMap fun k' => l.filter (key · = k') := by rw [List.flatMap_cons]

end Order

/-- The first place is sampled before the other one, or is the same. -/
def Target.UpTo : Target → Target → Prop
  | .external, _ => True
  | .node _, .external => False
  | .node a, .node b => a ≤ b

/-- The places where samples are taken, in the order of a tick. -/
def Topology.targets (topology : Topology) : List Target :=
  .external :: topology.nodes.map fun n => .node n.name

theorem Target.upTo_refl (target : Target) : target.UpTo target := by
  cases target with
  | external => trivial
  | node name => exact String.le_refl name

theorem Topology.pairwise_targets (topology : Topology) :
    topology.targets.Pairwise fun a b => a.UpTo b ∧ ¬ b.UpTo a := by
  refine List.pairwise_cons.2 ⟨fun target htarget => ?_, ?_⟩
  · obtain ⟨n, -, rfl⟩ := List.mem_map.1 htarget
    exact ⟨trivial, id⟩
  · exact List.pairwise_map.2
      (topology.ascending.imp fun hlt => ⟨String.not_lt.1 (String.lt_asymm hlt), String.not_le.2 hlt⟩)

namespace Plan

/-- The probes at the external router come first, and then those at the nodes, node by node. -/
def InSamplingOrder (topology : Topology) (plan : Plan) : Prop :=
  plan.probes = topology.targets.flatMap fun target => plan.probes.filter (·.target = target)

instance (topology : Topology) (plan : Plan) : Decidable (plan.InSamplingOrder topology) :=
  inferInstanceAs (Decidable (_ = _))

theorem inSamplingOrder_iff_pairwise {topology : Topology} {plan : Plan}
    (htargets : ∀ p ∈ plan.probes, p.target ∈ topology.targets) :
    plan.InSamplingOrder topology ↔ plan.probes.Pairwise fun p q => p.target.UpTo q.target :=
  eq_flatMap_filter_iff Target.upTo_refl topology.pairwise_targets htargets

/-! ## What the builders of a mesh push -/

variable {items : List (Target × Query × Expectation)}

theorem probes_nil (description : String) : ({ description } : Plan).probes = gather [] := rfl

/-- The content of a route that is expected in both views. -/
def routeItems (target : Target) (present : Bool) (r : Subnet × Ip) :
    List (Target × Query × Expectation) :=
  View.all.map fun view => (target, view.query r.1.family, ⟨.route view r.1 r.2, present⟩)

theorem probes_pushRoute {plan : Plan} (h : plan.probes = gather items) (target : Target)
    (subnet : Subnet) (nextHop : Ip) (present : Bool) :
    (plan.pushRoute target subnet nextHop present).probes =
      gather (items ++ routeItems target present (subnet, nextHop)) := by
  rw [pushRoute, probes_foldl (fun _ _ view h =>
    probes_push h target (view.query subnet.family) ⟨.route view subnet nextHop, present⟩) h]
  rfl

theorem probes_pushRoutes {plan : Plan} (h : plan.probes = gather items) (target : Target)
    (routes : List (Subnet × Ip)) (present : Bool) :
    (plan.pushRoutes target routes present).probes =
      gather (items ++ routes.flatMap (routeItems target present)) :=
  probes_foldl (fun _ _ r h => probes_pushRoute h target r.1 r.2 present) h routes

end Plan

namespace Mesh

open Plan

variable (topology : Topology) (network : NetworkName) (statics : List Subnet) (routers : List Ip)

/-- What is expected at the external router. -/
def externalItems : List (Target × Query × Expectation) :=
  (topology.families.flatMap topology.peers).map
      (fun peer => (.external, .neighbor peer, ⟨.neighbor peer, true⟩)) ++
    (hops (topology.advertisedRoutes network)).flatMap (routeItems .external true)

/-- The routes of the network that every node learns, node by node. -/
def learnedItems : List (Target × Query × Expectation) :=
  topology.nodes.flatMap fun node =>
    (hops ((topology.advertisedRoutes network).filter (·.node != node.name))).flatMap
      (routeItems (.node node.name) true)

/-- The static networks on every node, node by node. -/
def staticItems : List (Target × Query × Expectation) :=
  topology.nodes.flatMap fun node =>
    (staticHops topology statics routers).flatMap (routeItems (.node node.name) true)

theorem probes_sessions : (sessions topology).probes =
    gather ((topology.families.flatMap topology.peers).map
      fun peer => (.external, .neighbor peer, ⟨.neighbor peer, true⟩)) := by
  have hpush : ∀ (plan : Plan) items (peer : Ip), plan.probes = gather items →
      (plan.push .external (.neighbor peer) ⟨.neighbor peer, true⟩).probes =
        gather (items ++ [(.external, .neighbor peer, ⟨.neighbor peer, true⟩)]) :=
    fun _ _ _ h => probes_push h _ _ _
  rw [sessions, probes_foldl hpush (probes_nil _), List.nil_append, List.map_eq_flatMap]

theorem probes_externalRoutes : (externalRoutes topology network true).probes =
    gather ((hops (topology.advertisedRoutes network)).flatMap (routeItems .external true)) := by
  rw [externalRoutes, probes_pushRoutes (probes_nil _), List.nil_append]

theorem probes_nodeRoutes :
    (nodeRoutes topology network true).probes = gather (learnedItems topology network) := by
  rw [nodeRoutes, probes_foldl (fun _ _ node h => probes_pushRoutes h (.node node.name)
    (hops ((topology.advertisedRoutes network).filter (·.node != node.name))) true) (probes_nil _),
    List.nil_append, learnedItems]

theorem probes_staticRoutes :
    (staticRoutes topology statics routers).probes =
      gather (staticItems topology statics routers) := by
  rw [staticRoutes, probes_foldl (fun _ _ node h => probes_pushRoutes h (.node node.name)
    (staticHops topology statics routers) true) (probes_nil _), List.nil_append, staticItems]

theorem probes_full :
    (full topology network statics routers).probes =
      gather (externalItems topology network ++
        (learnedItems topology network ++ staticItems topology statics routers)) := by
  have hroutes : (routes topology network true).probes =
      gather ((hops (topology.advertisedRoutes network)).flatMap (routeItems .external true) ++
        learnedItems topology network) :=
    probes_extend (probes_extend (probes_nil _) (probes_externalRoutes topology network))
      (probes_nodeRoutes topology network)
  refine (probes_extend (probes_extend (probes_extend (probes_nil _) (probes_sessions topology))
    hroutes) (probes_staticRoutes topology statics routers)).trans ?_
  rw [List.nil_append, externalItems]
  simp only [List.append_assoc]

/-! ## The order of the samples -/

variable {topology network statics routers} {target : Target} {query : Query} {s : Target × Query}

theorem family_query (view : View) (family : Family) : (view.query family).family = family := by
  cases view <;> rfl

theorem mem_samples_iff {routes : List (Subnet × Ip)} {place : Target} {present : Bool} :
    (target, query) ∈ (routes.flatMap (routeItems place present)).map sampleOf ↔
      target = place ∧ ∃ r ∈ routes, ∃ view : View, query = view.query r.1.family := by
  have hviews : ∀ view, view ∈ View.all := fun view => by cases view <;> decide
  simp only [List.mem_map, List.mem_flatMap, routeItems, sampleOf]
  constructor
  · rintro ⟨_, ⟨r, hr, view, -, rfl⟩, hsample⟩
    cases hsample
    exact ⟨rfl, r, hr, view, rfl⟩
  · rintro ⟨rfl, r, hr, view, rfl⟩
    exact ⟨_, ⟨r, hr, view, hviews view, rfl⟩, rfl⟩

theorem target_external (h : s ∈ (externalItems topology network).map sampleOf) :
    s.1 = .external := by
  rw [externalItems, List.map_append, List.mem_append, mem_samples_iff, List.map_map,
    List.mem_map] at h
  rcases h with ⟨peer, -, rfl⟩ | h
  · rfl
  · exact h.1

theorem mem_learned_iff :
    (target, query) ∈ (learnedItems topology network).map sampleOf ↔
      ∃ node ∈ topology.nodes, target = .node node.name ∧
        ∃ r ∈ topology.advertisedRoutes network, r.node ≠ node.name ∧
          ∃ view : View, query = view.query r.subnet.family := by
  rw [learnedItems, List.map_flatMap, List.mem_flatMap]
  simp only [mem_samples_iff, List.mem_filter, bne_iff_ne, and_assoc,
    exists_mem_hops_iff (P := fun subnet _ => ∃ view : View, query = view.query subnet.family)]

theorem mem_static_iff :
    (target, query) ∈ (staticItems topology statics routers).map sampleOf ↔
      ∃ node ∈ topology.nodes, target = .node node.name ∧
        ∃ hop ∈ staticHops topology statics routers,
          ∃ view : View, query = view.query hop.1.family := by
  rw [staticItems, List.map_flatMap, List.mem_flatMap]
  simp only [mem_samples_iff]

theorem exists_node_of_mem
    (h : s ∈ (learnedItems topology network).map sampleOf ++
      (staticItems topology statics routers).map sampleOf) :
    ∃ node ∈ topology.nodes, s.1 = .node node.name := by
  rcases List.mem_append.1 h with h | h
  · obtain ⟨node, hnode, hs, -⟩ := mem_learned_iff.1 h
    exact ⟨node, hnode, hs⟩
  · obtain ⟨node, hnode, hs, -⟩ := mem_static_iff.1 h
    exact ⟨node, hnode, hs⟩

/-- What is asked for node by node is in order. -/
theorem pairwise_flatMap_samples {content : Node → List (Target × Query × Expectation)}
    (h : ∀ node, ∀ s ∈ (content node).map sampleOf, s.1 = .node node.name) :
    ((topology.nodes.flatMap content).map sampleOf).Pairwise fun s s' => s.1.UpTo s'.1 := by
  rw [List.map_flatMap]
  refine List.pairwise_flatMap.2 ⟨fun node _ => ?_, topology.ascending.imp fun hlt s hs s' hs' => ?_⟩
  · refine List.pairwise_of_forall_mem_list fun s hs s' hs' => ?_
    rw [h node s hs, h node s' hs']
    exact Target.upTo_refl _
  · rw [h _ s hs, h _ s' hs']
    exact String.not_lt.1 (String.lt_asymm hlt)

/-- The samples at the external router come before those at the nodes. -/
theorem samples_full :
    (full topology network statics routers).probes.map Probe.sample =
      distinct ((externalItems topology network).map sampleOf) ++
        distinct ((learnedItems topology network).map sampleOf ++
          (staticItems topology statics routers).map sampleOf) := by
  have hapart : ∀ s ∈ distinct ((learnedItems topology network).map sampleOf ++
      (staticItems topology statics routers).map sampleOf),
        s ∉ (externalItems topology network).map sampleOf := by
    intro s hs hexternal
    rw [mem_distinct] at hs
    obtain ⟨node, -, hnode⟩ := exists_node_of_mem hs
    rw [target_external hexternal] at hnode
    cases hnode
  rw [probes_full, map_sample_gather, samplesOf, List.map_append, distinct_append, List.map_append,
    unseen_of_disjoint hapart]

theorem target_mem_targets {p : Probe} (hp : p ∈ (full topology network statics routers).probes) :
    p.target ∈ topology.targets := by
  have hsample : p.sample ∈ (full topology network statics routers).probes.map Probe.sample :=
    List.mem_map_of_mem hp
  rw [samples_full] at hsample
  rcases List.mem_append.1 hsample with h | h
  · have htarget : p.target = .external := target_external (mem_distinct.1 h)
    rw [htarget]
    exact List.mem_cons_self
  · rw [mem_distinct] at h
    obtain ⟨node, hnode, htarget⟩ := exists_node_of_mem h
    exact List.mem_cons_of_mem _ (List.mem_map.2 ⟨node, hnode, htarget.symm⟩)

theorem pairwise_full_iff {R : Target → Target → Prop} (hexternal : ∀ target, R .external target) :
    (full topology network statics routers).probes.Pairwise (fun p q => R p.target q.target) ↔
      (distinct ((learnedItems topology network).map sampleOf ++
        (staticItems topology statics routers).map sampleOf)).Pairwise fun s s' => R s.1 s'.1 := by
  have hsamples : (full topology network statics routers).probes.Pairwise
        (fun p q => R p.target q.target) ↔
      ((full topology network statics routers).probes.map Probe.sample).Pairwise
        fun s s' => R s.1 s'.1 := by
    rw [List.pairwise_map]
    rfl
  have hfirst : ∀ s ∈ distinct ((externalItems topology network).map sampleOf),
      ∀ s' : Target × Query, R s.1 s'.1 := by
    intro s hs s'
    rw [target_external (mem_distinct.1 hs)]
    exact hexternal s'.1
  rw [hsamples, samples_full, List.pairwise_append,
    and_iff_right (List.pairwise_of_forall_mem_list fun s hs s' _ => hfirst s hs s'),
    and_iff_left fun s hs s' _ => hfirst s hs s']

theorem external_first_full :
    (full topology network statics routers).probes.Pairwise fun p q =>
      q.target = .external → p.target = .external := by
  refine (pairwise_full_iff (R := fun a b => b = .external → a = .external) fun _ _ => rfl).2 ?_
  refine List.pairwise_of_forall_mem_list fun _ _ s hs hexternal => ?_
  rw [mem_distinct] at hs
  obtain ⟨node, -, hnode⟩ := exists_node_of_mem hs
  rw [hexternal] at hnode
  cases hnode

/-- A sample that is asked for with the static networks only comes after all those of the routes. -/
theorem inSamplingOrder_full_iff :
    (full topology network statics routers).InSamplingOrder topology ↔
      ∀ s ∈ (learnedItems topology network).map sampleOf,
        ∀ s' ∈ (staticItems topology statics routers).map sampleOf,
          s' ∉ (learnedItems topology network).map sampleOf → s.1.UpTo s'.1 := by
  have hlearned : ((learnedItems topology network).map sampleOf).Pairwise
      fun s s' => s.1.UpTo s'.1 :=
    pairwise_flatMap_samples fun _ _ hs => (mem_samples_iff.1 hs).1
  have hstatic : ((staticItems topology statics routers).map sampleOf).Pairwise
      fun s s' => s.1.UpTo s'.1 :=
    pairwise_flatMap_samples fun _ _ hs => (mem_samples_iff.1 hs).1
  rw [inSamplingOrder_iff_pairwise fun p => target_mem_targets,
    pairwise_full_iff fun _ => trivial, pairwise_distinct_append_iff hlearned hstatic]

/-- The plan of a full mesh samples the external router before any node. The nodes are sampled one after
the other, in order, if and only if of every two nodes the later one learns no route of the network, or
the earlier one learns a route in the family of every static network that is expected at the nodes. -/
theorem sampling_order_iff (topology : Topology) (network : NetworkName) (statics : List Subnet)
    (routers : List Ip) :
    let plan := full topology network statics routers
    (∀ p ∈ plan.probes, p.target ∈ topology.targets) ∧
    plan.probes =
      plan.probes.filter (·.target = .external) ++ plan.probes.filter (¬ ·.target = .external) ∧
    (plan.InSamplingOrder topology ↔
      ∀ a ∈ topology.nodes, ∀ b ∈ topology.nodes, a.name < b.name →
        (∀ r ∈ topology.advertisedRoutes network, r.node = b.name) ∨
          ∀ hop ∈ staticHops topology statics routers,
            ∃ r ∈ topology.advertisedRoutes network,
              r.node ≠ a.name ∧ r.subnet.family = hop.1.family) := by
  intro plan
  refine ⟨fun p => target_mem_targets, eq_filter_append_filter external_first_full, ?_⟩
  rw [inSamplingOrder_full_iff]
  constructor
  · intro h a ha b hb hlt
    by_contra hnot
    push Not at hnot
    obtain ⟨⟨r, hr, hne⟩, hop, hhop, hnone⟩ := hnot
    have hlearned : (.node b.name, View.bgp.query r.subnet.family) ∈
        (learnedItems topology network).map sampleOf :=
      mem_learned_iff.2 ⟨b, hb, rfl, r, hr, hne, .bgp, rfl⟩
    have hstatic : (.node a.name, View.bgp.query hop.1.family) ∈
        (staticItems topology statics routers).map sampleOf :=
      mem_static_iff.2 ⟨a, ha, rfl, hop, hhop, .bgp, rfl⟩
    refine String.not_le.2 hlt (h _ hlearned _ hstatic fun hmem => ?_)
    obtain ⟨node, -, hname, r', hr', hne', view, hquery⟩ := mem_learned_iff.1 hmem
    rw [← Target.node.inj hname] at hne'
    have hfamily := congrArg Query.family hquery
    rw [family_query, family_query] at hfamily
    exact hnone r' hr' hne' hfamily.symm
  · rintro h ⟨target, query⟩ hs ⟨target', query'⟩ hs' hnew
    obtain ⟨b, hb, rfl, r, hr, hne, -⟩ := mem_learned_iff.1 hs
    obtain ⟨a, ha, rfl, hop, hhop, view, rfl⟩ := mem_static_iff.1 hs'
    refine String.not_lt.1 fun hlt => ?_
    rcases h a ha b hb hlt with hnone | hall
    · exact hne (hnone r hr)
    · obtain ⟨r', hr', hne', hfamily⟩ := hall hop hhop
      exact hnew (mem_learned_iff.2 ⟨a, ha, rfl, r', hr', hne', view, by rw [hfamily]⟩)

/-- A topology of two nodes, of which the first one alone has a subnet. -/
def lopsided : Topology where
  stack := .v4
  nodes := [
    (Node.fresh "worker-0").after [.setAddress (.v4 ⟨192, 0, 2, 11⟩),
      .assignSubnet .default (.v4 (.sharing 23 ⟨10, 128, 0, 0⟩))],
    (Node.fresh "worker-1").after [.setAddress (.v4 ⟨192, 0, 2, 12⟩)]]
  nonempty := List.cons_ne_nil _ _
  ascending := by decide +kernel
  addressed := by decide +kernel

/-- The second node learns the route to the first one, which learns none itself. So the first node is
asked for the static network after the second one. -/
theorem full_out_of_order :
    let plan := full lopsided .default [.v4 (.sharing 24 ⟨192, 168, 1, 0⟩)] [.v4 ⟨192, 0, 2, 1⟩]
    plan.probes.map (·.target) = [.external, .external, .external, .external,
      .node "worker-1", .node "worker-1", .node "worker-0", .node "worker-0"] ∧
    ¬ plan.InSamplingOrder lopsided := by
  decide +kernel

end Mesh

end RouteWatch
