import RouteWatch.Proofs.Mesh
import RouteWatch.Proofs.Plan.Contradiction
import RouteWatch.Proofs.Scenario.Checks

/-!
# Scenarios that wait for the impossible

Two scenarios wait for a plan of which one half expects routes and the other half expects that there
are none. Nothing in a topology keeps two networks from having the same subnet on a node, or two
nodes from having the same address, and then the two halves speak of the same route.

* `polled_contradictory_iff`: a plan that is waited for contradicts itself if and only if the two
  networks of a selection share a route, or the two nodes of a move share their address;
* `selector_polls_contradiction`: this happens.
-/

namespace RouteWatch

namespace Plan

variable {plan : Plan} {subnet subnet' : Subnet} {nextHop nextHop' : Ip} {present present' : Bool}
  {query query' : Query} {e e' : Expectation}

theorem present_of_ofRoute (h : OfRoute subnet nextHop present query e) : e.present = present := by
  obtain ⟨view, -, rfl⟩ := h
  rfl

theorem eq_of_ofRoute (h : OfRoute subnet nextHop present query e)
    (h' : OfRoute subnet' nextHop' present' query' e') (hcheck : e.check = e'.check) :
    subnet = subnet' ∧ nextHop = nextHop' := by
  obtain ⟨view, -, rfl⟩ := h
  obtain ⟨view', -, rfl⟩ := h'
  injection hcheck with hview hsubnet hnextHop
  exact ⟨hsubnet, hnextHop⟩

/-- A plan of routes that are to be there and of routes that are not contradicts itself if and only
if some route is of both kinds at one place. -/
theorem contradictory_iff_of_routes {there away : Target → Subnet → Ip → Prop} (h : plan.Apart)
    (hexpects : ∀ target query e, plan.Expects target query e ↔
      (∃ subnet nextHop, there target subnet nextHop ∧ OfRoute subnet nextHop true query e) ∨
        ∃ subnet nextHop, away target subnet nextHop ∧ OfRoute subnet nextHop false query e) :
    plan.Contradictory ↔
      ∃ target subnet nextHop, there target subnet nextHop ∧ away target subnet nextHop := by
  rw [contradictory_iff h]
  -- of the two expectations, one is that the route is there
  have hclash : ∀ {target query e e'}, e.present = true → e'.present = false →
      e.check = e'.check → plan.Expects target query e → plan.Expects target query e' →
      ∃ target subnet nextHop, there target subnet nextHop ∧ away target subnet nextHop := by
    intro target query e e' hthere haway hcheck he he'
    rcases (hexpects target query e).1 he with ⟨subnet, nextHop, hin, hroute⟩ |
      ⟨subnet, nextHop, -, hroute⟩
    · rcases (hexpects target query e').1 he' with ⟨subnet', nextHop', -, hroute'⟩ |
        ⟨subnet', nextHop', hout, hroute'⟩
      · rw [present_of_ofRoute hroute'] at haway
        cases haway
      · obtain ⟨rfl, rfl⟩ := eq_of_ofRoute hroute hroute' hcheck
        exact ⟨target, subnet, nextHop, hin, hout⟩
    · rw [present_of_ofRoute hroute] at hthere
      cases hthere
  constructor
  · rintro ⟨target, query, e, he, hnegate⟩
    have hopposite : e.negate.present = !e.present := rfl
    cases hpresent : e.present with
    | true =>
      rw [hpresent] at hopposite
      exact hclash hpresent hopposite rfl he hnegate
    | false =>
      rw [hpresent] at hopposite
      exact hclash hopposite hpresent rfl hnegate he
  · rintro ⟨target, subnet, nextHop, hin, hout⟩
    refine ⟨target, View.bgp.query subnet.family, ⟨.route .bgp subnet nextHop, true⟩, ?_, ?_⟩
    · exact (hexpects _ _ _).2 (.inl ⟨subnet, nextHop, hin, .bgp, rfl, rfl⟩)
    · exact (hexpects _ _ _).2 (.inr ⟨subnet, nextHop, hout, .bgp, rfl, rfl⟩)

end Plan

/-! ## The plans of one polarity -/

namespace Mesh

variable {topology : Topology} {target : Target} {query : Query} {e : Expectation}

theorem present_of_expects_routes {network : NetworkName} {present : Bool}
    (h : (routes topology network present).Expects target query e) : e.present = present := by
  obtain ⟨r, -, hroute, -⟩ := expects_routes.1 h
  exact Plan.present_of_ofRoute hroute

/-- A route of the network is looked for at the target. -/
def LooksFor (topology : Topology) (network : NetworkName) (target : Target) (subnet : Subnet)
    (nextHop : Ip) : Prop :=
  ∃ r ∈ topology.advertisedRoutes network, r.subnet = subnet ∧ r.nextHop = nextHop ∧
    (target = .external ∨ ∃ node ∈ topology.nodes, target = .node node.name ∧ r.node ≠ node.name)

theorem expects_routes_iff_looksFor {network : NetworkName} {present : Bool} :
    (routes topology network present).Expects target query e ↔
      ∃ subnet nextHop, LooksFor topology network target subnet nextHop ∧
        OfRoute subnet nextHop present query e := by
  rw [expects_routes]
  constructor
  · rintro ⟨r, hr, hroute, hplace⟩
    exact ⟨r.subnet, r.nextHop, ⟨r, hr, rfl, rfl, hplace⟩, hroute⟩
  · rintro ⟨_, _, ⟨r, hr, rfl, rfl, hplace⟩, hroute⟩
    exact ⟨r, hr, hroute, hplace⟩

theorem present_of_expects_full {network : NetworkName} {statics : List Subnet}
    {routers : List Ip} (h : (full topology network statics routers).Expects target query e) :
    e.present = true := by
  rcases expects_full.1 h with h | h | h
  · obtain ⟨peer, -, -, -, rfl⟩ := expects_sessions.1 h
    rfl
  · exact present_of_expects_routes h
  · obtain ⟨node, -, -, r, -, hroute⟩ := expects_staticRoutes.1 h
    exact Plan.present_of_ofRoute hroute

end Mesh

namespace Scenario

variable {σ : Type}

theorem not_contradictory_extend_nil {plan : Plan} {present : Bool} (description : String)
    (h : ∀ target query e, plan.Expects target query e → e.present = present) :
    ¬ (({ description } : Plan).extend plan).Contradictory := by
  refine Plan.not_contradictory present fun target query e he => ?_
  rcases (Plan.expects_extend _ plan).1 he with he | he
  · exact h target query e he
  · exact absurd he (Plan.not_expects_nil description)

theorem not_contradictory_sessions (topology : Topology) :
    ¬ (Mesh.sessions topology).Contradictory := by
  refine Plan.not_contradictory true fun target query e he => ?_
  obtain ⟨peer, -, -, -, rfl⟩ := Mesh.expects_sessions.1 he
  rfl

/-! ## The two plans of both polarities -/

theorem SelectorOptions.contradictory_plan_iff (o : SelectorOptions) (topology : Topology) :
    (o.plan topology).Contradictory ↔
      ∃ r ∈ topology.advertisedRoutes (.ofClusterWide o.selected),
        ∃ r' ∈ topology.advertisedRoutes (.ofClusterWide o.other),
          r.subnet = r'.subnet ∧ r.nextHop = r'.nextHop := by
  have hexpects : ∀ target query e, (o.plan topology).Expects target query e ↔
      (∃ subnet nextHop,
        Mesh.LooksFor topology (.ofClusterWide o.selected) target subnet nextHop ∧
          OfRoute subnet nextHop true query e) ∨
        ∃ subnet nextHop, Mesh.LooksFor topology (.ofClusterWide o.other) target subnet nextHop ∧
          OfRoute subnet nextHop false query e := by
    intro target query e
    simp only [plan, List.foldl_cons, List.foldl_nil, Plan.expects_extend,
      Mesh.expects_routes_iff_looksFor, Plan.not_expects_nil, or_false]
    exact or_comm
  have hapart : (o.plan topology).Apart :=
    List.foldlRecOn _ _ (Plan.apart_nil _) fun _ h _ _ => Plan.apart_extend h _
  rw [Plan.contradictory_iff_of_routes hapart hexpects]
  constructor
  · rintro ⟨target, _, _, ⟨r, hr, rfl, rfl, -⟩, ⟨r', hr', hsubnet, hnextHop, -⟩⟩
    exact ⟨r, hr, r', hr', hsubnet.symm, hnextHop.symm⟩
  · rintro ⟨r, hr, r', hr', hsubnet, hnextHop⟩
    exact ⟨.external, r.subnet, r.nextHop, ⟨r, hr, rfl, rfl, .inl rfl⟩,
      ⟨r', hr', hsubnet.symm, hnextHop.symm, .inl rfl⟩⟩

theorem EgressMove.contradictory_plan_iff (m : EgressMove) :
    m.plan.Contradictory ↔ m.holderIp = m.targetIp := by
  have hexpects : ∀ target query e, m.plan.Expects target query e ↔
      (∃ subnet nextHop, (target = .external ∧ subnet = .host m.egress ∧ nextHop = m.targetIp) ∧
          OfRoute subnet nextHop true query e) ∨
        ∃ subnet nextHop, (target = .external ∧ subnet = .host m.egress ∧ nextHop = m.holderIp) ∧
          OfRoute subnet nextHop false query e := by
    intro target query e
    simp only [plan, List.foldl_cons, List.foldl_nil, Plan.expects_extend,
      Mesh.expects_egressRoute, Plan.not_expects_nil, or_false]
    constructor
    · rintro (⟨rfl, hroute⟩ | ⟨rfl, hroute⟩)
      · exact .inl ⟨_, _, ⟨rfl, rfl, rfl⟩, hroute⟩
      · exact .inr ⟨_, _, ⟨rfl, rfl, rfl⟩, hroute⟩
    · rintro (⟨_, _, ⟨rfl, rfl, rfl⟩, hroute⟩ | ⟨_, _, ⟨rfl, rfl, rfl⟩, hroute⟩)
      · exact .inl ⟨rfl, hroute⟩
      · exact .inr ⟨rfl, hroute⟩
  have hapart : m.plan.Apart :=
    List.foldlRecOn _ _ (Plan.apart_nil _) fun _ h _ _ => Plan.apart_extend h _
  rw [Plan.contradictory_iff_of_routes hapart hexpects]
  constructor
  · rintro ⟨target, subnet, nextHop, ⟨-, -, rfl⟩, ⟨-, -, hsame⟩⟩
    exact hsame.symm
  · intro hsame
    exact ⟨.external, .host m.egress, m.targetIp, ⟨rfl, rfl, rfl⟩, ⟨rfl, rfl, hsame.symm⟩⟩

/-! ## What is waited for -/

/-- The halves of the plan speak of the same route: the two networks of the selection share one, or
the address is to move between nodes that have the same address. -/
def Clashes (topology : Topology) (plan : Plan) : ScenarioChoice → Prop
  | .defaultNetwork _ | .recovery _ => False
  | .selector o =>
    ∃ r ∈ topology.advertisedRoutes (.ofClusterWide o.selected),
      ∃ r' ∈ topology.advertisedRoutes (.ofClusterWide o.other),
        r.subnet = r'.subnet ∧ r.nextHop = r'.nextHop
  | .failover o =>
    ∃ held m, o.move topology held = .ok m ∧ plan = m.plan ∧ m.holderIp = m.targetIp

theorem contradictory_iff_clashes {env : Environment σ} {held : List EgressAssignment}
    {choice : ScenarioChoice} {plan : Plan} {settings : Poll.Settings}
    (h : (plan, settings) ∈ checks env held choice) :
    plan.Contradictory ↔ Clashes env.topology plan choice := by
  have hmesh : ¬ (defaultMesh env).Contradictory :=
    Plan.not_contradictory true fun _ _ _ => Mesh.present_of_expects_full
  have hsessions := not_contradictory_sessions env.topology
  cases choice with
  | defaultNetwork name =>
    have hwithdrawn : ¬ (Mesh.routes env.topology .default false).Contradictory :=
      Plan.not_contradictory false fun _ _ _ => Mesh.present_of_expects_routes
    have hstable : ¬ (stablePlan (Mesh.routes env.topology .default false)).Contradictory :=
      not_contradictory_extend_nil _ fun _ _ _ => Mesh.present_of_expects_routes
    simp only [checks, List.mem_cons, Prod.mk.injEq, List.not_mem_nil, or_false] at h
    refine iff_of_false ?_ id
    rcases h with ⟨rfl, -⟩ | ⟨rfl, -⟩ | ⟨rfl, -⟩ | ⟨rfl, -⟩
    · exact hsessions
    · exact hmesh
    · exact hwithdrawn
    · exact hstable
  | selector o =>
    simp only [checks, List.mem_singleton, Prod.mk.injEq] at h
    rw [h.1]
    exact o.contradictory_plan_iff env.topology
  | failover o =>
    rw [checks] at h
    split at h
    next m hm =>
      simp only [List.mem_cons, Prod.mk.injEq, List.not_mem_nil, or_false] at h
      rcases h with ⟨rfl, -⟩ | ⟨rfl, -⟩
      · have hfirst : ¬ (Mesh.egressRoute m.egress m.holderIp true).Contradictory := by
          refine Plan.not_contradictory true fun target query e he => ?_
          exact Plan.present_of_ofRoute (Mesh.expects_egressRoute.1 he).2
        refine iff_of_false hfirst ?_
        -- if this were also the plan of a move between equal addresses, it would contradict itself
        rintro ⟨held', m', -, hplan, hsame⟩
        rw [hplan] at hfirst
        exact hfirst (m'.contradictory_plan_iff.2 hsame)
      · constructor
        · intro hcontradictory
          exact ⟨held, m, hm, rfl, m.contradictory_plan_iff.1 hcontradictory⟩
        · rintro ⟨held', m', -, hplan, hsame⟩
          rw [hplan]
          exact m'.contradictory_plan_iff.2 hsame
    next => cases h
  | recovery o =>
    have hrecovered : ¬ (o.plan env).Contradictory :=
      not_contradictory_extend_nil _ fun _ _ _ => Mesh.present_of_expects_full
    simp only [checks, List.mem_cons, Prod.mk.injEq, List.not_mem_nil, or_false] at h
    refine iff_of_false ?_ id
    rcases h with ⟨rfl, -⟩ | ⟨rfl, -⟩ | ⟨rfl, -⟩
    · exact hsessions
    · exact hmesh
    · exact hrecovered

/-- A plan that a scenario waits for contradicts itself if and only if its halves speak of the same
route. Then there are no samples on which it holds. -/
theorem polled_contradictory_iff (env : Environment σ) (choice : ScenarioChoice) (start : Start σ)
    {plan : Plan} {settings : Poll.Settings}
    (h : .sent (.converge plan settings) ∈ start.trace env choice) :
    (plan.Contradictory ↔ Clashes env.topology plan choice) ∧
      (plan.Contradictory → ∀ samples : List Sample, samples.length = plan.probes.length →
        plan.mismatches samples ≠ []) := by
  obtain ⟨held, hchecks⟩ := mem_checks_of_sent h
  exact ⟨contradictory_iff_clashes hchecks, fun h _ => h.mismatches_ne_nil⟩

/-! ## Two networks with the same subnet -/

/-- The same subnet in two networks. -/
def sharedSubnets : Table SubnetKey Subnet :=
  .ofList [
    (⟨.ofClusterWide "blue", .v4⟩, .v4 (.sharing 24 ⟨10, 201, 0, 0⟩)),
    (⟨.ofClusterWide "red", .v4⟩, .v4 (.sharing 24 ⟨10, 201, 0, 0⟩))]

theorem sharedSubnets_fit :
    ∀ e ∈ sharedSubnets.entries, e.2.family = e.1.family ∧ e.2.trunc = e.2 := by
  decide +kernel

/-- One node, on which two networks have the same subnet. -/
def sharingNode : Topology where
  stack := .v4
  nodes := [{
    name := "worker-0"
    v4 := some ⟨192, 0, 2, 11⟩
    subnets := sharedSubnets
    subnets_fit := fun key subnet h =>
      sharedSubnets_fit (key, subnet) (sharedSubnets.mem_entries_iff.2 h) }]
  nonempty := by simp
  ascending := by simp
  addressed := by decide

/-- The network `blue` is to be there and `red` is not. -/
def blueNotRed : SelectorOptions :=
  ⟨"selected", ⟨"advertise", "true"⟩, "blue", "red"⟩

/-- A scenario that starts now on the node, where all calls succeed. -/
def sharingStart : Start (List Bool) where
  report := .ofTopology "selector" "" sharingNode
  now := 0
  world := []

theorem selector_polls_contradiction :
    ∃ plan settings,
      .sent (.converge plan settings) ∈
        sharingStart.trace (scripted sharingNode) (.selector blueNotRed) ∧
      plan.Contradictory :=
  ⟨blueNotRed.plan sharingNode, .routePropagation, by decide +kernel, by decide +kernel⟩

theorem polled_contradictory_iff_of_sharingNode :
    let plan := blueNotRed.plan sharingNode
    .sent (.converge plan .routePropagation) ∈
        sharingStart.trace (scripted sharingNode) (.selector blueNotRed) ∧
      (plan.Contradictory ↔ Clashes sharingNode plan (.selector blueNotRed)) ∧
      ∀ samples : List Sample, samples.length = plan.probes.length →
        plan.mismatches samples ≠ [] := by
  intro plan
  have hsent : .sent (.converge plan .routePropagation) ∈
      sharingStart.trace (scripted sharingNode) (.selector blueNotRed) := by decide +kernel
  obtain ⟨hiff, hnever⟩ :=
    polled_contradictory_iff (scripted sharingNode) (.selector blueNotRed) sharingStart hsent
  exact ⟨hsent, hiff, hnever (by decide +kernel)⟩

end Scenario

end RouteWatch
