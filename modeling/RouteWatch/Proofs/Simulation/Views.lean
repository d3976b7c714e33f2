import RouteWatch.Proofs.Mesh
import RouteWatch.Proofs.Simulation.Converge
import RouteWatch.Proofs.Simulation.Tables
import RouteWatch.Proofs.Simulation.Visible

/-!
# What the simulated cluster shows

A plan is shown if and only if the rows of the tables are as it expects. Rows that do not come from
the cluster's own routes have other next hops than the addresses of nodes, so they never make a route
of a node appear.

* `shows_sessions_iff`: the sessions are shown if and only if they are established;
* `shows_routes_iff`: what the tables have to contain for the routes of a network.
-/

namespace RouteWatch.Simulation

namespace Cluster

variable {c : Cluster} {w : World} {now : Millis} {plan : Plan} {target : Target} {query : Query}
  {e : Expectation}

/-- The sample of the query at the target is as expected. -/
def Meets (c : Cluster) (w : World) (now : Millis) (target : Target) (query : Query)
    (e : Expectation) : Prop :=
  ∃ text, c.printed? w now query target = some text ∧ e.holds text = true

theorem shows_iff (hplan : plan.Filled) :
    c.Shows w now plan ↔
      ∀ target query e, plan.Expects target query e → c.Meets w now target query e := by
  constructor
  · rintro h target query e ⟨p, hp, rfl, rfl, he⟩
    obtain ⟨text, htext, hholds⟩ := h p hp
    exact ⟨text, htext, hholds e he⟩
  · intro h p hp
    obtain ⟨e, he⟩ := List.exists_mem_of_ne_nil _ (hplan p hp)
    obtain ⟨text, htext, -⟩ := h p.target p.query e ⟨p, hp, rfl, rfl, he⟩
    refine ⟨text, htext, fun e he => ?_⟩
    obtain ⟨text', htext', hholds⟩ := h p.target p.query e ⟨p, hp, rfl, rfl, he⟩
    rw [htext] at htext'
    cases htext'
    exact hholds

/-! ## Rows -/

/-- The rows of all families that the target prints in the view. -/
def rows (c : Cluster) (w : World) (now : Millis) : Target → View → List Row
  | .external, .bgp => (c.visibleRoutes w now).map rowOf ++ c.localRows
  | .external, .kernel => (c.visibleRoutes w now).map rowOf
  | .node name, _ => c.nodeRows w now name

/-- There is such a target. -/
def Knows (c : Cluster) : Target → Prop
  | .external => True
  | .node name => (c.topology.node? name).isSome = true

/-- The table of the view. -/
def printedTable (view : View) (rows : List Row) : String :=
  match view with
  | .bgp => daemonTable rows
  | .kernel => kernelTable rows

theorem route_printedTable_iff {view : View} {subnet : Subnet} {nextHop : Ip} {rows : List Row} :
    Match.route view subnet nextHop (printedTable view rows) = true ↔
      ⟨subnet.trunc, nextHop⟩ ∈ rows := by
  cases view with
  | bgp => exact route_daemonTable_iff
  | kernel => exact route_kernelTable_iff

/-- The matchers read back what is printed, and nothing else: the rows of the daemon's table, those of
the kernel's table, and whether the sessions with a neighbor are established. -/
theorem matchers_read_tables :
    (∀ (rows : List Row) (subnet : Subnet) (nextHop : Ip),
      Match.route .bgp subnet nextHop (daemonTable rows) = true ↔
        ⟨subnet.trunc, nextHop⟩ ∈ rows) ∧
    (∀ (rows : List Row) (subnet : Subnet) (nextHop : Ip),
      Match.route .kernel subnet nextHop (kernelTable rows) = true ↔
        ∃ r ∈ rows, r.subnet = subnet.trunc ∧ r.nextHop = nextHop) ∧
    ∀ (c : Cluster) (w : World) (now : Millis) (peer query : Ip),
      Match.neighbor query (c.printedByRouter w now (.neighbor peer)) = true ↔
        peer = query ∧ c.sessionsUp w now = true := by
  refine ⟨fun rows subnet nextHop => route_daemonTable_iff, fun rows subnet nextHop => ?_,
    fun c w now peer query => neighbor_neighborPage_iff⟩
  rw [route_kernelTable_iff]
  constructor
  · intro h
    exact ⟨_, h, rfl, rfl⟩
  · rintro ⟨⟨_, _⟩, h, rfl, rfl⟩
    exact h

theorem printed?_query (htarget : c.Knows target) (view : View) (family : Family) :
    c.printed? w now (view.query family) target =
      some (printedTable view (ofFamily family (c.rows w now target view))) := by
  rcases target with - | name
  · cases view <;> rfl
  · rw [Knows] at htarget
    rw [printed?, if_pos htarget]
    cases view <;> rfl

theorem mem_ofFamily_iff {family : Family} {rows : List Row} {row : Row} :
    row ∈ ofFamily family rows ↔ row ∈ rows ∧ row.subnet.family = family := by
  simp [ofFamily]

theorem holds_iff {text : String} :
    e.holds text = true ↔ (e.check.found text = true ↔ e.present = true) := by
  rw [Expectation.holds, Expectation.verdict, beq_iff_eq, Bool.eq_iff_iff]

/-- A route is found in a view if and only if the table has a row for it. -/
theorem meets_route_iff (htarget : c.Knows target) {view : View} {subnet : Subnet} {nextHop : Ip}
    {present : Bool} :
    c.Meets w now target (view.query subnet.family) ⟨.route view subnet nextHop, present⟩ ↔
      (⟨subnet.trunc, nextHop⟩ ∈ c.rows w now target view ↔ present = true) := by
  simp only [Meets, printed?_query htarget, Option.some.injEq, exists_eq_left', holds_iff,
    Check.found, route_printedTable_iff, mem_ofFamily_iff, Subnet.family_trunc, and_true]

theorem meets_neighbor_iff {peer : Ip} :
    c.Meets w now .external (.neighbor peer) ⟨.neighbor peer, true⟩ ↔
      c.sessionsUp w now = true := by
  have hprinted : c.printed? w now (.neighbor peer) .external =
      some (neighborPage peer (c.sessionsUp w now)) := rfl
  simp [Meets, hprinted, holds_iff, Check.found, neighbor_neighborPage_iff]

/-! ## Plans -/

theorem exists_expects_sessions (topology : Topology) :
    ∃ peer, (Mesh.sessions topology).Expects .external (.neighbor peer) ⟨.neighbor peer, true⟩ := by
  obtain ⟨peer, hpeer⟩ := topology.exists_peer
  exact ⟨peer, Mesh.expects_sessions.2 ⟨peer, hpeer, rfl, rfl, rfl⟩⟩

theorem shows_sessions_iff : c.Shows w now (Mesh.sessions c.topology) ↔ c.sessionsUp w now = true := by
  rw [shows_iff (Mesh.filled_sessions _)]
  constructor
  · intro h
    obtain ⟨peer, hpeer⟩ := exists_expects_sessions c.topology
    exact meets_neighbor_iff.1 (h _ _ _ hpeer)
  · rintro hup target query e he
    obtain ⟨peer, -, rfl, rfl, rfl⟩ := Mesh.expects_sessions.1 he
    exact meets_neighbor_iff.2 hup

/-- The routes of the network are expected there: at the external router, and at each node those to
other nodes. -/
def ExpectedAt (c : Cluster) (r : AdvertisedRoute) : Target → Prop
  | .external => True
  | .node name => r.node ≠ name ∧ ∃ node ∈ c.topology.nodes, node.name = name

theorem ExpectedAt.knows {r : AdvertisedRoute} (h : c.ExpectedAt r target) : c.Knows target := by
  rcases target with - | name
  · trivial
  · obtain ⟨-, node, hnode, rfl⟩ := h
    exact Topology.isSome_node? hnode

/-- What the tables have to contain for the routes of a network, everywhere but at the nodes that
own them. -/
theorem shows_routes_iff {network : NetworkName} {present : Bool} :
    c.Shows w now (Mesh.routes c.topology network present) ↔
      ∀ r ∈ c.topology.advertisedRoutes network, ∀ target, c.ExpectedAt r target → ∀ view,
        (⟨r.subnet, r.nextHop⟩ ∈ c.rows w now target view ↔ present = true) := by
  have hplace : ∀ (r : AdvertisedRoute) (target : Target), c.ExpectedAt r target ↔
      (target = .external ∨
        ∃ node ∈ c.topology.nodes, target = .node node.name ∧ r.node ≠ node.name) := by
    rintro r (- | name)
    · simp [ExpectedAt]
    · simp only [ExpectedAt, reduceCtorEq, false_or, Target.node.injEq]
      grind
  rw [shows_iff (Mesh.filled_routes _ _ _)]
  constructor
  · intro h r hr target hplaced view
    have hmeets := h target _ _ (Mesh.expects_routes.2
      ⟨r, hr, ⟨view, rfl, rfl⟩, (hplace r target).1 hplaced⟩)
    rwa [meets_route_iff hplaced.knows, Topology.trunc_of_mem_advertisedRoutes hr] at hmeets
  · intro h target query e he
    obtain ⟨r, hr, ⟨view, rfl, rfl⟩, hplaced⟩ := Mesh.expects_routes.1 he
    rw [← hplace] at hplaced
    rw [meets_route_iff hplaced.knows, Topology.trunc_of_mem_advertisedRoutes hr]
    exact h r hr target hplaced view

theorem trunc_of_mem_statics {net : Subnet} (h : net ∈ c.statics) : net.trunc = net := by
  obtain ⟨family, -, hnet⟩ := List.mem_flatMap.1 h
  clear h
  revert net
  cases family <;> decide

/-- The static networks are on the nodes while the sessions are established. -/
theorem meets_of_expects_staticRoutes (hup : c.sessionsUp w now = true)
    (he : (Mesh.staticRoutes c.topology c.statics c.routers).Expects target query e) :
    c.Meets w now target query e := by
  obtain ⟨node, hnode, rfl, ⟨net, router⟩, hhop, view, rfl, rfl⟩ := Mesh.expects_staticRoutes.1 he
  obtain ⟨hnet, -, hrouter⟩ := Mesh.mem_staticHops_iff.1 hhop
  have hknows : c.Knows (.node node.name) := Topology.isSome_node? hnode
  rw [meets_route_iff hknows, trunc_of_mem_statics hnet, iff_true_right rfl]
  refine List.mem_append_right _ ?_
  rw [learnedRows, if_pos hup]
  exact List.mem_filterMap.2 ⟨net, hnet, by rw [hrouter]; rfl⟩

/-- The full mesh is there if and only if the sessions are established and the routes are there. -/
theorem shows_full_iff {network : NetworkName} :
    c.Shows w now (Mesh.full c.topology network c.statics c.routers) ↔
      c.sessionsUp w now = true ∧ c.Shows w now (Mesh.routes c.topology network true) := by
  rw [← shows_sessions_iff, shows_iff (Mesh.filled_full _ _ _ _), shows_iff (Mesh.filled_sessions _),
    shows_iff (Mesh.filled_routes _ _ _)]
  constructor
  · exact fun h => ⟨fun target query e he => h target query e (Mesh.expects_full.2 (.inl he)),
      fun target query e he => h target query e (Mesh.expects_full.2 (.inr (.inl he)))⟩
  · rintro ⟨hsessions, hroutes⟩ target query e he
    rcases Mesh.expects_full.1 he with he | he | he
    · exact hsessions target query e he
    · exact hroutes target query e he
    · have hup := shows_sessions_iff.1 ((shows_iff (Mesh.filled_sessions _)).2 hsessions)
      exact meets_of_expects_staticRoutes hup he

/-- A plan that was put together shows if and only if its parts do. -/
theorem shows_extend_iff {other : Plan} (hplan : plan.Filled) (hother : other.Filled) :
    c.Shows w now (plan.extend other) ↔ c.Shows w now plan ∧ c.Shows w now other := by
  rw [shows_iff (Plan.filled_extend hplan other), shows_iff hplan, shows_iff hother]
  simp only [Plan.expects_extend]
  constructor
  · intro h
    exact ⟨fun target query e he => h target query e (.inr he),
      fun target query e he => h target query e (.inl he)⟩
  · rintro ⟨hplan, hother⟩ target query e (he | he)
    · exact hother target query e he
    · exact hplan target query e he

theorem shows_nil (description : String) : c.Shows w now { description } := by
  intro p hp
  cases hp

/-- A plan shows what the plan shows that it was made of. -/
theorem shows_extend_nil_iff (hplan : plan.Filled) (description : String) :
    c.Shows w now (({ description } : Plan).extend plan) ↔ c.Shows w now plan := by
  rw [shows_extend_iff (Plan.filled_nil _) hplan, and_iff_right (shows_nil description)]

/-- The same for several plans. -/
theorem shows_foldl_extend_iff {plans : List Plan} (hplans : ∀ plan ∈ plans, plan.Filled)
    (description : String) :
    c.Shows w now (plans.foldl Plan.extend { description }) ↔ ∀ plan ∈ plans, c.Shows w now plan := by
  have hfold : ∀ plan : Plan, plan.Filled →
      (c.Shows w now (plans.foldl Plan.extend plan) ↔
        c.Shows w now plan ∧ ∀ plan ∈ plans, c.Shows w now plan) := by
    induction plans with
    | nil => simp
    | cons other plans ih =>
      intro plan hplan
      obtain ⟨hother, hplans⟩ := List.forall_mem_cons.1 hplans
      rw [List.foldl_cons, ih hplans _ (Plan.filled_extend hplan other),
        shows_extend_iff hplan hother, List.forall_mem_cons, and_assoc]
  rw [hfold _ (Plan.filled_nil _), and_iff_right (shows_nil description)]

/-! ## Routes of nodes -/

/-- No node has an address of the external router, or one that stands for any address. -/
def AddressesApart (c : Cluster) : Prop :=
  ∀ node ∈ c.topology.nodes, ∀ family ip, node.address? family = some ip →
    ip ∉ c.routers ∧ ip ≠ .unspecified family

theorem not_mem_localRows {row : Row} (hunspecified : row.nextHop ≠ .unspecified row.subnet.family) :
    row ∉ c.localRows := by
  intro h
  obtain ⟨net, -, rfl⟩ := List.mem_map.1 h
  exact hunspecified rfl

theorem not_mem_learnedRows {row : Row} (hrouters : row.nextHop ∉ c.routers) :
    row ∉ c.learnedRows w now := by
  rw [learnedRows]
  split
  · intro h
    obtain ⟨net, -, hrow⟩ := List.mem_filterMap.1 h
    obtain ⟨router, hrouter, rfl⟩ := Option.map_eq_some_iff.1 hrow
    exact hrouters (List.mem_of_find?_eq_some hrouter)
  · exact List.not_mem_nil

theorem mem_rows_external_iff {view : View} {row : Row}
    (hunspecified : row.nextHop ≠ .unspecified row.subnet.family) :
    row ∈ c.rows w now .external view ↔ ∃ r ∈ c.visibleRoutes w now, rowOf r = row := by
  cases view <;> simp [rows, not_mem_localRows hunspecified]

/-- A row with another next hop is that of a route that shows. -/
theorem mem_rows_iff {view : View} {row : Row} (hrouters : row.nextHop ∉ c.routers)
    (hunspecified : row.nextHop ≠ .unspecified row.subnet.family) :
    row ∈ c.rows w now target view ↔
      ∃ r ∈ c.visibleRoutes w now, (∀ name, target = .node name → r.node ≠ name) ∧ rowOf r = row := by
  rcases target with - | name
  · simp [mem_rows_external_iff hunspecified]
  · simp [rows, nodeRows, not_mem_learnedRows hrouters, and_assoc]

theorem AddressesApart.mem_rows_iff (h : c.AddressesApart) {network : NetworkName}
    {r : AdvertisedRoute} (hr : r ∈ c.topology.advertisedRoutes network) {view : View} :
    rowOf r ∈ c.rows w now target view ↔
      ∃ r' ∈ c.visibleRoutes w now,
        (∀ name, target = .node name → r'.node ≠ name) ∧ rowOf r' = rowOf r := by
  obtain ⟨node, hnode, -, -, -, haddress⟩ := Topology.mem_advertisedRoutes_iff.1 hr
  obtain ⟨hrouters, hunspecified⟩ := h node hnode _ _ haddress
  exact Cluster.mem_rows_iff hrouters hunspecified

section

variable (h : c.AddressesApart) {network : NetworkName}
include h

theorem shows_routes_of_visible
    (hvisible : ∀ r ∈ c.topology.advertisedRoutes network, r ∈ c.visibleRoutes w now) :
    c.Shows w now (Mesh.routes c.topology network true) := by
  refine shows_routes_iff.2 fun r hr target hplaced view => iff_of_true ?_ rfl
  refine (h.mem_rows_iff hr).2 ⟨r, hvisible r hr, ?_, rfl⟩
  rintro name rfl
  exact hplaced.1

theorem exists_visible_of_shows_routes (hshows : c.Shows w now (Mesh.routes c.topology network true))
    {r : AdvertisedRoute} (hr : r ∈ c.topology.advertisedRoutes network) :
    ∃ r' ∈ c.visibleRoutes w now, rowOf r' = rowOf r := by
  have hrow := (shows_routes_iff.1 hshows r hr .external trivial .bgp).2 rfl
  obtain ⟨r', hr', -, hsame⟩ := (h.mem_rows_iff hr).1 hrow
  exact ⟨r', hr', hsame⟩

/-- Routes are shown to be away if and only if no route that shows has one of their rows. -/
theorem shows_routes_away_iff :
    c.Shows w now (Mesh.routes c.topology network false) ↔
      ∀ r ∈ c.topology.advertisedRoutes network, ∀ r' ∈ c.visibleRoutes w now,
        rowOf r' ≠ rowOf r := by
  rw [shows_routes_iff]
  constructor
  · intro hshows r hr r' hr' hsame
    have hrow := hshows r hr .external trivial .bgp
    exact Bool.false_ne_true (hrow.1 ((h.mem_rows_iff hr).2 ⟨r', hr', nofun, hsame⟩))
  · intro haway r hr target hplaced view
    refine iff_of_false (fun hrow => ?_) Bool.false_ne_true
    obtain ⟨r', hr', -, hsame⟩ := (h.mem_rows_iff hr).1 hrow
    exact haway r hr r' hr' hsame

/-- Where either the routes of one network show or none at all, those of the network are there or
not as a whole. -/
theorem shows_routes_iff_of_visible (hroutes : c.topology.advertisedRoutes network ≠ [])
    {visible : Prop} {present : Bool}
    (hvisible : ∀ r, r ∈ c.visibleRoutes w now ↔
      visible ∧ r ∈ c.topology.advertisedRoutes network) :
    c.Shows w now (Mesh.routes c.topology network present) ↔ (visible ↔ present = true) := by
  obtain ⟨r, hr⟩ := List.exists_mem_of_ne_nil _ hroutes
  cases present with
  | true =>
    rw [iff_true_right rfl]
    constructor
    · intro hshows
      obtain ⟨r', hr', -⟩ := exists_visible_of_shows_routes h hshows hr
      exact ((hvisible r').1 hr').1
    · intro hcame
      exact shows_routes_of_visible h fun r hr => (hvisible r).2 ⟨hcame, hr⟩
  | false =>
    rw [iff_false_right Bool.false_ne_true, shows_routes_away_iff h]
    constructor
    · intro haway hcame
      exact haway r hr r ((hvisible r).2 ⟨hcame, hr⟩) rfl
    · intro haway r _ r' hr' _
      exact haway ((hvisible r').1 hr').1

end

/-! ## One declaration of the default network -/

variable {name : String} {declared : Millis} {deleted : Option Millis}

theorem sessionsUp_iff :
    c.sessionsUp w now = true ↔ c.behavior.sessionDelay ≤ now ∧ c.isDisrupted w now = false := by
  simp [sessionsUp]

/-- Once the default network alone was declared, its routes are there while the declaration shows
and nothing is disrupted. -/
theorem shows_routes_iff_of_declarations (hapart : c.AddressesApart)
    (hroutes : c.topology.advertisedRoutes .default ≠ [])
    (hw : w.declarations = [⟨Scenario.defaultAdvertisement name, declared, deleted⟩])
    {present : Bool} :
    c.Shows w now (Mesh.routes c.topology .default present) ↔
      (c.isDisrupted w now = false ∧ c.Active now declared deleted ↔ present = true) := by
  refine shows_routes_iff_of_visible hapart hroutes fun r => ?_
  rw [mem_visibleRoutes_of_declarations hw]
  simp [Scenario.defaultAdvertisement, selected]

theorem shows_defaultMesh_iff_of_declarations (hapart : c.AddressesApart)
    (hroutes : c.topology.advertisedRoutes .default ≠ [])
    (hw : w.declarations = [⟨Scenario.defaultAdvertisement name, declared, deleted⟩]) :
    c.Shows w now (Scenario.defaultMesh c.environment) ↔
      c.behavior.sessionDelay ≤ now ∧ c.isDisrupted w now = false ∧
        c.Active now declared deleted := by
  have hmesh : Scenario.defaultMesh c.environment =
      Mesh.full c.topology .default c.statics c.routers := rfl
  rw [hmesh, shows_full_iff, sessionsUp_iff, shows_routes_iff_of_declarations hapart hroutes hw,
    iff_true_right rfl]
  grind

/-- One advertisement of the default network was declared, and perhaps deleted, and nothing was
restarted. -/
structure Declared (w : World) (name : String) (declared : Millis) (deleted : Option Millis) :
    Prop where
  declarations : w.declarations = [⟨Scenario.defaultAdvertisement name, declared, deleted⟩]
  outage : w.outage = none

namespace Declared

variable (h : Declared w name declared deleted)
include h

theorem samples (samples : Nat) : Declared { w with samples } name declared deleted :=
  ⟨h.declarations, h.outage⟩

theorem isDisrupted : c.isDisrupted w now = false :=
  isDisrupted_of_outage h.outage

theorem sessionsUp_iff : c.sessionsUp w now = true ↔ c.behavior.sessionDelay ≤ now := by
  rw [Cluster.sessionsUp_iff, and_iff_left h.isDisrupted]

theorem shows_routes_iff (hapart : c.AddressesApart)
    (hroutes : c.topology.advertisedRoutes .default ≠ []) {present : Bool} :
    c.Shows w now (Mesh.routes c.topology .default present) ↔
      (c.Active now declared deleted ↔ present = true) := by
  rw [shows_routes_iff_of_declarations hapart hroutes h.declarations, and_iff_right h.isDisrupted]

theorem shows_defaultMesh_iff (hapart : c.AddressesApart)
    (hroutes : c.topology.advertisedRoutes .default ≠ []) :
    c.Shows w now (Scenario.defaultMesh c.environment) ↔
      c.behavior.sessionDelay ≤ now ∧ c.Active now declared deleted := by
  rw [shows_defaultMesh_iff_of_declarations hapart hroutes h.declarations,
    and_iff_right h.isDisrupted]

end Declared

end Cluster

theorem addressesApart_dualNodes (behavior : Behavior) :
    Cluster.AddressesApart ⟨dualNodes, behavior⟩ := by
  have hall : ∀ family ∈ Family.all, ∀ node ∈ dualNodes.nodes, ∀ ip ∈ node.address? family,
      ip ∉ Cluster.routers ⟨dualNodes, {}⟩ ∧ ip ≠ .unspecified family := by
    decide +kernel
  intro node hnode family ip hip
  have hfamily : family ∈ Family.all := by cases family <;> decide
  exact hall family hfamily node hnode ip hip

end RouteWatch.Simulation
