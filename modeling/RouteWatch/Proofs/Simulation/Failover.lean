import RouteWatch.Proofs.Simulation.Views

/-!
# The verdict on the move of an egress address

On the simulated cluster, the scenario of an egress address succeeds if and only if the routes come
within the window and the address goes to the node that the scenario waits for. Once the holder
loses its label, the address goes to the first other node that has one. The target has got one before
that, so what counts is whether a node before it had one from the start.

* `IsFailoverTarget`, `failoverTarget_eq_ok_iff`: the node to which the address is to move;
* `head?_otherHolders_iff`: the node to which it does move;
* `Held.shows_plan_iff`: when the address has moved as far as the tables show;
* `failover_verdict`: the verdict.
-/

namespace RouteWatch

/-! ## The nodes of a move -/

/-- The address moves from the holder to that node: the one that was asked for, or else the first
other one. -/
structure Scenario.IsFailoverTarget (topology : Topology) (holder : Node) (option : Option String)
    (target : Node) : Prop where
  mem : target ∈ topology.nodes
  other : target.name ≠ holder.name
  named : ∀ name, option = some name → target.name = name
  first : option = none →
    ∀ node ∈ topology.nodes, node.name ≠ holder.name → target.name ≤ node.name

theorem Scenario.failoverTarget_eq_ok_iff {topology : Topology} {holder target : Node}
    {option : Option String} :
    failoverTarget topology holder option = .ok target ↔
      IsFailoverTarget topology holder option target := by
  cases option with
  | some name =>
    constructor
    · intro h
      rw [failoverTarget] at h
      split at h
      next node hfound =>
        obtain ⟨hnode, hname⟩ := Topology.node?_eq_some_iff.1 hfound
        split at h
        next => cases h
        next hother =>
          cases h
          exact ⟨hnode, hother, by rintro _ ⟨⟩; exact hname, nofun⟩
      next => cases h
    · intro h
      have hfound : topology.node? name = some target :=
        Topology.node?_eq_some_iff.2 ⟨h.mem, h.named name rfl⟩
      rw [failoverTarget, hfound]
      exact if_neg h.other
  | none =>
    have hfound : topology.nodes.find? (·.name != holder.name) = some target ↔
        IsFailoverTarget topology holder none target := by
      simp only [Topology.find?_nodes_iff, bne_iff_ne, bne_eq_false_iff_eq]
      constructor
      · rintro ⟨hmem, hother, hfirst⟩
        refine ⟨hmem, hother, nofun, fun _ node hnode hne => ?_⟩
        exact String.not_lt.1 fun hlt => hne (hfirst node hnode hlt)
      · intro h
        refine ⟨h.mem, h.other, fun node hnode hlt => ?_⟩
        by_contra hne
        exact String.not_le.2 hlt (h.first rfl node hnode hne)
    rw [failoverTarget, ← hfound]
    cases topology.nodes.find? (·.name != holder.name) <;> simp

/-- The nodes have different addresses of the family, and none of them stands for any address. -/
structure Topology.TellsApart (topology : Topology) (family : Family) : Prop where
  distinct : ∀ node ∈ topology.nodes, ∀ other ∈ topology.nodes, ∀ ip,
    node.address? family = some ip → other.address? family = some ip → node = other
  specified : ∀ node ∈ topology.nodes, node.address? family ≠ some (.unspecified family)

/-- The network is the subnet of a node. -/
def Topology.IsPodSubnet (topology : Topology) (subnet : Subnet) : Prop :=
  ∃ node ∈ topology.nodes, ∃ network, node.subnet? network subnet.family = some subnet

namespace Simulation

open Scenario Poll

theorem Egress.shownHolder_singleton (name : String) (ip : Ip) (first next : String)
    (since routeDelay now : Millis) :
    Egress.shownHolder ⟨name, ip, first, [(next, since)]⟩ routeDelay now =
      if since + routeDelay ≤ now then next else first := by
  rw [Egress.shownHolder, List.reverse_singleton, List.find?_singleton]
  split
  next h => rw [if_pos (by simpa using h)]; rfl
  next h => rw [if_neg (by simpa using h)]; rfl

namespace Cluster

variable {c : Cluster} {w : World} {m : EgressMove} {o : FailoverOptions} {declared now : Millis}
  {moves : List (String × Millis)} {next : String} {report : Report}

/-- The move is one between two nodes that the tables tell apart. -/
structure IsMove (c : Cluster) (m : EgressMove) : Prop where
  holder : m.holder ∈ c.topology.nodes
  target : m.target ∈ c.topology.nodes
  other : m.target.name ≠ m.holder.name
  holderIp : m.holder.address? m.egress.family = some m.holderIp
  targetIp : m.target.address? m.egress.family = some m.targetIp
  apart : c.topology.TellsApart m.egress.family
  notPod : ¬ c.topology.IsPodSubnet (.host m.egress)

/-! ## The route to the address -/

theorem shows_egressRoute_iff {egress nextHop : Ip} {present : Bool} :
    c.Shows w now (Mesh.egressRoute egress nextHop present) ↔
      ∀ view, (⟨.host egress, nextHop⟩ ∈ c.rows w now .external view ↔ present = true) := by
  have hknows : c.Knows .external := trivial
  rw [shows_iff (Mesh.filled_egressRoute _ _ _)]
  constructor
  · intro h view
    have hmeets := h .external _ _ (Mesh.expects_egressRoute.2 ⟨rfl, view, rfl, rfl⟩)
    rwa [meets_route_iff hknows, Subnet.trunc_host] at hmeets
  · intro h target query e he
    obtain ⟨rfl, view, rfl, rfl⟩ := Mesh.expects_egressRoute.1 he
    rw [meets_route_iff hknows, Subnet.trunc_host]
    exact h view

theorem egressRoute_eq_some_iff {e : Egress} {r : AdvertisedRoute} :
    c.egressRoute now e = some r ↔
      ∃ node ∈ c.topology.nodes, node.name = e.shownHolder c.behavior.routeDelay now ∧
        ∃ ip, node.address? e.ip.family = some ip ∧ r = ⟨node.name, .host e.ip, ip⟩ := by
  rw [egressRoute, Option.bind_eq_bind, Option.bind_eq_some_iff]
  constructor
  · rintro ⟨node, hfound, h⟩
    obtain ⟨hnode, hname⟩ := Topology.node?_eq_some_iff.1 hfound
    obtain ⟨ip, hip, h⟩ := Option.bind_eq_some_iff.1 h
    cases h
    exact ⟨node, hnode, hname, ip, hip, rfl⟩
  · rintro ⟨node, hnode, hname, ip, hip, rfl⟩
    exact ⟨node, Topology.node?_eq_some_iff.2 ⟨hnode, hname⟩, Option.bind_eq_some_iff.2 ⟨ip, hip, rfl⟩⟩

/-- The egress address was advertised, and has moved like this since then. -/
structure Held (w : World) (o : FailoverOptions) (m : EgressMove) (declared : Millis)
    (moves : List (String × Millis)) : Prop where
  declarations : w.declarations = [⟨o.advertisement, declared, none⟩]
  outage : w.outage = none
  egress : w.egress = some ⟨o.egress, m.egress, m.holder.name, moves⟩

namespace Held

variable (h : Held w o m declared moves)
include h

theorem samples (samples : Nat) : Held { w with samples } o m declared moves :=
  ⟨h.declarations, h.outage, h.egress⟩

theorem mem_visibleRoutes_iff {r : AdvertisedRoute} :
    r ∈ c.visibleRoutes w now ↔
      declared + c.behavior.routeDelay ≤ now ∧
        (r ∈ c.topology.advertisedRoutes .default ∨
          c.egressRoute now ⟨o.egress, m.egress, m.holder.name, moves⟩ = some r) := by
  rw [mem_visibleRoutes_of_declared h.declarations h.outage, h.egress]
  simp [FailoverOptions.advertisement, selected]

variable (hm : c.IsMove m)
include hm

/-- The external router has the address by way of a node once the declaration shows, as long as that
node is shown to hold the address. -/
theorem mem_rows_iff {node : Node} (hnode : node ∈ c.topology.nodes) {ip : Ip}
    (haddress : node.address? m.egress.family = some ip) {view : View} :
    ⟨.host m.egress, ip⟩ ∈ c.rows w now .external view ↔
      declared + c.behavior.routeDelay ≤ now ∧
        Egress.shownHolder ⟨o.egress, m.egress, m.holder.name, moves⟩ c.behavior.routeDelay now =
          node.name := by
  have hunspecified : ip ≠ .unspecified (Subnet.host m.egress).family := by
    rw [Subnet.family_host]
    rintro rfl
    exact hm.apart.specified node hnode haddress
  rw [mem_rows_external_iff hunspecified]
  constructor
  · rintro ⟨r, hr, hrow⟩
    obtain ⟨hsubnet, hnextHop⟩ := Row.mk.inj hrow
    obtain ⟨hcame, hpod | hegress⟩ := h.mem_visibleRoutes_iff.1 hr
    · obtain ⟨owner, howner, -, -, hown, -⟩ := Topology.mem_advertisedRoutes_iff.1 hpod
      rw [hsubnet] at hown
      exact absurd ⟨owner, howner, _, hown⟩ hm.notPod
    · obtain ⟨holder, hholder, hname, ip', haddress', rfl⟩ := egressRoute_eq_some_iff.1 hegress
      cases hnextHop
      obtain rfl := hm.apart.distinct holder hholder node hnode _ haddress' haddress
      exact ⟨hcame, hname.symm⟩
  · rintro ⟨hcame, hshown⟩
    refine ⟨⟨node.name, .host m.egress, ip⟩, h.mem_visibleRoutes_iff.2 ⟨hcame, .inr ?_⟩, rfl⟩
    exact egressRoute_eq_some_iff.2 ⟨node, hnode, hshown.symm, ip, haddress, rfl⟩

theorem shows_route_iff {node : Node} (hnode : node ∈ c.topology.nodes) {ip : Ip}
    (haddress : node.address? m.egress.family = some ip) {present : Bool} :
    c.Shows w now (Mesh.egressRoute m.egress ip present) ↔
      (declared + c.behavior.routeDelay ≤ now ∧
        Egress.shownHolder ⟨o.egress, m.egress, m.holder.name, moves⟩ c.behavior.routeDelay now =
          node.name ↔ present = true) := by
  simp only [shows_egressRoute_iff, h.mem_rows_iff hm hnode haddress]
  constructor
  · intro hviews
    exact hviews .bgp
  · intro hshown _
    exact hshown

/-- The address has moved once the tables show the target to hold it. -/
theorem shows_plan_iff :
    c.Shows w now m.plan ↔
      declared + c.behavior.routeDelay ≤ now ∧
        Egress.shownHolder ⟨o.egress, m.egress, m.holder.name, moves⟩ c.behavior.routeDelay now =
          m.target.name := by
  rw [EgressMove.plan, shows_foldl_extend_iff (by simp [Mesh.filled_egressRoute])]
  simp only [List.forall_mem_cons, h.shows_route_iff hm hm.holder hm.holderIp,
    h.shows_route_iff hm hm.target hm.targetIp]
  constructor
  · rintro ⟨-, htarget, -⟩
    exact htarget.2 trivial
  · rintro ⟨hcame, htarget⟩
    refine ⟨iff_of_false ?_ Bool.false_ne_true, iff_of_true ⟨hcame, htarget⟩ trivial, nofun⟩
    rintro ⟨-, hholder⟩
    exact hm.other (htarget.symm.trans hholder)

end Held

/-! ## The next holder -/

/-- The next holder is the first other node that has the label. -/
theorem head?_otherHolders_iff {name : String} :
    (c.otherHolders w name).head? = some next ↔
      ∃ node ∈ c.topology.nodes, node.name = next ∧
        (node.name ≠ name ∧ w.label (.node node.name) egressLabel ≠ none) ∧
          ∀ other ∈ c.topology.nodes, other.name < node.name → other.name ≠ name →
            w.label (.node other.name) egressLabel = none := by
  have hlabel : ∀ node : Node, (w.labelsOf (.node node.name)).contains egressLabel = true ↔
      w.label (.node node.name) egressLabel ≠ none :=
    fun node => Option.isSome_iff_ne_none
  rw [otherHolders, List.head?_filter, List.find?_map, Option.map_eq_some_iff]
  simp only [Topology.find?_nodes_iff, Function.comp_apply, Bool.and_eq_true, bne_iff_ne, hlabel,
    Bool.eq_false_iff, ne_eq, not_and, not_not]
  constructor
  · rintro ⟨node, ⟨hnode, hheld, hfirst⟩, hname⟩
    exact ⟨node, hnode, hname, hheld, hfirst⟩
  · rintro ⟨node, hnode, hname, hheld, hfirst⟩
    exact ⟨node, ⟨hnode, hheld, hfirst⟩, hname⟩

/-- A holder that loses the label loses the address to the next holder. -/
theorem egress_unlabel {name : String} {e : Egress} (hegress : w.egress = some e)
    (hholder : e.holder = name)
    (hnext : (c.otherHolders (w.clearLabel (.node name) egressLabel) name).head? = some next) :
    (c.unlabel (.node name) egressLabel now w).egress =
      some { e with moves := e.moves ++ [(next, now)] } := by
  have hcondition : (ObjectKey.node name).kind == ObjectKey.nodeKind &&
      egressLabel == egressLabel := by
    simp [ObjectKey.node]
  have hheld : (w.clearLabel (.node name) egressLabel).egress = some e := by
    obtain ⟨labels, hclear⟩ := w.exists_clearLabel (.node name) egressLabel
    rw [hclear]
    exact hegress
  have hname : (ObjectKey.node name).name = name := rfl
  rw [unlabel, if_pos hcondition, moveEgress, hname, hheld, hnext]
  simp [hholder]

/-- No node before the target but the holder has the label. -/
def TargetFirst (c : Cluster) (w : World) (m : EgressMove) : Prop :=
  ∀ node ∈ c.topology.nodes, node.name ≠ m.holder.name → node.name < m.target.name →
    w.label (.node node.name) egressLabel = none

/-- Once the target has got the label and the holder has lost it, there is a next holder. That is the
target if no node before it had the label. -/
theorem IsMove.exists_next (hm : c.IsMove m) {w' : World}
    (hlabels : w'.label = (w.label.set (.node m.target.name) egressLabel (some "")).set
      (.node m.holder.name) egressLabel none) :
    ∃ next, (c.otherHolders w' m.holder.name).head? = some next ∧
      (next = m.target.name ↔ c.TargetFirst w m) := by
  have hobjects : ∀ {name name' : String}, ObjectKey.node name = .node name' ↔ name = name' := by
    simp [ObjectKey.node]
  have htarget : w'.label (.node m.target.name) egressLabel = some "" := by
    simp [hlabels, Labels.set, hobjects, hm.other]
  have hothers : ∀ node : Node, node.name ≠ m.holder.name → node.name < m.target.name →
      w'.label (.node node.name) egressLabel = w.label (.node node.name) egressLabel := by
    intro node hholder hlt
    simp [hlabels, Labels.set, hobjects, hholder, String.ne_of_lt hlt]
  -- the target has the label by now, so that there is a next holder
  have hmem : m.target.name ∈ c.otherHolders w' m.holder.name := by
    have hcontains : (w'.labelsOf (.node m.target.name)).contains egressLabel = true :=
      Option.isSome_of_eq_some htarget
    refine List.mem_filter.2 ⟨List.mem_map.2 ⟨m.target, hm.target, rfl⟩, ?_⟩
    rw [hcontains, Bool.and_true, bne_iff_ne]
    exact hm.other
  obtain ⟨next, hnext⟩ : ∃ next, (c.otherHolders w' m.holder.name).head? = some next :=
    Option.isSome_iff_exists.1 (List.isSome_head?.2 (List.ne_nil_of_mem hmem))
  refine ⟨next, hnext, ?_⟩
  constructor
  · rintro rfl
    obtain ⟨first, hfirst, hname, -, hbefore⟩ := head?_otherHolders_iff.1 hnext
    intro node hnode hholder hlt
    rw [← hothers node hholder hlt]
    exact hbefore node hnode (hname ▸ hlt) hholder
  · intro hfirst
    have htargetNext : (c.otherHolders w' m.holder.name).head? = some m.target.name := by
      refine head?_otherHolders_iff.2 ⟨m.target, hm.target, rfl, ⟨hm.other, by simp [htarget]⟩, ?_⟩
      intro node hnode hlt hholder
      rw [hothers node hholder hlt]
      exact hfirst node hnode hholder hlt
    rw [hnext] at htargetNext
    exact Option.some.inj htargetNext

/-- After the labels of the two nodes have changed, the address is at the next holder. -/
theorem Held.exists_of_changes (h : Held w o m declared []) (hm : c.IsMove m) (now : Millis) :
    ∃ next,
      Held (c.after (.unlabel (.node m.holder.name) egressLabel) now
        (c.after (.label (.node m.target.name) egressLabel "") now w)) o m declared [(next, now)] ∧
      (next = m.target.name ↔ c.TargetFirst w m) := by
  let labeled := (c.after (.label (.node m.target.name) egressLabel "") now w).log
    (.unlabel (.node m.holder.name) egressLabel)
  have hlabels : (labeled.clearLabel (.node m.holder.name) egressLabel).label =
      (w.label.set (.node m.target.name) egressLabel (some "")).set
        (.node m.holder.name) egressLabel none := by
    rw [World.label_clearLabel]
    exact congrArg (Labels.set · _ _ _) (World.label_setLabel _ _ _ _)
  obtain ⟨next, hnext, hfirst⟩ := hm.exists_next hlabels
  refine ⟨next, ⟨?_, ?_, ?_⟩, hfirst⟩
  · simpa using h.declarations
  · simpa using h.outage
  · have hegress : labeled.egress = some ⟨o.egress, m.egress, m.holder.name, []⟩ := h.egress
    have hholder : Egress.holder ⟨o.egress, m.egress, m.holder.name, []⟩ = m.holder.name := rfl
    exact egress_unlabel hegress hholder hnext

/-! ## The verdict -/

/-- Once the declaration shows, the steps of the move succeed if the address goes to the target, and
not otherwise. -/
theorem passes_move_iff (h : Held w o m declared []) (hm : c.IsMove m)
    (hcame : declared + c.behavior.routeDelay ≤ now) (hdelay : c.behavior.routeDelay ≤ 120000)
    (hfailing : c.behavior.failingSamples = 0) :
    Passes c.environment [
      .change (.label (.node m.target.name) egressLabel ""),
      .change (.unlabel (.node m.holder.name) egressLabel),
      .check m.plan .failover] ⟨report, none, now, w⟩ ↔ c.TargetFirst w m := by
  obtain ⟨next, hmoved, hfirst⟩ := h.exists_of_changes hm now
  have hshows : ∀ later, now ≤ later →
      (c.Shows (c.after (.unlabel (.node m.holder.name) egressLabel) now
        (c.after (.label (.node m.target.name) egressLabel "") now w)) later m.plan ↔
          now + c.behavior.routeDelay ≤ later ∧ c.TargetFirst w m) := by
    intro later hlater
    rw [hmoved.shows_plan_iff hm, Egress.shownHolder_singleton, ← hfirst,
      and_iff_right (Nat.le_trans hcame hlater)]
    split
    next hshown => rw [and_iff_right hshown]
    next hhidden => exact iff_of_false hm.other.symm fun h => hhidden h.1
  have hplan : m.plan.probes ≠ [] := Plan.extend_probes_ne_nil (Mesh.filled_egressRoute _ _ _)
    (Mesh.egressRoute_probes_ne_nil _ _ _) _
  rw [passes_change_iff, passes_change_iff]
  constructor
  · intro hpasses
    obtain ⟨i, -, -, hfound, -, -⟩ := exists_of_passes_check hplan (by decide) hpasses
    exact ((hshows _ (le_tick i)).1 hfound.observed.shows).2
  · intro htarget
    have hdeadline : now + c.behavior.routeDelay ≤ now + Settings.failover.timeout :=
      Nat.add_le_add_left (Nat.le_trans hdelay (by decide)) now
    have hcomes := (hshows _ (Nat.le_add_right now Settings.failover.timeout)).2
      ⟨hdeadline, htarget⟩
    exact passes_check_of hplan (by decide)
      (exists_convergesAt_of_deadline (by decide) 36 rfl (by lia) hcomes)
      fun _ _ _ _ _ => passes_nil _ _

/-- The steps of the scenario succeed from a fresh world on if the routes come within the window and
the address goes to the target, and not otherwise. -/
theorem passes_failover_iff (hm : c.IsMove m) (hdeclarations : w.declarations = [])
    (houtage : w.outage = none)
    (hegress : w.egress = some ⟨o.egress, m.egress, m.holder.name, []⟩)
    (hfailing : c.behavior.failingSamples = 0) :
    Passes c.environment [
      .change (.advertise o.advertisement),
      .check (Mesh.egressRoute m.egress m.holderIp true) .routePropagation,
      .change (.label (.node m.target.name) egressLabel ""),
      .change (.unlabel (.node m.holder.name) egressLabel),
      .check m.plan .failover] ⟨report, none, now, w⟩ ↔
    c.behavior.routeDelay ≤ 120000 ∧ c.TargetFirst w m := by
  have hw : Held (c.after (.advertise o.advertisement) now w) o m now [] :=
    ⟨by simp [hdeclarations], houtage, hegress⟩
  have hshows : ∀ later, c.Shows (c.after (.advertise o.advertisement) now w) later
      (Mesh.egressRoute m.egress m.holderIp true) ↔ now + c.behavior.routeDelay ≤ later := by
    intro later
    rw [hw.shows_route_iff hm hm.holder hm.holderIp, iff_true_right rfl]
    exact and_iff_left rfl
  have hplan := Mesh.egressRoute_probes_ne_nil m.egress m.holderIp true
  have hlabels : ∀ samples,
      c.TargetFirst { c.after (.advertise o.advertisement) now w with samples } m ↔
        c.TargetFirst w m := fun _ => Iff.rfl
  rw [passes_change_iff]
  constructor
  · intro hpasses
    obtain ⟨i, report, samples, hfound, -, hpasses⟩ :=
      exists_of_passes_check hplan (by decide) hpasses
    have hcame := (hshows _).1 hfound.observed.shows
    have hwindow : tick .routePropagation now i ≤ now + 120000 := tick_le i
    have hdelay : c.behavior.routeDelay ≤ 120000 := by lia
    rw [passes_move_iff (hw.samples samples) hm hcame hdelay hfailing, hlabels] at hpasses
    exact ⟨hdelay, hpasses⟩
  · rintro ⟨hdelay, htarget⟩
    have hcomes := (hshows (now + Settings.routePropagation.timeout)).2
      (Nat.add_le_add_left hdelay now)
    refine passes_check_of hplan (by decide)
      (exists_convergesAt_of_deadline (by decide) 8 rfl (by lia) hcomes) ?_
    intro i report samples hfound _
    have hcame := (hshows _).1 hfound.observed.shows
    exact (passes_move_iff (hw.samples samples) hm hcame hdelay hfailing).2
      ((hlabels samples).2 htarget)

theorem IsMove.move_eq_ok (hm : c.IsMove m)
    (htarget : IsFailoverTarget c.topology m.holder o.target m.target) :
    o.move c.topology [⟨m.holder.name, m.egress⟩] = .ok m := by
  have hholder : c.topology.node? m.holder.name = some m.holder :=
    Topology.node?_eq_some_iff.2 ⟨hm.holder, rfl⟩
  have hholderIp : nodeAddress m.holder m.egress.family = .ok m.holderIp := by
    rw [nodeAddress, hm.holderIp]
  have htargetIp : nodeAddress m.target m.egress.family = .ok m.targetIp := by
    rw [nodeAddress, hm.targetIp]
  simp only [FailoverOptions.move, EgressMove.ofAssignment, hholder,
    failoverTarget_eq_ok_iff.2 htarget, bind, Except.bind, hholderIp, htargetIp]
  rfl

theorem run_failover (hm : c.IsMove m)
    (htarget : IsFailoverTarget c.topology m.holder o.target m.target) (start : Start World)
    (hegress : start.world.egress = some ⟨o.egress, m.egress, m.holder.name, []⟩) :
    ∃ work, start.run ((ScenarioChoice.failover o).work c.environment) =
        ⟨some (.ok work, start.report), start.now, start.world⟩ ∧
      work.body = [
        .change (.advertise o.advertisement),
        .check (Mesh.egressRoute m.egress m.holderIp true) .routePropagation,
        .change (.label (.node m.target.name) egressLabel ""),
        .change (.unlabel (.node m.holder.name) egressLabel),
        .check m.plan .failover] := by
  have hassignments : assignments start.world o.egress = [⟨m.holder.name, m.egress⟩] := by
    simp [assignments, hegress, Egress.holder]
  have hmove : o.move c.environment.topology [⟨m.holder.name, m.egress⟩] = .ok m :=
    hm.move_eq_ok htarget
  have hlook : ((fun r => (r, start.report)) <$> (c.environment.egressAssignments o.egress).run).run
      start.limit start.now start.world =
        ⟨some (.ok (assignments start.world o.egress), start.report), start.now, start.world⟩ := rfl
  rw [Start.run, ScenarioChoice.work, Scenario.failover, run_bind, run_act, Timed.run_bind, hlook,
    hassignments]
  dsimp only
  rw [run_bind, run_lift, hmove]
  exact ⟨_, rfl, rfl⟩

end Cluster

/-- In a fresh world in which a node holds the egress address, the scenario of the address comes back.
It succeeds if and only if the routes come within the window and no other node before the target had
the label. If no target was asked for, only the window counts. -/
theorem failover_verdict (c : Cluster) (o : FailoverOptions)
    (labels : Table ObjectKey (Table String String)) (report : Report) (now : Millis) (egress : Ip)
    (holder target : Node) (hholder : holder ∈ c.topology.nodes)
    (htarget : IsFailoverTarget c.topology holder o.target target)
    (hholderIp : (holder.address? egress.family).isSome)
    (htargetIp : (target.address? egress.family).isSome)
    (hapart : c.topology.TellsApart egress.family)
    (hpod : ¬ c.topology.IsPodSubnet (.host egress)) (hfailing : c.behavior.failingSamples = 0) :
    ∃ result report' now' w,
      Start.run ⟨report, none, now,
            { labels, egress := some ⟨o.egress, egress, holder.name, []⟩ }⟩
          ((ScenarioChoice.failover o).scenario c.environment) =
        ⟨some (result, report'), now', w⟩ ∧
      (result = .ok () ↔ c.behavior.routeDelay ≤ 120000 ∧
        ∀ node ∈ c.topology.nodes, node.name ≠ holder.name → node.name < target.name →
          World.label { labels } (.node node.name) egressLabel = none) ∧
      (o.target = none → (result = .ok () ↔ c.behavior.routeDelay ≤ 120000)) := by
  obtain ⟨holderIp, hholderIp⟩ := Option.isSome_iff_exists.1 hholderIp
  obtain ⟨targetIp, htargetIp⟩ := Option.isSome_iff_exists.1 htargetIp
  let m : EgressMove := ⟨egress, holder, target, holderIp, targetIp⟩
  have hm : c.IsMove m :=
    ⟨hholder, htarget.mem, htarget.other, hholderIp, htargetIp, hapart, hpod⟩
  let world : World := { labels, egress := some ⟨o.egress, egress, holder.name, []⟩ }
  obtain ⟨result, report', now', w, hrun, hpasses⟩ := exists_verdict c.answers
    (Cluster.run_failover hm htarget ⟨report, none, now, world⟩ rfl)
  have hresult : result = .ok () ↔ c.behavior.routeDelay ≤ 120000 ∧ c.TargetFirst world m :=
    hpasses.trans (Cluster.passes_failover_iff hm rfl rfl rfl hfailing)
  refine ⟨result, report', now', w, hrun, hresult, ?_⟩
  intro hnone
  have hfirst : c.TargetFirst world m := by
    intro node hnode hother hlt
    exact absurd hlt (String.not_lt.2 (htarget.first hnone node hnode hother))
  rw [hresult, and_iff_left hfirst]

/-- A node without subnets. -/
def bareNode (name : String) (last : UInt8) : Node where
  name
  v4 := some ⟨192, 0, 2, last⟩
  subnets_fit := empty_subnets_fit

/-- A topology of three nodes without subnets. -/
def threeNodes : Topology where
  stack := .v4
  nodes := [bareNode "worker-0" 11, bareNode "worker-1" 12, bareNode "worker-2" 13]
  nonempty := by simp
  ascending := by decide
  addressed := by decide

theorem tellsApart_threeNodes : threeNodes.TellsApart .v4 := by
  have hdistinct : ∀ node ∈ threeNodes.nodes, ∀ other ∈ threeNodes.nodes,
      node.address? .v4 = other.address? .v4 → node = other := by
    decide
  constructor
  · intro node hnode other hother ip hip hip'
    exact hdistinct node hnode other hother (hip.trans hip'.symm)
  · decide

theorem not_isPodSubnet_threeNodes (subnet : Subnet) : ¬ threeNodes.IsPodSubnet subnet := by
  have hsubnets : ∀ node ∈ threeNodes.nodes, node.subnets = ∅ := by decide
  rintro ⟨node, hnode, network, hsubnet⟩
  rw [Node.subnet?, hsubnets node hnode] at hsubnet
  cases hsubnet

/-- An address that moves to the first other node is found there. One that was to move to the last
node is not if another one had the label. -/
theorem failover_verdict_of_threeNodes :
    let report := Report.ofTopology "failover" "" threeNodes
    let c : Cluster := ⟨threeNodes, {}⟩
    let egress : Ip := .v4 ⟨192, 0, 2, 100⟩
    let labels := Table.ofList [(.node "worker-1", Table.ofList [(egressLabel, "")])]
    (∃ result report' now w,
      Start.run ⟨report, none, 7000, { labels, egress := some ⟨"egress", egress, "worker-0", []⟩ }⟩
          ((ScenarioChoice.failover ⟨"failover", "egress", none⟩).scenario c.environment) =
        ⟨some (result, report'), now, w⟩ ∧ result = .ok ()) ∧
    ∃ result report' now w,
      Start.run ⟨report, none, 7000, { labels, egress := some ⟨"egress", egress, "worker-0", []⟩ }⟩
          ((ScenarioChoice.failover ⟨"failover", "egress", some "worker-2"⟩).scenario
            c.environment) =
        ⟨some (result, report'), now, w⟩ ∧ result ≠ .ok () := by
  intro report c egress labels
  have hholder : bareNode "worker-0" 11 ∈ threeNodes.nodes := by decide
  have hfirst : IsFailoverTarget threeNodes (bareNode "worker-0" 11) none (bareNode "worker-1" 12) :=
    ⟨by decide, by decide, nofun, fun _ => by decide⟩
  have hlast : IsFailoverTarget threeNodes (bareNode "worker-0" 11) (some "worker-2")
      (bareNode "worker-2" 13) :=
    ⟨by decide, by decide, by rintro _ ⟨⟩; rfl, nofun⟩
  constructor
  · obtain ⟨result, report', now, w, hrun, -, hresult⟩ :=
      failover_verdict c ⟨"failover", "egress", none⟩ labels report 7000 egress _ _ hholder hfirst
        (by decide) (by decide) tellsApart_threeNodes (not_isPodSubnet_threeNodes _) rfl
    exact ⟨result, report', now, w, hrun, (hresult rfl).2 (by decide)⟩
  · obtain ⟨result, report', now, w, hrun, hresult, -⟩ :=
      failover_verdict c ⟨"failover", "egress", some "worker-2"⟩ labels report 7000 egress _ _
        hholder hlast (by decide) (by decide) tellsApart_threeNodes (not_isPodSubnet_threeNodes _) rfl
    refine ⟨result, report', now, w, hrun, fun hok => ?_⟩
    have hlabel := (hresult.1 hok).2 (bareNode "worker-1" 12) (by decide) (by decide) (by decide)
    revert hlabel
    decide

end Simulation

end RouteWatch
