import RouteWatch.Proofs.Simulation.Views

/-!
# The verdict on the selection of networks

On the simulated cluster, the scenario of the label succeeds if and only if the cluster minds labels
and the routes come within the window. While the scenario waits, the one network carries the label
and the other one does not; what other networks do, whether they carry the label or not, makes no
difference as long as none of them advertises a route of the network that has to be away.

* `Selecting`: the world while the scenario waits;
* `Selecting.shows_plan_iff`: when the one network is there and the other one is not;
* `selector_verdict`: the verdict.
-/

namespace RouteWatch

/-- No other network advertises a route of the network. -/
def Topology.AdvertisesAlone (topology : Topology) (network : NetworkName) : Prop :=
  ∀ other ≠ network, ∀ r ∈ topology.advertisedRoutes network,
    ∀ r' ∈ topology.advertisedRoutes other, (r'.subnet, r'.nextHop) ≠ (r.subnet, r.nextHop)

namespace Simulation

open Scenario Poll

namespace Cluster

variable {c : Cluster} {w : World} {o : SelectorOptions} {declared now : Millis} {report : Report}

/-! ## The plan -/

theorem shows_selectorPlan_iff :
    c.Shows w now (o.plan c.topology) ↔
      c.Shows w now (Mesh.routes c.topology (.ofClusterWide o.selected) true) ∧
        c.Shows w now (Mesh.routes c.topology (.ofClusterWide o.other) false) := by
  rw [SelectorOptions.plan, shows_foldl_extend_iff (by simp [Mesh.filled_routes])]
  simp

theorem selectorPlan_probes_ne_nil
    (hother : c.topology.advertisedRoutes (.ofClusterWide o.other) ≠ []) :
    (o.plan c.topology).probes ≠ [] :=
  Plan.extend_probes_ne_nil (Mesh.filled_routes _ _ _) (Mesh.routes_probes_ne_nil hother false) _

/-! ## What the label selects -/

/-- The networks were advertised by the label, which the one network carries and the other one does
not. -/
structure Selecting (w : World) (o : SelectorOptions) (declared : Millis) : Prop where
  declarations : w.declarations = [⟨o.advertisement, declared, none⟩]
  outage : w.outage = none
  selected : w.label (.network o.selected) o.label.key = some o.label.value
  other : w.label (.network o.other) o.label.key = none

namespace Selecting

variable (h : Selecting w o declared)
include h

theorem mem_visibleRoutes_iff {r : AdvertisedRoute} :
    r ∈ c.visibleRoutes w now ↔
      declared + c.behavior.routeDelay ≤ now ∧
        ∃ network ∈ c.selected w (.labeled o.label.key o.label.value),
          r ∈ c.topology.advertisedRoutes network := by
  rw [mem_visibleRoutes_of_declared h.declarations h.outage]
  simp [SelectorOptions.advertisement]

theorem mem_selected (hleaky : c.behavior.leaky = false) :
    .ofClusterWide o.selected ∈ c.selected w (.labeled o.label.key o.label.value) := by
  rw [Cluster.selected, hleaky]
  exact mem_labeledNetworks_iff.2 ⟨o.selected, rfl, h.selected⟩

theorem not_mem_selected (hleaky : c.behavior.leaky = false) :
    .ofClusterWide o.other ∉ c.selected w (.labeled o.label.key o.label.value) := by
  rw [Cluster.selected, hleaky]
  intro hmem
  obtain ⟨name, hname, hlabel⟩ := mem_labeledNetworks_iff.1 hmem
  obtain rfl := NetworkName.ofClusterWide_inj.1 hname
  rw [h.other] at hlabel
  cases hlabel

/-- A cluster that does not mind labels advertises the other network as well. -/
theorem not_shows_of_leaky (hapart : c.AddressesApart) (hleaky : c.behavior.leaky = true)
    (hother : c.topology.advertisedRoutes (.ofClusterWide o.other) ≠ [])
    (hcame : declared + c.behavior.routeDelay ≤ now) :
    ¬ c.Shows w now (Mesh.routes c.topology (.ofClusterWide o.other) false) := by
  obtain ⟨r, hr⟩ := List.exists_mem_of_ne_nil _ hother
  have hselected :
      .ofClusterWide o.other ∈ c.selected w (.labeled o.label.key o.label.value) := by
    have hdefault : NetworkName.ofClusterWide o.other ≠ .default := by
      simp [NetworkName.ofClusterWide]
    rw [Cluster.selected, hleaky]
    exact mem_userNetworks_of_mem hr hdefault
  have hvisible : r ∈ c.visibleRoutes w now := h.mem_visibleRoutes_iff.2 ⟨hcame, _, hselected, hr⟩
  intro haway
  exact (shows_routes_away_iff hapart).1 haway r hr r hvisible rfl

/-- The one network is there and the other one is not once the declaration shows, if the cluster minds
labels. -/
theorem shows_plan_iff (hapart : c.AddressesApart)
    (hselected : c.topology.advertisedRoutes (.ofClusterWide o.selected) ≠ [])
    (hother : c.topology.advertisedRoutes (.ofClusterWide o.other) ≠ [])
    (halone : c.topology.AdvertisesAlone (.ofClusterWide o.other)) :
    c.Shows w now (o.plan c.topology) ↔
      c.behavior.leaky = false ∧ declared + c.behavior.routeDelay ≤ now := by
  rw [shows_selectorPlan_iff]
  constructor
  · rintro ⟨hthere, haway⟩
    obtain ⟨r, hr⟩ := List.exists_mem_of_ne_nil _ hselected
    obtain ⟨r', hr', -⟩ := exists_visible_of_shows_routes hapart hthere hr
    have hcame := (h.mem_visibleRoutes_iff.1 hr').1
    refine ⟨?_, hcame⟩
    by_contra hleaky
    exact h.not_shows_of_leaky hapart (by simpa using hleaky) hother hcame haway
  · rintro ⟨hleaky, hcame⟩
    constructor
    · apply shows_routes_of_visible hapart
      intro r hr
      exact h.mem_visibleRoutes_iff.2 ⟨hcame, _, h.mem_selected hleaky, hr⟩
    · rw [shows_routes_away_iff hapart]
      intro r hr r' hr' hsame
      obtain ⟨-, network, hnetwork, hr'⟩ := h.mem_visibleRoutes_iff.1 hr'
      have hne : network ≠ .ofClusterWide o.other := by
        rintro rfl
        exact h.not_mem_selected hleaky hnetwork
      obtain ⟨hsubnet, hnextHop⟩ := Row.mk.inj hsame
      exact halone network hne r hr r' hr' (by rw [hsubnet, hnextHop])

end Selecting

/-! ## The verdict -/

/-- The changes of the scenario make a world in which the label selects. -/
theorem Selecting.of_changes (hdifferent : o.selected ≠ o.other) (hdeclarations : w.declarations = [])
    (houtage : w.outage = none) (now : Millis) :
    Selecting (c.after (.advertise o.advertisement) now
      (c.after (.unlabel (.network o.other) o.label.key) now
        (c.after (.label (.network o.selected) o.label.key o.label.value) now w))) o now := by
  have hobjects : ObjectKey.network o.selected ≠ .network o.other :=
    fun h => hdifferent (ObjectKey.mk.inj h).2
  constructor
  · simp [hdeclarations]
  · simp [houtage]
  · simp [label_after, Change.relabel, Labels.set, hobjects]
  · simp [label_after, Change.relabel, Labels.set]

/-- The steps of the scenario succeed from a fresh world on if the cluster minds labels and the routes
come within the window, and not otherwise. -/
theorem passes_selector_iff (hapart : c.AddressesApart) (hdifferent : o.selected ≠ o.other)
    (hselected : c.topology.advertisedRoutes (.ofClusterWide o.selected) ≠ [])
    (hother : c.topology.advertisedRoutes (.ofClusterWide o.other) ≠ [])
    (halone : c.topology.AdvertisesAlone (.ofClusterWide o.other))
    (hdeclarations : w.declarations = []) (houtage : w.outage = none)
    (hfailing : c.behavior.failingSamples = 0) :
    Passes c.environment [
      .change (.label (.network o.selected) o.label.key o.label.value),
      .change (.unlabel (.network o.other) o.label.key),
      .change (.advertise o.advertisement),
      .check (o.plan c.topology) .routePropagation] ⟨report, none, now, w⟩ ↔
    c.behavior.leaky = false ∧ c.behavior.routeDelay ≤ 120000 := by
  have hw := Selecting.of_changes (c := c) hdifferent hdeclarations houtage now
  rw [passes_change_iff, passes_change_iff, passes_change_iff]
  constructor
  · intro h
    obtain ⟨i, -, -, hfound, -, -⟩ :=
      exists_of_passes_check (selectorPlan_probes_ne_nil hother) (by decide) h
    obtain ⟨hleaky, hcame⟩ :=
      (hw.shows_plan_iff hapart hselected hother halone).1 hfound.observed.shows
    have hwindow : tick .routePropagation now i ≤ now + 120000 := tick_le i
    exact ⟨hleaky, by lia⟩
  · rintro ⟨hleaky, hdelay⟩
    have hdeadline : now + c.behavior.routeDelay ≤ now + Settings.routePropagation.timeout :=
      Nat.add_le_add_left hdelay now
    have hcomes := (hw.shows_plan_iff hapart hselected hother halone).2 ⟨hleaky, hdeadline⟩
    exact passes_check_of (selectorPlan_probes_ne_nil hother) (by decide)
      (exists_convergesAt_of_deadline (by decide) 8 rfl (by lia) hcomes)
      fun _ _ _ _ _ => passes_nil _ _

theorem run_selector (hdifferent : o.selected ≠ o.other)
    (hselected : c.topology.advertisedRoutes (.ofClusterWide o.selected) ≠ [])
    (hother : c.topology.advertisedRoutes (.ofClusterWide o.other) ≠ []) (start : Start World) :
    ∃ work, start.run ((ScenarioChoice.selector o).work c.environment) =
        ⟨some (.ok work, start.report), start.now, start.world⟩ ∧
      work.body = [
        .change (.label (.network o.selected) o.label.key o.label.value),
        .change (.unlabel (.network o.other) o.label.key),
        .change (.advertise o.advertisement),
        .check (o.plan c.topology) .routePropagation] := by
  have hselected : Mesh.hasSubnets c.environment.topology (.ofClusterWide o.selected) = true :=
    Mesh.hasSubnets_of_ne_nil hselected
  have hother : Mesh.hasSubnets c.environment.topology (.ofClusterWide o.other) = true :=
    Mesh.hasSubnets_of_ne_nil hother
  rw [Start.run, ScenarioChoice.work, Scenario.selector, run_bind, run_lift,
    SelectorOptions.requireDifferent, if_neg hdifferent, pure_bind, run_bind, run_requireSubnets,
    hselected, if_pos rfl, pure_bind, run_bind, run_requireSubnets, hother]
  exact ⟨_, rfl, rfl⟩

end Cluster

/-- In a fresh world the scenario of the label comes back, and it succeeds if and only if the cluster
minds labels and the routes come within the window. -/
theorem selector_verdict (c : Cluster) (o : SelectorOptions)
    (labels : Table ObjectKey (Table String String)) (egress : Option Egress) (report : Report)
    (now : Millis) (hdifferent : o.selected ≠ o.other)
    (hselected : c.topology.advertisedRoutes (.ofClusterWide o.selected) ≠ [])
    (hother : c.topology.advertisedRoutes (.ofClusterWide o.other) ≠ [])
    (halone : c.topology.AdvertisesAlone (.ofClusterWide o.other)) (hapart : c.AddressesApart)
    (hfailing : c.behavior.failingSamples = 0) :
    ∃ result report' now' w,
      Start.run ⟨report, none, now, { labels, egress }⟩
          ((ScenarioChoice.selector o).scenario c.environment) =
        ⟨some (result, report'), now', w⟩ ∧
      (result = .ok () ↔ c.behavior.leaky = false ∧ c.behavior.routeDelay ≤ 120000) := by
  obtain ⟨result, report', now', w, hrun, hresult⟩ := exists_verdict c.answers
    (Cluster.run_selector hdifferent hselected hother ⟨report, none, now, { labels, egress }⟩)
  refine ⟨result, report', now', w, hrun, hresult.trans ?_⟩
  exact Cluster.passes_selector_iff hapart hdifferent hselected hother halone rfl rfl hfailing

theorem advertisesAlone_dualNodes : dualNodes.AdvertisesAlone (.ofClusterWide "red") := by
  have hkeys : ∀ node ∈ dualNodes.nodes, ∀ node' ∈ dualNodes.nodes, ∀ e ∈ node.subnets.entries,
      ∀ e' ∈ node'.subnets.entries, e'.2 = e.2 → e'.1 = e.1 := by
    decide +kernel
  intro other hother r hr r' hr' hsame
  obtain ⟨node, hnode, -, -, hsubnet, -⟩ := Topology.mem_advertisedRoutes_iff.1 hr
  obtain ⟨node', hnode', -, -, hsubnet', -⟩ := Topology.mem_advertisedRoutes_iff.1 hr'
  have hkey := hkeys node hnode node' hnode' _ ((Table.mem_entries_iff _).2 hsubnet) _
    ((Table.mem_entries_iff _).2 hsubnet') (Prod.mk.inj hsame).1
  exact hother (congrArg SubnetKey.network hkey)

/-- The selection is found where labels count, also if the other network carried the label before, and
a cluster that ignores labels is found out. -/
theorem selector_verdict_of_dualNodes :
    let o : SelectorOptions := ⟨"selected", ⟨"advertise", "true"⟩, "blue", "red"⟩
    let labels := Table.ofList [(.network "red", Table.ofList [("advertise", "true")])]
    (∃ result report' now w,
      Start.run ⟨.ofTopology "selector" "" dualNodes, none, 7000, { labels }⟩
          ((ScenarioChoice.selector o).scenario (⟨dualNodes, {}⟩ : Cluster).environment) =
        ⟨some (result, report'), now, w⟩ ∧ result = .ok ()) ∧
    ∃ result report' now w,
      Start.run ⟨.ofTopology "selector" "" dualNodes, none, 7000, { labels }⟩
          ((ScenarioChoice.selector o).scenario
            (⟨dualNodes, { leaky := true }⟩ : Cluster).environment) =
        ⟨some (result, report'), now, w⟩ ∧ result ≠ .ok () := by
  intro o labels
  have hselected : dualNodes.advertisedRoutes (.ofClusterWide "blue") ≠ [] := by decide +kernel
  have hother : dualNodes.advertisedRoutes (.ofClusterWide "red") ≠ [] := by decide +kernel
  constructor
  · obtain ⟨result, report', now, w, hrun, hresult⟩ :=
      selector_verdict ⟨dualNodes, {}⟩ o labels none (.ofTopology "selector" "" dualNodes) 7000
        (by decide) hselected hother advertisesAlone_dualNodes (addressesApart_dualNodes _) rfl
    exact ⟨result, report', now, w, hrun, hresult.2 ⟨rfl, by decide⟩⟩
  · obtain ⟨result, report', now, w, hrun, hresult⟩ :=
      selector_verdict ⟨dualNodes, { leaky := true }⟩ o labels none
        (.ofTopology "selector" "" dualNodes) 7000
        (by decide) hselected hother advertisesAlone_dualNodes (addressesApart_dualNodes _) rfl
    exact ⟨result, report', now, w, hrun, fun h => Bool.noConfusion (hresult.1 h).1⟩

end Simulation

end RouteWatch
