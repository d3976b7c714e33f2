import RouteWatch.Proofs.Simulation.FullMesh

/-!
# The verdict on the default network

On the simulated cluster, the scenario of the default network succeeds if and only if the delays fit
its windows and the routes go away again. The sessions come by the first check at the latest, in one
of seven rounds, of which each failing sample takes one; the routes show and vanish within the windows
of the next two checks, and stay away for the last one.
-/

namespace RouteWatch.Simulation

open Scenario Poll

namespace Cluster

variable {c : Cluster} {w : World} {name : String} {declared start now : Millis} {report : Report}
  {steps : List Step}

/-! ## The routes go away -/

theorem Declared.withdraw (h : Declared w name declared none) (now : Millis) :
    Declared (c.after (.withdraw (defaultAdvertisement name)) now w) name declared (some now) :=
  ⟨by simp [after, World.withdraw, World.log, World.Declaration.delete, h.declarations,
    defaultAdvertisement], h.outage⟩

/-- Where the routes have come before they were deleted, they are shown to be away if and only if
they were let go. -/
theorem Declared.shows_withdrawn_iff (hd : Declared w name declared (some start))
    (hapart : c.AddressesApart) (hroutes : c.topology.advertisedRoutes .default ≠ [])
    (hcame : declared + c.behavior.routeDelay ≤ now) :
    c.Shows w now (Mesh.routes c.topology .default false) ↔
      c.behavior.sticky = false ∧ start + c.behavior.routeDelay ≤ now := by
  rw [hd.shows_routes_iff hapart hroutes]
  simp only [Active, hcame, Option.some.injEq, forall_eq', true_and, Bool.false_eq_true, iff_false,
    not_or, Bool.not_eq_true, Nat.not_lt]

/-- If the routes were found away, then they do not stick, and went within the window. -/
theorem of_passes_withdrawn (hapart : c.AddressesApart)
    (hroutes : c.topology.advertisedRoutes .default ≠ []) (hd : Declared w name declared none)
    (hcame : declared + c.behavior.routeDelay ≤ now)
    (h : Passes c.environment (.change (.withdraw (defaultAdvertisement name)) ::
      .check (Mesh.routes c.topology .default false) .routePropagation :: steps)
      ⟨report, none, now, w⟩) :
    c.behavior.sticky = false ∧ c.behavior.routeDelay ≤ 120000 := by
  rw [passes_change_iff] at h
  obtain ⟨i, -, -, haway, -, -⟩ :=
    exists_of_passes_check (Mesh.routes_probes_ne_nil hroutes false) (by decide) h
  have hlate : now ≤ tick .routePropagation now i := le_tick i
  obtain ⟨hsticky, hgone⟩ := ((hd.withdraw now).shows_withdrawn_iff hapart hroutes
    (Nat.le_trans hcame hlate)).1 haway.observed.shows
  have hwindow : tick .routePropagation now i ≤ now + 120000 := tick_le i
  exact ⟨hsticky, Nat.le_of_add_le_add_left (Nat.le_trans hgone hwindow)⟩

/-- Routes that do not stick, and go within the window, are found away and stay away. -/
theorem passes_withdrawn_of (hapart : c.AddressesApart)
    (hroutes : c.topology.advertisedRoutes .default ≠ []) (hd : Declared w name declared none)
    (hcame : declared + c.behavior.routeDelay ≤ now)
    (hfew : c.behavior.failingSamples ≤ w.samples)
    (hsticky : c.behavior.sticky = false) (hdelay : c.behavior.routeDelay ≤ 120000) :
    Passes c.environment [.change (.withdraw (defaultAdvertisement name)),
      .check (Mesh.routes c.topology .default false) .routePropagation,
      .checkStable (Mesh.routes c.topology .default false) .routePropagation]
      ⟨report, none, now, w⟩ := by
  rw [passes_change_iff]
  replace hd := hd.withdraw (c := c) now
  refine passes_check_of (Mesh.routes_probes_ne_nil hroutes false) (by decide)
    (exists_convergesAt_of_deadline (by decide) 8 rfl
      (Nat.sub_le_of_le_add (Nat.le_add_left_of_le hfew))
      ((hd.shows_withdrawn_iff hapart hroutes ?_).2 ⟨hsticky, Nat.add_le_add_left hdelay now⟩))
    fun i report samples hi hsamples => ?_
  · exact Nat.le_trans hcame (Nat.le_add_right _ _)
  have hlater : declared + c.behavior.routeDelay ≤ tick .routePropagation now i :=
    Nat.le_trans hcame (le_tick i)
  obtain ⟨-, hgone⟩ := (hd.shows_withdrawn_iff hapart hroutes hlater).1 hi.observed.shows
  have hinterval : ∀ t, t ≤ t + Settings.routePropagation.interval := fun t => Nat.le_add_right t _
  have hstays := ((hd.samples samples).shows_withdrawn_iff hapart hroutes
    (Nat.le_trans hlater (hinterval _))).2 ⟨hsticky, Nat.le_trans hgone (hinterval _)⟩
  rw [← shows_extend_nil_iff (Mesh.filled_routes _ _ _)] at hstays
  rw [passes_checkStable]
  exact passes_check_of
    (Plan.extend_probes_ne_nil (Mesh.filled_routes _ _ _) (Mesh.routes_probes_ne_nil hroutes false) _)
    (by decide)
    (exists_convergesAt_of_deadline (by decide) 0 rfl
      (Nat.sub_le_of_le_add (Nat.le_add_left_of_le hsamples)) hstays)
    fun _ _ _ _ _ => passes_nil _ _

/-! ## The verdict -/

/-- The steps of the scenario succeed from the start of a fresh world on under these bounds, and not
otherwise. -/
theorem passes_defaultNetwork_iff (hapart : c.AddressesApart)
    (hroutes : c.topology.advertisedRoutes .default ≠ []) (hdeclarations : w.declarations = [])
    (houtage : w.outage = none) (hsamples : w.samples = 0) :
    Passes c.environment [
      .change (.advertise (defaultAdvertisement name)),
      .check (Mesh.sessions c.topology) .neighbor,
      .check (defaultMesh c.environment) .routePropagation,
      .change (.withdraw (defaultAdvertisement name)),
      .check (Mesh.routes c.topology .default false) .routePropagation,
      .checkStable (Mesh.routes c.topology .default false) .routePropagation]
      ⟨report, none, 0, w⟩ ↔
    c.behavior.sticky = false ∧ c.behavior.sessionDelay ≤ 30000 ∧
      c.behavior.routeDelay ≤ 120000 ∧ c.behavior.failingSamples ≤ 6 := by
  have hd := Declared.declare (c := c) hdeclarations houtage 0 name
  rw [passes_change_iff]
  constructor
  · intro h
    obtain ⟨i, hsessions, now, report, samples, hup, hcame, -, h⟩ :=
      exists_of_passes_mesh hapart hroutes hd h
    obtain ⟨hsticky, hdelay⟩ := of_passes_withdrawn hapart hroutes (hd.samples samples) hcame h
    -- The sessions came in one of the seven rounds, and each failing sample has used up one before.
    have hwindow : tick .neighbor 0 i ≤ 0 + 30000 := tick_le i
    have hrounds : i ≤ 6 := hsessions.le 6 rfl
    have hfailing : c.behavior.failingSamples - w.samples ≤ i := hsessions.observed.sampled
    refine ⟨hsticky, Nat.le_trans hup (by simpa using hwindow), hdelay, ?_⟩
    rw [hsamples] at hfailing
    exact Nat.le_trans hfailing hrounds
  · rintro ⟨hsticky, hsessions, hdelay, hfailing⟩
    have hfew : c.behavior.failingSamples - w.samples ≤ 6 :=
      Nat.le_trans (Nat.sub_le _ _) hfailing
    refine passes_mesh_of hapart hroutes hd (by simpa using hsessions) hfew (fun i _ => ?_)
      fun now report samples hcame hsamples =>
        passes_withdrawn_of hapart hroutes (hd.samples samples) hcame hsamples hsticky hdelay
    exact Nat.add_le_add (Nat.zero_le _) hdelay

theorem run_defaultNetwork {c : Cluster} (hroutes : c.topology.advertisedRoutes .default ≠ [])
    (name : String) (start : Start World) :
    ∃ work, start.run ((ScenarioChoice.defaultNetwork name).work c.environment) =
        ⟨some (.ok work, start.report), start.now, start.world⟩ ∧
      work.body = [
        .change (.advertise (defaultAdvertisement name)),
        .check (Mesh.sessions c.topology) .neighbor,
        .check (defaultMesh c.environment) .routePropagation,
        .change (.withdraw (defaultAdvertisement name)),
        .check (Mesh.routes c.topology .default false) .routePropagation,
        .checkStable (Mesh.routes c.topology .default false) .routePropagation] := by
  have hsubnets : Mesh.hasSubnets c.environment.topology .default = true :=
    Mesh.hasSubnets_of_ne_nil hroutes
  rw [Start.run, ScenarioChoice.work, Scenario.defaultNetwork, run_bind, run_requireSubnets,
    hsubnets]
  exact ⟨_, rfl, rfl⟩

end Cluster

/-- In a fresh world the scenario of the default network comes back, and it succeeds if and only if
routes go away, the delays fit the windows, and no more samples fail than the first check has rounds
to spare. -/
theorem default_network_verdict (c : Cluster) (name : String)
    (labels : Table ObjectKey (Table String String)) (egress : Option Egress) (report : Report)
    (hroutes : c.topology.advertisedRoutes .default ≠ []) (hapart : c.AddressesApart) :
    ∃ result report' now w,
      Start.run ⟨report, none, 0, { labels, egress }⟩
          ((ScenarioChoice.defaultNetwork name).scenario c.environment) =
        ⟨some (result, report'), now, w⟩ ∧
      (result = .ok () ↔ c.behavior.sticky = false ∧ c.behavior.sessionDelay ≤ 30000 ∧
        c.behavior.routeDelay ≤ 120000 ∧ c.behavior.failingSamples ≤ 6) := by
  let start : Start World := ⟨report, none, 0, { labels, egress }⟩
  obtain ⟨⟨result, report'⟩, now, w, hrun⟩ :=
    returns_scenario c.answers (.defaultNetwork name) report 0 { labels, egress }
  obtain ⟨work, hwork, hbody⟩ := Cluster.run_defaultNetwork hroutes name start
  have hrun : start.run ((ScenarioChoice.defaultNetwork name).scenario c.environment) =
      ⟨some (result, report'), now, w⟩ := hrun
  refine ⟨result, report', now, w, hrun, ?_⟩
  rw [ok_iff_passes hwork hrun, hbody]
  exact Cluster.passes_defaultNetwork_iff hapart hroutes rfl rfl rfl

/-- Routes that stay although they are withdrawn are found out. -/
theorem default_network_verdict_of_stale_routes :
    ∃ result report' now w,
      Start.run ⟨.ofTopology "default" "" dualNodes, none, 0, {}⟩
          ((ScenarioChoice.defaultNetwork "default").scenario
            (⟨dualNodes, { sticky := true }⟩ : Cluster).environment) =
        ⟨some (result, report'), now, w⟩ ∧ result ≠ .ok () := by
  obtain ⟨result, report', now, w, hrun, hresult⟩ :=
    default_network_verdict ⟨dualNodes, { sticky := true }⟩ "default" ∅ none
      (.ofTopology "default" "" dualNodes) (by decide +kernel)
      (addressesApart_dualNodes _)
  exact ⟨result, report', now, w, hrun, fun h => by simpa using hresult.1 h⟩

end RouteWatch.Simulation
