import Mathlib.Order.Bounds.Basic
import RouteWatch.Proofs.Simulation.Cleanup
import RouteWatch.Proofs.Simulation.FullMesh

/-!
# The verdict on the recovery from a restart

On the simulated cluster, the scenario of a restart succeeds if and only if the delays fit its
windows. The full mesh is waited for from the round on in which the sessions were found, and so what
the routes may take depends on that round. The restart takes sessions and routes away at once, and
they have to be back within the window that starts with it.

* `isLeast_tick_of_convergesAt`: the round in which the sessions are found;
* `shows_recovered_iff`: when the mesh is there again after a restart;
* `recovery_verdict`: the verdict, and that nothing stays declared.
-/

namespace RouteWatch.Simulation

open Scenario Poll

namespace Cluster

variable {c : Cluster} {w : World} {name : String} {declared since now : Millis} {part : Disruption}
  {description : String} {report : Report} {steps : List Step}

/-! ## The round in which the sessions are found -/

theorem tick_neighbor {i : Nat} (hi : i ≤ 6) : tick .neighbor 0 i = i * 5000 := by
  have htick : tick .neighbor 0 i = min (0 + i * 5000) (0 + 30000) := rfl
  lia

/-- If no sample fails, the sessions are found at the first multiple of the interval at which they
are up. -/
theorem isLeast_tick_of_convergesAt (hd : Declared w name declared none)
    (hfailing : c.behavior.failingSamples = 0) {i : Nat}
    (h : c.ConvergesAt (Mesh.sessions c.topology) .neighbor 0 w i) :
    IsLeast {t | 5000 ∣ t ∧ c.behavior.sessionDelay ≤ t} (tick .neighbor 0 i) := by
  have hi : i ≤ 6 := h.le 6 rfl
  have hup := hd.sessionsUp_iff.1 (shows_sessions_iff.1 h.observed.shows)
  have hearlier : ∀ j < i, tick .neighbor 0 j < c.behavior.sessionDelay := by
    intro j hj
    refine Nat.lt_of_not_le fun hj' => h.first j hj ⟨?_, ?_⟩
    · rw [hfailing, Nat.zero_sub]
      exact Nat.zero_le j
    · exact shows_sessions_iff.2 (hd.sessionsUp_iff.2 hj')
  rw [tick_neighbor hi] at hup ⊢
  refine ⟨⟨Nat.dvd_mul_left _ _, hup⟩, ?_⟩
  rintro t ⟨⟨j, rfl⟩, ht⟩
  by_contra hlt
  have hj : j < i := by lia
  have hdown := hearlier j hj
  rw [tick_neighbor (by lia)] at hdown
  lia

/-! ## The mesh comes again -/

/-- After a restart the mesh is there again once the part has come back. -/
theorem Declared.shows_recovered_iff (hd : Declared w name declared none)
    (hapart : c.AddressesApart) (hroutes : c.topology.advertisedRoutes .default ≠ []) :
    c.Shows (c.after (.disrupt part) since w) now
        (({ description } : Plan).extend (defaultMesh c.environment)) ↔
      c.behavior.sessionDelay ≤ now ∧
        (∃ delay, c.behavior.recoveryDelay = some delay ∧ since + delay ≤ now) ∧
          declared + c.behavior.routeDelay ≤ now := by
  have hfilled : (defaultMesh c.environment).Filled := Mesh.filled_full _ _ _ _
  have hdeclarations : (c.after (.disrupt part) since w).declarations =
      [⟨defaultAdvertisement name, declared, none⟩] := hd.declarations
  have houtage : (c.after (.disrupt part) since w).outage = some since := rfl
  rw [shows_extend_nil_iff hfilled,
    shows_defaultMesh_iff_of_declarations hapart hroutes hdeclarations, isDisrupted_eq_false_iff,
    active_none_iff, houtage]
  simp

theorem recovered_probes_ne_nil (c : Cluster) (description : String) :
    (({ description } : Plan).extend (defaultMesh c.environment)).probes ≠ [] :=
  Plan.extend_probes_ne_nil (Mesh.filled_full _ _ _ _) (defaultMesh_probes_ne_nil c) _

/-- If the mesh was found again, then the part came back within the window. -/
theorem exists_delay_of_passes_recovered (hapart : c.AddressesApart)
    (hroutes : c.topology.advertisedRoutes .default ≠ []) (hd : Declared w name declared none)
    (h : Passes c.environment (.change (.disrupt part) ::
      .check (({ description } : Plan).extend (defaultMesh c.environment)) .routePropagation ::
        steps) ⟨report, none, now, w⟩) :
    ∃ delay, c.behavior.recoveryDelay = some delay ∧ delay ≤ 120000 := by
  rw [passes_change_iff] at h
  obtain ⟨i, -, -, hagain, -, -⟩ :=
    exists_of_passes_check (recovered_probes_ne_nil c description) (by decide) h
  obtain ⟨-, ⟨delay, hdelay, hback⟩, -⟩ :=
    (hd.shows_recovered_iff hapart hroutes).1 hagain.observed.shows
  have hwindow : tick .routePropagation now i ≤ now + 120000 := tick_le i
  exact ⟨delay, hdelay, by lia⟩

/-- A mesh that was there is found again if the part comes back within the window. -/
theorem passes_recovered_of (hapart : c.AddressesApart)
    (hroutes : c.topology.advertisedRoutes .default ≠ []) (hd : Declared w name declared none)
    (hcame : declared + c.behavior.routeDelay ≤ now)
    (hsessions : c.behavior.sessionDelay ≤ now + 120000)
    (hfew : c.behavior.failingSamples ≤ w.samples) {delay : Millis}
    (hdelay : c.behavior.recoveryDelay = some delay) (hback : delay ≤ 120000) :
    Passes c.environment [.change (.disrupt part),
      .check (({ description } : Plan).extend (defaultMesh c.environment)) .routePropagation]
      ⟨report, none, now, w⟩ := by
  rw [passes_change_iff]
  refine passes_check_of (recovered_probes_ne_nil c description) (by decide)
    (exists_convergesAt_of_deadline (by decide) 8 rfl
      (Nat.sub_le_of_le_add (Nat.le_add_left_of_le hfew)) ?_) fun _ _ _ _ _ => passes_nil _ _
  have htimeout : Settings.routePropagation.timeout = 120000 := rfl
  rw [hd.shows_recovered_iff hapart hroutes, htimeout]
  exact ⟨hsessions, ⟨delay, hdelay, by lia⟩, by lia⟩

/-! ## The verdict -/

/-- The steps of the scenario succeed from the start of a fresh world on under these bounds, and not
otherwise. -/
theorem passes_recovery_iff (hapart : c.AddressesApart)
    (hroutes : c.topology.advertisedRoutes .default ≠ []) (hdeclarations : w.declarations = [])
    (houtage : w.outage = none) (hfailing : c.behavior.failingSamples = 0) {t : Millis}
    (ht : IsLeast {t | 5000 ∣ t ∧ c.behavior.sessionDelay ≤ t} t) :
    Passes c.environment [
      .change (.advertise (defaultAdvertisement name)),
      .check (Mesh.sessions c.topology) .neighbor,
      .check (defaultMesh c.environment) .routePropagation,
      .change (.disrupt part),
      .check (({ description } : Plan).extend (defaultMesh c.environment)) .routePropagation]
      ⟨report, none, 0, w⟩ ↔
    c.behavior.sessionDelay ≤ 30000 ∧ c.behavior.routeDelay ≤ t + 120000 ∧
      ∃ delay, c.behavior.recoveryDelay = some delay ∧ delay ≤ 120000 := by
  have hd := Declared.declare (c := c) hdeclarations houtage 0 name
  have hround : ∀ {i}, c.ConvergesAt (Mesh.sessions c.topology) .neighbor 0
      (c.after (.advertise (defaultAdvertisement name)) 0 w) i → tick .neighbor 0 i = t :=
    fun hi => (isLeast_tick_of_convergesAt hd hfailing hi).unique ht
  rw [passes_change_iff]
  constructor
  · intro h
    obtain ⟨i, hsessions, now, report, samples, hup, hcame, hwindow, h⟩ :=
      exists_of_passes_mesh hapart hroutes hd h
    have hlast : tick .neighbor 0 i ≤ 0 + 30000 := tick_le i
    rw [hround hsessions] at hup hwindow hlast
    exact ⟨by lia, by lia,
      exists_delay_of_passes_recovered hapart hroutes (hd.samples samples) h⟩
  · rintro ⟨hsessions, hdelay, delay, hrecovers, hback⟩
    refine passes_mesh_of hapart hroutes hd (by lia) (by lia) (fun i hi => ?_)
      fun now report samples hcame hsamples => ?_
    · rw [hround hi]
      lia
    · exact passes_recovered_of hapart hroutes (hd.samples samples) hcame (by lia) hsamples
        hrecovers hback

theorem run_recovery (hroutes : c.topology.advertisedRoutes .default ≠ []) (o : RecoveryOptions)
    (start : Start World) :
    ∃ description, ∃ work, start.run ((ScenarioChoice.recovery o).work c.environment) =
        ⟨some (.ok work, start.report), start.now, start.world⟩ ∧
      work.body = [
        .change (.advertise (defaultAdvertisement o.name)),
        .check (Mesh.sessions c.topology) .neighbor,
        .check (defaultMesh c.environment) .routePropagation,
        .change (.disrupt o.disruption),
        .check (({ description } : Plan).extend (defaultMesh c.environment)) .routePropagation] := by
  have hsubnets : Mesh.hasSubnets c.environment.topology .default = true :=
    Mesh.hasSubnets_of_ne_nil hroutes
  rw [Start.run, ScenarioChoice.work, Scenario.recovery, run_bind, run_requireSubnets, hsubnets]
  exact ⟨_, _, rfl, rfl⟩

end Cluster

/-- In a fresh world the scenario of a restart comes back with nothing declared. It succeeds if and
only if the sessions come within the first window, the routes within the second one, which starts at
the first round after the sessions, and the part that is restarted comes back within the third one. -/
theorem recovery_verdict (c : Cluster) (o : RecoveryOptions)
    (labels : Table ObjectKey (Table String String)) (egress : Option Egress) (report : Report)
    (hroutes : c.topology.advertisedRoutes .default ≠ []) (hapart : c.AddressesApart)
    (hfailing : c.behavior.failingSamples = 0) (t : Millis)
    (ht : IsLeast {t | 5000 ∣ t ∧ c.behavior.sessionDelay ≤ t} t) :
    ∃ result report' now w,
      Start.run ⟨report, none, 0, { labels, egress }⟩
          ((ScenarioChoice.recovery o).scenario c.environment) =
        ⟨some (result, report'), now, w⟩ ∧
      (result = .ok () ↔ c.behavior.sessionDelay ≤ 30000 ∧ c.behavior.routeDelay ≤ t + 120000 ∧
        ∃ delay, c.behavior.recoveryDelay = some delay ∧ delay ≤ 120000) ∧
      w.declared = [] := by
  obtain ⟨description, hwork⟩ :=
    Cluster.run_recovery hroutes o ⟨report, none, 0, { labels, egress }⟩
  obtain ⟨result, report', now, w, hrun, hresult⟩ := exists_verdict c.answers hwork
  refine ⟨result, report', now, w, hrun, hresult.trans ?_, ?_⟩
  · exact Cluster.passes_recovery_iff hapart hroutes rfl rfl hfailing ht
  · exact List.eq_nil_of_subset_nil (c.declared_subset_of_run hrun)

/-- A part that comes back is waited for, and one that never does is reported. Nothing stays declared
either way. -/
theorem recovery_verdict_of_dualNodes :
    (∃ result report' now w,
      Start.run ⟨.ofTopology "recovery" "" dualNodes, none, 0, {}⟩
          ((ScenarioChoice.recovery ⟨"default", .frr⟩).scenario
            (⟨dualNodes, { sessionDelay := 12000 }⟩ : Cluster).environment) =
        ⟨some (result, report'), now, w⟩ ∧ result = .ok () ∧ w.declared = []) ∧
    ∃ result report' now w,
      Start.run ⟨.ofTopology "recovery" "" dualNodes, none, 0, {}⟩
          ((ScenarioChoice.recovery ⟨"default", .ovn⟩).scenario
            (⟨dualNodes, { recoveryDelay := none }⟩ : Cluster).environment) =
        ⟨some (result, report'), now, w⟩ ∧ result ≠ .ok () ∧ w.declared = [] := by
  have hroutes : dualNodes.advertisedRoutes .default ≠ [] := by decide +kernel
  constructor
  · have hround : IsLeast {t | 5000 ∣ t ∧ 12000 ≤ t} 15000 :=
      ⟨⟨by decide, by decide⟩, fun t ht => by obtain ⟨⟨k, rfl⟩, ht⟩ := ht; lia⟩
    obtain ⟨result, report', now, w, hrun, hresult, hdeclared⟩ :=
      recovery_verdict ⟨dualNodes, { sessionDelay := 12000 }⟩ ⟨"default", .frr⟩ ∅ none
        (.ofTopology "recovery" "" dualNodes) hroutes (addressesApart_dualNodes _) rfl 15000 hround
    exact ⟨result, report', now, w, hrun,
      hresult.2 ⟨by decide, by decide, 60000, rfl, by decide⟩, hdeclared⟩
  · have hround : IsLeast {t | 5000 ∣ t ∧ 10000 ≤ t} 10000 :=
      ⟨⟨by decide, by decide⟩, fun t ht => ht.2⟩
    obtain ⟨result, report', now, w, hrun, hresult, hdeclared⟩ :=
      recovery_verdict ⟨dualNodes, { recoveryDelay := none }⟩ ⟨"default", .ovn⟩ ∅ none
        (.ofTopology "recovery" "" dualNodes) hroutes (addressesApart_dualNodes _) rfl 10000 hround
    refine ⟨result, report', now, w, hrun, fun h => ?_, hdeclared⟩
    obtain ⟨-, -, delay, hdelay, -⟩ := hresult.1 h
    cases hdelay

end RouteWatch.Simulation
