import RouteWatch.Proofs.Simulation.Views

/-!
# The full mesh comes

Two scenarios advertise the default network and wait for the sessions and then for the full mesh. On
the simulated cluster they come if and only if the delays fit the windows of these two checks.
-/

namespace RouteWatch.Simulation.Cluster

open Scenario Poll

variable {c : Cluster} {w : World} {name : String} {declared start : Millis} {report : Report}
  {steps : List Step}

/-- The first declaration of all. -/
theorem Declared.declare (hdeclarations : w.declarations = []) (houtage : w.outage = none)
    (now : Millis) (name : String) :
    Declared (c.after (.advertise (defaultAdvertisement name)) now w) name now none :=
  ⟨by simp [after, World.declare, World.log, hdeclarations], houtage⟩

theorem sessions_probes_ne_nil (c : Cluster) : (Mesh.sessions c.topology).probes ≠ [] := by
  obtain ⟨peer, hpeer⟩ := exists_expects_sessions c.topology
  exact hpeer.probes_ne_nil

theorem defaultMesh_probes_ne_nil (c : Cluster) : (defaultMesh c.environment).probes ≠ [] := by
  obtain ⟨peer, hpeer⟩ := exists_expects_sessions c.topology
  exact (Mesh.expects_full.2 (.inl hpeer)).probes_ne_nil

/-- If the mesh was found, then the sessions were up before it and the routes had come. -/
theorem exists_of_passes_mesh (hapart : c.AddressesApart)
    (hroutes : c.topology.advertisedRoutes .default ≠ []) (hd : Declared w name declared none)
    (h : Passes c.environment (.check (Mesh.sessions c.topology) .neighbor ::
      .check (defaultMesh c.environment) .routePropagation :: steps) ⟨report, none, start, w⟩) :
    ∃ i, c.ConvergesAt (Mesh.sessions c.topology) .neighbor start w i ∧
      ∃ now report samples, c.behavior.sessionDelay ≤ tick .neighbor start i ∧
        declared + c.behavior.routeDelay ≤ now ∧ now ≤ tick .neighbor start i + 120000 ∧
        Passes c.environment steps ⟨report, none, now, { w with samples }⟩ := by
  obtain ⟨i, report₁, samples₁, hsessions, -, h⟩ :=
    exists_of_passes_check (sessions_probes_ne_nil c) (by decide) h
  have hup := hd.sessionsUp_iff.1 (shows_sessions_iff.1 hsessions.observed.shows)
  obtain ⟨j, report₂, samples₂, hmesh, -, h⟩ :=
    exists_of_passes_check (defaultMesh_probes_ne_nil c) (by decide) h
  have hactive := (((hd.samples samples₁).shows_defaultMesh_iff hapart hroutes).1
    hmesh.observed.shows).2
  exact ⟨i, hsessions, _, report₂, samples₂, hup, hactive.1, tick_le j, h⟩

/-- The mesh is found if the sessions come in the first window and the routes in the second one. -/
theorem passes_mesh_of (hapart : c.AddressesApart)
    (hroutes : c.topology.advertisedRoutes .default ≠ []) (hd : Declared w name declared none)
    (hsessions : c.behavior.sessionDelay ≤ start + 30000)
    (hfailing : c.behavior.failingSamples - w.samples ≤ 6)
    (hdelay : ∀ i, c.ConvergesAt (Mesh.sessions c.topology) .neighbor start w i →
      declared + c.behavior.routeDelay ≤ tick .neighbor start i + 120000)
    (hrest : ∀ now report samples, declared + c.behavior.routeDelay ≤ now →
      c.behavior.failingSamples ≤ samples →
      Passes c.environment steps ⟨report, none, now, { w with samples }⟩) :
    Passes c.environment (.check (Mesh.sessions c.topology) .neighbor ::
      .check (defaultMesh c.environment) .routePropagation :: steps) ⟨report, none, start, w⟩ := by
  have hcomes : c.Shows w (start + Settings.neighbor.timeout) (Mesh.sessions c.topology) :=
    shows_sessions_iff.2 (hd.sessionsUp_iff.2 hsessions)
  refine passes_check_of (sessions_probes_ne_nil c) (by decide)
    (exists_convergesAt_of_deadline (by decide) 6 rfl hfailing hcomes)
    fun i report samples hi hsamples => ?_
  have hup := hd.sessionsUp_iff.1 (shows_sessions_iff.1 hi.observed.shows)
  have hmesh : c.Shows { w with samples }
      (tick .neighbor start i + Settings.routePropagation.timeout) (defaultMesh c.environment) :=
    ((hd.samples samples).shows_defaultMesh_iff hapart hroutes).2
      ⟨Nat.le_trans hup (Nat.le_add_right _ _), hdelay i hi, nofun⟩
  refine passes_check_of (defaultMesh_probes_ne_nil c) (by decide)
    (exists_convergesAt_of_deadline (by decide) 8 rfl
      (Nat.sub_le_of_le_add (Nat.le_add_left_of_le hsamples)) hmesh)
    fun j report samples₂ hj hsamples₂ => ?_
  have hactive := (((hd.samples samples).shows_defaultMesh_iff hapart hroutes).1
    hj.observed.shows).2
  exact hrest _ report samples₂ hactive.1 hsamples₂

end RouteWatch.Simulation.Cluster
