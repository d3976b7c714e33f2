import RouteWatch.Config.Reader
import RouteWatch.Proofs.Router.Document

/-!
# The router of a configuration

A configuration is checked when it is loaded, and the router that is made of it when it is rendered.
The second check asks for more: that peers stand with those of their family, which a router made of
a configuration always meets, that there are networks in their families, and that there is no blank
in the name of the VRF. Of the last the first check only asks that the name is not blank altogether.

* `LabConfig.validate_eq_ok_iff`: what the first check asks for;
* `RouterSpec.isValid_configured_iff`: what the second check asks for;
* `RouterSpec.render_configured_iff`: what is left between them.
-/

namespace RouteWatch

open Text

/-- The peers that are configured in the VRF. -/
def RouterConfig.vrfPeers (config : RouterConfig) : List Ip :=
  config.vrf.elim [] fun vrf => vrf.peers4.map .v4 ++ vrf.peers6.map .v6

/-- There are configured networks of the family. -/
def RouterConfig.HasStatics (config : RouterConfig) : Family → Prop
  | .v4 => config.statics4 ≠ []
  | .v6 => config.statics6 ≠ []

/-- The names of a configuration that is accepted are not blank. -/
theorem LabConfig.validate_eq_ok_iff {config : LabConfig} :
    config.validate = .ok () ↔ isAllBlank config.host.sshName = false ∧
      isAllBlank config.router.image = false ∧
      ∀ vrf, config.router.vrf = some vrf → isAllBlank vrf.name = false := by
  have hvrf : (config.router.vrf.any fun vrf => isAllBlank vrf.name) = false ↔
      ∀ vrf, config.router.vrf = some vrf → isAllBlank vrf.name = false := by
    cases config.router.vrf <;> simp
  rw [← hvrf]
  unfold validate
  cases isAllBlank config.host.sshName with
  | true => simp
  | false =>
    cases isAllBlank config.router.image with
    | true => simp
    | false => cases config.router.vrf.any fun vrf => isAllBlank vrf.name <;> simp

namespace RouterSpec

variable {config : RouterConfig} {peers : List Ip} {family : Family}

theorem exists_static_ofConfig (h : config.HasStatics family) :
    ∃ net ∈ (ofConfig config).statics, net.family = family := by
  cases family with
  | v4 =>
    obtain ⟨net, hnet⟩ := List.exists_mem_of_ne_nil _ h
    exact ⟨.v4 net, List.mem_append_left _ (List.mem_map_of_mem hnet), rfl⟩
  | v6 =>
    obtain ⟨net, hnet⟩ := List.exists_mem_of_ne_nil _ h
    exact ⟨.v6 net, List.mem_append_right _ (List.mem_map_of_mem hnet), rfl⟩

/-- The peers of an instance are the given ones, or those of the VRF, sorted by family. -/
theorem mem_peers_configured {i : Instance} {peer : Ip}
    (hi : i ∈ ((ofConfig config).withPeers peers).instances) (hpeer : peer ∈ i.peers family) :
    peer.family = family ∧ peer ∈ peers ++ config.vrfPeers := by
  rcases List.mem_cons.1 hi with rfl | hi
  · have hgiven : peer ∈ ofFamily family peers := by cases family <;> exact hpeer
    obtain ⟨hmem, hfamily⟩ := List.mem_filter.1 hgiven
    exact ⟨beq_iff_eq.1 hfamily, List.mem_append_left _ hmem⟩
  · obtain ⟨spec, hspec, rfl⟩ := Option.map_eq_some_iff.1 (Option.mem_toList.1 hi)
    obtain ⟨vrf, hvrf, rfl⟩ := Option.map_eq_some_iff.1 hspec
    have hpeers : config.vrfPeers = vrf.peers4.map .v4 ++ vrf.peers6.map .v6 := by
      rw [RouterConfig.vrfPeers, hvrf]
      rfl
    rw [hpeers]
    cases family with
    | v4 =>
      obtain ⟨ip, -, rfl⟩ := List.mem_map.1 hpeer
      exact ⟨rfl, List.mem_append_right _ (List.mem_append_left _ hpeer)⟩
    | v6 =>
      obtain ⟨ip, -, rfl⟩ := List.mem_map.1 hpeer
      exact ⟨rfl, List.mem_append_right _ (List.mem_append_right _ hpeer)⟩

theorem exists_static_configured {i : Instance}
    (hstatics : ∀ peer ∈ peers ++ config.vrfPeers, config.HasStatics peer.family)
    (hi : i ∈ ((ofConfig config).withPeers peers).instances) (hne : i.peers family ≠ []) :
    ∃ net ∈ ((ofConfig config).withPeers peers).statics, net.family = family := by
  obtain ⟨peer, hpeer⟩ := List.exists_mem_of_ne_nil _ hne
  obtain ⟨rfl, hmem⟩ := mem_peers_configured hi hpeer
  exact exists_static_ofConfig (hstatics peer hmem)

theorem isValid_configured_iff
    (hstatics : ∀ peer ∈ peers ++ config.vrfPeers, config.HasStatics peer.family) :
    ((ofConfig config).withPeers peers).IsValid ↔
      ∀ vrf, config.vrf = some vrf → IsWord vrf.name.toList := by
  constructor
  · intro h vrf hvrf
    exact h.name (vrfOfConfig vrf) (congrArg (Option.map vrfOfConfig) hvrf)
  · intro h
    refine ⟨?_, fun i hi family peer hpeer => (mem_peers_configured hi hpeer).1,
      fun i hi family => exists_static_configured hstatics hi⟩
    intro spec hspec
    obtain ⟨vrf, hvrf, rfl⟩ := Option.map_eq_some_iff.1 hspec
    exact h vrf hvrf

/-- The name of the VRF is looked at when the default instance has been found good. -/
theorem validate_of_not_isWord {spec : RouterSpec} {vrf : VrfSpec}
    (hdefault : spec.validateInstance ⟨none, spec.peers4, spec.peers6⟩ = .ok ())
    (hvrf : spec.vrf = some vrf) (h : ¬ IsWord vrf.name.toList) :
    spec.validate = .error (.invalidVrfName vrf.name) := by
  rw [isWord_name_iff, Bool.not_eq_false] at h
  have hname : spec.validateInstance ⟨some vrf.name, vrf.peers4, vrf.peers6⟩ =
      .error (.invalidVrfName vrf.name) := by
    unfold validateInstance
    dsimp only
    rw [if_pos h]
    rfl
  have hinstances : spec.instances =
      [⟨none, spec.peers4, spec.peers6⟩, ⟨some vrf.name, vrf.peers4, vrf.peers6⟩] := by
    rw [instances, hvrf]
    rfl
  rw [validate, hinstances]
  show (spec.validateInstance _ >>= fun _ => spec.validateInstance _ >>= fun _ => pure ()) = _
  rw [hdefault, hname]
  rfl

theorem validateInstance_default
    (hstatics : ∀ peer ∈ peers ++ config.vrfPeers, config.HasStatics peer.family) :
    let spec := (ofConfig config).withPeers peers
    spec.validateInstance ⟨none, spec.peers4, spec.peers6⟩ = .ok () := by
  intro spec
  have hmem : ⟨none, spec.peers4, spec.peers6⟩ ∈ spec.instances := List.mem_cons_self
  exact validateInstance_eq_ok_iff.2 ⟨nofun, fun family =>
    ⟨fun peer hpeer => (mem_peers_configured hmem hpeer).1, exists_static_configured hstatics hmem⟩⟩

/-- What a configuration that is accepted leaves to be found when the router is rendered: a blank in
the name of the VRF. -/
theorem render_configured_iff {config : LabConfig} {peers : List Ip}
    (hvalid : config.validate = .ok ())
    (hstatics : ∀ peer ∈ peers ++ config.router.vrfPeers, config.router.HasStatics peer.family) :
    let spec := (ofConfig config.router).withPeers peers
    let named := ∀ vrf, config.router.vrf = some vrf → ∀ c ∈ vrf.name.toList, isBlank c = false
    ((∃ text, spec.render = .ok text) ↔ named) ∧
      (¬ named → ∃ vrf, config.router.vrf = some vrf ∧
        spec.render = .error (.invalidVrfName vrf.name)) := by
  intro spec named
  have hword : spec.IsValid ↔ named := by
    rw [isValid_configured_iff hstatics]
    refine forall₂_congr fun vrf hvrf => ⟨fun h => h.not_blank, fun h => ⟨fun hnil => ?_, h⟩⟩
    have hname := (LabConfig.validate_eq_ok_iff.1 hvalid).2.2 vrf hvrf
    rw [isAllBlank, hnil] at hname
    cases hname
  constructor
  · simp [render_eq_ok_iff, hword]
  · intro hnot
    rw [← hword, isValid_configured_iff hstatics] at hnot
    simp only [not_forall] at hnot
    obtain ⟨vrf, hvrf, hblank⟩ := hnot
    have hvalidate := validate_of_not_isWord (validateInstance_default hstatics)
      (congrArg (Option.map vrfOfConfig) hvrf) hblank
    refine ⟨vrf, hvrf, ?_⟩
    rw [render, hvalidate]
    rfl

theorem render_configured_with_vrf :
    let config : LabConfig := {
      host := { sshName := "hv" }
      router := { vrf := some { name := "blue", peers4 := [⟨192, 0, 2, 12⟩] } } }
    config.validate = .ok () ∧
      ∃ text, ((ofConfig config.router).withPeers [.v4 ⟨192, 0, 2, 11⟩]).render = .ok text := by
  intro config
  have hvalid : config.validate = .ok () := by decide
  have hstatics : ∀ peer ∈ [Ip.v4 ⟨192, 0, 2, 11⟩] ++ config.router.vrfPeers,
      config.router.HasStatics peer.family := by
    intro peer hpeer
    rcases List.mem_append.1 hpeer with hpeer | hpeer
    · rw [List.mem_singleton.1 hpeer]
      exact List.cons_ne_nil _ _
    · rw [List.mem_singleton.1 hpeer]
      exact List.cons_ne_nil _ _
  have hname : "blue".toList.any isBlank = false := by decide
  refine ⟨hvalid, (render_configured_iff hvalid hstatics).1.2 fun vrf hvrf c hc => ?_⟩
  cases hvrf
  simpa using List.any_eq_false.1 hname c hc

/-- A name with a blank in it is found only when the router is rendered. -/
theorem render_configured_blank :
    ∃ config, LabConfig.parse "[host]\nssh_name = \"hv\"\n[router.vrf]\nname = \"blue vrf\"\n" =
        .ok config ∧
      config.validate = .ok () ∧ config.router.HasStatics .v4 ∧ config.router.vrfPeers = [] ∧
      ((ofConfig config.router).withPeers [.v4 ⟨192, 0, 2, 11⟩]).render =
        .error (.invalidVrfName "blue vrf") := by
  refine ⟨{ host := { sshName := "hv" }, router := { vrf := some { name := "blue vrf" } } }, ?_⟩
  exact ⟨by decide +kernel, by decide, List.cons_ne_nil _ _, rfl, by decide⟩

end RouterSpec

end RouteWatch
