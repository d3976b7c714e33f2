import RouteWatch.Proofs.Simulation.Environment
import RouteWatch.Proofs.Topology

/-!
# The routes that show

A route shows in the simulated cluster while nothing is disrupted, if an active declaration selects
its network or if it is the route to an egress address that an active declaration advertises. With
one declaration, this is a matter of what it selects and of the time.

* `mem_visibleRoutes_iff`: the routes that show;
* `mem_visibleRoutes_of_declarations`, `mem_visibleRoutes_of_declared`: those of one declaration;
* `mem_labeledNetworks_iff`, `mem_userNetworks_of_mem`: the networks that a label selects, if the
  cluster minds it and if it does not.
-/

namespace RouteWatch.Simulation.Cluster

variable {c : Cluster} {w : World} {now : Millis} {network : NetworkName} {r : AdvertisedRoute}

theorem isDisrupted_eq_false_iff :
    c.isDisrupted w now = false ↔
      ∀ since, w.outage = some since →
        ∃ delay, c.behavior.recoveryDelay = some delay ∧ since + delay ≤ now := by
  rw [isDisrupted]
  cases w.outage with
  | none => simp
  | some since =>
    cases c.behavior.recoveryDelay with
    | none => simp
    | some delay => simp

theorem isDisrupted_of_outage (h : w.outage = none) : c.isDisrupted w now = false := by
  rw [isDisrupted_eq_false_iff, h]
  exact nofun

theorem mem_advertisedNetworks_iff :
    network ∈ c.advertisedNetworks w now ↔
      ∃ d ∈ c.active w now, .podNetwork ∈ d.ra.advertisements ∧
        network ∈ c.selected w d.ra.selector := by
  rw [advertisedNetworks, Table.mem_keys_ofList]
  simp [and_assoc]

/-- A route shows as one of a selected network or as the one to the egress address. -/
theorem mem_visibleRoutes_iff :
    r ∈ c.visibleRoutes w now ↔
      c.isDisrupted w now = false ∧
        ((∃ d ∈ c.active w now, .podNetwork ∈ d.ra.advertisements ∧
            ∃ network ∈ c.selected w d.ra.selector, r ∈ c.topology.advertisedRoutes network) ∨
          (∃ d ∈ c.active w now, .egressIp ∈ d.ra.advertisements) ∧
            ∃ e, w.egress = some e ∧ c.egressRoute now e = some r) := by
  have hegress : r ∈ (w.egress.bind (c.egressRoute now)).toList ↔
      ∃ e, w.egress = some e ∧ c.egressRoute now e = some r := by
    rw [Option.mem_toList, Option.bind_eq_some_iff]
  have hany : (c.active w now).any (·.ra.advertisements.contains .egressIp) = true ↔
      ∃ d ∈ c.active w now, .egressIp ∈ d.ra.advertisements := by
    simp
  rw [visibleRoutes]
  cases hdisrupted : c.isDisrupted w now with
  | true => simp
  | false =>
    rw [if_neg Bool.false_ne_true, and_iff_right rfl, List.mem_append, List.mem_flatMap, ← hegress,
      ← hany]
    simp only [mem_advertisedNetworks_iff]
    split
    next h => grind
    next h => grind

/-! ## One declaration -/

variable {ra : RouteAdvertisement} {declared : Millis} {deleted : Option Millis}

/-- The declaration shows. -/
def Active (c : Cluster) (now declared : Millis) (deleted : Option Millis) : Prop :=
  declared + c.behavior.routeDelay ≤ now ∧
    ∀ at_, deleted = some at_ → c.behavior.sticky = true ∨ now < at_ + c.behavior.routeDelay

theorem isActive_iff : c.isActive now ⟨ra, declared, deleted⟩ = true ↔ c.Active now declared deleted := by
  cases deleted with
  | none => simp [isActive, Active]
  | some at_ => simp [isActive, Active]

/-- A declaration that was not deleted shows once the delay has passed. -/
theorem active_none_iff : c.Active now declared none ↔ declared + c.behavior.routeDelay ≤ now := by
  simp [Active]

theorem mem_visibleRoutes_of_declarations (hw : w.declarations = [⟨ra, declared, deleted⟩]) :
    r ∈ c.visibleRoutes w now ↔
      (c.isDisrupted w now = false ∧ c.Active now declared deleted) ∧
        ((.podNetwork ∈ ra.advertisements ∧
            ∃ network ∈ c.selected w ra.selector, r ∈ c.topology.advertisedRoutes network) ∨
          .egressIp ∈ ra.advertisements ∧ ∃ e, w.egress = some e ∧ c.egressRoute now e = some r) := by
  have hactive : ∀ d, d ∈ c.active w now ↔
      d = ⟨ra, declared, deleted⟩ ∧ c.Active now declared deleted := by
    intro d
    rw [active, hw, List.mem_filter, List.mem_singleton]
    constructor
    · rintro ⟨rfl, h⟩
      exact ⟨rfl, isActive_iff.1 h⟩
    · rintro ⟨rfl, h⟩
      exact ⟨rfl, isActive_iff.2 h⟩
  rw [mem_visibleRoutes_iff]
  simp only [hactive]
  grind

/-- Where nothing was restarted and the declaration is not deleted, only the time counts. -/
theorem mem_visibleRoutes_of_declared (hw : w.declarations = [⟨ra, declared, none⟩])
    (houtage : w.outage = none) :
    r ∈ c.visibleRoutes w now ↔
      declared + c.behavior.routeDelay ≤ now ∧
        ((.podNetwork ∈ ra.advertisements ∧
            ∃ network ∈ c.selected w ra.selector, r ∈ c.topology.advertisedRoutes network) ∨
          .egressIp ∈ ra.advertisements ∧ ∃ e, w.egress = some e ∧ c.egressRoute now e = some r) := by
  rw [mem_visibleRoutes_of_declarations hw, and_iff_right (isDisrupted_of_outage houtage),
    active_none_iff]

/-! ## What a label selects -/

theorem mem_labeledNetworks_iff {key value : String} :
    network ∈ labeledNetworks w key value ↔
      ∃ name, network = .ofClusterWide name ∧ w.label (.network name) key = some value := by
  simp only [labeledNetworks, List.mem_map, List.mem_filter, Bool.and_eq_true, beq_iff_eq]
  constructor
  · rintro ⟨⟨⟨kind, name⟩, labels⟩, ⟨hentry, rfl, hlabel⟩, rfl⟩
    refine ⟨name, rfl, ?_⟩
    have hlabels : w.labels.get? (.network name) = some labels := (Table.mem_entries_iff _).1 hentry
    rw [World.label, World.labelsOf, hlabels]
    exact hlabel
  · rintro ⟨name, rfl, hlabel⟩
    rw [World.label, World.labelsOf] at hlabel
    cases hlabels : w.labels.get? (.network name) with
    | none =>
      rw [hlabels] at hlabel
      cases hlabel
    | some labels =>
      rw [hlabels] at hlabel
      exact ⟨⟨.network name, labels⟩, ⟨(Table.mem_entries_iff _).2 hlabels, rfl, hlabel⟩, rfl⟩

theorem mem_userNetworks_of_mem (hr : r ∈ c.topology.advertisedRoutes network)
    (hnetwork : network ≠ .default) : network ∈ c.userNetworks := by
  obtain ⟨node, hnode, -, -, hsubnet, -⟩ := Topology.mem_advertisedRoutes_iff.1 hr
  refine List.mem_filter.2 ⟨List.mem_flatMap.2 ⟨node, hnode, ?_⟩, by simpa using hnetwork⟩
  exact Node.mem_networks_iff.2 ⟨_, _, hsubnet⟩

end RouteWatch.Simulation.Cluster
