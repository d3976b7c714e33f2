import RouteWatch.Proofs.Mesh
import RouteWatch.Proofs.Plan.Recipe

/-!
# Plans and their opposites

The opposite of a plan takes the same samples and expects the opposite of each of them. What is put
into a plan is put into its opposite inverted, so that an opposite can be built as the plan was: the
plan of a withdrawn network is the opposite of that of the advertised one. On any samples, a plan and
its opposite share out all that is expected between their mismatches.

* `negate_extend`, `probes_negate_routes`: opposites of plans that were put together;
* `length_mismatches_add`: all expectations are reported by one or the other;
* `polarity_duality`: plans that recipes make, and those of a network.
-/

namespace RouteWatch

@[simp] theorem Probe.negate_negate (p : Probe) : p.negate.negate = p := by
  simp [negate, Function.comp_def]

variable {plan : Plan} {target : Target} {query : Query} {e : Expectation} {description : String}

namespace Plan

/-! ## Building the opposite -/

theorem probes_negate (plan : Plan) (description : String) :
    (plan.negate description).probes = plan.probes.map Probe.negate := rfl

@[simp] theorem takes_negate (p : Probe) :
    p.negate.takes target query = p.takes target query := rfl

theorem negate_add (e : Expectation) (p : Probe) : (p.add e).negate = p.negate.add e.negate := by
  have hmem : p.negate.expectations.contains e.negate = p.expectations.contains e := by
    rw [Bool.eq_iff_iff]
    simp only [Probe.negate, List.contains_iff_mem, List.mem_map]
    constructor
    · rintro ⟨e', he', hsame⟩
      rwa [← Expectation.negate_inj.1 hsame]
    · intro he
      exact ⟨e, he, rfl⟩
  rw [Probe.add, Probe.add, hmem]
  split
  · rfl
  · simp [Probe.negate]

theorem map_negate_pushInto (probes : List Probe) :
    (pushInto target query e probes).map Probe.negate =
      pushInto target query e.negate (probes.map Probe.negate) := by
  induction probes with
  | nil => rfl
  | cons p probes ih =>
    rw [List.map_cons, pushInto, pushInto, takes_negate]
    split
    · rw [List.map_cons, negate_add]
    · rw [List.map_cons, ih]

theorem negate_push (plan : Plan) (target : Target) (query : Query) (e : Expectation) :
    (plan.push target query e).negate description =
      (plan.negate description).push target query e.negate := by
  rw [negate, push, map_negate_pushInto]
  rfl

/-- The opposite of what is folded into a plan is folded into its opposite. -/
theorem negate_foldl {α : Type} {f g : Plan → α → Plan}
    (h : ∀ plan a, (f plan a).negate description = g (plan.negate description) a) (l : List α)
    (plan : Plan) : (l.foldl f plan).negate description = l.foldl g (plan.negate description) :=
  (List.foldl_hom (negate · description) fun plan a => (h plan a).symm).symm

theorem negate_pushAll (plan : Plan) (p : Probe) :
    (plan.pushAll p).negate description = (plan.negate description).pushAll p.negate := by
  rw [pushAll, pushAll, Probe.negate, List.foldl_map]
  exact negate_foldl (fun plan e => negate_push plan p.target p.query e) _ plan

theorem negate_extend (plan other : Plan) (description description' : String) :
    (plan.extend other).negate description =
      (plan.negate description).extend (other.negate description') := by
  rw [extend, extend, probes_negate, List.foldl_map]
  exact negate_foldl negate_pushAll _ plan

theorem negate_pushRoute (plan : Plan) (target : Target) (subnet : Subnet) (nextHop : Ip)
    (present : Bool) :
    (plan.pushRoute target subnet nextHop present).negate description =
      (plan.negate description).pushRoute target subnet nextHop !present :=
  negate_foldl (fun plan view => negate_push plan target (view.query subnet.family)
    ⟨.route view subnet nextHop, present⟩) _ plan

theorem negate_pushRoutes (plan : Plan) (target : Target) (routes : List (Subnet × Ip))
    (present : Bool) :
    (plan.pushRoutes target routes present).negate description =
      (plan.negate description).pushRoutes target routes !present :=
  negate_foldl (fun plan r => negate_pushRoute plan target r.1 r.2 present) _ plan

end Plan

namespace Mesh

open Plan

variable (topology : Topology) (network : NetworkName) (present : Bool)

theorem negate_externalRoutes :
    (externalRoutes topology network present).negate
        s!"routes of network {network} on the external router" =
      externalRoutes topology network !present :=
  negate_pushRoutes _ _ _ _

theorem negate_nodeRoutes :
    (nodeRoutes topology network present).negate s!"routes of network {network} on the nodes" =
      nodeRoutes topology network !present :=
  negate_foldl (fun plan node => negate_pushRoutes plan (.node node.name)
    (hops ((topology.advertisedRoutes network).filter (·.node != node.name))) present) _ _

/-- The plan of a withdrawn network is the opposite of that of the advertised one. -/
theorem probes_negate_routes :
    ((routes topology network true).negate description).probes =
      (routes topology network false).probes := by
  have hopposite : ∀ d, (routes topology network true).negate d =
      [externalRoutes topology network false, nodeRoutes topology network false].foldl extend
        { description := d } := by
    intro d
    rw [routes, List.foldl_cons, List.foldl_cons, List.foldl_nil, negate_extend, negate_extend,
      negate_externalRoutes, negate_nodeRoutes]
    rfl
  let what := "withdrawn"
  have hprobes := congrArg probes (hopposite s!"network {network} {what}")
  exact hprobes

end Mesh

/-! ## What is reported -/

namespace Mismatch

/-- The opposite expectation on the same sample. -/
def negate (m : Mismatch) : Mismatch :=
  { m with expectation := m.expectation.negate }

/-- The sample is as expected. -/
def holds (m : Mismatch) : Bool :=
  m.expectation.holds m.sample

theorem holds_negate (m : Mismatch) : m.negate.holds = !m.holds :=
  Expectation.holds_negate _ _

theorem negate_injective : Function.Injective negate := by
  intro m m' h
  cases m
  cases m'
  simpa only [negate, mk.injEq, Expectation.negate_inj] using h

end Mismatch

/-- What the probe expects, as it is reported when it does not hold. -/
def Probe.reports (p : Probe) (sample : Sample) : List Mismatch :=
  p.expectations.map fun e => ⟨p.target, sample.command, e, sample.text⟩

theorem Probe.mismatches_eq (p : Probe) (sample : Sample) :
    p.mismatches sample = (p.reports sample).filter (!·.holds) := by
  rw [mismatches, reports, List.filter_map]
  rfl

namespace Plan

/-- What the plan expects, as it is reported when it does not hold. -/
def reports (plan : Plan) (samples : List Sample) : List Mismatch :=
  (List.zipWith Probe.reports plan.probes samples).flatten

theorem mismatches_eq (plan : Plan) (samples : List Sample) :
    plan.mismatches samples = (plan.reports samples).filter (!·.holds) := by
  have hprobe : Probe.mismatches = fun p sample => (p.reports sample).filter (!·.holds) :=
    funext₂ Probe.mismatches_eq
  rw [mismatches, hprobe, reports, List.filter_flatten, List.map_zipWith]

theorem reports_negate (plan : Plan) (samples : List Sample) :
    (plan.negate description).reports samples = (plan.reports samples).map Mismatch.negate := by
  have hprobe : ∀ (p : Probe) sample, p.negate.reports sample =
      (p.reports sample).map Mismatch.negate := by
    intro p sample
    rw [Probe.reports, Probe.negate, List.map_map, Probe.reports, List.map_map]
    rfl
  rw [reports, probes_negate, List.zipWith_map_left, reports, List.map_flatten, List.map_zipWith]
  simp only [hprobe]

/-- The opposite reports what holds. -/
theorem mismatches_negate (plan : Plan) (samples : List Sample) :
    (plan.negate description).mismatches samples =
      ((plan.reports samples).filter (·.holds)).map Mismatch.negate := by
  rw [mismatches_eq, reports_negate, List.filter_map]
  simp only [Function.comp_def, Mismatch.holds_negate, Bool.not_not]

theorem length_reports {samples : List Sample} (h : samples.length = plan.probes.length) :
    (plan.reports samples).length = plan.size := by
  obtain ⟨description, probes⟩ := plan
  simp only [reports, size] at h ⊢
  induction probes generalizing samples with
  | nil => rfl
  | cons p probes ih =>
    obtain ⟨sample, samples, rfl⟩ := List.exists_cons_of_length_eq_add_one h
    rw [List.zipWith_cons_cons, List.flatten_cons, List.length_append,
      ih (Nat.succ.inj h), List.flatMap_cons, List.length_append, Probe.reports, List.length_map]

/-- All that is expected is reported by the plan or by its opposite. -/
theorem length_mismatches_add {samples : List Sample} (h : samples.length = plan.probes.length) :
    (plan.mismatches samples).length + ((plan.negate description).mismatches samples).length =
      plan.size := by
  rw [mismatches_eq, mismatches_negate, List.length_map, ← length_reports h, Nat.add_comm]
  exact (List.length_eq_length_filter_add _).symm

theorem size_ne_zero (hfilled : plan.Filled) (h : plan.probes ≠ []) : plan.size ≠ 0 := by
  obtain ⟨p, hp⟩ := List.exists_mem_of_ne_nil _ h
  obtain ⟨e, he⟩ := List.exists_mem_of_ne_nil _ (hfilled p hp)
  exact Nat.ne_of_gt (List.length_pos_of_mem (List.mem_flatMap.2 ⟨p, hp, he⟩))

theorem mem_reports {samples : List Sample} {p : Probe} {sample : Sample}
    (hp : (p, sample) ∈ plan.probes.zip samples) (he : e ∈ p.expectations) :
    ⟨p.target, sample.command, e, sample.text⟩ ∈ plan.reports samples := by
  rw [reports, ← List.map_uncurry_zip_eq_zipWith]
  exact List.mem_flatten.2
    ⟨_, List.mem_map_of_mem hp, List.mem_map.2 ⟨e, he, rfl⟩⟩

theorem mem_mismatches_iff {samples : List Sample} {m : Mismatch} :
    m ∈ plan.mismatches samples ↔ m ∈ plan.reports samples ∧ m.holds = false := by
  rw [mismatches_eq, List.mem_filter, Bool.not_eq_true']

theorem negate_mem_mismatches_iff (plan : Plan) (description : String) (samples : List Sample)
    (m : Mismatch) : m.negate ∈ (plan.negate description).mismatches samples ↔
      m ∈ plan.reports samples ∧ m.holds = true := by
  rw [mismatches_negate, List.mem_map_of_injective Mismatch.negate_injective, List.mem_filter]

/-- Whatever the samples are, each expectation is reported by the plan or by its opposite, and not by
both. The opposite of the opposite is the plan, the opposite of plans put together is that of one put
into that of the other, and the plan of a withdrawn network is the opposite of the plan of the
advertised one. -/
theorem polarity_duality (r s : Recipe) :
    (∀ samples description, samples.length = r.plan.probes.length →
      (∀ p sample, (p, sample) ∈ r.plan.probes.zip samples → ∀ e ∈ p.expectations,
        (⟨p.target, sample.command, e, sample.text⟩ ∈ r.plan.mismatches samples ↔
          ⟨p.target, sample.command, e.negate, sample.text⟩ ∉
            (r.plan.negate description).mismatches samples)) ∧
      (r.plan.mismatches samples).length +
        ((r.plan.negate description).mismatches samples).length = r.plan.size ∧
      (r.plan.probes ≠ [] → ¬ (r.plan.mismatches samples = [] ∧
        (r.plan.negate description).mismatches samples = []))) ∧
    (∀ description description',
      ((r.plan.negate description).negate description').probes = r.plan.probes) ∧
    (∀ description description' description'',
      ((r.plan.extend s.plan).negate description).probes =
        ((r.plan.negate description').extend (s.plan.negate description'')).probes) ∧
    ∀ topology network description,
      ((Mesh.routes topology network true).negate description).probes =
        (Mesh.routes topology network false).probes := by
  refine ⟨fun samples description hlength => ⟨?_, length_mismatches_add hlength, ?_⟩, ?_, ?_, ?_⟩
  · intro p sample hp e he
    have hreported := mem_reports hp he
    have hopposite := negate_mem_mismatches_iff r.plan description samples
      ⟨p.target, sample.command, e, sample.text⟩
    rw [Mismatch.negate] at hopposite
    rw [mem_mismatches_iff, hopposite]
    simp [hreported]
  · rintro hne ⟨hnone, hnone'⟩
    have hsum : (r.plan.mismatches samples).length +
        ((r.plan.negate description).mismatches samples).length = r.plan.size :=
      length_mismatches_add hlength
    rw [hnone, hnone'] at hsum
    exact size_ne_zero (filled_of_gather r.probes_plan) hne hsum.symm
  · intro description description'
    simp [probes_negate, Function.comp_def]
  · intro description description' description''
    have hprobes := congrArg probes (negate_extend r.plan s.plan description' description'')
    exact hprobes
  · intro topology network description
    exact Mesh.probes_negate_routes topology network

/-- One session has to be there and another one must not be: a page that shows the first one is as the
plan expects, and the opposite plan reports both. -/
theorem polarity_duality_of_one_session :
    let peer := Ip.v4 ⟨192, 0, 2, 11⟩
    let r := ((Recipe.empty "sessions").push .external (.neighbor peer)
      ⟨.neighbor peer, true⟩).push .external (.neighbor peer) ⟨.neighbor (.v4 ⟨192, 0, 2, 12⟩), false⟩
    let samples : List Sample := [⟨.external, "show bgp neighbor 192.0.2.11",
      "BGP neighbor is 192.0.2.11,\n  BGP state = Established\n"⟩]
    samples.length = r.plan.probes.length ∧ r.plan.mismatches samples = [] ∧
      ((r.plan.negate "no sessions").mismatches samples).length = 2 := by
  intro peer r samples
  have hlength : samples.length = r.plan.probes.length := rfl
  have hnone : r.plan.mismatches samples = [] := by decide +kernel
  have hsum := ((polarity_duality r r).1 samples "no sessions" hlength).2.1
  rw [hnone, List.length_nil, Nat.zero_add] at hsum
  exact ⟨hlength, hnone, hsum⟩

end Plan

end RouteWatch
