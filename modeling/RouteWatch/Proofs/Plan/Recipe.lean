import Mathlib.Algebra.BigOperators.Group.Finset.Basic
import RouteWatch.Distinct
import RouteWatch.Proofs.Plan.Triples

/-!
# How plans are made

A plan is made step by step: it starts empty, an expectation is pushed, another plan is put into it, or
all of it is inverted. A recipe is such a sequence of steps, and the plan it makes is told by what was
pushed: each sample stands where it was first asked for, and each expectation on it where it was first
pushed. How the pushes were grouped into plans on the way does not matter.

* `gather_triples`: a plan is made again from its own content;
* `probes_plan`: the probes of the plan that a recipe makes;
* `plan_gathers`: what the plan has, how much that is, and the algebra of putting plans together.
-/

namespace RouteWatch

/-- The sample that the probe takes. -/
def Probe.sample (p : Probe) : Target × Query :=
  (p.target, p.query)

namespace Plan

/-! ## Gathering what is pushed -/

/-- The sample that the triple is about. -/
def sampleOf (i : Target × Query × Expectation) : Target × Query :=
  (i.1, i.2.1)

/-- The samples that are asked for, in the order in which they first are. -/
def samplesOf (items : List (Target × Query × Expectation)) : List (Target × Query) :=
  distinct (items.map sampleOf)

/-- What is expected of the sample, in the order in which it first is. -/
def expectedOf (items : List (Target × Query × Expectation)) (s : Target × Query) :
    List Expectation :=
  distinct ((items.filter (sampleOf · = s)).map (·.2.2))

/-- A probe for each sample, with all that is expected of it. -/
def gather (items : List (Target × Query × Expectation)) : List Probe :=
  (samplesOf items).map fun s => ⟨s.1, s.2, expectedOf items s⟩

variable {items more more' : List (Target × Query × Expectation)} {s : Target × Query}

theorem map_sample_gather : (gather items).map Probe.sample = samplesOf items := by
  rw [gather, List.map_map]
  exact List.map_id _

theorem mem_samplesOf_iff : s ∈ samplesOf items ↔ ∃ i ∈ items, sampleOf i = s := by
  simp [samplesOf]

theorem mem_expectedOf_iff {e : Expectation} :
    e ∈ expectedOf items s ↔ (s.1, s.2, e) ∈ items := by
  simp only [expectedOf, mem_distinct, List.mem_map, List.mem_filter]
  constructor
  · rintro ⟨⟨target, query, e⟩, ⟨hi, hs⟩, rfl⟩
    obtain rfl : (target, query) = s := of_decide_eq_true hs
    exact hi
  · intro h
    exact ⟨_, ⟨h, decide_eq_true rfl⟩, rfl⟩

theorem expectedOf_eq_nil (h : s ∉ samplesOf items) : expectedOf items s = [] := by
  rw [List.eq_nil_iff_forall_not_mem]
  intro e he
  exact h (mem_samplesOf_iff.2 ⟨_, mem_expectedOf_iff.1 he, rfl⟩)

theorem samplesOf_append :
    samplesOf (items ++ more) = samplesOf items ++ unseen (samplesOf items) (samplesOf more) := by
  simp only [samplesOf, List.map_append, distinct_append, unseen_distinct]

theorem expectedOf_append :
    expectedOf (items ++ more) s =
      expectedOf items s ++ unseen (expectedOf items s) (expectedOf more s) := by
  simp only [expectedOf, List.filter_append, List.map_append, distinct_append, unseen_distinct]

/-- What comes later may be regrouped. -/
theorem gather_append_congr (h : gather more = gather more') :
    gather (items ++ more) = gather (items ++ more') := by
  have hsamples : samplesOf more = samplesOf more' := by
    rw [← map_sample_gather, h, map_sample_gather]
  have hexpected : ∀ s, expectedOf more s = expectedOf more' s := by
    intro s
    by_cases hs : s ∈ samplesOf more
    · rw [gather, gather, ← hsamples] at h
      have hprobe := List.map_inj_left.1 h s hs
      exact congrArg Probe.expectations hprobe
    · rw [expectedOf_eq_nil hs, expectedOf_eq_nil (hsamples ▸ hs)]
  rw [gather, gather, samplesOf_append, samplesOf_append, hsamples]
  simp only [expectedOf_append, hexpected]

theorem gather_append_self (items : List (Target × Query × Expectation)) :
    gather (items ++ items) = gather items := by
  simp only [gather, samplesOf_append, expectedOf_append, unseen_self, List.append_nil]

/-! ## Pushing one more -/

variable {target : Target} {query : Query} {e : Expectation}

theorem takes_iff_sample {p : Probe} :
    p.takes target query = true ↔ p.sample = (target, query) := by
  rw [takes_iff, Probe.sample, Prod.mk.injEq]

/-- The probes of different samples, with one expectation pushed to one of them or to a new one. -/
theorem pushInto_map {f g : Target × Query → List Expectation}
    (hother : ∀ s, s ≠ (target, query) → g s = f s)
    (hthere : g (target, query) =
      if e ∈ f (target, query) then f (target, query) else f (target, query) ++ [e])
    {samples : List (Target × Query)} (hnodup : samples.Nodup) :
    pushInto target query e (samples.map fun s => ⟨s.1, s.2, f s⟩) =
      (samples.map fun s => ⟨s.1, s.2, g s⟩) ++
        if (target, query) ∈ samples then [] else [⟨target, query, [e]⟩] := by
  induction samples with
  | nil => rfl
  | cons s samples ih =>
    obtain ⟨hs, hsamples⟩ := List.nodup_cons.1 hnodup
    rw [List.map_cons, pushInto]
    split
    next htakes =>
      obtain rfl : s = (target, query) := takes_iff_sample.1 htakes
      have hrest : (samples.map fun s => (⟨s.1, s.2, f s⟩ : Probe)) =
          samples.map fun s => ⟨s.1, s.2, g s⟩ := by
        apply List.map_congr_left
        intro s' hs'
        rw [hother s' (ne_of_mem_of_not_mem hs' hs)]
      have hprobe : Probe.add e ⟨target, query, f (target, query)⟩ =
          ⟨target, query, g (target, query)⟩ := by
        rw [Probe.add, hthere]
        split <;> simp_all
      rw [hprobe, hrest]
      simp
    next htakes =>
      have hne : s ≠ (target, query) := fun h => htakes (takes_iff_sample.2 h)
      rw [ih hsamples, List.map_cons, hother s hne]
      simp [Ne.symm hne]

theorem nodup_samplesOf (items : List (Target × Query × Expectation)) : (samplesOf items).Nodup :=
  nodup_distinct _

theorem expectedOf_singleton (i : Target × Query × Expectation) :
    expectedOf [i] s = if sampleOf i = s then [i.2.2] else [] := by
  by_cases h : sampleOf i = s <;> simp [expectedOf, h, distinct]

theorem pushInto_gather (items : List (Target × Query × Expectation)) :
    pushInto target query e (gather items) = gather (items ++ [(target, query, e)]) := by
  have hsample : samplesOf [(target, query, e)] = [(target, query)] := rfl
  have hother : ∀ s, s ≠ (target, query) →
      expectedOf (items ++ [(target, query, e)]) s = expectedOf items s := by
    intro s hs
    have hne : sampleOf (target, query, e) ≠ s := Ne.symm hs
    rw [expectedOf_append, expectedOf_singleton, if_neg hne, unseen_nil_right, List.append_nil]
  have hthere : expectedOf (items ++ [(target, query, e)]) (target, query) =
      expectedOf items (target, query) ++ unseen (expectedOf items (target, query)) [e] := by
    rw [expectedOf_append, expectedOf_singleton, sampleOf, if_pos rfl]
  rw [gather, pushInto_map hother ?_ (nodup_samplesOf items), gather, samplesOf_append, hsample,
    List.map_append]
  · congr 1
    by_cases hmem : (target, query) ∈ samplesOf items
    · rw [if_pos hmem, unseen_of_subset (by simpa using hmem), List.map_nil]
    · rw [if_neg hmem, unseen_of_disjoint (by simpa using hmem), List.map_singleton, hthere,
        expectedOf_eq_nil hmem]
      rfl
  · rw [hthere]
    split
    next hmem => rw [unseen_of_subset (by simpa using hmem), List.append_nil]
    next hmem => rw [unseen_of_disjoint (by simpa using hmem)]

/-- What is folded into a plan is gathered after what the plan gathers. -/
theorem probes_foldl {α : Type} {f : Plan → α → Plan}
    {content : α → List (Target × Query × Expectation)}
    (hf : ∀ plan items a, plan.probes = gather items →
      (f plan a).probes = gather (items ++ content a))
    {plan : Plan} (h : plan.probes = gather items) (l : List α) :
    (l.foldl f plan).probes = gather (items ++ l.flatMap content) := by
  induction l generalizing items plan with
  | nil => rw [List.flatMap_nil, List.append_nil, List.foldl_nil, h]
  | cons a l ih =>
    rw [List.foldl_cons, ih (hf plan items a h), List.flatMap_cons, List.append_assoc]

theorem probes_push {plan : Plan} (h : plan.probes = gather items) (target : Target) (query : Query)
    (e : Expectation) :
    (plan.push target query e).probes = gather (items ++ [(target, query, e)]) := by
  rw [push, h, pushInto_gather]

theorem probes_foldl_push {plan : Plan} (h : plan.probes = gather items)
    (more : List (Target × Query × Expectation)) :
    (more.foldl (fun plan i => plan.push i.1 i.2.1 i.2.2) plan).probes = gather (items ++ more) := by
  rw [probes_foldl (fun _ _ i h => probes_push h i.1 i.2.1 i.2.2) h more, List.flatMap_singleton']

/-- Putting a plan into another one pushes its content in order. -/
theorem extend_eq_foldl_triples (plan other : Plan) :
    plan.extend other =
      other.triples.foldl (fun plan i => plan.push i.1 i.2.1 i.2.2) plan := by
  rw [extend, triples, List.foldl_flatMap]
  simp only [List.foldl_map]
  rfl

/-! ## A plan from its own content -/

/-- The content of the probe. -/
def contentOf (p : Probe) : List (Target × Query × Expectation) :=
  p.expectations.map (p.target, p.query, ·)

theorem samplesOf_contentOf {p : Probe} (h : p.expectations ≠ []) :
    samplesOf (contentOf p) = [p.sample] := by
  apply distinct_of_forall_eq
  · simpa [contentOf] using h
  · intro s hs
    simp only [contentOf, List.map_map, List.mem_map] at hs
    obtain ⟨e, -, rfl⟩ := hs
    rfl

theorem expectedOf_contentOf_of_ne {p : Probe} (h : p.sample ≠ s) :
    expectedOf (contentOf p) s = [] := by
  rw [List.eq_nil_iff_forall_not_mem]
  intro e he
  obtain ⟨e', -, hitem⟩ := List.mem_map.1 (mem_expectedOf_iff.1 he)
  simp only [Prod.mk.injEq] at hitem
  exact h (Prod.ext hitem.1 hitem.2.1)

theorem expectedOf_contentOf {p : Probe} (h : p.expectations.Nodup) :
    expectedOf (contentOf p) p.sample = p.expectations := by
  have hall : (contentOf p).filter (sampleOf · = p.sample) = contentOf p := by
    rw [List.filter_eq_self]
    intro i hi
    obtain ⟨e, -, rfl⟩ := List.mem_map.1 hi
    exact decide_eq_true rfl
  have hmap : (contentOf p).map (·.2.2) = p.expectations := by
    rw [contentOf, List.map_map]
    exact List.map_id _
  rw [expectedOf, hall, hmap, distinct_of_nodup h]

/-- Probes of different samples, each with expectations and none twice, are gathered from what they
expect. -/
theorem gather_flatMap_contentOf {probes : List Probe}
    (hapart : probes.Pairwise fun p p' => ¬ (p.target = p'.target ∧ p.query = p'.query))
    (hfilled : ∀ p ∈ probes, p.expectations ≠ []) (honce : ∀ p ∈ probes, p.expectations.Nodup) :
    gather (probes.flatMap contentOf) = probes := by
  induction probes with
  | nil => rfl
  | cons p probes ih =>
    obtain ⟨hp, hapart⟩ := List.pairwise_cons.1 hapart
    obtain ⟨hpfilled, hfilled⟩ := List.forall_mem_cons.1 hfilled
    obtain ⟨hponce, honce⟩ := List.forall_mem_cons.1 honce
    have hrest := ih hapart hfilled honce
    have hsamples : samplesOf (probes.flatMap contentOf) = probes.map Probe.sample := by
      rw [← map_sample_gather, hrest]
    -- the first probe has a sample of its own, so that nothing is gathered into another one
    have hnew : ∀ s ∈ probes.map Probe.sample, p.sample ≠ s := by
      intro s hs
      obtain ⟨p', hp', rfl⟩ := List.mem_map.1 hs
      intro hsame
      exact hp p' hp' (Prod.mk.inj hsame)
    have hhead : expectedOf (contentOf p ++ probes.flatMap contentOf) p.sample =
        p.expectations := by
      have hnone : expectedOf (probes.flatMap contentOf) p.sample = [] := by
        apply expectedOf_eq_nil
        rw [hsamples]
        exact fun hmem => hnew _ hmem rfl
      rw [expectedOf_append, expectedOf_contentOf hponce, hnone, unseen_nil_right, List.append_nil]
    have htail : ∀ s ∈ probes.map Probe.sample,
        expectedOf (contentOf p ++ probes.flatMap contentOf) s =
          expectedOf (probes.flatMap contentOf) s := by
      intro s hs
      rw [expectedOf_append, expectedOf_contentOf_of_ne (hnew s hs), List.nil_append,
        unseen_nil_left]
    rw [List.flatMap_cons, gather, samplesOf_append, samplesOf_contentOf hpfilled, hsamples,
      unseen_of_disjoint fun s hs hmem => hnew s hs (List.mem_singleton.1 hmem).symm,
      List.singleton_append, List.map_cons, hhead]
    congr 1
    rw [gather, hsamples] at hrest
    exact (List.map_congr_left fun s hs => by rw [htail s hs]).trans hrest

theorem gather_triples {plan : Plan} (hapart : plan.Apart) (hfilled : plan.Filled)
    (honce : plan.Once) : gather plan.triples = plan.probes :=
  gather_flatMap_contentOf hapart hfilled honce

theorem apart_of_gather {plan : Plan} (h : plan.probes = gather items) : plan.Apart := by
  rw [Apart, h, gather, List.pairwise_map]
  exact (nodup_samplesOf items).imp fun hne hsame => hne (Prod.ext hsame.1 hsame.2)

theorem filled_of_gather {plan : Plan} (h : plan.probes = gather items) : plan.Filled := by
  intro p hp
  rw [h, gather] at hp
  obtain ⟨s, hs, rfl⟩ := List.mem_map.1 hp
  obtain ⟨i, hi, rfl⟩ := mem_samplesOf_iff.1 hs
  exact List.ne_nil_of_mem (mem_expectedOf_iff.2 hi)

theorem once_of_gather {plan : Plan} (h : plan.probes = gather items) : plan.Once := by
  intro p hp
  rw [h, gather] at hp
  obtain ⟨s, -, rfl⟩ := List.mem_map.1 hp
  exact nodup_distinct _

/-- A plan that is put into another one is gathered after it. -/
theorem probes_extend {plan other : Plan} (h : plan.probes = gather items)
    (hother : other.probes = gather more) : (plan.extend other).probes = gather (items ++ more) := by
  have hcontent : gather other.triples = gather more := by
    rw [gather_triples (apart_of_gather hother) (filled_of_gather hother) (once_of_gather hother),
      hother]
  rw [extend_eq_foldl_triples, probes_foldl_push h, gather_append_congr hcontent]

/-! ## Inverting what was pushed -/

/-- The opposite expectation on the same sample. -/
def invert (i : Target × Query × Expectation) : Target × Query × Expectation :=
  (i.1, i.2.1, i.2.2.negate)

theorem expectedOf_map_invert (items : List (Target × Query × Expectation)) (s : Target × Query) :
    expectedOf (items.map invert) s = (expectedOf items s).map Expectation.negate := by
  rw [expectedOf, List.filter_map, List.map_map, expectedOf,
    ← distinct_map fun _ _ => Expectation.negate_inj.1, List.map_map]
  rfl

theorem gather_map_invert (items : List (Target × Query × Expectation)) :
    gather (items.map invert) = (gather items).map Probe.negate := by
  have hsamples : samplesOf (items.map invert) = samplesOf items := by
    rw [samplesOf, List.map_map]
    rfl
  rw [gather, hsamples, gather, List.map_map]
  simp only [expectedOf_map_invert]
  rfl

/-! ## Recipes -/

/-- The steps by which a plan is made. -/
inductive Recipe where
  | empty (description : String)
  | push (r : Recipe) (target : Target) (query : Query) (e : Expectation)
  /-- All that another plan expects is put into the plan. -/
  | extend (r other : Recipe)
  | negate (r : Recipe) (description : String)

namespace Recipe

/-- The plan that the steps make. -/
def plan : Recipe → Plan
  | empty description => { description }
  | push r target query e => r.plan.push target query e
  | extend r other => r.plan.extend other.plan
  | negate r description => r.plan.negate description

/-- What was pushed, step by step, inverted by every later negation. -/
def pushed : Recipe → List (Target × Query × Expectation)
  | empty _ => []
  | push r target query e => r.pushed ++ [(target, query, e)]
  | extend r other => r.pushed ++ other.pushed
  | negate r _ => r.pushed.map invert

theorem probes_plan (r : Recipe) : r.plan.probes = gather r.pushed := by
  induction r with
  | empty description => rfl
  | push r target query e ih => exact probes_push ih target query e
  | extend r other ih ihother => exact probes_extend ih ihother
  | negate r description ih => rw [plan, Plan.negate, ih, pushed, gather_map_invert]

theorem ext_plan (r r' : Recipe) (hdescription : r.plan.description = r'.plan.description)
    (hpushed : gather r.pushed = gather r'.pushed) : r.plan = r'.plan := by
  have hprobes : r.plan.probes = r'.plan.probes := by
    rw [probes_plan, hpushed, probes_plan]
  cases h : r.plan
  cases h' : r'.plan
  simp_all

end Recipe

/-! ## Counting -/

theorem length_triples (plan : Plan) : plan.triples.length = plan.size := by
  rw [triples, size, List.length_flatMap, List.length_flatMap]
  simp only [List.length_map]

/-- What is expected at a target is the content of the probes there. -/
theorem length_filter_triples (plan : Plan) (target : Target) :
    (plan.triples.filter (·.1 = target)).length = plan.sizeOn target := by
  obtain ⟨description, probes⟩ := plan
  simp only [triples, sizeOn]
  induction probes with
  | nil => rfl
  | cons p probes ih =>
    rw [List.flatMap_cons, List.filter_append, List.length_append, ih, List.filter_map]
    by_cases h : p.target = target <;> simp [h, Function.comp_def]

theorem card_triples {plan : Plan} (hapart : plan.Apart) (honce : plan.Once) :
    plan.triples.toFinset.card = plan.size := by
  rw [List.toFinset_card_of_nodup (nodup_triples hapart honce), length_triples]

theorem size_eq_sum_sizeOn {plan : Plan} (hapart : plan.Apart) (honce : plan.Once) :
    plan.size = ∑ target ∈ (plan.probes.map (·.target)).toFinset, plan.sizeOn target := by
  have htargets : ∀ i ∈ plan.triples.toFinset, i.1 ∈ (plan.probes.map (·.target)).toFinset := by
    intro i hi
    obtain ⟨p, hp, hitem⟩ := List.mem_flatMap.1 (List.mem_toFinset.1 hi)
    obtain ⟨e, -, rfl⟩ := List.mem_map.1 hitem
    exact List.mem_toFinset.2 (List.mem_map_of_mem hp)
  rw [← card_triples hapart honce, Finset.card_eq_sum_card_fiberwise htargets]
  refine Finset.sum_congr rfl fun target _ => ?_
  have hfilter : {i ∈ plan.triples.toFinset | i.1 = target} =
      (plan.triples.filter (·.1 = target)).toFinset := by
    ext i
    simp
  rw [hfilter, List.toFinset_card_of_nodup ((nodup_triples hapart honce).filter _),
    length_filter_triples]

/-! ## What recipes make -/

/-- The plan has what was pushed and nothing else, each sample where it was first asked for and each
expectation where it was first pushed. -/
structure Gathers (plan : Plan) (pushed : List (Target × Query × Expectation)) : Prop where
  apart : plan.Apart
  filled : plan.Filled
  once : plan.Once
  samples : plan.probes.map Probe.sample = distinct (pushed.map sampleOf)
  expectations : ∀ p ∈ plan.probes,
    p.expectations = distinct ((pushed.filter (sampleOf · = p.sample)).map (·.2.2))
  content : ∀ i, i ∈ plan.triples ↔ i ∈ pushed

theorem gathers_of_gather {plan : Plan} (h : plan.probes = gather items) : Gathers plan items where
  apart := apart_of_gather h
  filled := filled_of_gather h
  once := once_of_gather h
  samples := by
    rw [h, map_sample_gather]
    rfl
  expectations := by
    intro p hp
    rw [h, gather] at hp
    obtain ⟨s, -, rfl⟩ := List.mem_map.1 hp
    rfl
  content := by
    intro ⟨target, query, e⟩
    rw [mem_triples_iff, Expects, h, gather]
    simp only [List.mem_map]
    constructor
    · rintro ⟨p, ⟨s, -, rfl⟩, rfl, rfl, he⟩
      exact mem_expectedOf_iff.1 he
    · intro hi
      exact ⟨_, ⟨(target, query), mem_samplesOf_iff.2 ⟨_, hi, rfl⟩, rfl⟩, rfl, rfl,
        mem_expectedOf_iff.2 hi⟩

theorem description_extend (plan other : Plan) :
    (plan.extend other).description = plan.description :=
  extend_keeps (I := fun p => p.description = plan.description) (fun _ h _ _ _ => h) rfl other

/-- A plan that is made step by step has what was pushed, each thing once and in the order of the
first pushes, inverted by every later negation. So its size is the number of different things that
were pushed, and the sum of its sizes on its targets; put into an empty plan it is the same, put into
itself it adds nothing, and of three plans it does not matter which two are put together first. -/
theorem plan_gathers (r : Recipe) :
    Gathers r.plan r.pushed ∧
    r.plan.size = r.pushed.toFinset.card ∧
    r.plan.size = ∑ target ∈ (r.plan.probes.map (·.target)).toFinset, r.plan.sizeOn target ∧
    (∀ description, (extend { description } r.plan).probes = r.plan.probes) ∧
    r.plan.extend r.plan = r.plan ∧
    ∀ s t : Recipe,
      (r.plan.extend s.plan).extend t.plan = r.plan.extend (s.plan.extend t.plan) := by
  have hgathers := gathers_of_gather r.probes_plan
  refine ⟨hgathers, ?_, size_eq_sum_sizeOn hgathers.apart hgathers.once, fun description => ?_, ?_,
    fun s t => ?_⟩
  · rw [← card_triples hgathers.apart hgathers.once]
    congr 1
    ext i
    rw [List.mem_toFinset, List.mem_toFinset, hgathers.content]
  · rw [r.probes_plan]
    exact (Recipe.extend (.empty description) r).probes_plan
  · exact Recipe.ext_plan (.extend r r) r (description_extend _ _)
      (gather_append_self r.pushed)
  · refine Recipe.ext_plan (.extend (.extend r s) t) (.extend r (.extend s t)) ?_ ?_
    · simp only [Recipe.plan, description_extend]
    · rw [Recipe.pushed, Recipe.pushed, Recipe.pushed, Recipe.pushed, List.append_assoc]

end Plan

end RouteWatch
