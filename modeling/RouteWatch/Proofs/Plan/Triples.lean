import Mathlib.Data.List.Nodup
import Mathlib.Data.List.Pairwise
import RouteWatch.Proofs.Plan

/-!
# A plan as a list

What a plan expects can be listed: each target and query with one expectation. In a plan that is built
by pushing, the probes take different samples and none has an expectation twice. So nothing is listed
twice.

* `mem_triples_iff`: the list has what the plan expects;
* `nodup_triples`: it has nothing twice.
-/

namespace RouteWatch.Plan

variable {plan other : Plan} {target : Target} {query : Query} {e : Expectation}

/-- What the plan expects, in order. -/
def triples (plan : Plan) : List (Target × Query × Expectation) :=
  plan.probes.flatMap fun p => p.expectations.map (p.target, p.query, ·)

theorem mem_triples_iff : (target, query, e) ∈ plan.triples ↔ plan.Expects target query e := by
  simp only [triples, Expects, List.mem_flatMap, List.mem_map, Prod.mk.injEq]
  constructor
  · rintro ⟨p, hp, e', he, htarget, hquery, rfl⟩
    exact ⟨p, hp, htarget, hquery, he⟩
  · rintro ⟨p, hp, htarget, hquery, he⟩
    exact ⟨p, hp, e, he, htarget, hquery, rfl⟩

/-! ## One probe for each sample -/

/-- No two probes take the same sample. -/
def Apart (plan : Plan) : Prop :=
  plan.probes.Pairwise fun p p' => ¬ (p.target = p'.target ∧ p.query = p'.query)

@[simp] theorem apart_nil (description : String) : Apart { description } :=
  .nil

theorem apart_push (h : plan.Apart) (target : Target) (query : Query) (e : Expectation) :
    (plan.push target query e).Apart := by
  obtain ⟨description, probes⟩ := plan
  simp only [Apart, push] at h ⊢
  induction probes with
  | nil => simp [pushInto]
  | cons p probes ih =>
    obtain ⟨hp, hprobes⟩ := List.pairwise_cons.1 h
    rw [pushInto]
    split
    next htakes =>
      refine List.pairwise_cons.2 ⟨fun p' hp' => ?_, hprobes⟩
      rw [target_add, query_add]
      exact hp p' hp'
    next htakes =>
      refine List.pairwise_cons.2 ⟨fun p' hp' hsame => ?_, ih hprobes⟩
      rcases mem_pushInto hp' with rfl | ⟨p₁, hp₁, rfl | rfl⟩
      · exact htakes (takes_iff.2 hsame)
      · exact hp p' hp₁ hsame
      · rw [target_add, query_add] at hsame
        exact hp p₁ hp₁ hsame

theorem apart_extend (h : plan.Apart) (other : Plan) : (plan.extend other).Apart :=
  extend_keeps (fun _ h => apart_push h) h other

/-! ## No expectation twice -/

/-- No probe has an expectation twice. -/
def Once (plan : Plan) : Prop :=
  ∀ p ∈ plan.probes, p.expectations.Nodup

@[simp] theorem once_nil (description : String) : Once { description } := by
  simp [Once]

theorem nodup_expectations_add {p : Probe} (h : p.expectations.Nodup) :
    (p.add e).expectations.Nodup := by
  rw [Probe.add]
  split
  next => exact h
  next hnew =>
    have hnew : e ∉ p.expectations := by simpa using hnew
    exact List.nodup_append.2 ⟨h, List.nodup_singleton e, by
      intro a ha b hb
      obtain rfl := List.mem_singleton.1 hb
      rintro rfl
      exact hnew ha⟩

theorem once_push (h : plan.Once) (target : Target) (query : Query) (e : Expectation) :
    (plan.push target query e).Once := by
  intro p' hp'
  rcases mem_pushInto hp' with rfl | ⟨p, hp, rfl | rfl⟩
  · exact List.nodup_singleton e
  · exact h p' hp
  · exact nodup_expectations_add (h p hp)

theorem once_extend (h : plan.Once) (other : Plan) : (plan.extend other).Once :=
  extend_keeps (fun _ h => once_push h) h other

/-- Different probes have different triples, since they take different samples. -/
theorem nodup_triples (hapart : plan.Apart) (honce : plan.Once) : plan.triples.Nodup := by
  refine List.nodup_flatMap.2 ⟨fun p hp => ?_, hapart.imp fun {p p'} hdiffer => ?_⟩
  · apply (honce p hp).map
    intro e e' hsame
    simpa using hsame
  · intro triple hp hp'
    obtain ⟨e, -, rfl⟩ := List.mem_map.1 hp
    obtain ⟨e', -, hsame⟩ := List.mem_map.1 hp'
    simp only [Prod.mk.injEq] at hsame
    exact hdiffer ⟨hsame.1.symm, hsame.2.1.symm⟩

end RouteWatch.Plan
