import RouteWatch.Proofs.Convergence
import RouteWatch.Proofs.Plan.Triples

/-!
# Plans that contradict themselves

A plan contradicts itself if some fact has to be there and must not be there on the same sample. No
samples are as such a plan expects, whatever they are. The plans that are built by pushing take each
sample once, so that a contradiction is one between what the plan expects of it.

* `contradictory_iff`: where a plan contradicts itself, in terms of what it expects;
* `Contradictory.mismatches_ne_nil`: no samples are as it expects.
-/

namespace RouteWatch.Plan

variable {plan other : Plan} {target : Target} {query : Query} {e : Expectation}

/-- Some expectation stands on a probe together with the opposite one. -/
def Contradictory (plan : Plan) : Prop :=
  ∃ p ∈ plan.probes, ∃ e ∈ p.expectations, e.negate ∈ p.expectations

instance (plan : Plan) : Decidable plan.Contradictory :=
  inferInstanceAs (Decidable (∃ p ∈ plan.probes, ∃ e ∈ p.expectations, e.negate ∈ p.expectations))

theorem Contradictory.mismatches_ne_nil (h : plan.Contradictory) {samples : List Sample}
    (hlength : samples.length = plan.probes.length) : plan.mismatches samples ≠ [] := by
  intro hnil
  obtain ⟨p, hp, e, he, hnegate⟩ := h
  have hall := (plan.mismatches_eq_nil_iff hlength).1 hnil
  -- the sample of that probe would have to meet both
  obtain ⟨sample, hholds⟩ :
      ∃ sample : Sample, ∀ e ∈ p.expectations, e.holds sample.text = true := by
    obtain ⟨i, hi, rfl⟩ := List.getElem_of_mem hp
    exact ⟨samples[i], hall.get hi (hlength ▸ hi)⟩
  have hopposite := hholds e.negate hnegate
  rw [Expectation.holds_negate, hholds e he] at hopposite
  cases hopposite

/-! ## What is expected of one sample -/

/-- A plan that takes each sample once contradicts itself if and only if it expects something of a
sample and the opposite as well. -/
theorem contradictory_iff (h : plan.Apart) :
    plan.Contradictory ↔
      ∃ target query e, plan.Expects target query e ∧ plan.Expects target query e.negate := by
  constructor
  · rintro ⟨p, hp, e, he, hnegate⟩
    exact ⟨p.target, p.query, e, ⟨p, hp, rfl, rfl, he⟩, ⟨p, hp, rfl, rfl, hnegate⟩⟩
  · rintro ⟨target, query, e, ⟨p, hp, htarget, hquery, he⟩, ⟨p', hp', htarget', hquery', hnegate⟩⟩
    have : Std.Symm fun p p' : Probe => ¬ (p.target = p'.target ∧ p.query = p'.query) :=
      ⟨fun _ _ h hsame => h ⟨hsame.1.symm, hsame.2.symm⟩⟩
    -- both stand on one probe, since there is no other one for the sample
    have hsame : p = p' := by
      by_contra hne
      exact h.forall hp hp' hne
        ⟨htarget.trans htarget'.symm, hquery.trans hquery'.symm⟩
    subst hsame
    exact ⟨p, hp, e, he, hnegate⟩

/-- Expectations that all have to be there, or all must not be there, do not contradict each
other. -/
theorem not_contradictory (present : Bool)
    (h : ∀ target query e, plan.Expects target query e → e.present = present) :
    ¬ plan.Contradictory := by
  rintro ⟨p, hp, e, he, hnegate⟩
  have hpresent := h p.target p.query e ⟨p, hp, rfl, rfl, he⟩
  have hopposite := h p.target p.query e.negate ⟨p, hp, rfl, rfl, hnegate⟩
  rw [Expectation.negate, hpresent] at hopposite
  cases present <;> cases hopposite

end RouteWatch.Plan
