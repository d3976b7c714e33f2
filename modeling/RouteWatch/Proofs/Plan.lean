import RouteWatch.Plan

/-!
# What a plan expects

`Plan.Expects` says of a target, a query and an expectation that they stand together in the plan.
The ways to build plans are told by what they expect: what is pushed is added, and nothing else
changes.
-/

namespace RouteWatch.Plan

/-- The plan has that expectation on samples of the query at the target. -/
def Expects (plan : Plan) (target : Target) (query : Query) (e : Expectation) : Prop :=
  ∃ p ∈ plan.probes, p.target = target ∧ p.query = query ∧ e ∈ p.expectations

variable {plan other : Plan} {target target' : Target} {query query' : Query} {e e' : Expectation}

theorem takes_iff {p : Probe} : p.takes target query = true ↔ p.target = target ∧ p.query = query := by
  simp [Probe.takes]

theorem mem_expectations_add {p : Probe} :
    e' ∈ (p.add e).expectations ↔ e' = e ∨ e' ∈ p.expectations := by
  rw [Probe.add]
  split
  next h =>
    have hmem : e ∈ p.expectations := by simpa using h
    exact ⟨.inr, fun h => h.elim (fun h => h ▸ hmem) id⟩
  next => simp [or_comm]

@[simp] theorem target_add (p : Probe) : (p.add e).target = p.target := by
  rw [Probe.add]
  split <;> rfl

@[simp] theorem query_add (p : Probe) : (p.add e).query = p.query := by
  rw [Probe.add]
  split <;> rfl

@[simp] theorem not_expects_nil (description : String) :
    ¬ Expects { description } target query e := by
  simp [Expects]

/-- One more expectation is there. -/
theorem expects_push (plan : Plan) (target : Target) (query : Query) (e : Expectation) :
    (plan.push target query e).Expects target' query' e' ↔
      (target' = target ∧ query' = query ∧ e' = e) ∨ plan.Expects target' query' e' := by
  obtain ⟨description, probes⟩ := plan
  simp only [Expects, push]
  induction probes with
  | nil => simp [pushInto, eq_comm]
  | cons p probes ih =>
    rw [pushInto]
    split
    next htakes =>
      obtain ⟨rfl, rfl⟩ := takes_iff.1 htakes
      simp only [List.mem_cons, exists_eq_or_imp, target_add, query_add, mem_expectations_add]
      grind
    next =>
      simp only [List.mem_cons, exists_eq_or_imp, ih]
      grind

/-- What is folded into a plan is expected besides what the plan expects. -/
theorem expects_foldl {α : Type} {f : Plan → α → Plan} {P : α → Prop}
    (hf : ∀ plan a, (f plan a).Expects target query e ↔ P a ∨ plan.Expects target query e)
    (l : List α) :
    (l.foldl f plan).Expects target query e ↔ (∃ a ∈ l, P a) ∨ plan.Expects target query e := by
  induction l generalizing plan with
  | nil => simp
  | cons a l ih => simp [ih, hf, or_assoc, or_left_comm]

theorem expects_pushAll (plan : Plan) (p : Probe) :
    (plan.pushAll p).Expects target query e ↔
      (p.target = target ∧ p.query = query ∧ e ∈ p.expectations) ∨
        plan.Expects target query e := by
  rw [pushAll, expects_foldl fun plan a => expects_push plan p.target p.query a]
  grind

/-- All that the other plan expects is there. -/
theorem expects_extend (plan other : Plan) :
    (plan.extend other).Expects target query e ↔
      other.Expects target query e ∨ plan.Expects target query e :=
  expects_foldl expects_pushAll other.probes

theorem Expects.probes_ne_nil (h : plan.Expects target query e) : plan.probes ≠ [] := by
  obtain ⟨p, hp, -⟩ := h
  exact List.ne_nil_of_mem hp

/-! ## What pushing keeps -/

/-- A probe of the plan is a new one for the pushed expectation, or an old one with or without it. -/
theorem mem_pushInto {probes : List Probe} {p' : Probe}
    (h : p' ∈ pushInto target query e probes) :
    p' = ⟨target, query, [e]⟩ ∨ ∃ p ∈ probes, p' = p ∨ p' = p.add e := by
  induction probes with
  | nil => exact .inl (List.mem_singleton.1 h)
  | cons p probes ih =>
    rw [pushInto] at h
    split at h
    next htakes =>
      rcases List.mem_cons.1 h with rfl | h
      · exact .inr ⟨p, List.mem_cons_self, .inr rfl⟩
      · exact .inr ⟨p', List.mem_cons_of_mem _ h, .inl rfl⟩
    next htakes =>
      rcases List.mem_cons.1 h with rfl | h
      · exact .inr ⟨p', List.mem_cons_self, .inl rfl⟩
      · rcases ih h with hnew | ⟨p₁, hp₁, hsame⟩
        · exact .inl hnew
        · exact .inr ⟨p₁, List.mem_cons_of_mem _ hp₁, hsame⟩

/-- What every push keeps is kept when plans are put together. -/
theorem extend_keeps {I : Plan → Prop}
    (hpush : ∀ plan : Plan, I plan → ∀ target query e, I (plan.push target query e)) (h : I plan)
    (other : Plan) : I (plan.extend other) :=
  List.foldlRecOn _ _ h fun _ h _ _ => List.foldlRecOn _ _ h fun plan h _ _ => hpush plan h _ _ _

/-! ## Plans without idle probes -/

/-- Something is expected of every sample that is taken. -/
def Filled (plan : Plan) : Prop :=
  ∀ p ∈ plan.probes, p.expectations ≠ []

@[simp] theorem filled_nil (description : String) : Filled { description } := by
  simp [Filled]

theorem filled_push (h : plan.Filled) (target : Target) (query : Query) (e : Expectation) :
    (plan.push target query e).Filled := by
  intro p' hp'
  rcases mem_pushInto hp' with rfl | ⟨p, hp, rfl | rfl⟩
  · exact List.cons_ne_nil _ _
  · exact h p' hp
  · exact List.ne_nil_of_mem (mem_expectations_add.2 (.inl rfl))

theorem filled_extend (h : plan.Filled) (other : Plan) : (plan.extend other).Filled :=
  extend_keeps (fun _ h => filled_push h) h other

theorem extend_probes_ne_nil (hother : other.Filled) (h : other.probes ≠ []) (plan : Plan) :
    (plan.extend other).probes ≠ [] := by
  obtain ⟨p, hp⟩ := List.exists_mem_of_ne_nil _ h
  obtain ⟨e, he⟩ := List.exists_mem_of_ne_nil _ (hother p hp)
  exact ((expects_extend plan other).2 (.inl ⟨p, hp, rfl, rfl, he⟩)).probes_ne_nil

end RouteWatch.Plan
