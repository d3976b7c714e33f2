import RouteWatch.Proofs.Convergence
import RouteWatch.Proofs.Plan
import RouteWatch.Proofs.Poll.Instant
import RouteWatch.Proofs.Scenario.Passes
import RouteWatch.Simulation.World

/-!
# Waiting for a plan in the simulated cluster

Samples of the simulated cluster take no time, so a plan is looked at once an interval. It converges
in the first round in which samples can be taken and the tables show what the plan expects.

* `Cluster.Shows`: the tables show the plan at a moment;
* `Cluster.ConvergesAt`: the round in which the plan converges;
* `run_converge`: waiting for a plan comes back, and it has converged if and only if there is such a
  round.
-/

namespace RouteWatch.Simulation.Cluster

open Poll

/-! ## Samples -/

/-- The text of a sample, if it can be taken. -/
def sampled? (c : Cluster) (w : World) (now : Millis) (query : Query) (target : Target) :
    Option String :=
  if w.samples < c.behavior.failingSamples then none else c.printed? w now query target

/-- The samples of the probes, taken at that moment in that world, and the world after them. The
first one that fails ends it. -/
def take (c : Cluster) (now : Millis) : List Probe → World → Except SampleError (List Sample) × World
  | [], w => (.ok [], w)
  | p :: probes, w =>
    match c.sampled? w now p.query p.target with
    | none => (.error (.unknownTarget p.target), { w with samples := w.samples + 1 })
    | some text =>
      let rest := c.take now probes { w with samples := w.samples + 1 }
      (rest.1.map (⟨p.target, p.query.command.text, text⟩ :: ·), rest.2)

variable {c : Cluster}

@[simp] theorem printed?_samples (w : World) (samples : Nat) (now : Millis) (query : Query)
    (target : Target) :
    c.printed? { w with samples } now query target = c.printed? w now query target := by
  rcases target with - | name <;> cases query <;> rfl

theorem run_sampler (target : Target) (query : Query) (limit : Option Millis) (now : Millis)
    (w : World) :
    (c.sampler target query).run.run limit now w =
      match c.sampled? w now query target with
      | none => ⟨some (.error (.unknownTarget target)), now, { w with samples := w.samples + 1 }⟩
      | some text => ⟨some (.ok ⟨target, query.command.text, text⟩), now,
          { w with samples := w.samples + 1 }⟩ := by
  have htext : c.sampled? w now query target =
      if w.samples + 1 ≤ c.behavior.failingSamples then none
      else c.printed? { w with samples := w.samples + 1 } now query target := by
    rw [sampled?, printed?_samples]
    rfl
  change ((Action.ofOption (.unknownTarget target) (if w.samples + 1 ≤ c.behavior.failingSamples
      then none else c.printed? { w with samples := w.samples + 1 } now query target) >>=
    fun text => pure ⟨target, query.command.text, text⟩ : Action World SampleError Sample).run).run
      limit now { w with samples := w.samples + 1 } = _
  rw [← htext]
  cases c.sampled? w now query target <;> rfl

theorem run_capture (probes : List Probe) :
    (capture c.sampler probes).run = Timed.act (c.take · probes ·) := by
  induction probes with
  | nil => rfl
  | cons p probes ih =>
    ext limit now w
    rw [run_capture_cons, run_sampler, ih]
    simp only [Timed.act, take]
    cases c.sampled? w now p.query p.target <;> rfl

/-- What an attempt finds. -/
def attemptAt (c : Cluster) (plan : Plan) (now : Millis) (w : World) :
    Except SampleError (Poll.Attempt (List Mismatch) Unit) × World :=
  let taken := c.take now plan.probes w
  (taken.1.map fun samples =>
    if (plan.mismatches samples).isEmpty then .ready () else .pending (plan.mismatches samples),
    taken.2)

theorem run_attempt (plan : Plan) :
    (plan.attempt c.sampler).run = Timed.act (c.attemptAt plan) := by
  ext limit now w
  rw [Plan.attempt, ExceptT.run_bind, run_capture, Timed.run_bind]
  simp only [Timed.act, attemptAt]
  cases (c.take now plan.probes w).1 <;> rfl

/-- Samples change nothing but their number, which grows. -/
theorem exists_take (now : Millis) (probes : List Probe) (w : World) :
    ∃ samples, (c.take now probes w).2 = { w with samples } ∧ w.samples + min 1 probes.length ≤ samples := by
  induction probes generalizing w with
  | nil => exact ⟨w.samples, rfl, Nat.le_refl _⟩
  | cons p probes ih =>
    rw [take]
    split
    · exact ⟨w.samples + 1, rfl, by simp⟩
    · obtain ⟨samples, hworld, hle⟩ := ih { w with samples := w.samples + 1 }
      exact ⟨samples, hworld, by simp at hle ⊢; lia⟩

/-- While samples fail, a capture ends with its first one. -/
theorem take_of_failing (now : Millis) {probes : List Probe} {w : World} (hprobes : probes ≠ [])
    (h : w.samples < c.behavior.failingSamples) :
    ∃ e, c.take now probes w = (.error e, { w with samples := w.samples + 1 }) := by
  obtain ⟨p, probes, rfl⟩ := List.exists_cons_of_ne_nil hprobes
  exact ⟨.unknownTarget p.target, by simp [take, sampled?, h]⟩

/-- The probes are shown by what is printed then. -/
def ShowsAll (c : Cluster) (w : World) (now : Millis) (probes : List Probe) : Prop :=
  ∀ p ∈ probes, ∃ text, c.printed? w now p.query p.target = some text ∧
    ∀ e ∈ p.expectations, e.holds text = true

/-- When samples can be taken, they have no mismatch if and only if they show the probes. -/
theorem take_iff (now : Millis) (probes : List Probe) {w : World}
    (h : c.behavior.failingSamples ≤ w.samples) :
    (∃ samples, (c.take now probes w).1 = .ok samples ∧
        (List.zipWith Probe.mismatches probes samples).flatten = []) ↔ c.ShowsAll w now probes := by
  induction probes generalizing w with
  | nil => simp [take, ShowsAll]
  | cons p probes ih =>
    have hsampled : c.sampled? w now p.query p.target = c.printed? w now p.query p.target := by
      rw [sampled?, if_neg (Nat.not_lt_of_le h)]
    have hrest := ih (w := { w with samples := w.samples + 1 }) (Nat.le_succ_of_le h)
    rw [take, hsampled, ShowsAll, List.forall_mem_cons]
    cases hprinted : c.printed? w now p.query p.target with
    | none => simp
    | some text =>
      have hmismatches : ∀ command, p.mismatches ⟨p.target, command, text⟩ = [] ↔
          ∀ e ∈ p.expectations, e.holds text = true := by
        simp [Probe.mismatches]
      have hshows : c.ShowsAll { w with samples := w.samples + 1 } now probes ↔
          ∀ p ∈ probes, ∃ text, c.printed? w now p.query p.target = some text ∧
            ∀ e ∈ p.expectations, e.holds text = true := by
        simp only [ShowsAll, printed?_samples]
      rw [← hshows, ← hrest]
      dsimp only
      rcases c.take now probes { w with samples := w.samples + 1 } with ⟨e | samples, w'⟩
      · simp [Except.map]
      · simp [Except.map, hmismatches]

/-- The tables show the plan. -/
def Shows (c : Cluster) (w : World) (now : Millis) (plan : Plan) : Prop :=
  c.ShowsAll w now plan.probes

/-! ## Rounds -/

variable {plan : Plan} {s : Settings} {start : Millis} {w : World}

/-- The round of that index finds that the plan holds. -/
structure ObservedAt (c : Cluster) (plan : Plan) (s : Settings) (start : Millis) (w : World)
    (index : Nat) : Prop where
  /-- Each round before it that could not take a sample has used up one of those that fail. -/
  sampled : c.behavior.failingSamples - w.samples ≤ index
  shows : c.Shows w (tick s start index) plan

/-- The plan converges in the round of that index. -/
structure ConvergesAt (c : Cluster) (plan : Plan) (s : Settings) (start : Millis) (w : World)
    (index : Nat) : Prop where
  /-- The round finds that the plan holds. -/
  observed : c.ObservedAt plan s start w index
  /-- No earlier round does. -/
  first : ∀ i < index, ¬ c.ObservedAt plan s start w i
  /-- Each earlier round is before the deadline. -/
  early : ∀ i < index, tick s start i < start + s.timeout

/-- The number of samples that were taken before the round of that index. -/
theorem exists_worldAt (s : Settings) (start : Millis) (w : World) (hplan : plan.probes ≠ [])
    (index : Nat) :
    ∃ samples, worldAt s start (c.attemptAt plan) w index = { w with samples } ∧
      (index ≤ c.behavior.failingSamples - w.samples → samples = w.samples + index) ∧
      (c.behavior.failingSamples - w.samples ≤ index → c.behavior.failingSamples ≤ samples) := by
  induction index with
  | zero => exact ⟨w.samples, rfl, fun _ => rfl, fun h => by lia⟩
  | succ index ih =>
    obtain ⟨samples, hworld, hfew, hmany⟩ := ih
    by_cases hfails : samples < c.behavior.failingSamples
    · obtain ⟨e, htake⟩ := take_of_failing (tick s start index)
        (w := { w with samples }) hplan hfails
      refine ⟨samples + 1, ?_, fun h => by lia, fun h => by lia⟩
      rw [worldAt, hworld, attemptAt, htake]
    · obtain ⟨samples', hworld', hle⟩ :=
        c.exists_take (tick s start index) plan.probes { w with samples }
      refine ⟨samples', ?_, fun h => by lia, fun h => ?_⟩
      · rw [worldAt, hworld, attemptAt, hworld']
      · have hle : samples ≤ samples' := Nat.le_trans (Nat.le_add_right _ _) hle
        lia

theorem isReady_tryOf {index samples : Nat}
    (hworld : worldAt s start (c.attemptAt plan) w index = { w with samples }) :
    (tryOf s start (c.attemptAt plan) w index).isReady = true ↔
      ∃ taken, (c.take (tick s start index) plan.probes { w with samples }).1 = .ok taken ∧
        plan.mismatches taken = [] := by
  rw [Try.isReady, tryOf, hworld, attemptAt]
  rcases c.take (tick s start index) plan.probes { w with samples } with ⟨e | taken, w'⟩
  · simp [Except.map, Poll.Result.of]
  · by_cases h : plan.mismatches taken = []
    · simp [Except.map, Poll.Result.of, h]
    · simp [Except.map, Poll.Result.of, h]

theorem readyAt_iff (hplan : plan.probes ≠ []) (index : Nat) :
    ReadyAt s start (c.attemptAt plan) w index ↔ c.ObservedAt plan s start w index := by
  obtain ⟨samples, hworld, hfew, hmany⟩ := exists_worldAt (c := c) s start w hplan index
  rw [ReadyAt, isReady_tryOf hworld]
  by_cases hfails : samples < c.behavior.failingSamples
  · obtain ⟨e, htake⟩ := take_of_failing (tick s start index) (w := { w with samples }) hplan hfails
    simp only [htake, reduceCtorEq, false_and, exists_false, false_iff]
    exact fun h => absurd (hmany h.sampled) (Nat.not_le_of_lt hfails)
  · have hshows : c.ShowsAll { w with samples } (tick s start index) plan.probes ↔
        c.Shows w (tick s start index) plan := by
      simp only [Shows, ShowsAll, printed?_samples]
    have hsampled : c.behavior.failingSamples - w.samples ≤ index := by lia
    rw [← take_iff (tick s start index) plan.probes (Nat.le_of_not_lt hfails)] at hshows
    exact hshows.trans ⟨fun h => ⟨hsampled, h⟩, fun h => h.shows⟩

/-- Waiting for a plan comes back after its last round. The plan has converged if and only if it
does so in that round, and then there is no sample left that fails. -/
theorem run_converge (hplan : plan.probes ≠ []) (hs : 0 < s.interval) (start : Millis) (w : World) :
    ∃ last outcome samples,
      (c.environment.converge plan s).run none start w =
        ⟨some outcome, tick s start last, { w with samples }⟩ ∧
      (outcome.converged = true ↔ c.ConvergesAt plan s start w last) ∧
      (c.ConvergesAt plan s start w last → c.behavior.failingSamples ≤ samples) ∧
      ∀ i, c.ConvergesAt plan s start w i → i = last := by
  obtain ⟨last, hends, hrun⟩ := run_poll_act hs (run_attempt (c := c) plan) start w
  obtain ⟨samples, hworld, -, hmany⟩ := exists_worldAt (c := c) s start w hplan (last + 1)
  have hconverges : c.ConvergesAt plan s start w last ↔ c.ObservedAt plan s start w last :=
    ⟨fun h => h.observed, fun h => ⟨h, fun i hi => (readyAt_iff hplan i).not.1 (hends.pending i hi),
      hends.early⟩⟩
  refine ⟨last, .ofHistory SampleError.message
    ⟨start, (List.range (last + 1)).map (tryOf s start (c.attemptAt plan) w)⟩, samples, ?_, ?_,
    fun h => hmany (Nat.le_succ_of_le h.observed.sampled), fun i hi => ?_⟩
  · have henvironment : c.environment.converge plan s =
        RouteWatch.converge c.sampler SampleError.message plan s := rfl
    rw [henvironment, converge, Timed.run_bind, hrun, hworld]
    rfl
  · have hready : (∃ t ∈ (List.range (last + 1)).map (tryOf s start (c.attemptAt plan) w),
        t.isReady = true) ↔ ReadyAt s start (c.attemptAt plan) w last := by
      simp only [List.mem_map, List.mem_range, Nat.lt_succ_iff]
      constructor
      · rintro ⟨_, ⟨i, hi, rfl⟩, hready⟩
        rcases Nat.eq_or_lt_of_le hi with rfl | hi
        · exact hready
        · exact absurd hready (hends.pending i hi)
      · exact fun hready => ⟨_, ⟨last, Nat.le_refl _, rfl⟩, hready⟩
    rw [hconverges, ← readyAt_iff hplan, Convergence.converged_ofHistory, hready]
  · rcases Nat.lt_trichotomy i last with hlt | rfl | hlt
    · exact absurd ((readyAt_iff hplan i).2 hi.observed) (hends.pending i hlt)
    · rfl
    · rcases hends.stops with hready | hlate
      · exact absurd ((readyAt_iff hplan last).1 hready) (hi.first last hlt)
      · exact absurd hlate (Nat.not_le_of_lt (hi.early last hlt))

/-- A plan that holds in some round by the deadline converges in that one or earlier. -/
theorem exists_convergesAt {index : Nat} (h : c.ObservedAt plan s start w index)
    (hearly : ∀ i < index, tick s start i < start + s.timeout) :
    ∃ i ≤ index, c.ConvergesAt plan s start w i := by
  induction index using Nat.strongRecOn with
  | ind index ih =>
    by_cases hfirst : ∀ i < index, ¬ c.ObservedAt plan s start w i
    · exact ⟨index, Nat.le_refl _, h, hfirst, hearly⟩
    · obtain ⟨i, hi, hobserved⟩ : ∃ i < index, c.ObservedAt plan s start w i := by
        simpa using hfirst
      obtain ⟨j, hj, hconverges⟩ := ih i hi hobserved fun k hk => hearly k (Nat.lt_trans hk hi)
      exact ⟨j, Nat.le_trans hj (Nat.le_of_lt hi), hconverges⟩

/-- Where the timeout is a multiple of the interval, a plan that holds at the deadline converges. -/
theorem exists_convergesAt_of_deadline (hs : 0 < s.interval) (count : Nat)
    (hcount : s.timeout = count * s.interval)
    (hsampled : c.behavior.failingSamples - w.samples ≤ count)
    (hshows : c.Shows w (start + s.timeout) plan) : ∃ i, c.ConvergesAt plan s start w i := by
  rw [← tick_of_timeout hcount] at hshows
  obtain ⟨i, -, hi⟩ := exists_convergesAt ⟨hsampled, hshows⟩ fun i => tick_lt_of_timeout hs hcount
  exact ⟨i, hi⟩

theorem ConvergesAt.le {index : Nat} (h : c.ConvergesAt plan s start w index) (count : Nat)
    (hcount : s.timeout = count * s.interval) : index ≤ count := by
  refine Nat.le_of_not_lt fun hlt => ?_
  have hearly := h.early count hlt
  rw [tick_of_timeout hcount] at hearly
  exact Nat.lt_irrefl _ hearly

/-! ## Checks -/

variable {steps : List Scenario.Step} {report : Report}

/-- If the steps from a check on succeed, then its plan converges, and the others succeed after it. -/
theorem exists_of_passes_check (hplan : plan.probes ≠ []) (hs : 0 < s.interval)
    (h : Scenario.Passes c.environment (.check plan s :: steps) ⟨report, none, start, w⟩) :
    ∃ i report samples, c.ConvergesAt plan s start w i ∧ c.behavior.failingSamples ≤ samples ∧
      Scenario.Passes c.environment steps ⟨report, none, tick s start i, { w with samples }⟩ := by
  obtain ⟨last, outcome, samples, hrun, hconverged, hsamples, -⟩ :=
    run_converge (c := c) hplan hs start w
  obtain ⟨houtcome, hrest⟩ := (Scenario.passes_check hrun).1 h
  have hconverges := hconverged.1 houtcome
  exact ⟨last, _, samples, hconverges, hsamples hconverges, hrest⟩

/-- If the plan of a check converges, and the other steps succeed after it, then all of them do. -/
theorem passes_check_of (hplan : plan.probes ≠ []) (hs : 0 < s.interval)
    (hconverges : ∃ i, c.ConvergesAt plan s start w i)
    (hrest : ∀ i report samples, c.ConvergesAt plan s start w i →
      c.behavior.failingSamples ≤ samples →
      Scenario.Passes c.environment steps ⟨report, none, tick s start i, { w with samples }⟩) :
    Scenario.Passes c.environment (.check plan s :: steps) ⟨report, none, start, w⟩ := by
  obtain ⟨last, outcome, samples, hrun, hconverged, hsamples, hlast⟩ :=
    run_converge (c := c) hplan hs start w
  obtain ⟨i, hi⟩ := hconverges
  obtain rfl := hlast i hi
  exact (Scenario.passes_check hrun).2
    ⟨hconverged.2 hi, hrest i _ samples hi (hsamples hi)⟩

end RouteWatch.Simulation.Cluster
