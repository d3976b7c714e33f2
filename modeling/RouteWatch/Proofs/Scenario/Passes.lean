import RouteWatch.Proofs.Scenario.Parts
import RouteWatch.Proofs.Scenario.Returns

/-!
# When the steps of a scenario succeed

`Passes` says that steps succeed, one after the other, from a start that nothing cuts off. A change
has to be made, and a check has to converge; what comes after starts where it has ended. The result
of a scenario is that of the steps of its body (`ok_iff_passes`), for the cleanup does not change it;
and there is one wherever every call is answered (`exists_verdict`).
-/

namespace RouteWatch.Scenario

variable {σ : Type}

/-- The steps succeed from there. -/
def Passes (env : Environment σ) (steps : List Step) (start : Start σ) : Prop :=
  ∃ report now w, start.run (takeAll env steps) = ⟨some (.ok (), report), now, w⟩

variable {env : Environment σ} {steps : List Step} {report : Report} {limit : Option Millis}
  {now now' : Millis} {w w' : σ}

theorem passes_nil (env : Environment σ) (start : Start σ) : Passes env [] start :=
  ⟨_, _, _, rfl⟩

theorem takeAll_cons (env : Environment σ) (step : Step) (steps : List Step) :
    takeAll env (step :: steps) = step.take env >>= fun _ => takeAll env steps := rfl

/-- After a change the steps go on where it has ended. -/
theorem passes_change {change : Change}
    (h : (change.make env).run.run limit now w = ⟨some (.ok ()), now', w'⟩) :
    Passes env (.change change :: steps) ⟨report, limit, now, w⟩ ↔
      Passes env steps ⟨report, limit, now', w'⟩ := by
  have hrun : Start.run ⟨report, limit, now, w⟩ (takeAll env (.change change :: steps)) =
      Start.run ⟨report, limit, now', w'⟩ (takeAll env steps) := by
    simp only [Start.run, takeAll_cons, run_bind, Step.take, run_act, Timed.run_bind,
      ← bind_pure_comp, h, Timed.run_pure]
  rw [Passes, hrun, Passes]

/-- A check has to converge, and the steps go on where it has ended. -/
theorem passes_check {plan : Plan} {settings : Poll.Settings} {outcome : Convergence}
    (h : (env.converge plan settings).run limit now w = ⟨some outcome, now', w'⟩) :
    Passes env (.check plan settings :: steps) ⟨report, limit, now, w⟩ ↔
      outcome.converged = true ∧
        Passes env steps ⟨report.record plan settings outcome, limit, now', w'⟩ := by
  by_cases hconverged : outcome.converged = true
  · have hrun : Start.run ⟨report, limit, now, w⟩ (takeAll env (.check plan settings :: steps)) =
        Start.run ⟨report.record plan settings outcome, limit, now', w'⟩ (takeAll env steps) := by
      simp only [Start.run, takeAll_cons, run_bind, Step.take, run_check, Timed.run_bind,
        ← bind_pure_comp, h, Timed.run_pure, Convergence.ensure, hconverged, if_true]
    rw [Passes, hrun, and_iff_right hconverged, Passes]
  · refine ⟨?_, fun h => absurd h.1 hconverged⟩
    rintro ⟨report', now'', w'', hrun⟩
    simp only [Start.run, takeAll_cons, run_bind, Step.take, run_check, Timed.run_bind,
      ← bind_pure_comp, h, Timed.run_pure, Convergence.ensure, hconverged] at hrun
    cases hrun

/-- A check that is made again is a check one interval later that does not wait. -/
theorem passes_checkStable {plan : Plan} {settings : Poll.Settings} :
    Passes env (.checkStable plan settings :: steps) ⟨report, none, now, w⟩ ↔
      Passes env (.check (stablePlan plan) { settings with timeout := 0 } :: steps)
        ⟨report, none, now + settings.interval, w⟩ := by
  have hrun : Start.run ⟨report, none, now, w⟩ (takeAll env (.checkStable plan settings :: steps)) =
      Start.run ⟨report, none, now + settings.interval, w⟩
        (takeAll env (.check (stablePlan plan) { settings with timeout := 0 } :: steps)) := by
    simp only [Start.run, takeAll_cons, run_bind, Step.take, checkStable, run_time,
      Timed.run_bind, ← bind_pure_comp, Timed.run_pure, Timed.wait]
  rw [Passes, hrun, Passes]

/-- A scenario whose options are in order succeeds if and only if the steps of its body do. -/
theorem ok_iff_passes {choice : ScenarioChoice} {start : Start σ} {work : Work}
    {result : Except ScenarioError Unit} {report' : Report}
    (hwork : start.run (choice.work env) = ⟨some (.ok work, report), now, w⟩)
    (hrun : start.run (choice.scenario env) = ⟨some (result, report'), now', w'⟩) :
    result = .ok () ↔ Passes env work.body ⟨report, start.limit, now, w⟩ := by
  rcases run_scenario hrun with ⟨e, hwork', -⟩ | ⟨work', now₁, w₁, report₁, now₂, w₂, hwork', hbody, -⟩
  · rw [hwork] at hwork'
    cases hwork'
  · rw [hwork] at hwork'
    cases hwork'
    constructor
    · rintro rfl
      exact ⟨_, _, _, hbody⟩
    · rintro ⟨report', now', w', hpasses⟩
      rw [hbody] at hpasses
      cases hpasses
      rfl

/-- Where every call is answered, a scenario whose options are in order comes back, and it succeeds if
and only if the steps of its body do. -/
theorem exists_verdict (h : Answers env) {choice : ScenarioChoice} {body : List Step}
    (hwork : ∃ work, Start.run ⟨report, none, now, w⟩ (choice.work env) =
      ⟨some (.ok work, report), now, w⟩ ∧ work.body = body) :
    ∃ result report' now' w',
      Start.run ⟨report, none, now, w⟩ (choice.scenario env) =
        ⟨some (result, report'), now', w'⟩ ∧
      (result = .ok () ↔ Passes env body ⟨report, none, now, w⟩) := by
  obtain ⟨work, hwork, rfl⟩ := hwork
  obtain ⟨⟨result, report'⟩, now', w', hrun⟩ := returns_scenario h choice report now w
  exact ⟨result, report', now', w', hrun, ok_iff_passes hwork hrun⟩

end RouteWatch.Scenario
