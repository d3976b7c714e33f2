import RouteWatch.Proofs.Scenario.Parts

/-!
# Scenarios come back

A scenario in an environment that answers every call comes back: it makes finitely many calls, and
has nothing to wait for between them but one interval.
-/

namespace RouteWatch.Scenario

variable {σ α β : Type}

/-- The environment answers every call, well or not. -/
structure Answers (env : Environment σ) : Prop where
  change : ∀ c : Change, Timed.Returns (c.make env).run
  /-- Waiting for a plan comes to an end. -/
  converge : ∀ plan settings, Timed.Returns (env.converge plan settings)
  labels : ∀ object, Timed.Returns (env.labels object).run
  /-- Egress addresses are read. -/
  egressAssignments : ∀ name, Timed.Returns (env.egressAssignments name).run

/-- The part comes back if nothing cuts it off from outside. -/
def Returns (x : Scenario σ α) : Prop :=
  ∀ report, Timed.Returns (x.run.run report)

namespace Returns

theorem pure (a : α) : Returns (pure a : Scenario σ α) :=
  fun _ => .pure _

theorem lift (x : Except ScenarioError α) :
    Returns (ExceptT.mk (Pure.pure x) : Scenario σ α) :=
  fun _ => .pure _

theorem bind {x : Scenario σ α} {f : α → Scenario σ β} (hx : Returns x)
    (hf : ∀ a, Returns (f a)) : Returns (x >>= f) := by
  intro report
  rw [run_bind]
  refine (hx report).bind fun r => ?_
  obtain ⟨_ | a, report'⟩ := r
  · exact .pure _
  · exact hf a report'

theorem act {x : Action σ ScenarioError α} (h : Timed.Returns x.run) : Returns (act x) := by
  intro report
  rw [run_act]
  exact h.map _

theorem time {x : Timed σ α} (h : Timed.Returns x) : Returns (time x) := by
  intro report
  rw [run_time]
  exact h.map _

variable {env : Environment σ} (h : Answers env)
include h

theorem check (plan : Plan) (settings : Poll.Settings) : Returns (check env plan settings) := by
  intro report
  rw [run_check]
  exact (h.converge plan settings).map _

theorem take (step : Step) : Returns (step.take env) := by
  cases step with
  | change c => exact act (h.change c)
  | check plan settings => exact check h plan settings
  | checkStable plan settings => exact (time (.wait settings.interval)).bind fun _ => check h _ _

theorem takeAll (steps : List Step) : Returns (takeAll env steps) := by
  induction steps with
  | nil => exact pure ()
  | cons step steps ih => exact (take h step).bind fun _ => ih

theorem undo (cleanup : List Change) : Timed.Returns (undo env cleanup) := by
  induction cleanup with
  | nil => exact .pure ()
  | cons c cleanup ih => exact ((h.change c).map _).bind fun _ => ih

theorem work (choice : ScenarioChoice) : Returns (choice.work env) := by
  have hsubnets : ∀ network, Returns (requireSubnets env network) := by
    intro network report
    rw [run_requireSubnets]
    exact .pure _
  have hsave : ∀ object key, Returns (save env object key) :=
    fun object _ => (act (h.labels object)).bind fun _ => pure _
  cases choice with
  | defaultNetwork name => exact (hsubnets _).bind fun _ => pure _
  | selector o =>
    exact (lift _).bind fun _ => (hsubnets _).bind fun _ => (hsubnets _).bind fun _ =>
      (hsave _ _).bind fun _ => (hsave _ _).bind fun _ => pure _
  | failover o =>
    exact (act (h.egressAssignments o.egress)).bind fun _ => (lift _).bind fun _ =>
      (hsave _ _).bind fun _ => (hsave _ _).bind fun _ => pure _
  | recovery o => exact (hsubnets _).bind fun _ => pure _

end Returns

theorem returns_scenario {env : Environment σ} (h : Answers env) (choice : ScenarioChoice) :
    Returns (choice.scenario env) := by
  refine (Returns.work h choice).bind fun work report => ?_
  rw [run_work]
  refine (Returns.takeAll h work.body report).bind fun r => ?_
  split
  · exact (Returns.undo h work.cleanup).bind fun _ => .pure r
  · exact .pure r

end RouteWatch.Scenario
