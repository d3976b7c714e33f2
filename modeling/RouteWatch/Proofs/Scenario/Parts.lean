import RouteWatch.Proofs.Time.Leads
import RouteWatch.Scenario.Run

/-!
# Running the parts of a scenario

A part of a scenario is run on a report; what comes out is a computation whose value is the result of
the part and the report after it. The equations here say so for each way to build a part, and
`Scenario.Leads` is the form of `Timed.Leads` for parts.
-/

namespace RouteWatch.Scenario

variable {σ α β : Type}

@[simp] theorem run_pure (a : α) (report : Report) :
    (pure a : Scenario σ α).run.run report = pure (.ok a, report) := rfl

@[simp] theorem run_lift (x : Except ScenarioError α) (report : Report) :
    (ExceptT.mk (pure x) : Scenario σ α).run.run report = pure (x, report) := rfl

theorem run_bind (x : Scenario σ α) (f : α → Scenario σ β) (report : Report) :
    (x >>= f).run.run report = x.run.run report >>= fun r =>
      match r.1 with
      | .ok a => (f a).run.run r.2
      | .error e => pure (.error e, r.2) := by
  rw [ExceptT.run_bind, StateT.run_bind]
  congr 1
  funext r
  rcases r with ⟨_ | _, _⟩ <;> rfl

theorem run_act (x : Action σ ScenarioError α) (report : Report) :
    (act x).run.run report = (fun r => (r, report)) <$> x.run := by
  simp [act, StateT.run_lift]

theorem run_time (x : Timed σ α) (report : Report) :
    (time x).run.run report = (fun a => (.ok a, report)) <$> x := by
  simp [time, StateT.run_lift]

theorem run_check (env : Environment σ) (plan : Plan) (settings : Poll.Settings)
    (report : Report) :
    (check env plan settings).run.run report =
      (fun c => (c.ensure plan, report.record plan settings c)) <$> env.converge plan settings := by
  simp only [check, run_bind, run_time, ← bind_pure_comp, bind_assoc, pure_bind]
  rfl

theorem run_requireSubnets (env : Environment σ) (network : NetworkName) (report : Report) :
    (requireSubnets env network).run.run report =
      pure (if Mesh.hasSubnets env.topology network then .ok () else .error (.noSubnets network),
        report) := by
  rw [requireSubnets]
  split <;> rfl

theorem run_work (env : Environment σ) (work : Work) (report : Report) :
    (work.run env).run.run report = (takeAll env work.body).run.run report >>= fun r =>
      if work.leavesCleanup r.1 then do undo env work.cleanup; return r else pure r := by
  simp only [Work.run, ExceptT.run_mk, StateT.run_bind]
  congr 1
  funext r
  split
  · simp [StateT.run_lift]
  · rfl

theorem Work.ok_of_not_leavesCleanup {work : Work} {result : Except ScenarioError Unit}
    (h : ¬ work.leavesCleanup result) : work.onFailureOnly = true ∧ result = .ok () := by
  cases result <;> simp_all [leavesCleanup, Except.isOk, Except.toBool]

/-! ## Runs -/

/-- From where a scenario is run. -/
structure Start (σ : Type) where
  report : Report
  /-- The moment at which the run is cut off, if there is one. -/
  limit : Option Millis := none
  /-- The moment at which the run starts. -/
  now : Millis
  world : σ

/-- The run of a part from there. -/
def Start.run (start : Start σ) (x : Scenario σ α) : Ending σ (Except ScenarioError α × Report) :=
  (x.run.run start.report).run start.limit start.now start.world

/-- The scenario without its cleanup. -/
def uncleaned (env : Environment σ) (choice : ScenarioChoice) : Scenario σ Unit := do
  takeAll env (← choice.work env).body

/-- A scenario comes back after its preparation has failed, or after its work. -/
theorem run_scenario {env : Environment σ} {choice : ScenarioChoice} {start : Start σ}
    {result : Except ScenarioError Unit} {report : Report} {now : Millis} {w : σ}
    (h : start.run (choice.scenario env) = ⟨some (result, report), now, w⟩) :
    (∃ e, start.run (choice.work env) = ⟨some (.error e, report), now, w⟩ ∧ result = .error e ∧
      start.run (uncleaned env choice) = ⟨some (result, report), now, w⟩) ∨
    ∃ work now₁ w₁ report₁ now₂ w₂,
      start.run (choice.work env) = ⟨some (.ok work, report₁), now₁, w₁⟩ ∧
      Start.run ⟨report₁, start.limit, now₁, w₁⟩ (takeAll env work.body) =
        ⟨some (result, report), now₂, w₂⟩ ∧
      start.run (uncleaned env choice) = ⟨some (result, report), now₂, w₂⟩ ∧
      if work.leavesCleanup result then
        (undo env work.cleanup).run start.limit now₂ w₂ = ⟨some (), now, w⟩
      else now = now₂ ∧ w = w₂ := by
  simp only [Start.run, ScenarioChoice.scenario, uncleaned, run_bind,
    Timed.run_bind] at h ⊢
  rcases hwork : ((choice.work env).run.run start.report).run start.limit start.now start.world
    with ⟨_ | ⟨e | work, report₁⟩, now₁, w₁⟩
  · simp [hwork] at h
  · left
    simp only [hwork, Timed.run_pure] at h ⊢
    cases h
    exact ⟨e, rfl, rfl, rfl⟩
  right
  simp only [hwork, run_work, Timed.run_bind] at h ⊢
  rcases hbody : ((takeAll env work.body).run.run report₁).run start.limit now₁ w₁
    with ⟨_ | ⟨result', report'⟩, now₂, w₂⟩
  · simp [hbody] at h
  refine ⟨work, now₁, w₁, report₁, now₂, w₂, rfl, ?_⟩
  simp only [hbody] at h ⊢
  split at h
  next hclean =>
    rw [Timed.run_bind] at h
    rcases hundo : (undo env work.cleanup).run start.limit now₂ w₂ with ⟨_ | ⟨⟩, now₃, w₃⟩
    · simp [hundo] at h
    · simp only [hundo, Timed.run_pure] at h
      cases h
      exact ⟨rfl, rfl, by simp [hclean]⟩
  next hclean =>
    cases h
    exact ⟨rfl, rfl, by simp [hclean]⟩

/-! ## Where a part leads -/

/-- Every run of the part from a world with `P` ends as `Q` says, whatever the report. -/
def Leads (P : σ → Prop) (x : Scenario σ α) (Q : Option (Except ScenarioError α) → σ → Prop) :
    Prop :=
  ∀ report, Timed.Leads P (x.run.run report) fun r => Q (r.map (·.1))

namespace Leads

variable {P : σ → Prop} {Q : Option (Except ScenarioError α) → σ → Prop}

theorem of_run {x : Scenario σ α} (h : Leads P x Q) {start : Start σ} (hP : P start.world)
    {value : Option (Except ScenarioError α × Report)} {now : Millis} {w : σ}
    (hrun : start.run x = ⟨value, now, w⟩) : Q (value.map (·.1)) w :=
  (h start.report).of_run hP hrun

theorem mono {x : Scenario σ α} {P' : σ → Prop} {Q' : Option (Except ScenarioError α) → σ → Prop}
    (h : Leads P x Q) (hP : ∀ w, P' w → P w) (hQ : ∀ r w, Q r w → Q' r w) : Leads P' x Q' :=
  fun report => (h report).mono hP fun _ => hQ _

theorem mono_post {x : Scenario σ α} {Q' : Option (Except ScenarioError α) → σ → Prop}
    (h : Leads P x Q) (hQ : ∀ r w, Q r w → Q' r w) : Leads P x Q' :=
  h.mono (fun _ hw => hw) hQ

theorem pure {a : α} (h : ∀ w, P w → Q (some (.ok a)) w) : Leads P (pure a) Q :=
  fun _ => .pure h

theorem throw {e : ScenarioError} (h : ∀ w, P w → Q (some (.error e)) w) :
    Leads P (throw e : Scenario σ α) Q :=
  fun _ => .pure h

theorem lift {x : Except ScenarioError α} (h : ∀ w, P w → Q (some x) w) :
    Leads P (ExceptT.mk (Pure.pure x) : Scenario σ α) Q :=
  fun _ => .pure h

theorem bind {x : Scenario σ α} {f : α → Scenario σ β}
    {R : Option (Except ScenarioError β) → σ → Prop} (hx : Leads P x Q)
    (hf : ∀ a, Leads (Q (some (.ok a))) (f a) R)
    (herror : ∀ e w, Q (some (.error e)) w → R (some (.error e)) w)
    (hcut : ∀ w, Q none w → R none w) : Leads P (x >>= f) R := by
  intro report
  rw [run_bind]
  refine (hx report).bind (fun r => ?_) hcut
  obtain ⟨_ | a, report'⟩ := r
  · exact .pure (herror _)
  · exact hf a report'

theorem act {x : Action σ ScenarioError α} (h : Timed.Leads P x.run Q) : Leads P (act x) Q := by
  intro report
  rw [run_act]
  exact h.map (fun _ _ hw => hw) (fun _ hw => hw)

theorem time {x : Timed σ α} (h : Timed.Leads P x fun a => Q (a.map .ok)) :
    Leads P (time x) Q := by
  intro report
  rw [run_time]
  exact h.map (fun _ _ hw => hw) (fun _ hw => hw)

end Leads

end RouteWatch.Scenario
