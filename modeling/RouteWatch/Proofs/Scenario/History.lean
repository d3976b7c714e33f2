import RouteWatch.Proofs.Scenario.Effects

/-!
# The history of a scenario

A scenario that comes back has failed in its preparation, or has done its work and was left nothing
to clean up, or has cleaned up after its work. `scenario_history` says what its trace is in each
case, and what has become of the world.
-/

namespace RouteWatch.Scenario

variable {σ α β : Type}

/-- A run on record ends as the run does. -/
theorem Start.run_onRecord (start : Start σ) (env : Environment σ) (choice : ScenarioChoice) :
    start.run (choice.scenario env) =
      let e := start.onRecord.run (choice.scenario (recorded env))
      ⟨e.value?, e.now, e.world.1⟩ :=
  (mirrors_scenario env choice start.report start.limit start.now (start.world, [])).symm

/-- What a run of the scenario leaves that comes back with this result: its trace, the trace of its
cleanup, and what there is in the end. -/
inductive History (effect : Change → β → β) (works : Work → Prop) (v : β) :
    Except ScenarioError Unit → Trace → Trace → β → Prop
  | unprepared {e t₀} (asks : OnlyAsks t₀) : History effect works v (.error e) t₀ [] v
  /-- The work was done, and nothing was left to its cleanup. -/
  | uncleaned {work t₀ t₁} (prepared : works work) (asks : OnlyAsks t₀)
      (body : Leave work.body (some (.ok ())) t₁) (succeeds : work.onFailureOnly = true) :
      History effect works v (.ok ()) (t₀ ++ t₁) [] (effects effect (changesOf work.body) v)
  /-- The work was done, and then the cleanup. -/
  | cleaned {work result t₀ t₁ t₂ taken v'} (prepared : works work) (asks : OnlyAsks t₀)
      (body : Leave work.body (some result) t₁) (begins : taken <+: work.body)
      (cleanup : Undo work.cleanup (some ()) t₂)
      (effective : (∀ q good, .answered q good ∈ t₂ → good = true) →
        v' = effects effect work.cleanup (effects effect (changesOf taken) v)) :
      History effect works v result (t₀ ++ t₁ ++ t₂) t₂ v'

variable {env : Environment σ} {effect : Change → β → β} {view : σ → β} {works : Work → Prop}
  {choice : ScenarioChoice} {start : Start σ}

theorem Start.cleanupTrace_eq (t t' : Trace) (htrace : start.trace env choice = t ++ t')
    (huncleaned : (start.onRecord.run (uncleaned (recorded env) choice)).world.2 = t) :
    start.cleanupTrace env choice = t' := by
  rw [Start.cleanupTrace, htrace, huncleaned, List.drop_left]

theorem scenario_history (htracks : Tracks env effect view)
    (hworks : Leads (· = start.world) (choice.work env) fun r _ => ∀ a, r = some (.ok a) → works a)
    {result : Except ScenarioError Unit} {report : Report} {now : Millis} {w : σ}
    (hback : start.run (choice.scenario env) = ⟨some (result, report), now, w⟩) :
    History effect works (view start.world) result (start.trace env choice)
      (start.cleanupTrace env choice) (view w) := by
  -- the same run on record
  rw [Start.run_onRecord] at hback
  have htrace : start.trace env choice
    = (start.onRecord.run (choice.scenario (recorded env))).world.2 := rfl
  rcases hrun : start.onRecord.run (choice.scenario (recorded env)) with ⟨value, now', s⟩
  rw [hrun] at hback htrace
  obtain ⟨rfl, rfl, rfl⟩ : value = some (result, report) ∧ now' = now ∧ s.1 = w := by
    simpa using hback
  have hmirrors : Mirrors (choice.work (recorded env)) (choice.work env) := .work env choice
  have hkept := hmirrors.leads (gives_work_of_keeps (htracks.labels (view start.world))
    (htracks.egressAssignments (view start.world)) choice)
  rcases run_scenario hrun with ⟨e, hwork, rfl, huncleaned⟩ |
    ⟨work, now₁, s₁, report₁, now₂, s₂, hwork, hbody, huncleaned, hcleanup⟩
  · have hasks := (gives_work_recorded env choice).of_run (by simp [Start.onRecord, OnlyAsks]) hwork
    have hview : view s.1 = view start.world := (hkept.of_run rfl hwork).1
    rw [Start.cleanupTrace_eq s.2 [] (by simpa using htrace) (by rw [huncleaned]),
      htrace, hview]
    exact .unprepared hasks.1
  have hasks := (gives_work_recorded env choice).of_run (by simp [Start.onRecord, OnlyAsks]) hwork
  have hview : view s₁.1 = view start.world := (hkept.of_run rfl hwork).1
  have hprepared := (hmirrors.leads hworks).of_run rfl hwork work rfl
  obtain ⟨t₁, hleave, ht₁⟩ := (leads_takeAll_recorded env work.body s₁.2).of_run rfl hbody
  obtain ⟨taken, hprefix, heffect, hok⟩ := ((Mirrors.takeAll env work.body).leads
    (leads_takeAll_effect htracks work.body (view s₁.1))).of_run rfl hbody rfl
  rw [hview] at heffect
  split at hcleanup
  next hleaves =>
    obtain ⟨t₂, hundo, ht₂, heffects⟩ :=
      (leads_undo_effect htracks work.cleanup (view s₂.1) s₂.2).of_run ⟨rfl, rfl⟩ hcleanup
    rw [Start.cleanupTrace_eq s₂.2 t₂ (htrace.trans ht₂) (by rw [huncleaned]),
      htrace, ht₂, ht₁]
    refine .cleaned hprepared hasks.1 hleave hprefix hundo fun hgood => ?_
    rw [heffects rfl hgood, heffect]
  next hleaves =>
    obtain ⟨-, rfl⟩ := hcleanup
    rw [Start.cleanupTrace_eq s.2 [] (by simpa using htrace) (by rw [huncleaned]),
      htrace, ht₁, heffect]
    obtain ⟨hfailure, rfl⟩ := Work.ok_of_not_leavesCleanup hleaves
    rw [hok rfl]
    exact .uncleaned hprepared hasks.1 hleave hfailure

/-- What is true of all that a cleanup leaves is true of the trace of the cleanup. -/
theorem of_mem_cleanupTrace {P : Event → Prop}
    (hundo : ∀ cleanup t, Timed.Leads (fun s => s.2 = t) (undo (recorded env) cleanup) fun _ s =>
      ∃ t', s.2 = t ++ t' ∧ ∀ e ∈ t', P e)
    (hback : (start.run (choice.scenario env)).value?.isSome) {e : Event}
    (he : e ∈ start.cleanupTrace env choice) : P e := by
  rw [Start.run_onRecord] at hback
  have htrace : start.trace env choice
    = (start.onRecord.run (choice.scenario (recorded env))).world.2 := rfl
  rcases hrun : start.onRecord.run (choice.scenario (recorded env)) with ⟨_ | ⟨result, report⟩, now, s⟩
  · simp [hrun] at hback
  rw [hrun] at htrace
  have hnone : (start.onRecord.run (uncleaned (recorded env) choice)).world.2 = s.2 → P e := by
    intro h
    rw [Start.cleanupTrace_eq s.2 [] (by simpa using htrace) h] at he
    cases he
  rcases run_scenario hrun with ⟨_, -, -, huncleaned⟩ |
    ⟨work, now₁, s₁, report₁, now₂, s₂, -, -, huncleaned, hcleanup⟩
  · exact hnone (by rw [huncleaned])
  split at hcleanup
  next =>
    obtain ⟨t', ht', hP⟩ := (hundo work.cleanup s₂.2).of_run rfl hcleanup
    rw [Start.cleanupTrace_eq s₂.2 t' (htrace.trans ht') (by rw [huncleaned])] at he
    exact hP e he
  next =>
    obtain ⟨-, rfl⟩ := hcleanup
    exact hnone (by rw [huncleaned])

end RouteWatch.Scenario
