import RouteWatch.Proofs.Scenario.Cleanup
import RouteWatch.Proofs.Simulation.Environment
import RouteWatch.Proofs.Simulation.Faults

/-!
# Scenarios clean up the simulated cluster

No call to the simulated cluster fails, and so a scenario always cleans up after itself there: the
labels are what they were, and no advertisement is declared that was not declared before.
-/

namespace RouteWatch.Simulation

open Scenario

/-! ## What is declared after changes -/

theorem mem_effects_redeclare {cs : List Change} {names : List String} {name : String}
    (h : name ∈ effects redeclare cs names) :
    name ∈ names ∨ ∃ ra, .advertise ra ∈ cs ∧ name = ra.name := by
  induction cs generalizing names with
  | nil => exact .inl h
  | cons c cs ih =>
    have h : name ∈ effects redeclare cs (redeclare c names) := h
    rcases ih h with h | ⟨ra, hra, rfl⟩
    · cases c with
      | advertise ra =>
        rcases List.mem_append.1 h with h | h
        · exact .inl h
        · exact .inr ⟨ra, List.mem_cons_self, List.mem_singleton.1 h⟩
      | withdraw ra => exact .inl (List.mem_filter.1 h).1
      | label | unlabel | disrupt => exact .inl h
    · exact .inr ⟨ra, List.mem_cons_of_mem _ hra, rfl⟩

/-- What is withdrawn and not declared after that is not declared in the end. -/
theorem not_mem_effects_redeclare {first later : List Change} (names : List String)
    {ra : RouteAdvertisement} (hlater : ∀ ra', .advertise ra' ∉ later) :
    ra.name ∉ effects redeclare (first ++ .withdraw ra :: later) names := by
  intro h
  rw [effects_append] at h
  have h : ra.name ∈ effects redeclare later (redeclare (.withdraw ra) (effects redeclare first names)) :=
    h
  rcases mem_effects_redeclare h with h | ⟨ra', hra', -⟩
  · simp [redeclare] at h
  · exact hlater ra' hra'

/-- What a scenario declares is not declared in the end, and nothing is that was not before. -/
theorem undeclared {names names' : List String} {result : Except ScenarioError Unit}
    {t cleanup : Trace} {works : Work → Prop}
    (h : History redeclare works names result t cleanup names')
    (hworks : ∀ work, works work → ∃ v ra, work.Restores v ra)
    (hclean : ∀ q good, .answered q good ∈ cleanup → good = true) :
    (∀ ra, .sent (.change (.advertise ra)) ∈ t → ra.name ∉ names') ∧
      ∀ name ∈ names', name ∈ names := by
  cases h with
  | unprepared asks => exact ⟨fun ra h => absurd rfl (asks _ h _), fun _ h => h⟩
  | @uncleaned work t₀ t₁ prepared asks body succeeds =>
    obtain ⟨v, ra, hrestores⟩ := hworks work prepared
    obtain ⟨-, first, later, hbody, hlater⟩ := hrestores.undone succeeds
    have hnot : ra.name ∉ effects redeclare (changesOf work.body) names := by
      rw [hbody, changesOf, List.flatMap_append, List.flatMap_cons]
      exact not_mem_effects_redeclare names fun ra' h => hlater ra' (mem_changesOf.1 h)
    refine ⟨fun ra' h => hrestores.eq_of_sent asks body h ▸ hnot, fun name hname => ?_⟩
    rcases mem_effects_redeclare hname with h | ⟨ra', hra', rfl⟩
    · exact h
    · obtain rfl := hrestores.advertised ra' (mem_changesOf.1 hra')
      exact absurd hname hnot
  | @cleaned work _ t₀ t₁ _ taken _ prepared asks body begins undone effective =>
    obtain ⟨v, ra, hrestores⟩ := hworks work prepared
    obtain ⟨first, later, hcleanup⟩ := List.append_of_mem hrestores.withdrawn
    have hnot : ra.name ∉ names' := by
      rw [effective hclean, hcleanup]
      exact not_mem_effects_redeclare _ fun ra' h => hrestores.quiet ra' (by simp [hcleanup, h])
    refine ⟨fun ra' h => ?_, fun name hname => ?_⟩
    · have h := (List.mem_append.1 h).resolve_right (hrestores.not_sent undone)
      exact hrestores.eq_of_sent asks body h ▸ hnot
    · have h := hname
      rw [effective hclean] at h
      rcases mem_effects_redeclare h with h | ⟨ra', hra', -⟩
      · rcases mem_effects_redeclare h with h | ⟨ra', hra', rfl⟩
        · exact h
        · obtain rfl := hrestores.advertised ra' (begins.subset (mem_changesOf.1 hra'))
          exact absurd hname hnot
      · exact absurd hra' (hrestores.quiet ra')

/-! ## The cleanup -/

namespace Cluster

variable (c : Cluster)

/-- Every change of a cleanup is made. -/
theorem leads_undo_good (cleanup : List Change) (t : Trace) :
    Timed.Leads (fun s => s.2 = t) (undo (recorded c.environment) cleanup) fun _ s =>
      ∃ t', s.2 = t ++ t' ∧ ∀ e ∈ t', ∀ q good, e = .answered q good → good = true := by
  induction cleanup generalizing t with
  | nil => exact .pure fun s hs => ⟨[], by simpa using hs, nofun⟩
  | cons change cleanup ih =>
    have hfirst : Timed.Leads (fun s => s.2 = t)
        (discard (change.make (recorded c.environment)).run) fun r s =>
        r = some () ∧ s.2 = t ++ [.sent (.change change), .answered (.change change) true] := by
      rw [make_recorded]
      refine Timed.Leads.map (R := fun r s => r = some (.ok ()) ∧
          s.2 = t ++ [.sent (.change change), .answered (.change change) true]) ?_
        (fun _ s hs => ⟨rfl, hs.2⟩) fun s hs => nomatch hs.1
      rintro limit now s rfl
      have hrun := c.run_make change limit now s.1
      have hrecord := run_record (.change change) Except.isOk (change.make c.environment).run limit
        now s
      rw [hrun] at hrecord
      exact ⟨by rw [Request.recordAction, ExceptT.run_mk, hrecord],
        by rw [Request.recordAction, ExceptT.run_mk, hrecord]; rfl⟩
    refine hfirst.bind (fun _ limit now s hs => ?_) nofun
    obtain ⟨t', ht', hgood⟩ := ih _ limit now s hs.2
    refine ⟨_, ht'.trans (List.append_assoc ..), fun e he q good h => ?_⟩
    subst h
    simp only [List.cons_append, List.nil_append, List.mem_cons, reduceCtorEq, false_or,
      Event.answered.injEq] at he
    rcases he with ⟨-, rfl⟩ | he
    · rfl
    · exact hgood _ he q good rfl

/-- Nothing is declared after a scenario that was not declared before. -/
theorem declared_subset_of_run {choice : ScenarioChoice} {start : Start World}
    {result : Except ScenarioError Unit} {report : Report} {now : Millis} {w : World}
    (hrun : start.run (choice.scenario c.environment) = ⟨some (result, report), now, w⟩) :
    w.declared ⊆ start.world.declared := by
  have hclean : ∀ q good, .answered q good ∈ start.cleanupTrace c.environment choice →
      good = true := by
    intro q good h
    exact of_mem_cleanupTrace c.leads_undo_good (by rw [hrun]; rfl) h q good rfl
  have hhistory := scenario_history c.tracks_declared
    (leads_work_restores c.keepsLabels choice start) hrun
  intro name hname
  exact (undeclared hhistory (fun _ h => ⟨_, h⟩) hclean).2 name hname

end Cluster

/-- In every environment that keeps labels, a scenario that comes back after a cleanup that went
well has brought all labels back and has withdrawn every advertisement after it declared it. In the
simulated cluster every scenario comes back like that: the labels are those from before, and no
advertisement is declared that the scenario declared or that was not declared before. -/
theorem scenario_cleans_up :
    (∀ (σ : Type) (env : Environment σ) (view : σ → Labels) (choice : ScenarioChoice)
      (start : Start σ), KeepsLabels env view →
      (start.run (choice.scenario env)).value?.isSome →
      (∀ q good, .answered q good ∈ start.cleanupTrace env choice → good = true) →
      view (start.run (choice.scenario env)).world = view start.world ∧
        ∀ before ra after,
          start.trace env choice = before ++ .sent (.change (.advertise ra)) :: after →
          .answered (.change (.withdraw ra)) true ∈ after) ∧
    ∀ (c : Cluster) (choice : ScenarioChoice) (report : Report) (now : Millis) (world : World),
      let start : Start World := { report, now, world }
      let e := start.run (choice.scenario c.environment)
      e.value?.isSome ∧ (∀ object, e.world.labelsOf object = world.labelsOf object) ∧
        (∀ ra, .sent (.change (.advertise ra)) ∈ start.trace c.environment choice →
          ra.name ∉ e.world.declared) ∧
        ∀ name ∈ e.world.declared, name ∈ world.declared := by
  constructor
  · intro σ env view choice start hkeeps hback hclean
    exact ⟨labels_restored hkeeps hback hclean,
      fun before ra after ht => advertisements_withdrawn hkeeps hback hclean ht⟩
  intro c choice report now world start e
  obtain ⟨⟨result, report'⟩, now', w', hrun⟩ := returns_scenario c.answers choice report now world
  have hrun : e = ⟨some (result, report'), now', w'⟩ := hrun
  have hclean : ∀ q good, .answered q good ∈ start.cleanupTrace c.environment choice →
      good = true := fun q good h =>
    of_mem_cleanupTrace c.leads_undo_good (by rw [show start.run _ = e from rfl, hrun]; rfl) h
      q good rfl
  have hlabels : e.world.label = world.label :=
    labels_restored c.keepsLabels (by rw [show start.run _ = e from rfl, hrun]; rfl) hclean
  have hdeclared := undeclared (scenario_history c.tracks_declared
    (leads_work_restores c.keepsLabels choice start) hrun) (fun _ h => ⟨_, h⟩) hclean
  refine ⟨by rw [hrun]; rfl, fun object => Table.ext_get? (congrFun hlabels object), ?_⟩
  rw [hrun]
  exact hdeclared

/-- One network is labeled and the other one cannot be unlabeled: all labels are what they were. -/
theorem scenario_cleans_up_after_fault :
    let env := withFaults [⟨.unlabel, 1⟩] (⟨dualNodes, {}⟩ : Cluster).environment
    let choice := ScenarioChoice.selector ⟨"selected", ⟨"advertise", "true"⟩, "blue", "red"⟩
    let start : Start (World × Calls) :=
      { report := .ofTopology "selector" "" dualNodes, now := 0, world := ({}, []) }
    .answered (.change (.label (.network "blue") "advertise" "true")) true ∈
        start.trace env choice ∧
      (start.run (choice.scenario env)).world.1.label = start.world.1.label := by
  intro env choice start
  have hgood : ∀ e ∈ start.cleanupTrace env choice, e.isGood = true := by decide +kernel
  exact ⟨by decide +kernel, (scenario_cleans_up.1 _ env (fun s => s.1.label) choice start
    (keepsLabels_withFaults (Cluster.keepsLabels _) _) (by decide +kernel)
    fun q good h => hgood _ h).1⟩

end RouteWatch.Simulation
