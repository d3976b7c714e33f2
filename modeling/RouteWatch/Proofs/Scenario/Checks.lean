import RouteWatch.Proofs.Scenario.Effects

/-!
# The checks of a scenario

Each scenario has its checks in a fixed order. Those of the move of an egress address depend on who
holds it; the others are known from the options.

* `gives_checks`: the work of a scenario makes these checks, and its options are in order;
* `mem_checks_of_sent`: no other plan is ever waited for.
-/

namespace RouteWatch.Scenario

variable {σ : Type}

/-- The plan of the check that the step makes, with its settings. -/
def Step.check? : Step → Option (Plan × Poll.Settings)
  | .change _ => none
  | .check plan settings => some (plan, settings)
  | .checkStable plan settings => some (stablePlan plan, { settings with timeout := 0 })

/-- What is awaited at the end of a recovery. -/
def RecoveryOptions.plan (o : RecoveryOptions) (env : Environment σ) : Plan :=
  ({ description := s!"full mesh of network {NetworkName.default} after {o.disruption}" } :
    Plan).extend (defaultMesh env)

/-- The checks of the scenario, in their order, where the egress address is held like this. -/
def checks (env : Environment σ) (held : List EgressAssignment) :
    ScenarioChoice → List (Plan × Poll.Settings)
  | .defaultNetwork _ =>
    let withdrawn := Mesh.routes env.topology .default false
    [(Mesh.sessions env.topology, .neighbor),
      (defaultMesh env, .routePropagation),
      (withdrawn, .routePropagation),
      (stablePlan withdrawn, { Poll.Settings.routePropagation with timeout := 0 })]
  | .selector o => [(o.plan env.topology, .routePropagation)]
  | .failover o =>
    match o.move env.topology held with
    | .ok m => [(Mesh.egressRoute m.egress m.holderIp true, .routePropagation), (m.plan, .failover)]
    | .error _ => []
  | .recovery o =>
    [(Mesh.sessions env.topology, .neighbor),
      (defaultMesh env, .routePropagation),
      (o.plan env, .routePropagation)]

/-- The options of the scenario are in order, where the egress address is held like this. -/
def InOrder (topology : Topology) (held : List EgressAssignment) : ScenarioChoice → Prop
  | .defaultNetwork _ | .recovery _ => Mesh.hasSubnets topology .default = true
  | .selector o =>
    o.selected ≠ o.other ∧ Mesh.hasSubnets topology (.ofClusterWide o.selected) = true ∧
      Mesh.hasSubnets topology (.ofClusterWide o.other) = true
  | .failover o => ∃ m, o.move topology held = .ok m

variable {env : Environment σ} {choice : ScenarioChoice}

/-- The body of the work makes the checks of the scenario. -/
def MakesChecks (env : Environment σ) (choice : ScenarioChoice) (work : Work) : Prop :=
  ∃ held, work.body.filterMap Step.check? = checks env held choice

theorem gives_checks (env : Environment σ) (choice : ScenarioChoice) :
    Gives (fun _ => True) (choice.work env) (MakesChecks env choice) := by
  have hask : ∀ {τ : Type} (x : Action σ ScenarioError τ),
      Gives (fun _ => True) (act x) fun _ => True :=
    fun _ => .act fun _ _ _ _ => ⟨trivial, fun _ _ => trivial⟩
  have hsave : ∀ object key, Gives (fun _ => True) (save env object key) fun _ => True :=
    fun object key => (hask _).bind fun _ _ => .pure trivial
  cases choice with
  | defaultNetwork name =>
    exact (Gives.requireSubnets _ _).bind fun _ _ => .pure ⟨[], rfl⟩
  | selector o =>
    exact (Gives.lift (Q := fun _ => True) fun _ _ => trivial).bind fun _ _ =>
      (Gives.requireSubnets _ _).bind fun _ _ => (Gives.requireSubnets _ _).bind fun _ _ =>
        (hsave _ _).bind fun _ _ => (hsave _ _).bind fun _ _ => .pure ⟨[], rfl⟩
  | failover o =>
    refine (hask _).bind fun held _ =>
      (Gives.lift (Q := fun m => o.move env.topology held = .ok m) fun _ h => h).bind fun m hm =>
        (hsave _ _).bind fun _ _ => (hsave _ _).bind fun _ _ => .pure ⟨held, ?_⟩
    simp only [checks, hm]
    rfl
  | recovery o =>
    exact (Gives.requireSubnets _ _).bind fun _ _ => .pure ⟨[], rfl⟩

/-! ## The calls of a run -/

/-- A run makes the calls of its preparation, of the steps of its work, and of its cleanup. -/
theorem calls_trace {P : Request → Prop} {works : Work → Prop}
    (hworks : Gives (fun _ => True) (choice.work env) works)
    (hlabels : ∀ object, P (.labels object)) (hegress : ∀ name, P (.egressAssignments name))
    (hbody : ∀ work, works work → ∀ step ∈ work.body, P step.request)
    (hcleanup : ∀ c, P (.change c)) (start : Start σ) : OnlyCalls P (start.trace env choice) := by
  -- the calls are read off the run on record, the work off the plain one
  have hprepared : Leads (fun s => OnlyCalls P s.2) (choice.work (recorded env)) fun r s =>
      OnlyCalls P s.2 ∧ ∀ work, r = some (.ok work) → works work := by
    have hkeeps : Gives (fun s => OnlyCalls P s.2) (choice.work (recorded env)) fun _ => True :=
      gives_work_of_keeps (fun object => keeps_calls (hlabels object) _ _)
        (fun name => keeps_calls (hegress name) _ _) choice
    exact fun report limit now s hs =>
      ⟨(hkeeps report limit now s hs).1,
        ((Mirrors.work env choice).leads hworks report limit now s trivial).2⟩
  have htake : ∀ work, works work → ∀ report,
      Timed.Keeps (fun s => OnlyCalls P s.2) ((takeAll (recorded env) work.body).run.run report) := by
    intro work hwork report limit now s hs e he
    obtain ⟨t, hleave, ht⟩ := leads_takeAll_recorded env work.body s.2 report limit now s rfl
    rcases List.mem_append.1 (ht ▸ he) with he | he
    · exact hs e he
    · obtain ⟨step, hstep, hrequest⟩ := hleave.request_of_mem he
      exact hrequest ▸ hbody work hwork step hstep
  have hundo : ∀ cleanup, Timed.Keeps (fun s => OnlyCalls P s.2) (undo (recorded env) cleanup) := by
    intro cleanup limit now s hs e he
    obtain ⟨t, hundo, ht⟩ := leads_undo_recorded env cleanup s.2 limit now s rfl
    rcases List.mem_append.1 (ht ▸ he) with he | he
    · exact hs e he
    · obtain ⟨c, -, hrequest⟩ := hundo.request_of_mem he
      exact hrequest ▸ hcleanup c
  have hscenario : Leads (fun s => OnlyCalls P s.2) (choice.scenario (recorded env))
      fun _ s => OnlyCalls P s.2 := by
    refine hprepared.bind (fun work report => ?_) (fun _ _ hs => hs.1) fun _ hs => hs.1
    rw [run_work]
    rintro limit now s ⟨hs, hwork⟩
    refine Timed.Keeps.bind (htake work (hwork work rfl) report) (fun r => ?_) limit now s hs
    split
    · exact (hundo _).bind fun _ => .pure r
    · exact .pure r
  exact hscenario start.report start.limit start.now (start.world, []) nofun

/-- A scenario waits for the plans of its checks only. -/
theorem mem_checks_of_sent {start : Start σ} {plan : Plan} {settings : Poll.Settings}
    (h : .sent (.converge plan settings) ∈ start.trace env choice) :
    ∃ held, (plan, settings) ∈ checks env held choice := by
  refine calls_trace
    (P := fun r => ∀ plan settings, r = .converge plan settings →
      ∃ held, (plan, settings) ∈ checks env held choice)
    (gives_checks env choice) (fun _ => nofun) (fun _ => nofun) ?_ (fun _ => nofun) start
    (.sent (.converge plan settings)) h plan settings rfl
  rintro work ⟨held, hchecks⟩ step hstep plan settings hrequest
  refine ⟨held, hchecks ▸ List.mem_filterMap.2 ⟨step, hstep, ?_⟩⟩
  cases step with
  | change c => cases hrequest
  | check plan settings => cases hrequest; rfl
  | checkStable plan settings => cases hrequest; rfl

/-! ## Answers on a script -/

/-- The next answer of the script, which is good where the script has ended. -/
def nextAnswer {α : Type} (a : α) : Action (List Bool) ScenarioError α :=
  ExceptT.mk <| Timed.act fun _ script =>
    (if script.headD true then .ok a else .error .advertisementsDisabled, script.tail)

/-- An environment in which nothing happens, and of which each answer is good or not as the script
says. -/
def scripted (topology : Topology) : Environment (List Bool) where
  topology
  routers := []
  statics := []
  converge _ _ := Timed.act fun _ script =>
    (⟨if script.headD true then .converged else .timedOut, 1, 0, [], none⟩, script.tail)
  advertise _ := nextAnswer ()
  withdraw _ := nextAnswer ()
  labels _ := nextAnswer ∅
  label _ _ _ := nextAnswer ()
  unlabel _ _ := nextAnswer ()
  egressAssignments _ := nextAnswer []
  disrupt _ := nextAnswer ()

end RouteWatch.Scenario
