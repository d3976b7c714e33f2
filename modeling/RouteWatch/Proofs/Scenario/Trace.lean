import RouteWatch.Proofs.Scenario.Parts

/-!
# The trace of a scenario

The calls that a scenario makes are put on record by an environment that does what another one does
and keeps a trace beside its world. A call leaves two events: that it was made, and that it came
back, well or not. A call that never comes back leaves the first one only.

* `mirrors_scenario`: the record changes nothing, a scenario ends as it does without it;
* `leads_takeAll_recorded`, `leads_undo_recorded`: what the steps and the cleanup leave in the trace;
* `Start.trace` and `Start.cleanupTrace`: all that a run leaves, and what its cleanup adds to it.
-/

namespace RouteWatch.Scenario

/-! ## Requests and events -/

/-- A call to an environment. -/
inductive Request where
  | change (c : Change)
  | converge (plan : Plan) (settings : Poll.Settings)
  /-- The labels of the object are asked for. -/
  | labels (object : ObjectKey)
  /-- The nodes that hold the egress address are asked for. -/
  | egressAssignments (name : String)
  deriving DecidableEq

/-- Something that happens in the run of a scenario. -/
inductive Event where
  /-- The call is made. -/
  | sent (r : Request)
  /-- The call comes back: the action succeeded, or the plan converged, or not. -/
  | answered (r : Request) (good : Bool)
  deriving DecidableEq

/-- The call that is made or comes back. -/
def Event.request : Event → Request
  | .sent r => r
  | .answered r _ => r

/-- The call came back well, if it came back. -/
def Event.isGood : Event → Bool
  | .sent _ => true
  | .answered _ good => good

/-- What happened, in order. -/
abbrev Trace := List Event

variable {σ τ α β : Type}

/-- The event is put on record. -/
def note (e : Event) : Timed (σ × Trace) Unit :=
  Timed.act fun _ s => ((), (s.1, s.2 ++ [e]))

/-- The computation that answers a request, on record. -/
def Request.record (r : Request) (good : α → Bool) (x : Timed σ α) : Timed (σ × Trace) α := do
  note (.sent r)
  let answer ← x.beside Trace
  note (.answered r (good answer))
  return answer

@[inherit_doc Request.record]
def Request.recordAction (r : Request) (x : Action σ ScenarioError α) :
    Action (σ × Trace) ScenarioError α :=
  ExceptT.mk (r.record Except.isOk x.run)

/-- The environment that does the same and keeps a trace. -/
def recorded (env : Environment σ) : Environment (σ × Trace) where
  topology := env.topology
  routers := env.routers
  statics := env.statics
  converge plan settings :=
    (Request.converge plan settings).record Convergence.converged (env.converge plan settings)
  advertise ra := (Request.change (.advertise ra)).recordAction (env.advertise ra)
  withdraw ra := (Request.change (.withdraw ra)).recordAction (env.withdraw ra)
  labels object := (Request.labels object).recordAction (env.labels object)
  label object key value :=
    (Request.change (.label object key value)).recordAction (env.label object key value)
  unlabel object key :=
    (Request.change (.unlabel object key)).recordAction (env.unlabel object key)
  egressAssignments name :=
    (Request.egressAssignments name).recordAction (env.egressAssignments name)
  disrupt part := (Request.change (.disrupt part)).recordAction (env.disrupt part)

theorem make_recorded (env : Environment σ) (c : Change) :
    c.make (recorded env) = (Request.change c).recordAction (c.make env) := by
  cases c <;> rfl

theorem run_record (r : Request) (good : α → Bool) (x : Timed σ α) (limit : Option Millis)
    (now : Millis) (s : σ × Trace) :
    (r.record good x).run limit now s =
      match x.run limit now s.1 with
      | ⟨some a, now, w⟩ => ⟨some a, now, (w, s.2 ++ [.sent r, .answered r (good a)])⟩
      | ⟨none, now, w⟩ => ⟨none, now, (w, s.2 ++ [.sent r])⟩ := by
  simp only [Request.record, note, Timed.run_bind, Timed.act, Timed.beside]
  rcases x.run limit now s.1 with ⟨_ | a, now', w⟩ <;> simp

/-- What comes after an event that is not in the later part of a trace has all that part. -/
theorem mem_of_mem_later {first later before after : Trace} {e x : Event}
    (h : first ++ later = before ++ x :: after) (hx : x ∉ later) (he : e ∈ later) : e ∈ after := by
  rcases List.append_eq_append_iff.1 h with ⟨l, -, hl⟩ | ⟨l, -, hl⟩
  · exact absurd (by simp [hl]) hx
  · cases l with
    | nil => exact absurd (hl ▸ List.mem_cons_self : x ∈ [] ++ later) hx
    | cons y l =>
      obtain ⟨-, rfl⟩ := List.cons.inj hl
      exact List.mem_append_right l he

/-- What comes before an event that is not in the first part of a trace has all that part. -/
theorem mem_of_mem_first {first later before after : Trace} {e x : Event}
    (h : first ++ later = before ++ x :: after) (hx : x ∉ first) (he : e ∈ first) : e ∈ before := by
  rcases List.append_eq_append_iff.1 h with ⟨l, rfl, -⟩ | ⟨l, rfl, hl⟩
  · exact List.mem_append_left l he
  · cases l with
    | nil => simpa using he
    | cons y l =>
      obtain ⟨rfl, -⟩ := List.cons.inj hl
      exact absurd (by simp) hx

/-! ## The record changes nothing -/

/-- The computation on the world with something beside it does what the other one does on the
world alone. -/
def Shadows (y : Timed (σ × τ) α) (x : Timed σ α) : Prop :=
  ∀ limit now s, let e := y.run limit now s
    (⟨e.value?, e.now, e.world.1⟩ : Ending σ α) = x.run limit now s.1

namespace Shadows

theorem pure (a : α) : Shadows (pure a : Timed (σ × τ) α) (pure a) :=
  fun _ _ _ => rfl

theorem bind {y : Timed (σ × τ) α} {x : Timed σ α} {g : α → Timed (σ × τ) β}
    {f : α → Timed σ β} (hx : Shadows y x) (hf : ∀ a, Shadows (g a) (f a)) :
    Shadows (y >>= g) (x >>= f) := by
  intro limit now s
  have h := hx limit now s
  simp only [Timed.run_bind, ← h]
  rcases y.run limit now s with ⟨_ | a, now', s'⟩
  · rfl
  · exact hf a limit now' s'

theorem map {y : Timed (σ × τ) α} {x : Timed σ α} (f : α → β) (hx : Shadows y x) :
    Shadows (f <$> y) (f <$> x) := by
  simpa only [← bind_pure_comp] using hx.bind fun a => .pure (f a)

theorem wait (span : Millis) : Shadows (Timed.wait span : Timed (σ × τ) Unit)
    (Timed.wait span) := by
  intro limit now s
  cases limit with
  | none => rfl
  | some limit =>
    simp only [Timed.wait]
    split <;> rfl

theorem record (r : Request) (good : α → Bool) (x : Timed σ α) :
    Shadows (r.record good x) x := by
  intro limit now s
  rw [run_record]
  rcases x.run limit now s.1 with ⟨_ | a, now', w⟩ <;> rfl

theorem recordAction (r : Request) (x : Action σ ScenarioError α) :
    Shadows (r.recordAction x).run x.run :=
  record r Except.isOk x.run

end Shadows

/-- `Shadows` for parts of a scenario: results and reports are the same as well. -/
def Mirrors (y : Scenario (σ × τ) α) (x : Scenario σ α) : Prop :=
  ∀ report, Shadows (y.run.run report) (x.run.run report)

namespace Mirrors

theorem pure (a : α) : Mirrors (pure a : Scenario (σ × τ) α) (pure a) :=
  fun _ => .pure _

theorem lift (x : Except ScenarioError α) :
    Mirrors (ExceptT.mk (Pure.pure x) : Scenario (σ × τ) α) (ExceptT.mk (Pure.pure x)) :=
  fun _ => .pure _

theorem bind {y : Scenario (σ × τ) α} {x : Scenario σ α} {g : α → Scenario (σ × τ) β}
    {f : α → Scenario σ β} (hx : Mirrors y x) (hf : ∀ a, Mirrors (g a) (f a)) :
    Mirrors (y >>= g) (x >>= f) := by
  intro report
  rw [run_bind, run_bind]
  refine (hx report).bind fun r => ?_
  obtain ⟨_ | a, report'⟩ := r
  · exact .pure _
  · exact hf a report'

theorem act {y : Action (σ × τ) ScenarioError α} {x : Action σ ScenarioError α}
    (h : Shadows y.run x.run) : Mirrors (act y) (act x) := by
  intro report
  rw [run_act, run_act]
  exact h.map _

theorem time {y : Timed (σ × τ) α} {x : Timed σ α} (h : Shadows y x) :
    Mirrors (time y) (time x) := by
  intro report
  rw [run_time, run_time]
  exact h.map _

theorem check (env : Environment σ) (plan : Plan) (settings : Poll.Settings) :
    Mirrors (check (recorded env) plan settings) (check env plan settings) := by
  intro report
  rw [run_check, run_check]
  exact (Shadows.record _ _ _).map _

theorem take (env : Environment σ) (step : Step) :
    Mirrors (step.take (recorded env)) (step.take env) := by
  cases step with
  | change c =>
    refine act ?_
    rw [make_recorded]
    exact .recordAction _ _
  | check plan settings => exact check env plan settings
  | checkStable plan settings =>
    exact (time (.wait settings.interval)).bind fun _ => check env (stablePlan plan) _

theorem takeAll (env : Environment σ) (steps : List Step) :
    Mirrors (takeAll (recorded env) steps) (takeAll env steps) := by
  induction steps with
  | nil => exact .pure ()
  | cons step steps ih => exact (take env step).bind fun _ => ih

theorem undo (env : Environment σ) (cleanup : List Change) :
    Shadows (undo (recorded env) cleanup) (undo env cleanup) := by
  induction cleanup with
  | nil => exact .pure ()
  | cons c cleanup ih =>
    refine Shadows.bind (.map _ ?_) fun _ => ih
    rw [make_recorded]
    exact .recordAction _ _

theorem run (env : Environment σ) (work : Work) :
    Mirrors (work.run (recorded env)) (work.run env) := by
  intro report
  rw [run_work, run_work]
  refine (takeAll env work.body report).bind fun r => ?_
  split
  · exact (undo env work.cleanup).bind fun _ => .pure r
  · exact .pure r

theorem requireSubnets (env : Environment σ) (network : NetworkName) :
    Mirrors (requireSubnets (recorded env) network) (requireSubnets env network) := by
  intro report
  rw [run_requireSubnets, run_requireSubnets]
  exact .pure _

theorem save (env : Environment σ) (object : ObjectKey) (key : String) :
    Mirrors (save (recorded env) object key) (save env object key) :=
  (act (.recordAction _ _)).bind fun _ => .pure _

theorem work (env : Environment σ) (choice : ScenarioChoice) :
    Mirrors (choice.work (recorded env)) (choice.work env) := by
  cases choice with
  | defaultNetwork name => exact (requireSubnets env _).bind fun _ => .pure _
  | selector o =>
    exact (lift _).bind fun _ => (requireSubnets env _).bind fun _ => (requireSubnets env _).bind
      fun _ => (save env _ _).bind fun _ => (save env _ _).bind fun _ => .pure _
  | failover o =>
    exact (act (.recordAction _ _)).bind fun _ => (lift _).bind fun _ =>
      (save env _ _).bind fun _ => (save env _ _).bind fun _ => .pure _
  | recovery o => exact (requireSubnets env _).bind fun _ => .pure _

end Mirrors

/-- A scenario ends as it does without the record. -/
theorem mirrors_scenario (env : Environment σ) (choice : ScenarioChoice) :
    Mirrors (choice.scenario (recorded env)) (choice.scenario env) :=
  (Mirrors.work env choice).bind fun work => .run env work

/-- The start of a run on record. -/
def Start.onRecord (start : Start σ) : Start (σ × Trace) :=
  { start with world := (start.world, []) }

/-- The trace of a run of the scenario. -/
def Start.trace (start : Start σ) (env : Environment σ) (choice : ScenarioChoice) : Trace :=
  (start.onRecord.run (choice.scenario (recorded env))).world.2

/-- What the cleanup adds to the trace of a run: all that a run without the cleanup does not
leave. -/
def Start.cleanupTrace (start : Start σ) (env : Environment σ) (choice : ScenarioChoice) : Trace :=
  (start.trace env choice).drop
    (start.onRecord.run (uncleaned (recorded env) choice)).world.2.length

/-! ## What is left in the trace -/

/-- The request that a step makes. -/
def Step.request : Step → Request
  | .change c => .change c
  | .check plan settings => .converge plan settings
  | .checkStable plan settings => .converge (stablePlan plan) { settings with timeout := 0 }

theorem Step.eq_of_request {step : Step} {c : Change} (h : .change c = step.request) :
    step = .change c := by
  cases step with
  | change c' => exact congrArg Step.change (Request.change.inj h).symm
  | check | checkStable => cases h

theorem leads_record (r : Request) (good : α → Bool) (x : Timed σ α) (t : Trace) :
    Timed.Leads (fun s => s.2 = t) (r.record good x) fun answer s =>
      s.2 = t ++ .sent r :: (answer.map fun a => .answered r (good a)).toList := by
  rintro limit now s rfl
  rw [run_record]
  rcases x.run limit now s.1 with ⟨_ | a, now', w⟩ <;> rfl

theorem isOk_ensure (plan : Plan) (c : Convergence) : (c.ensure plan).isOk = c.converged := by
  rw [Convergence.ensure]
  cases c.converged <;> rfl

/-- A step makes its request, unless it is cut off before that. -/
theorem leads_take_recorded (env : Environment σ) (step : Step) (t : Trace) :
    Leads (fun s => s.2 = t) (step.take (recorded env)) fun result s =>
      (result = none ∧ s.2 = t) ∨
        s.2 = t ++ .sent step.request ::
          (result.map fun r => .answered step.request r.isOk).toList := by
  have hcheck : ∀ plan settings, Leads (fun s => s.2 = t) (check (recorded env) plan settings)
      fun result s => s.2 = t ++ .sent (.converge plan settings) ::
        (result.map fun r => .answered (.converge plan settings) r.isOk).toList := by
    intro plan settings report
    rw [run_check]
    refine (leads_record _ _ (env.converge plan settings) t).map (fun c s hs => ?_) fun s hs => hs
    simpa [isOk_ensure] using hs
  cases step with
  | change c =>
    refine .act ?_
    rw [make_recorded]
    exact (leads_record _ _ (c.make env).run t).mono_post fun _ _ hs => .inr hs
  | check plan settings => exact (hcheck plan settings).mono_post fun _ _ hs => .inr hs
  | checkStable plan settings =>
    refine Leads.bind (Q := fun r s => s.2 = t ∧ ∀ e, r ≠ some (.error e))
      (.time (.wait fun a s hs => ⟨hs, fun e he => ?_⟩)) (fun _ => ?_)
      (fun e _ hs => absurd rfl (hs.2 e)) (fun _ hs => .inl ⟨rfl, hs.1⟩)
    · cases a <;> cases he
    · exact (hcheck _ _).mono (fun _ hs => hs.1) fun _ _ hs => .inr hs

/-- The trace that steps leave: each one that is taken has succeeded, but for the last one. -/
inductive Leave : List Step → Option (Except ScenarioError Unit) → Trace → Prop
  | done : Leave [] (some (.ok ())) []
  | next {step steps r t} (rest : Leave steps r t) :
      Leave (step :: steps) r (.sent step.request :: .answered step.request true :: t)
  | failed {step steps} (e : ScenarioError) :
      Leave (step :: steps) (some (.error e)) [.sent step.request, .answered step.request false]
  | unasked {step steps} : Leave (step :: steps) none []
  | unanswered {step steps} : Leave (step :: steps) none [.sent step.request]

theorem leads_takeAll_recorded (env : Environment σ) (steps : List Step) (t : Trace) :
    Leads (fun s => s.2 = t) (takeAll (recorded env) steps) fun r s =>
      ∃ t', Leave steps r t' ∧ s.2 = t ++ t' := by
  induction steps generalizing t with
  | nil => exact .pure fun s hs => ⟨[], .done, by simpa using hs⟩
  | cons step steps ih =>
    refine (leads_take_recorded env step t).bind (fun _ => ?_) (fun e s hs => ?_) fun s hs => ?_
    · refine (ih (t ++ [.sent step.request, .answered step.request true])).mono
        (fun s hs => ?_) fun r s ⟨t', hleave, hs⟩ => ⟨_, .next hleave, by simpa using hs⟩
      simpa [Except.isOk, Except.toBool] using hs
    · exact ⟨_, .failed e, by simpa [Except.isOk, Except.toBool] using hs⟩
    · rcases hs with ⟨-, hs⟩ | hs
      · exact ⟨_, .unasked, by simpa using hs⟩
      · exact ⟨_, .unanswered, by simpa using hs⟩

namespace Leave

variable {steps : List Step} {r : Option (Except ScenarioError Unit)} {t : Trace} {e : Event}

theorem request_of_mem (h : Leave steps r t) (he : e ∈ t) :
    ∃ step ∈ steps, e.request = step.request := by
  induction h with
  | done => cases he
  | next rest ih =>
    simp only [List.mem_cons] at he
    rcases he with rfl | rfl | he
    · exact ⟨_, List.mem_cons_self, rfl⟩
    · exact ⟨_, List.mem_cons_self, rfl⟩
    · obtain ⟨step, hstep, h⟩ := ih he
      exact ⟨step, List.mem_cons_of_mem _ hstep, h⟩
  | failed error =>
    simp only [List.mem_cons, List.not_mem_nil, or_false] at he
    rcases he with rfl | rfl <;> exact ⟨_, List.mem_cons_self, rfl⟩
  | unasked => cases he
  | unanswered => exact ⟨_, List.mem_cons_self, by rw [List.mem_singleton.1 he]; rfl⟩

theorem good_of_cut {q : Request} {good : Bool} (h : Leave steps none t)
    (he : .answered q good ∈ t) : good = true := by
  generalize hr : (none : Option (Except ScenarioError Unit)) = r at h
  induction h with
  | done | failed => cases hr
  | next rest ih =>
    simp only [List.mem_cons, reduceCtorEq, false_or, Event.answered.injEq] at he
    rcases he with ⟨-, rfl⟩ | he
    · rfl
    · exact ih he hr
  | unasked => cases he
  | unanswered => simp at he

theorem of_append_ok {first later : List Step} (h : Leave (first ++ later) (some (.ok ())) t) :
    ∃ t₁ t₂, t = t₁ ++ t₂ ∧ Leave first (some (.ok ())) t₁ ∧ Leave later (some (.ok ())) t₂ := by
  induction first generalizing t with
  | nil => exact ⟨[], t, rfl, .done, h⟩
  | cons step first ih =>
    cases h with
    | next rest =>
      obtain ⟨t₁, t₂, rfl, h₁, h₂⟩ := ih rest
      exact ⟨_, t₂, rfl, .next h₁, h₂⟩

end Leave

/-- The trace that a cleanup leaves: all its changes are asked for, whether or not they are made. -/
inductive Undo : List Change → Option Unit → Trace → Prop
  | done : Undo [] (some ()) []
  | next {c cleanup r t} (good : Bool) (rest : Undo cleanup r t) :
      Undo (c :: cleanup) r (.sent (.change c) :: .answered (.change c) good :: t)
  | unanswered {c cleanup} : Undo (c :: cleanup) none [.sent (.change c)]

namespace Undo

variable {cleanup : List Change} {r : Option Unit} {t : Trace}

theorem request_of_mem {e : Event} (h : Undo cleanup r t) (he : e ∈ t) :
    ∃ c ∈ cleanup, e.request = .change c := by
  induction h with
  | done => cases he
  | next good rest ih =>
    simp only [List.mem_cons] at he
    rcases he with rfl | rfl | he
    · exact ⟨_, List.mem_cons_self, rfl⟩
    · exact ⟨_, List.mem_cons_self, rfl⟩
    · obtain ⟨c, hc, h⟩ := ih he
      exact ⟨c, List.mem_cons_of_mem _ hc, h⟩
  | unanswered => exact ⟨_, List.mem_cons_self, by rw [List.mem_singleton.1 he]; rfl⟩

theorem answered {c : Change} (h : Undo cleanup r t) (hr : r.isSome) (hc : c ∈ cleanup) :
    ∃ good, .answered (.change c) good ∈ t := by
  induction h with
  | done => cases hc
  | next good rest ih =>
    rcases List.mem_cons.1 hc with rfl | hc
    · exact ⟨good, by simp⟩
    · obtain ⟨good', h⟩ := ih hr hc
      exact ⟨good', by simp [h]⟩
  | unanswered => cases hr

end Undo

theorem leads_undo_recorded (env : Environment σ) (cleanup : List Change) (t : Trace) :
    Timed.Leads (fun s => s.2 = t) (undo (recorded env) cleanup) fun r s =>
      ∃ t', Undo cleanup r t' ∧ s.2 = t ++ t' := by
  induction cleanup generalizing t with
  | nil => exact .pure fun s hs => ⟨[], .done, by simpa using hs⟩
  | cons c cleanup ih =>
    have hfirst : Timed.Leads (fun s => s.2 = t) (discard (c.make (recorded env)).run) fun r s =>
        match r with
        | some () => ∃ good, s.2 = t ++ [.sent (.change c), .answered (.change c) good]
        | none => s.2 = t ++ [.sent (.change c)] := by
      rw [make_recorded]
      exact (leads_record _ _ (c.make env).run t).map (fun a s hs => ⟨_, hs⟩) fun s hs => hs
    refine hfirst.bind (fun _ limit now s ⟨good, hs⟩ => ?_) fun s hs => ⟨_, .unanswered, hs⟩
    obtain ⟨t', hundo, ht'⟩ := ih _ limit now s hs
    exact ⟨_, .next good hundo, ht'.trans (List.append_assoc ..)⟩

end RouteWatch.Scenario
