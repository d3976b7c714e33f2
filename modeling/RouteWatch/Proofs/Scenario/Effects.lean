import RouteWatch.Proofs.Scenario.Trace

/-!
# The effects of a scenario on its world

What a world shows is tracked by an environment if each change that succeeds has its effect on it,
each one that fails has it or not, and nothing else has any. What the steps and the cleanup do to the
world as a whole follows from that.

* `leads_takeAll_effect`: steps that come back have the effects of those that were taken;
* `leads_undo_effect`: a cleanup of which every change succeeds has all its effects.
-/

namespace RouteWatch.Scenario

variable {σ α β : Type}

/-- What `view` shows of a world follows from the changes that are made, as `effect` says. -/
structure Tracks (env : Environment σ) (effect : Change → β → β) (view : σ → β) : Prop where
  /-- A change that succeeds has its effect, and one that fails has it or not. -/
  change : ∀ v (c : Change), Timed.Leads (fun w => view w = v) (c.make env).run fun r w =>
    ∀ answer, r = some answer → view w = effect c v ∨ (answer.isOk = false ∧ view w = v)
  /-- Waiting for a plan has no effect. -/
  converge : ∀ v plan settings, Timed.Keeps (fun w => view w = v) (env.converge plan settings)
  /-- Reading labels has no effect. -/
  labels : ∀ v object, Timed.Keeps (fun w => view w = v) (env.labels object).run
  /-- Asking for egress addresses has no effect. -/
  egressAssignments : ∀ v name, Timed.Keeps (fun w => view w = v) (env.egressAssignments name).run

/-- The change of a step, if it is one. -/
def Step.changes : Step → List Change
  | .change c => [c]
  | _ => []

/-- The changes of the steps. -/
def changesOf (steps : List Step) : List Change :=
  steps.flatMap Step.changes

theorem mem_changesOf {steps : List Step} {c : Change} : c ∈ changesOf steps ↔ .change c ∈ steps := by
  rw [changesOf, List.mem_flatMap]
  constructor
  · rintro ⟨step, hstep, hc⟩
    cases step with
    | change c' => exact List.mem_singleton.1 hc ▸ hstep
    | check | checkStable => cases hc
  · exact fun h => ⟨_, h, List.mem_singleton_self c⟩

/-- What there is after the changes, one after the other. -/
def effects (effect : Change → β → β) (changes : List Change) (v : β) : β :=
  changes.foldl (fun v c => effect c v) v

theorem effects_append (effect : Change → β → β) (first later : List Change) (v : β) :
    effects effect (first ++ later) v = effects effect later (effects effect first v) :=
  List.foldl_append

theorem effects_changesOf_cons (effect : Change → β → β) (step : Step) (steps : List Step) (v : β) :
    effects effect (changesOf (step :: steps)) v =
      effects effect (changesOf steps) (effects effect step.changes v) :=
  effects_append effect step.changes (changesOf steps) v

variable {env : Environment σ} {effect : Change → β → β} {view : σ → β}

theorem Mirrors.leads {τ : Type} {y : Scenario (σ × τ) α} {x : Scenario σ α} (h : Mirrors y x)
    {P : σ → Prop} {Q : Option (Except ScenarioError α) → σ → Prop} (hx : Leads P x Q) :
    Leads (fun s => P s.1) y fun r s => Q r s.1 := by
  intro report limit now s hs
  have hrun := h report limit now s
  have hQ := hx report limit now s.1 hs
  rw [← hrun] at hQ
  exact hQ

/-! ## Steps -/

theorem leads_take_effect (htracks : Tracks env effect view) (step : Step) (v : β) :
    Leads (fun w => view w = v) (step.take env) fun r w =>
      ∀ result, r = some result →
        view w = effects effect step.changes v ∨ (result.isOk = false ∧ view w = v) := by
  have hcheck : ∀ plan settings, Leads (fun w => view w = v) (check env plan settings)
      fun _ w => view w = v := by
    intro plan settings report
    rw [run_check]
    exact (htracks.converge v plan settings).map _
  cases step with
  | change c => exact .act (htracks.change v c)
  | check plan settings =>
    exact (hcheck plan settings).mono_post fun _ _ hw _ _ => .inl hw
  | checkStable plan settings =>
    exact (Leads.bind (Q := fun _ w => view w = v) (.time (Timed.Keeps.wait settings.interval))
      (fun _ => hcheck _ _) (fun _ _ hw => hw) fun _ hw => hw).mono_post fun _ _ hw _ _ => .inl hw

/-- Steps that come back have the effects of the first ones of them, and of all if they succeed. -/
theorem leads_takeAll_effect (htracks : Tracks env effect view) (steps : List Step) (v : β) :
    Leads (fun w => view w = v) (takeAll env steps) fun r w =>
      r.isSome → ∃ taken, taken <+: steps ∧ view w = effects effect (changesOf taken) v ∧
        (r = some (.ok ()) → taken = steps) := by
  induction steps generalizing v with
  | nil => exact .pure fun w hw _ => ⟨[], List.nil_prefix, hw, fun _ => rfl⟩
  | cons step steps ih =>
    refine (leads_take_effect htracks step v).bind (fun a => ?_) (fun e w hw _ => ?_) nofun
    · refine (ih (effects effect step.changes v)).mono (fun w hw => ?_) fun r w hw hr => ?_
      · rcases hw _ rfl with hw | ⟨hfail, -⟩
        · exact hw
        · simp [Except.isOk, Except.toBool] at hfail
      · obtain ⟨taken, hprefix, hw, hok⟩ := hw hr
        refine ⟨step :: taken, (List.prefix_cons_inj step).2 hprefix, ?_, fun h => by rw [hok h]⟩
        rw [hw, effects_changesOf_cons]
    · rcases hw _ rfl with hw | ⟨-, hw⟩
      · exact ⟨[step], by simp, by simpa [changesOf] using hw, by simp⟩
      · exact ⟨[], List.nil_prefix, hw, by simp⟩

/-! ## The cleanup -/

/-- A cleanup that comes back and of which every change succeeds has all its effects. -/
theorem leads_undo_effect (htracks : Tracks env effect view) (cleanup : List Change) (v : β)
    (t : Trace) :
    Timed.Leads (fun s => view s.1 = v ∧ s.2 = t) (undo (recorded env) cleanup) fun r s =>
      ∃ t', Undo cleanup r t' ∧ s.2 = t ++ t' ∧
        (r.isSome → (∀ q good, .answered q good ∈ t' → good = true) →
          view s.1 = effects effect cleanup v) := by
  induction cleanup generalizing v t with
  | nil => exact .pure fun s hs => ⟨[], .done, by simpa using hs.2, fun _ _ => hs.1⟩
  | cons c cleanup ih =>
    have hfirst : Timed.Leads (fun s => view s.1 = v ∧ s.2 = t)
        (discard (c.make (recorded env)).run) fun r s =>
        match r with
        | some () => ∃ good, s.2 = t ++ [.sent (.change c), .answered (.change c) good] ∧
            (good = true → view s.1 = effect c v)
        | none => s.2 = t ++ [.sent (.change c)] := by
      rw [make_recorded]
      refine Timed.Leads.map (R := fun r s => s.2 = t ++ .sent (.change c) ::
          (r.map fun a => Event.answered (.change c) a.isOk).toList ∧
        ∀ answer, r = some answer → view s.1 = effect c v ∨ (answer.isOk = false ∧ view s.1 = v))
        (fun limit now s hs => ⟨leads_record _ _ (c.make env).run t limit now s hs.2, ?_⟩)
        (fun a s hs => ⟨a.isOk, hs.1, fun hok => ?_⟩) fun s hs => hs.1
      · have hrun := Shadows.recordAction (.change c) (c.make env) limit now s
        have heffect := htracks.change v c limit now s.1 hs.1
        rw [← hrun] at heffect
        exact heffect
      · rcases hs.2 a rfl with h | ⟨hfail, -⟩
        · exact h
        · simp [hok] at hfail
    -- the cleanup goes on after a change that failed as well, of which the effect is not known
    refine hfirst.bind (fun _ limit now s ⟨good, hs, hmade⟩ => ?_) fun s hs =>
      ⟨_, .unanswered, hs, nofun⟩
    obtain ⟨t', hundo, ht', heffects⟩ := ih (view s.1) _ limit now s ⟨rfl, hs⟩
    refine ⟨_, .next good hundo, ht'.trans (List.append_assoc ..), fun hr hgood => ?_⟩
    rw [effects, List.foldl_cons, ← hmade (hgood (.change c) good (by simp))]
    exact heffects hr fun q good h => hgood q good (by simp [h])

/-! ## The preparation -/

/-- The part keeps a property of the world, also when it is cut off, and what it gives, if it gives
something, has the property `Q`. -/
def Gives (I : σ → Prop) (x : Scenario σ α) (Q : α → Prop) : Prop :=
  Leads I x fun r w => I w ∧ ∀ a, r = some (.ok a) → Q a

namespace Gives

variable {τ : Type} {I : σ → Prop} {Q : α → Prop}

theorem pure {a : α} (h : Q a) : Gives I (pure a) Q :=
  Leads.pure fun _ hw => ⟨hw, fun b hb => by cases hb; exact h⟩

theorem throw {e : ScenarioError} : Gives I (throw e : Scenario σ α) Q :=
  Leads.throw fun _ hw => ⟨hw, nofun⟩

theorem lift {x : Except ScenarioError α} (h : ∀ a, x = .ok a → Q a) :
    Gives I (ExceptT.mk (Pure.pure x) : Scenario σ α) Q :=
  Leads.lift fun _ hw => ⟨hw, fun a ha => h a (Option.some.inj ha)⟩

theorem bind {τ : Type} {x : Scenario σ α} {f : α → Scenario σ τ} {R : τ → Prop}
    (hx : Gives I x Q) (hf : ∀ a, Q a → Gives I (f a) R) : Gives I (x >>= f) R :=
  Leads.bind hx (fun a report limit now w hw => hf a (hw.2 a rfl) report limit now w hw.1)
    (fun _ _ hw => ⟨hw.1, nofun⟩) fun _ hw => ⟨hw.1, nofun⟩

theorem act {x : Action σ ScenarioError α}
    (h : Timed.Leads I x.run fun r w => I w ∧ ∀ a, r = some (.ok a) → Q a) : Gives I (act x) Q :=
  Leads.act h

theorem requireSubnets (env : Environment σ) (network : NetworkName) :
    Gives I (requireSubnets env network) fun _ => Mesh.hasSubnets env.topology network = true := by
  rw [Scenario.requireSubnets]
  split
  next h => exact pure h
  next => exact throw

end Gives

/-- The preparation keeps what reading labels and egress addresses keeps. -/
theorem gives_work_of_keeps {I : σ → Prop}
    (hlabels : ∀ object, Timed.Keeps I (env.labels object).run)
    (hegress : ∀ name, Timed.Keeps I (env.egressAssignments name).run) (choice : ScenarioChoice) :
    Gives I (choice.work env) fun _ => True := by
  have hask : ∀ {τ : Type} {x : Action σ ScenarioError τ}, Timed.Keeps I x.run →
      Gives I (act x) fun _ => True :=
    fun hx => .act (hx.mono_post fun _ _ hw => ⟨hw, fun _ _ => trivial⟩)
  have hlift : ∀ {τ : Type} (x : Except ScenarioError τ),
      Gives I (ExceptT.mk (pure x) : Scenario σ τ) fun _ => True :=
    fun _ => .lift fun _ _ => trivial
  have hsave : ∀ object key, Gives I (save env object key) fun _ => True :=
    fun object key => (hask (hlabels object)).bind fun _ _ => .pure trivial
  cases choice with
  | defaultNetwork name => exact (Gives.requireSubnets _ _).bind fun _ _ => .pure trivial
  | selector o =>
    exact (hlift _).bind fun _ _ =>
      (Gives.requireSubnets _ _).bind fun _ _ => (Gives.requireSubnets _ _).bind fun _ _ =>
        (hsave _ _).bind fun _ _ => (hsave _ _).bind fun _ _ => .pure trivial
  | failover o =>
    exact (hask (hegress o.egress)).bind fun _ _ => (hlift _).bind fun _ _ =>
      (hsave _ _).bind fun _ _ => (hsave _ _).bind fun _ _ => .pure trivial
  | recovery o => exact (Gives.requireSubnets _ _).bind fun _ _ => .pure trivial

/-- All calls in the trace are of that kind. -/
def OnlyCalls (P : Request → Prop) (t : Trace) : Prop :=
  ∀ e ∈ t, P e.request

theorem keeps_calls {P : Request → Prop} {r : Request} (hr : P r) (good : α → Bool)
    (x : Timed σ α) : Timed.Keeps (fun s => OnlyCalls P s.2) (r.record good x) := by
  intro limit now s hs e he
  have htrace := leads_record r good x s.2 limit now s rfl
  rcases List.mem_append.1 (htrace ▸ he) with he | he
  · exact hs e he
  · rcases List.mem_cons.1 he with rfl | he
    · exact hr
    · obtain ⟨a, -, rfl⟩ := by simpa using he
      exact hr

/-- The calls only ask for something. -/
def OnlyAsks (t : Trace) : Prop :=
  ∀ e ∈ t, ∀ c, e.request ≠ .change c

theorem keeps_onlyAsks (r : Request) (hr : ∀ c, r ≠ .change c) (x : Action σ ScenarioError α) :
    Timed.Keeps (fun s => OnlyAsks s.2) (r.recordAction x).run :=
  keeps_calls (P := fun r => ∀ c, r ≠ .change c) hr Except.isOk x.run

/-- Nothing is changed before the work begins. -/
theorem gives_work_recorded (env : Environment σ) (choice : ScenarioChoice) :
    Gives (fun s => OnlyAsks s.2) (choice.work (recorded env)) fun _ => True :=
  gives_work_of_keeps (fun object => keeps_onlyAsks (.labels object) (fun _ => nofun) _)
    (fun name => keeps_onlyAsks (.egressAssignments name) (fun _ => nofun) _) choice

end RouteWatch.Scenario
