import RouteWatch.Proofs.Simulation.Environment
import RouteWatch.Simulation.Faults

/-!
# What scenarios withdraw

A scenario is to withdraw only what it has declared. Three of the four begin their work with the
declaration, and so they do, whatever the environment answers. The selection of networks labels them
first, and its cleanup withdraws the advertisement even if that failed: what is withdrawn then is
one of the same name that somebody else declared.

* `withdraws_declared_iff`: a scenario withdraws what it did not declare if and only if it is that
  one and a change of the labels failed before the declaration.
-/

namespace RouteWatch.Scenario

variable {σ : Type} {env : Environment σ} {choice : ScenarioChoice}

/-- Each advertisement that is withdrawn was declared before that. -/
def WithdrawsDeclared (t : Trace) : Prop :=
  ∀ before ra after, t = before ++ .sent (.change (.withdraw ra)) :: after →
    .sent (.change (.advertise ra)) ∈ before

/-- The scenario is the selection of networks, and one of its two changes of labels failed before
anything was declared. -/
def FailsToLabel (choice : ScenarioChoice) (t : Trace) : Prop :=
  ∃ o : SelectorOptions, choice = .selector o ∧ ∃ before c after,
    t = before ++ .answered (.change c) false :: after ∧
    (c = .label (.network o.selected) o.label.key o.label.value ∨
      c = .unlabel (.network o.other) o.label.key) ∧
    ∀ ra, .sent (.change (.advertise ra)) ∉ before

/-! ## The trace of any run -/

/-- The trace of a run, which may be cut off anywhere. -/
inductive Traced (works : Work → Prop) : Trace → Prop
  /-- The work is not begun. -/
  | unprepared {t₀} (asks : OnlyAsks t₀) : Traced works t₀
  /-- The body is cut off. -/
  | cut {work t₀ t₁} (prepared : works work) (asks : OnlyAsks t₀)
      (body : Leave work.body none t₁) : Traced works (t₀ ++ t₁)
  /-- The body leaves nothing to the cleanup. -/
  | uncleaned {work t₀ t₁} (prepared : works work) (asks : OnlyAsks t₀)
      (body : Leave work.body (some (.ok ())) t₁) (succeeds : work.onFailureOnly = true) :
      Traced works (t₀ ++ t₁)
  /-- The cleanup runs, and may be cut off. -/
  | cleaned {work result r t₀ t₁ t₂} (prepared : works work) (asks : OnlyAsks t₀)
      (body : Leave work.body (some result) t₁) (cleanup : Undo work.cleanup r t₂) :
      Traced works (t₀ ++ t₁ ++ t₂)

theorem leads_scenario_recorded {works : Work → Prop}
    (hworks : Gives (fun _ => True) (choice.work env) works) :
    Leads (fun s => s.2 = []) (choice.scenario (recorded env)) fun _ s => Traced works s.2 := by
  have hprepared : Leads (fun s => s.2 = []) (choice.work (recorded env)) fun r s =>
      OnlyAsks s.2 ∧ ∀ work, r = some (.ok work) → works work :=
    fun report limit now s hs =>
      ⟨(gives_work_recorded env choice report limit now s (by simp [hs, OnlyAsks])).1,
        ((Mirrors.work env choice).leads hworks report limit now s trivial).2⟩
  refine hprepared.bind (fun work report => ?_) (fun _ _ hs => .unprepared hs.1)
    fun _ hs => .unprepared hs.1
  rw [run_work]
  rintro limit now s ⟨hasks, hwork⟩
  have hwork := hwork work rfl
  have hbody := leads_takeAll_recorded env work.body s.2 report
  refine Timed.Leads.bind (Q := fun _ s => Traced works s.2) hbody (fun r => ?_) ?_ limit now s rfl
  · obtain ⟨result, report'⟩ := r
    split
    next =>
      rintro limit now s' ⟨t₁, hleave, hs'⟩
      have hcleaned : ∀ r (w : σ × Trace), (∃ t₂, Undo work.cleanup r t₂ ∧ w.2 = s'.2 ++ t₂) →
          Traced works w.2 := by
        rintro r w ⟨t₂, hundo, hw⟩
        rw [hw, hs']
        exact .cleaned hwork hasks hleave hundo
      exact Timed.Leads.bind (Q := fun _ s => Traced works s.2)
        (leads_undo_recorded env work.cleanup s'.2) (fun _ => .pure (hcleaned _)) (hcleaned _)
        limit now s' rfl
    next hleaves =>
      refine .pure fun w ⟨t₁, hleave, hw⟩ => ?_
      obtain ⟨hfailure, rfl⟩ := Work.ok_of_not_leavesCleanup hleaves
      rw [hw]
      exact .uncleaned hwork hasks hleave hfailure
  · rintro w ⟨t₁, hleave, hw⟩
    rw [hw]
    exact .cut hwork hasks hleave

theorem traced {works : Work → Prop} (hworks : Gives (fun _ => True) (choice.work env) works)
    (start : Start σ) : Traced works (start.trace env choice) :=
  leads_scenario_recorded hworks start.report start.limit start.now (start.world, []) rfl

/-! ## The works -/

/-- The work begins with the declaration, and withdraws nothing else. -/
structure Work.DeclaresFirst (work : Work) (ra : RouteAdvertisement) : Prop where
  /-- The declaration is the first step. -/
  first : ∃ rest, work.body = .change (.advertise ra) :: rest
  /-- The body withdraws nothing else. -/
  body : ∀ ra', .change (.withdraw ra') ∈ work.body → ra' = ra
  /-- The cleanup withdraws nothing else. -/
  cleanup : ∀ ra', .withdraw ra' ∈ work.cleanup → ra' = ra

/-- The work is the selection of networks: it begins with two changes of labels. -/
def SelectorOptions.LabelsFirst (o : SelectorOptions) (work : Work) : Prop :=
  ∃ plan settings former former', work = {
    body := [
      .change (.label (.network o.selected) o.label.key o.label.value),
      .change (.unlabel (.network o.other) o.label.key),
      .change (.advertise o.advertisement),
      .check plan settings]
    cleanup := [.withdraw o.advertisement,
      .assign (.network o.selected) o.label.key former,
      .assign (.network o.other) o.label.key former'] }

/-- What the work of the scenario begins with. -/
def Prepares : ScenarioChoice → Work → Prop
  | .selector o, work => o.LabelsFirst work
  | _, work => ∃ ra, work.DeclaresFirst ra

theorem gives_prepares (env : Environment σ) (choice : ScenarioChoice) :
    Gives (fun _ => True) (choice.work env) (Prepares choice) := by
  have hlift : ∀ {τ : Type} (x : Except ScenarioError τ),
      Gives (fun _ => True) (ExceptT.mk (pure x) : Scenario σ τ) fun _ => True :=
    fun _ => .lift fun _ _ => trivial
  have hask : ∀ {τ : Type} (x : Action σ ScenarioError τ),
      Gives (fun _ => True) (act x) fun _ => True :=
    fun _ => .act fun _ _ _ _ => ⟨trivial, fun _ _ => trivial⟩
  have hsave : ∀ object key, Gives (fun _ => True) (save env object key) fun c =>
      ∃ former, c = .assign object key former :=
    fun object key => (hask _).bind fun _ _ => .pure ⟨_, rfl⟩
  cases choice with
  | defaultNetwork name =>
    exact (Gives.requireSubnets _ _).bind fun _ _ => .pure ⟨defaultAdvertisement name,
      ⟨_, rfl⟩, by simp, by simp⟩
  | selector o =>
    refine (hlift _).bind fun _ _ => (Gives.requireSubnets _ _).bind fun _ _ =>
      (Gives.requireSubnets _ _).bind fun _ _ => (hsave _ _).bind fun c₁ h₁ =>
        (hsave _ _).bind fun c₂ h₂ => .pure ?_
    obtain ⟨former, rfl⟩ := h₁
    obtain ⟨former', rfl⟩ := h₂
    exact ⟨_, _, former, former', rfl⟩
  | failover o =>
    refine (hask _).bind fun _ _ => (hlift _).bind fun m _ => (hsave _ _).bind fun c₁ h₁ =>
        (hsave _ _).bind fun c₂ h₂ => .pure ⟨o.advertisement, ⟨_, rfl⟩, by simp, ?_⟩
    obtain ⟨former, rfl⟩ := h₁
    obtain ⟨former', rfl⟩ := h₂
    simp
  | recovery o =>
    exact (Gives.requireSubnets _ _).bind fun _ _ => .pure ⟨defaultAdvertisement o.name,
      ⟨_, rfl⟩, by simp, by simp⟩

/-! ## What is withdrawn -/

/-- The trace of a work that begins with the declaration. -/
theorem Work.DeclaresFirst.withdrawsDeclared {work : Work} {ra : RouteAdvertisement}
    (h : work.DeclaresFirst ra) {t₀ t₁ t₂ : Trace} (asks : OnlyAsks t₀)
    {r : Option (Except ScenarioError Unit)} (body : Leave work.body r t₁)
    (hcleanup : t₁ = [] → t₂ = [])
    (hchanges : ∀ e ∈ t₂, ∃ c ∈ work.cleanup, e.request = .change c) :
    WithdrawsDeclared (t₀ ++ t₁ ++ t₂) := by
  intro before ra' after ht
  have hasked : .sent (.change (.withdraw ra')) ∉ t₀ := fun h => asks _ h _ rfl
  have hmem : .sent (.change (.withdraw ra')) ∈ t₀ ++ t₁ ++ t₂ := by simp [ht]
  obtain rfl : ra' = ra := by
    rcases List.mem_append.1 hmem with hmem | hmem
    · obtain ⟨step, hstep, hq⟩ :=
        body.request_of_mem ((List.mem_append.1 hmem).resolve_left hasked)
      exact h.body ra' (Step.eq_of_request hq ▸ hstep)
    · obtain ⟨c, hc, hq⟩ := hchanges _ hmem
      obtain rfl : Change.withdraw ra' = c := Request.change.inj hq
      exact h.cleanup ra' hc
  obtain ⟨rest, hbody⟩ := h.first
  rw [hbody] at body
  -- the declaration is the first thing that the body leaves, if it leaves anything
  have hfirst : ∀ t, t₁ = .sent (.change (.advertise ra')) :: t →
      .sent (.change (.advertise ra')) ∈ before := by
    rintro t rfl
    have hsplit : (t₀ ++ [.sent (.change (.advertise ra'))]) ++ (t ++ t₂)
      = before ++ .sent (.change (.withdraw ra')) :: after := by simpa using ht
    refine mem_of_mem_first hsplit (fun hx => ?_) (by simp)
    rcases List.mem_append.1 hx with hx | hx
    · exact hasked hx
    · simp at hx
  cases body with
  | next rest => exact hfirst _ rfl
  | failed e => exact hfirst _ rfl
  | unanswered => exact hfirst _ rfl
  | unasked =>
    rw [hcleanup rfl] at hmem
    exact absurd (by simpa using hmem) hasked

/-- The selection either stops at one of its labels and has declared nothing, or it gets past them
and declares its advertisement. -/
theorem SelectorOptions.LabelsFirst.stops_or_declares {o : SelectorOptions} {work : Work}
    (h : o.LabelsFirst work) {result : Except ScenarioError Unit} {t : Trace}
    (body : Leave work.body (some result) t) :
    (∃ before c, t = before ++ [.answered (.change c) false] ∧
      (c = .label (.network o.selected) o.label.key o.label.value ∨
        c = .unlabel (.network o.other) o.label.key) ∧
      ∀ ra, .sent (.change (.advertise ra)) ∉ t) ∨
    (.sent (.change (.advertise o.advertisement)) ∈ t ∧
      ∀ object key, (∀ value, .answered (.change (.label object key value)) false ∉ t) ∧
        .answered (.change (.unlabel object key)) false ∉ t) := by
  obtain ⟨plan, settings, former, former', rfl⟩ := h
  cases body with
  | failed e => exact .inl ⟨[_], _, rfl, .inl rfl, by simp [Step.request]⟩
  | next body =>
    cases body with
    | failed e => exact .inl ⟨[_, _, _], _, rfl, .inr rfl, by simp [Step.request]⟩
    | next body =>
      refine .inr ?_
      cases body with
      | failed e => simp [Step.request]
      | next body =>
        cases body with
        | failed e => simp [Step.request]
        | next body => cases body; simp [Step.request]

theorem withdrawsDeclared_of_not_sent {t : Trace}
    (h : ∀ ra, .sent (.change (.withdraw ra)) ∉ t) : WithdrawsDeclared t :=
  fun before ra after ht => absurd (by simp [ht]) (h ra)

theorem not_failsToLabel_of_not_answered {t : Trace}
    (h : ∀ c, .answered (.change c) false ∉ t) : ¬ FailsToLabel choice t := by
  rintro ⟨-, -, before, c, after, ht, -⟩
  exact h c (by simp [ht])

theorem OnlyAsks.not_mem {t : Trace} (h : OnlyAsks t) {e : Event} {c : Change}
    (he : e.request = .change c) : e ∉ t :=
  fun hmem => h e hmem c he

namespace SelectorOptions.LabelsFirst

variable {o : SelectorOptions} {work : Work} {t : Trace}

/-- The body of the selection withdraws nothing. -/
theorem not_sent (h : o.LabelsFirst work) {r : Option (Except ScenarioError Unit)}
    (body : Leave work.body r t) (ra : RouteAdvertisement) :
    .sent (.change (.withdraw ra)) ∉ t := by
  intro hmem
  obtain ⟨step, hstep, hq⟩ := body.request_of_mem hmem
  have hstep := Step.eq_of_request hq ▸ hstep
  obtain ⟨plan, settings, former, former', rfl⟩ := h
  simp at hstep

/-- A selection that was cleaned up before it declared anything. -/
theorem not_withdrawsDeclared (h : o.LabelsFirst work) {r : Option Unit} {t' : Trace}
    (cleanup : Undo work.cleanup r t') (hnone : ∀ ra, .sent (.change (.advertise ra)) ∉ t) :
    ¬ WithdrawsDeclared (t ++ t') := by
  intro hwithdrawn
  obtain ⟨plan, settings, former, former', rfl⟩ := h
  cases cleanup with
  | next good cleanup => exact hnone _ (hwithdrawn _ _ _ rfl)
  | unanswered => exact hnone _ (hwithdrawn _ _ _ rfl)

/-- A selection that was cleaned up after it declared its advertisement. -/
theorem withdrawsDeclared (h : o.LabelsFirst work) {r : Option Unit} {t' : Trace}
    (cleanup : Undo work.cleanup r t') (hwithdraws : ∀ ra, .sent (.change (.withdraw ra)) ∉ t)
    (hdeclared : .sent (.change (.advertise o.advertisement)) ∈ t) :
    WithdrawsDeclared (t ++ t') := by
  intro before ra after ht
  have hmem : .sent (.change (.withdraw ra)) ∈ t ++ t' := by simp [ht]
  obtain ⟨c, hc, hq⟩ :=
    cleanup.request_of_mem ((List.mem_append.1 hmem).resolve_left (hwithdraws ra))
  obtain rfl : Change.withdraw ra = c := Request.change.inj hq
  obtain rfl : ra = o.advertisement := by
    obtain ⟨plan, settings, former, former', rfl⟩ := h
    simpa using hc
  exact mem_of_mem_first ht (hwithdraws _) hdeclared

end SelectorOptions.LabelsFirst

/-- What the selection withdraws. -/
theorem withdrawsDeclared_selector_iff {o : SelectorOptions} {t : Trace}
    (h : Traced o.LabelsFirst t) : WithdrawsDeclared t ↔ ¬ FailsToLabel (.selector o) t := by
  have hnot : ∀ {e c t₀ t₁}, OnlyAsks t₀ → e.request = .change c → e ∉ t₁ → e ∉ t₀ ++ t₁ :=
    fun asks he hmem h => (List.mem_append.1 h).elim (asks.not_mem he) hmem
  cases h with
  | unprepared asks =>
    exact iff_of_true (withdrawsDeclared_of_not_sent fun ra => asks.not_mem rfl)
      (not_failsToLabel_of_not_answered fun c => asks.not_mem rfl)
  | cut prepared asks body =>
    refine iff_of_true (withdrawsDeclared_of_not_sent fun ra =>
        hnot asks rfl (prepared.not_sent body ra))
      (not_failsToLabel_of_not_answered fun c => hnot asks rfl fun hmem => ?_)
    cases body.good_of_cut hmem
  | uncleaned prepared asks body succeeds =>
    obtain ⟨plan, settings, former, former', rfl⟩ := prepared
    cases succeeds
  | @cleaned work result r t₀ t₁ t₂ prepared asks body cleanup =>
    rcases prepared.stops_or_declares body with ⟨before, c, ht₁, hc, hnone⟩ | ⟨hdeclared, hlabels⟩
    · have hundeclared : ∀ ra, .sent (.change (.advertise ra)) ∉ t₀ ++ t₁ := fun ra =>
        hnot asks rfl (hnone ra)
      refine iff_of_false (prepared.not_withdrawsDeclared cleanup hundeclared)
        (not_not_intro ⟨o, rfl, t₀ ++ before, c, t₂, ?_, hc, fun ra hmem => hundeclared ra ?_⟩)
      · simp [ht₁]
      · rw [ht₁, ← List.append_assoc]
        exact List.mem_append_left _ hmem
    · have hdeclared := List.mem_append_right t₀ hdeclared
      refine iff_of_true (prepared.withdrawsDeclared cleanup
        (fun ra => hnot asks rfl (prepared.not_sent body ra)) hdeclared) ?_
      -- A label that fails in the cleanup comes after the declaration.
      rintro ⟨o', ho, before, c, after, ht, hc, hnone⟩
      refine hnone o.advertisement (mem_of_mem_first ht (hnot asks rfl fun hmem => ?_) hdeclared)
      rcases hc with rfl | rfl
      · exact (hlabels _ _).1 _ hmem
      · exact (hlabels _ _).2 hmem

/-- What the other scenarios withdraw. -/
theorem withdrawsDeclared_of_traced {t : Trace}
    (h : Traced (fun work => ∃ ra, work.DeclaresFirst ra) t) : WithdrawsDeclared t := by
  have hbody : ∀ {work : Work} {ra r t₀ t₁}, work.DeclaresFirst ra → OnlyAsks t₀ →
      Leave work.body r t₁ → WithdrawsDeclared (t₀ ++ t₁) := by
    intro work ra r t₀ t₁ hfirst asks body
    have h : WithdrawsDeclared (t₀ ++ t₁ ++ []) :=
      hfirst.withdrawsDeclared asks body (fun _ => rfl) (by simp)
    rwa [List.append_nil] at h
  cases h with
  | unprepared asks => exact withdrawsDeclared_of_not_sent fun ra => asks.not_mem rfl
  | cut prepared asks body =>
    obtain ⟨ra, hfirst⟩ := prepared
    exact hbody hfirst asks body
  | uncleaned prepared asks body succeeds =>
    obtain ⟨ra, hfirst⟩ := prepared
    exact hbody hfirst asks body
  | @cleaned work result r t₀ t₁ t₂ prepared asks body cleanup =>
    obtain ⟨ra, hfirst⟩ := prepared
    refine hfirst.withdrawsDeclared asks body (fun ht₁ => ?_) fun e he => cleanup.request_of_mem he
    subst ht₁
    obtain ⟨rest, hbody⟩ := hfirst.first
    rw [hbody] at body
    cases body

/-- A scenario withdraws only what it has declared, except for the selection of networks if one of
its labels cannot be changed. Then it withdraws an advertisement that it never declared. -/
theorem withdraws_declared_iff (env : Environment σ) (choice : ScenarioChoice) (start : Start σ) :
    WithdrawsDeclared (start.trace env choice) ↔ ¬ FailsToLabel choice (start.trace env choice) := by
  have htraced := traced (gives_prepares env choice) start
  cases choice with
  | selector o => exact withdrawsDeclared_selector_iff htraced
  | defaultNetwork | failover | recovery =>
    exact iff_of_true (withdrawsDeclared_of_traced htraced) (by rintro ⟨o, ho, -⟩; cases ho)

/-- The first label cannot be set, and the advertisement is withdrawn without being declared. -/
theorem withdraws_undeclared :
    let env := Simulation.withFaults [⟨.label, 1⟩]
      (⟨Simulation.dualNodes, {}⟩ : Simulation.Cluster).environment
    let o : SelectorOptions := ⟨"selected", ⟨"advertise", "true"⟩, "blue", "red"⟩
    let start : Start (Simulation.World × Simulation.Calls) :=
      { report := .ofTopology "selector" "" Simulation.dualNodes, now := 0, world := ({}, []) }
    ¬ WithdrawsDeclared (start.trace env (.selector o)) := by
  intro env o start h
  have hdeclared := h ((start.trace env (.selector o)).take 6) o.advertisement
    ((start.trace env (.selector o)).drop 7) (by decide +kernel)
  revert hdeclared
  decide +kernel

end RouteWatch.Scenario
