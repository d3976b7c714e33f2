import Mathlib.Data.List.Forall2
import RouteWatch.Proofs.Scenario.Checks
import RouteWatch.Proofs.Scenario.History
import RouteWatch.Proofs.Scenario.Returns
import RouteWatch.Proofs.Simulation.Environment

/-!
# What a scenario accounts for

A scenario ends well if its options are in order, all its calls succeed and all its plans converge;
otherwise it ends with the first of them that does not. Its report tells the same. That is so for
every part of a scenario, and parts put together account for all that they do: `Account` says what
the result, the trace and the records of a part have to do with each other.

* `accounts_scenario`: the parts of a scenario account for its checks, in their order;
* `scenario_account`: the result of a scenario and its report agree.
-/

namespace RouteWatch

/-- The error is not that a plan did not converge. -/
def ScenarioError.IsPlain (e : ScenarioError) : Prop :=
  ∀ description attempts details, e ≠ .unverified description attempts details

namespace Scenario

variable {σ α β : Type}

/-- The action does not fail as a check does. -/
def Plain (x : Action σ ScenarioError α) : Prop :=
  ∀ limit now w e, (x.run.run limit now w).value? = some (.error e) → e.IsPlain

/-- No call to the environment fails as a check does. -/
structure Quiet (env : Environment σ) : Prop where
  change : ∀ c : Change, Plain (c.make env)
  labels : ∀ object, Plain (env.labels object)
  /-- Egress addresses are asked for like that as well. -/
  egressAssignments : ∀ name, Plain (env.egressAssignments name)

/-! ## Traces and records -/

/-- The check that comes back, and whether its plan converged. -/
def Event.verdict? : Event → Option ((Plan × Poll.Settings) × Bool)
  | .answered (.converge plan settings) good => some ((plan, settings), good)
  | _ => none

/-- The checks that came back. -/
def verdicts (t : Trace) : List ((Plan × Poll.Settings) × Bool) :=
  t.filterMap Event.verdict?

@[simp] theorem verdicts_append (t t' : Trace) : verdicts (t ++ t') = verdicts t ++ verdicts t' :=
  List.filterMap_append

/-- The record is that of the check, which went like this. -/
def Records (verdict : (Plan × Poll.Settings) × Bool) (r : CheckRecord) : Prop :=
  ∃ outcome : Convergence, outcome.converged = verdict.2 ∧
    r = .ofOutcome verdict.1.1 verdict.1.2 outcome

theorem Records.converged_eq {verdict : (Plan × Poll.Settings) × Bool} {r : CheckRecord}
    (h : Records verdict r) : r.converged = verdict.2 := by
  obtain ⟨outcome, hconverged, rfl⟩ := h
  exact hconverged

/-- All calls that came back did so well. -/
def AllGood (t : Trace) : Prop :=
  ∀ e ∈ t, e.isGood = true

namespace AllGood

variable {t t' : Trace} {q : Request}

theorem nil : AllGood [] := by
  simp [AllGood]

theorem append (h : AllGood t) (h' : AllGood t') : AllGood (t ++ t') :=
  List.forall_mem_append.2 ⟨h, h'⟩

theorem not_mem (h : AllGood t) : .answered q false ∉ t :=
  fun hmem => Bool.noConfusion (h _ hmem)

theorem verdict (h : AllGood t) {v : (Plan × Poll.Settings) × Bool} (hv : v ∈ verdicts t) :
    v.2 = true := by
  obtain ⟨e, he, hverdict⟩ := List.mem_filterMap.1 hv
  cases e with
  | sent => cases hverdict
  | answered q good =>
    cases q with
    | converge plan settings =>
      obtain rfl := Option.some.inj hverdict
      exact h _ he
    | change | labels | egressAssignments => cases hverdict

theorem record (h : AllGood t) {records : List CheckRecord}
    (hrecorded : List.Forall₂ Records (verdicts t) records) :
    ∀ r ∈ records, r.converged = true := by
  have hboth : List.Forall₂ (fun v r => v.2 = true ∧ Records v r) (verdicts t) records :=
    (List.forall₂_and_left _ _).2 ⟨fun _ hv => h.verdict hv, hrecorded⟩
  have hconverged : List.Forall₂ (fun r _ => r.converged = true ∧ True) records (verdicts t) :=
    hboth.flip.imp fun _ _ hv => ⟨hv.2.converged_eq.trans hv.1, trivial⟩
  exact ((List.forall₂_and_left _ _).1 hconverged).1

/-- The call that came back badly is the last thing in the trace. -/
theorem eq_nil_of_bad {q' : Request} {before after : Trace} (h : AllGood t)
    (heq : t ++ [.answered q false] = before ++ .answered q' false :: after) : after = [] := by
  rcases List.eq_nil_or_concat after with hnil | ⟨after', e, rfl⟩
  · exact hnil
  · have hinit : t = before ++ .answered q' false :: after' := by
      have hlast : t ++ [.answered q false] = (before ++ .answered q' false :: after') ++ [e] := by
        simpa using heq
      exact (List.append_inj' hlast rfl).1
    exact absurd (by simp [hinit]) (h.not_mem (q := q'))

end AllGood

/-! ## Accounts -/

/-- How a part ends that has these checks to make and whose value has the property `Q`, where `R` is
the reason for which it may be refused. -/
inductive Ended (planned : List (Plan × Poll.Settings)) (Q : α → Prop) (R : Prop) :
    Except ScenarioError α → Trace → List CheckRecord → Prop
  | done {a t records} (value : Q a) (good : AllGood t)
      (complete : (verdicts t).map Prod.fst = planned) : Ended planned Q R (.ok a) t records
  | refused {e t records} (reason : R) (plain : e.IsPlain) (good : AllGood t) :
      Ended planned Q R (.error e) t records
  /-- A call that is not a check failed. -/
  | failed {e q t records} (plain : e.IsPlain) (good : AllGood t)
      (call : ∀ plan settings, q ≠ .converge plan settings) :
      Ended planned Q R (.error e) (t ++ [.answered q false]) records
  | unverified {plan settings t records} (outcome : Convergence) (good : AllGood t)
      (failed : outcome.converged = false) (others : ∀ r ∈ records, r.converged = true) :
      Ended planned Q R
        (.error (.unverified plan.description outcome.attempts outcome.details))
        (t ++ [.answered (.converge plan settings) false])
        (records ++ [.ofOutcome plan settings outcome])

/-- What a part accounts for that has these checks to make: how it ends, and that the checks are made
and recorded in their order. -/
structure Account (planned : List (Plan × Poll.Settings)) (Q : α → Prop) (R : Prop)
    (result : Except ScenarioError α) (t : Trace) (records : List CheckRecord) : Prop where
  ended : Ended planned Q R result t records
  ordered : (verdicts t).map Prod.fst <+: planned
  recorded : List.Forall₂ Records (verdicts t) records

namespace Account

variable {planned planned' : List (Plan × Poll.Settings)} {Q : α → Prop} {Q' : β → Prop} {R : Prop}
  {t t' : Trace} {records records' : List CheckRecord}

/-- A part that fails keeps the parts after it from being run. -/
theorem error {e : ScenarioError} (h : Account planned Q R (.error e) t records) :
    Account (planned ++ planned') Q' R (.error e) t records := by
  refine ⟨?_, h.ordered.trans (List.prefix_append _ _), h.recorded⟩
  cases h.ended with
  | refused reason plain good => exact .refused reason plain good
  | failed plain good call => exact .failed plain good call
  | unverified outcome good failed others => exact .unverified outcome good failed others

theorem append {a : α} {result : Except ScenarioError β}
    (h : Account planned Q R (.ok a) t records)
    (h' : Account planned' Q' R result t' records') :
    Account (planned ++ planned') Q' R result (t ++ t') (records ++ records') := by
  obtain ⟨⟨-, hgood, hcomplete⟩, -, hrecorded⟩ := h
  obtain ⟨hended, hordered, hrecorded'⟩ := h'
  refine ⟨?_, ?_, ?_⟩
  -- the first part is all good, so that the whole ends as the second one does
  · cases hended with
    | done value good complete =>
      refine .done value (hgood.append good) ?_
      rw [verdicts_append, List.map_append, hcomplete, complete]
    | refused reason plain good => exact .refused reason plain (hgood.append good)
    | failed plain good call =>
      rw [← List.append_assoc]
      exact .failed plain (hgood.append good) call
    | unverified outcome good failed others =>
      rw [← List.append_assoc, ← List.append_assoc]
      exact .unverified outcome (hgood.append good) failed
        (List.forall_mem_append.2 ⟨hgood.record hrecorded, others⟩)
  · rw [verdicts_append, List.map_append, hcomplete]
    exact (List.prefix_append_right_inj _).2 hordered
  · rw [verdicts_append]
    exact List.rel_append hrecorded hrecorded'

/-! What follows for the result of a part. -/

variable {result : Except ScenarioError α} {q : Request}

/-- Nothing is done after the first call that fails or the first check that does not converge. -/
theorem stops {before after : Trace} (h : Account planned Q R result t records)
    (heq : t = before ++ .answered q false :: after) : after = [] := by
  have hmem : .answered q false ∈ t := by simp [heq]
  cases h.ended with
  | done value good complete => exact absurd hmem good.not_mem
  | refused reason plain good => exact absurd hmem good.not_mem
  | failed plain good call => exact good.eq_nil_of_bad heq
  | unverified outcome good failed others => exact good.eq_nil_of_bad heq

theorem ok_iff {P : Prop} (h : Account planned (fun _ => P) (¬ P) result t records) :
    (∃ a, result = .ok a) ↔ P ∧ AllGood t := by
  have hbad : ∀ {t q}, ¬ AllGood (t ++ [.answered q false]) :=
    fun hgood => hgood.not_mem (List.mem_append_right _ (List.mem_singleton_self _))
  cases h.ended with
  | done value good complete => exact iff_of_true ⟨_, rfl⟩ ⟨value, good⟩
  | refused reason plain good => exact iff_of_false (by simp) fun h => reason h.1
  | failed plain good call => exact iff_of_false (by simp) fun h => hbad h.2
  | unverified outcome good failed others => exact iff_of_false (by simp) fun h => hbad h.2

theorem complete {a : α} (h : Account planned Q R (.ok a) t records) :
    records.length = planned.length ∧ ∀ r ∈ records, r.converged = true := by
  obtain ⟨⟨-, hgood, hcomplete⟩, -, hrecorded⟩ := h
  refine ⟨?_, hgood.record hrecorded⟩
  rw [← hrecorded.length_eq, ← hcomplete, List.length_map]

/-- The last record, and only the last one, is not converged if that is why the part fails. -/
theorem unverified_iff (h : Account planned Q R result t records) (description : String)
    (attempts : Nat) :
    (∃ details, result = .error (.unverified description attempts details)) ↔
      ∃ first last, records = first ++ [last] ∧ (∀ r ∈ first, r.converged = true) ∧
        last.converged = false ∧ last.description = description ∧ last.attempts = attempts := by
  have hnone : (∀ r ∈ records, r.converged = true) →
      ¬ ∃ first last, records = first ++ [last] ∧ (∀ r ∈ first, r.converged = true) ∧
        last.converged = false ∧ last.description = description ∧ last.attempts = attempts := by
    rintro hall ⟨first, last, rfl, -, hlast, -⟩
    have hconverged := hall last (List.mem_append_right _ (List.mem_singleton_self _))
    rw [hlast] at hconverged
    cases hconverged
  have hrecorded := h.recorded
  cases h.ended with
  | done value good complete => exact iff_of_false (by simp) (hnone (good.record hrecorded))
  | refused reason plain good =>
    refine iff_of_false ?_ (hnone (good.record hrecorded))
    rintro ⟨details, he⟩
    exact plain description attempts details (Except.error.inj he)
  | @failed e q t records plain good call =>
    -- the last event is no check, so that all records are of what came before it
    have hverdicts : verdicts (t ++ [.answered q false]) = verdicts t := by
      cases q with
      | converge plan settings => exact absurd rfl (call plan settings)
      | change | labels | egressAssignments => simp [verdicts, Event.verdict?]
    rw [hverdicts] at hrecorded
    refine iff_of_false ?_ (hnone (good.record hrecorded))
    rintro ⟨details, he⟩
    exact plain description attempts details (Except.error.inj he)
  | unverified outcome good failed others =>
    constructor
    · rintro ⟨details, he⟩
      cases he
      exact ⟨_, _, rfl, others, failed, rfl, rfl⟩
    · rintro ⟨first, last, heq, -, -, rfl, rfl⟩
      obtain ⟨-, hlast⟩ := List.append_inj' heq rfl
      obtain rfl := List.singleton_inj.1 hlast
      exact ⟨_, rfl⟩

end Account

/-! ## The parts of a scenario -/

/-- The part accounts for these checks, when it is run from there. -/
def Accounts (start : Start (σ × Trace)) (planned : List (Plan × Poll.Settings)) (Q : α → Prop)
    (R : Prop) (x : Scenario (σ × Trace) α) : Prop :=
  ∀ result report now s, start.run x = ⟨some (result, report), now, s⟩ →
    ∃ t records, s.2 = start.world.2 ++ t ∧
      report = { start.report with checks := start.report.checks ++ records } ∧
      Account planned Q R result t records

namespace Accounts

variable {start : Start (σ × Trace)} {planned planned' : List (Plan × Poll.Settings)}
  {Q : α → Prop} {Q' : β → Prop} {R : Prop}

theorem pure {a : α} (h : Q a) : Accounts start [] Q R (pure a) := by
  rintro _ _ _ _ ⟨⟩
  exact ⟨[], [], (List.append_nil _).symm, by rw [List.append_nil],
    .done h .nil rfl, List.nil_prefix, .nil⟩

theorem lift {x : Except ScenarioError α} (hok : ∀ a, x = .ok a → Q a)
    (herror : ∀ e, x = .error e → R ∧ e.IsPlain) :
    Accounts start [] Q R (ExceptT.mk (Pure.pure x)) := by
  rintro _ _ _ _ ⟨⟩
  refine ⟨[], [], (List.append_nil _).symm, by rw [List.append_nil], ?_, List.nil_prefix, .nil⟩
  cases x with
  | ok a => exact .done (hok a rfl) .nil rfl
  | error e => exact .refused (herror e rfl).1 (herror e rfl).2 .nil

theorem requireSubnets (env : Environment σ) (network : NetworkName)
    (h : ¬ Mesh.hasSubnets env.topology network = true → R) :
    Accounts start [] (fun _ => Mesh.hasSubnets env.topology network = true) R
      (requireSubnets (recorded env) network) := by
  rw [Scenario.requireSubnets]
  split
  next hsubnets => exact pure hsubnets
  next hsubnets =>
    refine lift (by simp) fun _ he => ?_
    cases he
    exact ⟨h hsubnets, by simp [ScenarioError.IsPlain]⟩

theorem bind {x : Scenario (σ × Trace) α} {f : α → Scenario (σ × Trace) β}
    (hx : Accounts start planned Q R x)
    (hf : ∀ a, Q a → ∀ start, Accounts start planned' Q' R (f a)) :
    Accounts start (planned ++ planned') Q' R (x >>= f) := by
  intro result report now s hrun
  rw [Start.run, run_bind, Timed.run_bind] at hrun
  rcases hfirst : (x.run.run start.report).run start.limit start.now start.world with
    ⟨_ | ⟨_ | a, report₁⟩, now₁, s₁⟩
  · simp [hfirst] at hrun
  · simp only [hfirst, Timed.run_pure] at hrun
    cases hrun
    obtain ⟨t, records, hs, hreport, haccount⟩ := hx _ _ _ _ hfirst
    exact ⟨t, records, hs, hreport, haccount.error⟩
  · simp only [hfirst] at hrun
    obtain ⟨t, records, hs, hreport, haccount⟩ := hx _ _ _ _ hfirst
    obtain ⟨⟨value, -, -⟩, -, -⟩ := id haccount
    obtain ⟨t', records', hs', hreport', haccount'⟩ :=
      hf a value ⟨report₁, start.limit, now₁, s₁⟩ _ _ _ _ hrun
    refine ⟨t ++ t', records ++ records', ?_, ?_, haccount.append haccount'⟩
    · rw [hs', hs, List.append_assoc]
    · rw [hreport', hreport, List.append_assoc]

theorem act {x : Action σ ScenarioError α} {q : Request} (hplain : Plain x)
    (hcall : ∀ plan settings, q ≠ .converge plan settings)
    (hvalue : ∀ a, (x.run.run start.limit start.now start.world.1).value? = some (.ok a) → Q a) :
    Accounts start [] Q R (act (q.recordAction x)) := by
  intro result report now s hrun
  have hverdicts : ∀ good, verdicts [.sent q, .answered q good] = [] := by
    intro good
    cases q with
    | converge plan settings => exact absurd rfl (hcall plan settings)
    | change | labels | egressAssignments => rfl
  have hanswer := hplain start.limit start.now start.world.1
  rw [Start.run, run_act, ← bind_pure_comp, Timed.run_bind] at hrun
  rw [Request.recordAction, ExceptT.run_mk, run_record] at hrun
  rcases hx : x.run.run start.limit start.now start.world.1 with ⟨_ | answer, now', w⟩
  · simp [hx] at hrun
  simp only [hx, Timed.run_pure] at hrun hanswer hvalue
  cases hrun
  refine ⟨[.sent q, .answered q result.isOk], [], rfl, by rw [List.append_nil], ?_, ?_, ?_⟩
  · cases result with
    | ok a =>
      refine .done (hvalue a rfl) ?_ (by rw [hverdicts]; rfl)
      exact List.forall_mem_cons.2 ⟨rfl, List.forall_mem_singleton.2 rfl⟩
    | error e =>
      change Ended _ _ _ _ ([.sent q] ++ [.answered q false]) _
      exact .failed (hanswer e rfl) (List.forall_mem_singleton.2 rfl) hcall
  · rw [hverdicts]
    exact List.nil_prefix
  · rw [hverdicts]
    exact .nil

theorem check {Q : Unit → Prop} (env : Environment σ) (plan : Plan) (settings : Poll.Settings)
    (h : Q ()) : Accounts start [(plan, settings)] Q R (check (recorded env) plan settings) := by
  intro result report now s hrun
  rw [Start.run, run_check, ← bind_pure_comp, Timed.run_bind] at hrun
  simp only [recorded, run_record] at hrun
  rcases hx : (env.converge plan settings).run start.limit start.now start.world.1 with
    ⟨_ | outcome, now', w⟩
  · simp [hx] at hrun
  simp only [hx, Timed.run_pure] at hrun
  cases hrun
  refine ⟨_, [.ofOutcome plan settings outcome], rfl, rfl, ?_, List.prefix_refl _,
    .cons ⟨outcome, rfl, rfl⟩ .nil⟩
  rw [Convergence.ensure]
  cases hconverged : outcome.converged with
  | true => exact .done h (List.forall_mem_cons.2 ⟨rfl, List.forall_mem_singleton.2 rfl⟩) rfl
  | false =>
    change Ended _ _ _ _
      ([.sent (.converge plan settings)] ++ [.answered (.converge plan settings) false])
      ([] ++ [.ofOutcome plan settings outcome])
    exact .unverified outcome (List.forall_mem_singleton.2 rfl) hconverged (by simp)

theorem wait {Q : Unit → Prop} (span : Millis) (h : Q ()) :
    Accounts start [] Q R (time (Timed.wait span)) := by
  intro result report now s hrun
  rw [Start.run, run_time, ← bind_pure_comp, Timed.run_bind] at hrun
  have hworld : ((Timed.wait span).run start.limit start.now start.world).world = start.world :=
    Timed.Leads.wait (P := (· = start.world)) (fun _ _ h => h) start.limit start.now start.world rfl
  rcases hx : (Timed.wait span).run start.limit start.now start.world with ⟨_ | ⟨⟩, now', s'⟩
  · simp [hx] at hrun
  simp only [hx, Timed.run_pure] at hrun hworld
  cases hrun
  refine ⟨[], [], ?_, by rw [List.append_nil], .done h .nil rfl, List.nil_prefix, .nil⟩
  rw [hworld, List.append_nil]

theorem takeAll {Q : Unit → Prop} {env : Environment σ} (hquiet : Quiet env) (h : Q ())
    (steps : List Step) :
    Accounts start (steps.filterMap Step.check?) Q R (takeAll (recorded env) steps) := by
  have htake : ∀ (step : Step) start, Accounts start (step.check?.toList) (fun _ => True) R
      (step.take (recorded env)) := by
    intro step start
    cases step with
    | change c =>
      rw [Step.take, make_recorded]
      exact act (hquiet.change c) (by simp) fun _ _ => trivial
    | check plan settings => exact check env plan settings trivial
    | checkStable plan settings =>
      exact (wait (Q := fun _ => True) settings.interval trivial).bind fun _ _ _ =>
        check env _ _ trivial
  -- each step leaves another report, from which the later ones start
  induction steps generalizing start with
  | nil => exact pure h
  | cons step steps ih =>
    have hchecks : (step :: steps).filterMap Step.check? =
        step.check?.toList ++ steps.filterMap Step.check? := by
      rw [List.filterMap_cons]
      cases step.check? <;> rfl
    rw [hchecks]
    exact (htake step start).bind fun _ _ _ => ih

end Accounts

/-! ## Whole scenarios -/

theorem plain_bind {x : Except ScenarioError α} {f : α → Except ScenarioError β}
    (hx : ∀ e, x = .error e → e.IsPlain) (hf : ∀ a e, f a = .error e → e.IsPlain) :
    ∀ e, x >>= f = .error e → e.IsPlain := by
  intro e h
  cases x with
  | error e' =>
    cases h
    exact hx e rfl
  | ok a => exact hf a e h

theorem plain_nodeAddress (node : Node) (family : Family) :
    ∀ e, nodeAddress node family = .error e → e.IsPlain := by
  intro e h
  rw [nodeAddress] at h
  split at h
  next => cases h
  next =>
    cases h
    simp [ScenarioError.IsPlain]

theorem plain_failoverTarget (topology : Topology) (holder : Node) (target : Option String) :
    ∀ e, failoverTarget topology holder target = .error e → e.IsPlain := by
  intro e h
  cases target with
  | some name =>
    rw [failoverTarget] at h
    split at h
    · split at h
      · cases h
        simp [ScenarioError.IsPlain]
      · cases h
    · cases h
      simp [ScenarioError.IsPlain]
  | none =>
    rw [failoverTarget] at h
    split at h
    · cases h
    · cases h
      simp [ScenarioError.IsPlain]

theorem plain_move (o : FailoverOptions) (topology : Topology) (held : List EgressAssignment) :
    ∀ e, o.move topology held = .error e → e.IsPlain := by
  intro e h
  cases held with
  | nil =>
    cases h
    simp [ScenarioError.IsPlain]
  | cons assignment held =>
    rw [FailoverOptions.move, EgressMove.ofAssignment] at h
    split at h
    next holder _ =>
      refine plain_bind (plain_failoverTarget topology holder o.target) (fun target => ?_) e h
      refine plain_bind (plain_nodeAddress holder _) fun holderIp => ?_
      exact plain_bind (plain_nodeAddress target _) fun _ _ => by simp [Pure.pure, Except.pure]
    next =>
      cases h
      simp [ScenarioError.IsPlain]

/-- The nodes that hold the egress address of the scenario, as the environment says at the start. -/
def Start.held (start : Start σ) (env : Environment σ) : ScenarioChoice → List EgressAssignment
  | .failover o =>
    match ((env.egressAssignments o.egress).run.run start.limit start.now start.world).value? with
    | some (.ok held) => held
    | _ => []
  | _ => []

theorem accounts_save {env : Environment σ} (hquiet : Quiet env) {R : Prop}
    (start : Start (σ × Trace)) (object : ObjectKey) (key : String) :
    Accounts start [] (fun _ => True) R (save (recorded env) object key) :=
  (Accounts.act (Q := fun _ => True) (hquiet.labels object) (by simp) fun _ _ => trivial).bind
    fun _ _ _ => .pure trivial

theorem accounts_requireDifferent (topology : Topology) (held : List EgressAssignment)
    (o : SelectorOptions) (start : Start (σ × Trace)) :
    Accounts start [] (fun _ => o.selected ≠ o.other) (¬ InOrder topology held (.selector o))
      (ExceptT.mk (pure o.requireDifferent)) := by
  rw [SelectorOptions.requireDifferent]
  split
  next hsame =>
    refine .lift (by simp) fun e he => ?_
    cases he
    exact ⟨fun h => h.1 hsame, by simp [ScenarioError.IsPlain]⟩
  next hother => exact .pure hother

theorem accounts_move (topology : Topology) (held : List EgressAssignment) (o : FailoverOptions)
    (start : Start (σ × Trace)) :
    Accounts start [] (fun m => o.move topology held = .ok m) (¬ InOrder topology held (.failover o))
      (ExceptT.mk (pure (o.move topology held))) := by
  refine .lift (fun _ h => h) fun e he => ⟨?_, plain_move o topology held e he⟩
  rintro ⟨m, hm⟩
  rw [he] at hm
  cases hm

/-- The preparation of a scenario makes no check, and is refused if the options are not in order. -/
theorem accounts_work {env : Environment σ} (hquiet : Quiet env) (choice : ScenarioChoice)
    (start : Start (σ × Trace)) (held : List EgressAssignment)
    (hheld : ∀ o a, choice = .failover o → ((env.egressAssignments o.egress).run.run start.limit
      start.now start.world.1).value? = some (.ok a) → a = held) :
    Accounts start []
      (fun work => work.body.filterMap Step.check? = checks env held choice ∧
        InOrder env.topology held choice)
      (¬ InOrder env.topology held choice) (choice.work (recorded env)) := by
  have hsave {R : Prop} (start : Start (σ × Trace)) := accounts_save hquiet (R := R) start
  cases choice with
  | defaultNetwork name =>
    exact (Accounts.requireSubnets env _ id).bind fun _ h _ => .pure ⟨rfl, h⟩
  | recovery o => exact (Accounts.requireSubnets env _ id).bind fun _ h _ => .pure ⟨rfl, h⟩
  | selector o =>
    refine (accounts_requireDifferent env.topology held o start).bind fun _ hother start => ?_
    refine (Accounts.requireSubnets env _ fun hnot h => hnot h.2.1).bind
      fun _ hselected start => ?_
    refine (Accounts.requireSubnets env _ fun hnot h => hnot h.2.2).bind
      fun _ hunselected start => ?_
    exact (hsave start _ _).bind fun _ _ start => (hsave start _ _).bind fun _ _ _ =>
      .pure ⟨rfl, hother, hselected, hunselected⟩
  | failover o =>
    have hasked : Accounts start [] (· = held) (¬ InOrder env.topology held (.failover o))
        (act ((recorded env).egressAssignments o.egress)) :=
      .act (hquiet.egressAssignments o.egress) (by simp) fun a ha => hheld o a rfl ha
    refine hasked.bind fun held hsame start => ?_
    subst hsame
    refine (accounts_move env.topology held o start).bind fun m hm start =>
      (hsave start _ _).bind fun _ _ start => (hsave start _ _).bind fun _ _ _ => .pure ⟨?_, m, hm⟩
    rw [checks, hm]
    rfl

/-- A scenario accounts for its checks, up to its cleanup. -/
theorem accounts_scenario {env : Environment σ} (hquiet : Quiet env) (choice : ScenarioChoice)
    (start : Start σ) :
    Accounts start.onRecord (checks env (start.held env choice) choice)
      (fun _ => InOrder env.topology (start.held env choice) choice)
      (¬ InOrder env.topology (start.held env choice) choice)
      (uncleaned (recorded env) choice) := by
  rw [← List.nil_append (checks env (start.held env choice) choice)]
  refine (accounts_work hquiet choice start.onRecord (start.held env choice) ?_).bind
    fun work hwork later => ?_
  · rintro o a rfl ha
    simp only [Start.onRecord] at ha
    simp only [Start.held, ha]
  · rw [← hwork.1]
    exact .takeAll hquiet hwork.2 work.body

/-- The trace of a run of the scenario, up to its cleanup. -/
def Start.bodyTrace (start : Start σ) (env : Environment σ) (choice : ScenarioChoice) : Trace :=
  (start.onRecord.run (uncleaned (recorded env) choice)).world.2

/-- A scenario comes back with the result and the report that there are before its cleanup. -/
theorem exists_run_uncleaned {env : Environment σ} {choice : ScenarioChoice} {start : Start σ}
    {result : Except ScenarioError Unit} {report : Report} {now : Millis} {w : σ}
    (hback : start.run (choice.scenario env) = ⟨some (result, report), now, w⟩) :
    ∃ now s, start.onRecord.run (uncleaned (recorded env) choice) = ⟨some (result, report), now, s⟩ ∧
      start.bodyTrace env choice <+: start.trace env choice := by
  rw [Start.run_onRecord] at hback
  rcases hrun : start.onRecord.run (choice.scenario (recorded env)) with ⟨value, now', s⟩
  rw [hrun] at hback
  obtain ⟨rfl, rfl, rfl⟩ : value = some (result, report) ∧ now' = now ∧ s.1 = w := by
    simpa using hback
  rw [Start.bodyTrace, Start.trace, hrun]
  rcases run_scenario hrun with ⟨e, -, -, huncleaned⟩ |
    ⟨work, -, -, -, now₂, s₂, -, -, huncleaned, hcleanup⟩
  · rw [huncleaned]
    exact ⟨now', s, rfl, List.prefix_refl _⟩
  refine ⟨now₂, s₂, huncleaned, ?_⟩
  rw [huncleaned]
  split at hcleanup
  next =>
    obtain ⟨t', -, ht'⟩ := (leads_undo_recorded env work.cleanup s₂.2).of_run rfl hcleanup
    exact ht' ▸ List.prefix_append _ _
  next =>
    obtain ⟨-, rfl⟩ := hcleanup
    exact List.prefix_refl _

/-- How many checks the scenario makes. -/
def checkCount : ScenarioChoice → Nat
  | .defaultNetwork _ => 4
  | .selector _ => 1
  | .failover _ => 2
  | .recovery _ => 3

theorem length_checks {env : Environment σ} {held : List EgressAssignment}
    {choice : ScenarioChoice} (h : InOrder env.topology held choice) :
    (checks env held choice).length = checkCount choice := by
  cases choice with
  | failover o =>
    obtain ⟨m, hm⟩ := h
    simp only [checks, hm]
    rfl
  | defaultNetwork | selector | recovery => rfl

/-- A scenario in an environment that answers all calls comes back. Its checks are made and recorded
in their order, and nothing is done after the first call that fails or the first check that does not
converge. Its result is good if its options are in order and all of them are good, it says that the
last check did not converge if and only if the report does, and its cleanup does not matter. -/
theorem scenario_account (env : Environment σ) (hanswers : Answers env) (hquiet : Quiet env)
    (choice : ScenarioChoice) (start : Start σ) (hlimit : start.limit = none)
    (hempty : start.report.checks = []) :
    ∃ result report now w, start.run (choice.scenario env) = ⟨some (result, report), now, w⟩ ∧
      (start.run (uncleaned env choice)).value? = some (result, report) ∧
      let held := start.held env choice
      let body := start.bodyTrace env choice
      start.trace env choice = body ++ start.cleanupTrace env choice ∧
      (verdicts body).map Prod.fst <+: checks env held choice ∧
      List.Forall₂ Records (verdicts body) report.checks ∧
      (∀ before q after, body = before ++ .answered q false :: after → after = []) ∧
      (result = .ok () ↔ InOrder env.topology held choice ∧ AllGood body) ∧
      (result = .ok () → report.checks.length = checkCount choice ∧ report.passed = true) ∧
      ∀ description attempts,
        (∃ details, result = .error (.unverified description attempts details)) ↔
          ∃ first last, report.checks = first ++ [last] ∧ (∀ r ∈ first, r.converged = true) ∧
            last.converged = false ∧ last.description = description ∧ last.attempts = attempts := by
  obtain ⟨⟨result, report⟩, now, w, hback⟩ :=
    returns_scenario hanswers choice start.report start.now start.world
  rw [← hlimit] at hback
  obtain ⟨now₂, s₂, huncleaned, hprefix⟩ := exists_run_uncleaned hback
  obtain ⟨t, records, hs₂, hreport, haccount⟩ :=
    accounts_scenario hquiet choice start result report now₂ s₂ huncleaned
  have hbody : start.bodyTrace env choice = t := by
    rw [Start.bodyTrace, huncleaned, hs₂]
    rfl
  have hrecords : report.checks = records := by
    rw [hreport]
    exact congrArg (· ++ records) hempty
  have hok : result = .ok () ↔ ∃ a, result = .ok a :=
    ⟨fun h => ⟨(), h⟩, fun ⟨_, h⟩ => h⟩
  refine ⟨result, report, now, w, hback, ?_, ?_, ?_, ?_, ?_, ?_, ?_, ?_⟩
  · have hmirrors : Mirrors (uncleaned (recorded env) choice) (uncleaned env choice) :=
      (Mirrors.work env choice).bind fun work => .takeAll env work.body
    have hsame := hmirrors start.report start.limit start.now (start.world, [])
    rw [Start.run, ← hsame]
    exact congrArg Ending.value? huncleaned
  · exact (List.prefix_iff_eq_append.1 hprefix).symm
  · exact hbody ▸ haccount.ordered
  · exact hbody ▸ hrecords ▸ haccount.recorded
  · intro before q after heq
    exact haccount.stops (hbody ▸ heq)
  · rw [hok, hbody]
    exact haccount.ok_iff
  · rintro rfl
    obtain ⟨hlength, hall⟩ := haccount.complete
    obtain ⟨horder, -⟩ := haccount.ok_iff.1 ⟨(), rfl⟩
    rw [Report.passed, hrecords, hlength, length_checks horder]
    exact ⟨rfl, List.all_eq_true.2 hall⟩
  · rw [hrecords]
    exact haccount.unverified_iff

/-! ## A check that does not converge -/

theorem answers_scripted (topology : Topology) : Answers (scripted topology) where
  change c := by cases c <;> exact .act _
  converge _ _ := .act _
  labels _ := .act _
  egressAssignments _ := .act _

theorem plain_nextAnswer (a : α) : Plain (nextAnswer a) := by
  intro limit now script e h
  have hanswer : (if script.headD true then .ok a else .error .advertisementsDisabled :
      Except ScenarioError α) = .error e := Option.some.inj h
  split at hanswer
  next => cases hanswer
  next =>
    cases hanswer
    simp [ScenarioError.IsPlain]

theorem quiet_scripted (topology : Topology) : Quiet (scripted topology) where
  change c := by cases c <;> exact plain_nextAnswer ()
  labels _ := plain_nextAnswer ∅
  egressAssignments _ := plain_nextAnswer []

/-- A recovery in which the second check does not converge. -/
def failedCheckStart : Start (List Bool) where
  report := .ofTopology "recovery" "" Simulation.dualNodes
  now := 0
  world := [true, true, false]

theorem scenario_account_of_failed_check :
    ∃ result report now w,
      failedCheckStart.run
          ((ScenarioChoice.recovery ⟨"default", .frr⟩).scenario (scripted Simulation.dualNodes)) =
        ⟨some (result, report), now, w⟩ ∧
      ∃ first last details, report.checks = [first, last] ∧
        result = .error (.unverified last.description last.attempts details) := by
  obtain ⟨result, report, now, w, hrun, -, -, -, -, -, -, -, hunverified⟩ :=
    scenario_account (scripted Simulation.dualNodes) (answers_scripted _) (quiet_scripted _)
      (.recovery ⟨"default", .frr⟩) failedCheckStart rfl rfl
  have hconverged : (failedCheckStart.run
      ((ScenarioChoice.recovery ⟨"default", .frr⟩).scenario
        (scripted Simulation.dualNodes))).value?.map (·.2.checks.map (·.converged)) =
      some [true, false] := by
    decide +kernel
  rw [hrun, Option.map_some, Option.some.injEq] at hconverged
  obtain ⟨first, last, hchecks⟩ : ∃ first last, report.checks = [first, last] := by
    refine List.length_eq_two.1 ?_
    simpa using congrArg List.length hconverged
  rw [hchecks] at hconverged
  obtain ⟨hfirst, hlast⟩ : first.converged = true ∧ last.converged = false := by
    simpa using hconverged
  obtain ⟨details, hresult⟩ := (hunverified last.description last.attempts).2
    ⟨[first], last, hchecks, by simpa using hfirst, hlast, rfl, rfl⟩
  exact ⟨result, report, now, w, hrun, first, last, details, hchecks, hresult⟩

end Scenario

end RouteWatch
