import Mathlib.Data.List.Forall2
import RouteWatch.Proofs.Poll
import RouteWatch.Scenario.Error

/-!
# What waiting for a plan does

Waiting for a plan keeps what each sample keeps, and it comes back whatever the samples are. The
attempts are seen here as `Rounds`: each takes the samples of all probes in order, or it fails or is
cut off at one of them. The rounds alone decide what is reported.

* `exists_rounds`: waiting for a plan goes through such rounds;
* `converge_verdict`: the plan has converged if and only if a round shows it, and otherwise the last
  rounds of each kind are what is reported.
-/

namespace RouteWatch

variable {σ ε : Type} {I : σ → Prop} {sampler : Sampler σ ε}

theorem keeps_capture (h : ∀ target query, Timed.Keeps I (sampler target query).run)
    (probes : List Probe) : Timed.Keeps I (capture sampler probes).run := by
  rw [capture]
  exact .mapM_action (fun p => h p.target p.query) probes

theorem Plan.keeps_attempt (h : ∀ target query, Timed.Keeps I (sampler target query).run)
    (plan : Plan) : Timed.Keeps I (plan.attempt sampler).run :=
  .bind_action (keeps_capture h plan.probes) fun _ => .pure _

theorem keeps_converge (h : ∀ target query, Timed.Keeps I (sampler target query).run)
    (message : ε → String) (plan : Plan) (settings : Poll.Settings) :
    Timed.Keeps I (converge sampler message plan settings) :=
  .bind (keeps_poll (plan.keeps_attempt h) settings) fun _ => .pure _

theorem returns_converge (sampler : Sampler σ ε) (message : ε → String) (plan : Plan)
    (settings : Poll.Settings) : Timed.Returns (converge sampler message plan settings) :=
  .bind (returns_poll settings _) fun _ => .pure _

/-! ## Taking the samples of one attempt -/

/-- The samples of the probes, each taken at its own target with its own query when the one before
it has been taken. -/
inductive Captured (sampler : Sampler σ ε) (limit : Option Millis) :
    List Probe → Millis → σ → List Sample → Millis → σ → Prop
  | nil {now w} : Captured sampler limit [] now w [] now w
  | cons {p probes now w sample now' w' samples now'' w''}
      (taken : (sampler p.target p.query).run.run limit now w = ⟨some (.ok sample), now', w'⟩)
      (rest : Captured sampler limit probes now' w' samples now'' w'') :
      Captured sampler limit (p :: probes) now w (sample :: samples) now'' w''

/-- How the taking of samples ends. -/
inductive Outcome (ε : Type) where
  | complete (samples : List Sample)
  /-- A sample could not be taken. -/
  | failed (e : ε)
  /-- The time was over before all samples were there. -/
  | cutOff

/-- The outcome of a capture that gave this. -/
def Outcome.of : Option (Except ε (List Sample)) → Outcome ε
  | some (.ok samples) => .complete samples
  | some (.error e) => .failed e
  | none => .cutOff

/-- The outcome with one more sample at the start. -/
def Outcome.cons (sample : Sample) : Outcome ε → Outcome ε
  | .complete samples => .complete (sample :: samples)
  | o => o

/-- The taking of the samples of these probes ends like this. -/
inductive Ends (sampler : Sampler σ ε) (limit : Option Millis) (probes : List Probe) (now : Millis)
    (w : σ) : Outcome ε → Millis → σ → Prop
  | complete {samples now' w'} (all : Captured sampler limit probes now w samples now' w') :
      Ends sampler limit probes now w (.complete samples) now' w'
  /-- The one of this probe cannot be taken. -/
  | failed {first p later samples now₁ w₁ e now' w'} (place : probes = first ++ p :: later)
      (before : Captured sampler limit first now w samples now₁ w₁)
      (fails : (sampler p.target p.query).run.run limit now₁ w₁ = ⟨some (.error e), now', w'⟩) :
      Ends sampler limit probes now w (.failed e) now' w'
  /-- The one of this probe is not there in time. -/
  | cutOff {first p later samples now₁ w₁ now' w'} (place : probes = first ++ p :: later)
      (before : Captured sampler limit first now w samples now₁ w₁)
      (late : (sampler p.target p.query).run.run limit now₁ w₁ = ⟨none, now', w'⟩) :
      Ends sampler limit probes now w .cutOff now' w'

theorem Captured.length_eq {limit : Option Millis} {probes : List Probe} {now now' : Millis}
    {w w' : σ} {samples : List Sample} (h : Captured sampler limit probes now w samples now' w') :
    samples.length = probes.length := by
  induction h with
  | nil => rfl
  | cons _ _ ih => simp [ih]

theorem Ends.cons {limit : Option Millis} {p : Probe} {probes : List Probe}
    {now now' now'' : Millis} {w w' w'' : σ} {sample : Sample} {o : Outcome ε}
    (taken : (sampler p.target p.query).run.run limit now w = ⟨some (.ok sample), now', w'⟩)
    (h : Ends sampler limit probes now' w' o now'' w'') :
    Ends sampler limit (p :: probes) now w (o.cons sample) now'' w'' := by
  cases h with
  | complete all => exact .complete (.cons taken all)
  | failed place before fails => exact .failed (by rw [place]; rfl) (.cons taken before) fails
  | cutOff place before late => exact .cutOff (by rw [place]; rfl) (.cons taken before) late

theorem run_capture_cons (sampler : Sampler σ ε) (limit : Option Millis) (p : Probe)
    (probes : List Probe) (now : Millis) (w : σ) :
    (capture sampler (p :: probes)).run.run limit now w =
      match (sampler p.target p.query).run.run limit now w with
      | ⟨some (.ok sample), now', w'⟩ =>
        let e := (capture sampler probes).run.run limit now' w'
        ⟨e.value?.map (·.map (sample :: ·)), e.now, e.world⟩
      | ⟨some (.error e), now', w'⟩ => ⟨some (.error e), now', w'⟩
      | ⟨none, now', w'⟩ => ⟨none, now', w'⟩ := by
  rw [capture, List.mapM_cons, ExceptT.run_bind, Timed.run_bind]
  rcases (sampler p.target p.query).run.run limit now w with ⟨_ | _ | sample, now', w'⟩
  · rfl
  · rfl
  · change ((capture sampler probes >>= fun samples => pure (sample :: samples)).run).run limit
      now' w' = _
    rw [ExceptT.run_bind, Timed.run_bind]
    dsimp only
    rcases (capture sampler probes).run.run limit now' w' with ⟨_ | _ | samples, now'', w''⟩ <;>
      rfl

/-- A capture takes the samples in order, up to the first that fails or is cut off. -/
theorem ends_capture (sampler : Sampler σ ε) (limit : Option Millis) (probes : List Probe)
    (now : Millis) (w : σ) :
    let e := (capture sampler probes).run.run limit now w
    Ends sampler limit probes now w (.of e.value?) e.now e.world := by
  induction probes generalizing now w with
  | nil => exact .complete .nil
  | cons p probes ih =>
    rw [run_capture_cons]
    rcases hsample : (sampler p.target p.query).run.run limit now w with
      ⟨_ | _ | sample, now', w'⟩
    · exact .cutOff (List.nil_append _).symm .nil hsample
    · exact .failed (List.nil_append _).symm .nil hsample
    · have hends := (ih now' w').cons hsample
      have hcons : ∀ r : Option (Except ε (List Sample)),
          (Outcome.of r).cons sample = .of (r.map (·.map (sample :: ·))) := by
        rintro (_ | _ | samples) <;> rfl
      rwa [hcons] at hends

/-! ## The rounds -/

/-- An attempt to take all samples. -/
structure Round (ε : Type) where
  /-- Its number, counted from 1. -/
  number : Nat
  start : Millis
  /-- For how long it was allowed to run. -/
  budget : Millis
  finish : Millis
  outcome : Outcome ε

/-- The samples of the outcome, if all are there. -/
def Outcome.samples? : Outcome ε → Option (List Sample)
  | .complete samples => some samples
  | _ => none

namespace Round

/-- All samples were there, and every expectation of every probe holds on the sample of its probe. -/
def Shows (plan : Plan) (r : Round ε) : Prop :=
  ∃ samples, r.outcome = .complete samples ∧
    List.Forall₂ (fun p sample => ∀ e ∈ p.expectations, e.holds sample.text = true)
      plan.probes samples

/-- The samples of the round, if all are there. -/
def samples? (r : Round ε) : Option (List Sample) :=
  r.outcome.samples?

/-- Why the samples of the round are not there, if they are not. -/
def error? (message : ε → String) (r : Round ε) : Option String :=
  match r.outcome with
  | .complete _ => none
  | .failed e => some (message e)
  | .cutOff => some s!"attempt {r.number} did not finish within {r.budget.text}"

/-- The round is the one with that number, made then and in that world, and leaves this world. A
round has the time that is left, but at least one interval; one that is cut off takes all of it. -/
structure Made (sampler : Sampler σ ε) (plan : Plan) (s : Poll.Settings) (deadline : Millis)
    (number : Nat) (start : Millis) (w : σ) (r : Round ε) (w' : σ) : Prop where
  number_eq : r.number = number
  start_eq : r.start = start
  /-- Its time is bounded. -/
  budget_eq : r.budget = max (deadline - start) s.interval
  /-- It takes the samples of the plan. -/
  ends : ∃ now, Ends sampler (some (start + r.budget)) plan.probes start w r.outcome now w' ∧
    r.finish = match r.outcome with
      | .cutOff => start + r.budget
      | _ => now

end Round

/-- The rounds that follow one another from this number, moment and world on, and the world in the
end. -/
inductive Rounds (sampler : Sampler σ ε) (plan : Plan) (s : Poll.Settings) (deadline : Millis) :
    Nat → Millis → σ → List (Round ε) → σ → Prop
  /-- The round shows the plan, or there is no time for another one. -/
  | last {number start w r w'} (made : r.Made sampler plan s deadline number start w w')
      (stops : r.Shows plan ∨ deadline ≤ r.finish) :
      Rounds sampler plan s deadline number start w [r] w'
  /-- The round does not show the plan, and there is time left. -/
  | next {number start w r w' rs w''} (made : r.Made sampler plan s deadline number start w w')
      (pending : ¬ r.Shows plan) (early : r.finish < deadline)
      (rest : Rounds sampler plan s deadline (number + 1)
        (max r.finish (min (start + s.interval) deadline)) w' rs w'') :
      Rounds sampler plan s deadline number start w (r :: rs) w''

/-! ## Rounds and the attempts of the poll -/

/-- What the outcome means for the plan. -/
def Outcome.verdict (plan : Plan) : Outcome ε → Poll.Result ε (List Mismatch) Unit
  | .complete samples =>
    if (plan.mismatches samples).isEmpty then .ready () else .pending (plan.mismatches samples)
  | .failed e => .failed e
  | .cutOff => .unfinished

/-- The round as an attempt of the poll. -/
def Round.toTry (plan : Plan) (r : Round ε) : Poll.Try ε (List Mismatch) Unit :=
  ⟨r.number, r.start, r.budget, r.finish, r.outcome.verdict plan⟩

theorem Plan.run_attempt (plan : Plan) (sampler : Sampler σ ε) (limit : Option Millis)
    (now : Millis) (w : σ) :
    let e := (capture sampler plan.probes).run.run limit now w
    let e' := (plan.attempt sampler).run.run limit now w
    e'.now = e.now ∧ e'.world = e.world ∧ e'.value?.isSome = e.value?.isSome ∧
      Poll.Result.of e'.value? = (Outcome.of e.value?).verdict plan := by
  rw [Plan.attempt, ExceptT.run_bind, Timed.run_bind]
  dsimp only
  rcases (capture sampler plan.probes).run.run limit now w with ⟨_ | _ | samples, now', w'⟩
  · exact ⟨rfl, rfl, rfl, rfl⟩
  · exact ⟨rfl, rfl, rfl, rfl⟩
  · refine ⟨rfl, rfl, rfl, ?_⟩
    by_cases h : (plan.mismatches samples).isEmpty
    · simp [h, Outcome.of, Outcome.verdict, Poll.Result.of]
    · simp [h, Outcome.of, Outcome.verdict, Poll.Result.of]

variable {plan : Plan} {s : Poll.Settings} {deadline : Millis}

theorem exists_round {number : Nat} {start : Millis} {w w' : σ}
    {t : Poll.Try ε (List Mismatch) Unit}
    (h : Poll.tryAt s deadline (plan.attempt sampler) number start w = (t, w')) :
    ∃ r : Round ε, r.Made sampler plan s deadline number start w w' ∧ t = r.toTry plan := by
  let budget := Poll.budgetAt s deadline start
  have hends := ends_capture sampler (some (start + budget)) plan.probes start w
  obtain ⟨hnow, hworld, hsome, hverdict⟩ :=
    plan.run_attempt sampler (some (start + budget)) start w
  rcases hcapture : (capture sampler plan.probes).run.run (some (start + budget)) start w with
    ⟨value, now', w₁⟩
  rcases hattempt : (plan.attempt sampler).run.run (some (start + budget)) start w with
    ⟨value', now'', w₁'⟩
  rw [hcapture] at hends hnow hworld hsome hverdict
  rw [hattempt] at hnow hworld hsome hverdict
  obtain rfl : now' = now'' := hnow.symm
  obtain rfl : w₁ = w₁' := hworld.symm
  rw [Poll.tryAt, hattempt] at h
  cases value with
  | none =>
    obtain rfl : value' = none := by simpa using hsome
    cases h
    exact ⟨⟨number, start, budget, start + budget, .cutOff⟩, ⟨rfl, rfl, rfl, now', hends, rfl⟩, rfl⟩
  | some r =>
    obtain ⟨r', rfl⟩ := Option.isSome_iff_exists.1 (show value'.isSome = true by simp [hsome])
    cases h
    refine ⟨⟨number, start, budget, now', .of (some r)⟩, ⟨rfl, rfl, rfl, now', hends, ?_⟩, ?_⟩
    · cases r <;> rfl
    · rw [Round.toTry, ← hverdict]

theorem Plan.mismatches_eq_nil_iff (plan : Plan) {samples : List Sample}
    (h : samples.length = plan.probes.length) :
    plan.mismatches samples = [] ↔
      List.Forall₂ (fun p sample => ∀ e ∈ p.expectations, e.holds sample.text = true)
        plan.probes samples := by
  obtain ⟨description, probes⟩ := plan
  simp only [Plan.mismatches] at h ⊢
  induction probes generalizing samples with
  | nil => cases samples with
    | nil => simp
    | cons => cases h
  | cons p probes ih => cases samples with
    | nil => cases h
    | cons sample samples =>
      have hp : p.mismatches sample = [] ↔ ∀ e ∈ p.expectations, e.holds sample.text = true := by
        simp [Probe.mismatches]
      simp only [List.zipWith_cons_cons, List.flatten_cons, List.append_eq_nil_iff, hp,
        List.forall₂_cons, ih (Nat.succ.inj h)]

/-- A round is ready for the poll if and only if it shows the plan. -/
theorem Round.Made.isReady_iff {number : Nat} {start : Millis} {w w' : σ} {r : Round ε}
    (h : r.Made sampler plan s deadline number start w w') :
    (r.toTry plan).isReady = true ↔ r.Shows plan := by
  obtain ⟨now', hends, -⟩ := h.ends
  obtain ⟨number, start, budget, finish, outcome⟩ := r
  rw [toTry, Poll.Try.isReady]
  cases hends with
  | @complete samples _ _ all =>
    have hiff := plan.mismatches_eq_nil_iff all.length_eq
    simp only [Outcome.verdict, Shows, Outcome.complete.injEq, exists_eq_left', ← hiff]
    by_cases h : plan.mismatches samples = []
    · simp [h]
    · simp [h]
  | failed | cutOff => simp [Outcome.verdict, Shows]

theorem exists_rounds_of_tries {number : Nat} {start : Millis} {w w' : σ}
    {ts : List (Poll.Try ε (List Mismatch) Unit)}
    (h : Poll.Tries s deadline (plan.attempt sampler) number start w ts w') :
    ∃ rs, Rounds sampler plan s deadline number start w rs w' ∧
      ts = rs.map (Round.toTry plan) := by
  induction h with
  | last made stops =>
    obtain ⟨r, hmade, rfl⟩ := exists_round made
    exact ⟨[r], .last hmade (stops.imp_left hmade.isReady_iff.1), rfl⟩
  | next made pending early _ ih =>
    obtain ⟨r, hmade, rfl⟩ := exists_round made
    obtain ⟨rs, hrounds, rfl⟩ := ih
    exact ⟨r :: rs, .next hmade (fun h => by simp [hmade.isReady_iff.2 h] at pending) early hrounds,
      rfl⟩

/-- Waiting for a plan goes through rounds, which tell all that is reported. -/
theorem exists_rounds (sampler : Sampler σ ε) (message : ε → String) (plan : Plan)
    (hs : 0 < s.interval) (now : Millis) (w : σ) :
    ∃ rs now' w', Rounds sampler plan s (now + s.timeout) 1 now w rs w' ∧
      (converge sampler message plan s).run none now w =
        ⟨some (.ofHistory message ⟨now, rs.map (Round.toTry plan)⟩), now', w'⟩ := by
  obtain ⟨ts, now', w', hrun, -, htries⟩ := run_poll s hs (plan.attempt sampler) now w
  obtain ⟨rs, hrounds, rfl⟩ := exists_rounds_of_tries htries
  exact ⟨rs, now', w', hrounds, by simp only [converge, Timed.run_bind, hrun, Timed.run_pure]⟩

/-! ## What the rounds tell -/

/-- The last round may show the plan, and no other one does. -/
theorem Rounds.split {number : Nat} {start : Millis} {w w' : σ} {rs : List (Round ε)}
    (h : Rounds sampler plan s deadline number start w rs w') :
    ∃ earlier r, rs = earlier ++ [r] ∧ (∀ r ∈ earlier, ¬ r.Shows plan) ∧
      ∀ r ∈ rs, (r.toTry plan).isReady = true ↔ r.Shows plan := by
  induction h with
  | @last _ _ _ r _ made stops =>
    exact ⟨[], r, rfl, by simp, fun r' hr' => List.mem_singleton.1 hr' ▸ made.isReady_iff⟩
  | @next _ _ _ r _ rs _ made pending early rest ih =>
    obtain ⟨earlier, last, rfl, hearlier, hready⟩ := ih
    refine ⟨r :: earlier, last, rfl, List.forall_mem_cons.2 ⟨pending, hearlier⟩, ?_⟩
    exact List.forall_mem_cons.2 ⟨made.isReady_iff, hready⟩

theorem Round.observation?_toTry {r : Round ε}
    (h : (r.toTry plan).isReady = false) :
    (r.toTry plan).observation? = r.samples?.map plan.mismatches := by
  obtain ⟨number, start, budget, finish, _ | _ | _⟩ := r
  · rename_i samples
    by_cases hm : plan.mismatches samples = []
    · simp [toTry, Outcome.verdict, hm, Poll.Try.isReady] at h
    · simp [toTry, Outcome.verdict, hm, Poll.Try.observation?, samples?, Outcome.samples?]
  · rfl
  · rfl

theorem Round.error?_toTry (message : ε → String) (r : Round ε) :
    (r.toTry plan).error? message = r.error? message := by
  obtain ⟨number, start, budget, finish, _ | _ | _⟩ := r
  · rename_i samples
    by_cases hm : plan.mismatches samples = []
    · simp [toTry, Outcome.verdict, hm, Poll.Try.error?, error?]
    · simp [toTry, Outcome.verdict, hm, Poll.Try.error?, error?]
  · rfl
  · rfl

/-- A report that has something to tell does not say that there was nothing. -/
theorem Convergence.details_ne {c : Convergence}
    (h : c.mismatches ≠ [] ∨ c.lastError.isSome) : c.details ≠ "nothing observed" := by
  -- it has a colon or a comma
  suffices hmark : ':' ∈ c.details.toList ∨ ',' ∈ c.details.toList by
    intro hd
    rw [hd] at hmark
    exact absurd hmark (by decide)
  have hstring (s : String) : toString s = s := rfl
  rw [details]
  split
  · simp [Mismatch.text, Mismatch.headline, hstring]
  · simp [hstring]
  · simp [hstring]
  next hm he => simp [hm, he] at h

theorem Convergence.converged_ofHistory (message : ε → String)
    (h : Poll.History ε (List Mismatch) Unit) :
    (ofHistory message h).converged = true ↔ ∃ t ∈ h.tries, t.isReady = true := by
  have hvalue := Poll.History.value?_eq_none_iff (h := h)
  rw [ofHistory]
  revert hvalue
  cases h.value? with
  | none => simp [converged]
  | some => simp [converged]

/-- What is reported of rounds that do not show the plan. -/
theorem ofHistory_of_not_shows (message : ε → String) (now : Millis) {rs : List (Round ε)}
    (h : ∀ r ∈ rs, (r.toTry plan).isReady = false) :
    Convergence.ofHistory message ⟨now, rs.map (Round.toTry plan)⟩ = {
      state := .timedOut
      attempts := rs.length
      elapsed := Poll.History.elapsed ⟨now, rs.map (Round.toTry plan)⟩
      mismatches := (rs.filterMap Round.samples?).getLast?.elim [] plan.mismatches
      lastError := (rs.filterMap (Round.error? message)).getLast? } := by
  have hvalue : Poll.History.value? ⟨now, rs.map (Round.toTry plan)⟩ = none :=
    Poll.History.value?_eq_none_iff.2 (by simpa using h)
  have hobservations : (rs.map (Round.toTry plan)).filterMap Poll.Try.observation? =
      (rs.filterMap Round.samples?).map plan.mismatches := by
    rw [List.filterMap_map, List.map_filterMap]
    exact List.filterMap_congr fun r hr => Round.observation?_toTry (h r hr)
  have herrors : (rs.map (Round.toTry plan)).filterMap (Poll.Try.error? message) =
      rs.filterMap (Round.error? message) := by
    rw [List.filterMap_map]
    exact List.filterMap_congr fun r _ => r.error?_toTry message
  rw [Convergence.ofHistory, hvalue]
  simp only [Poll.History.attempts, Poll.History.lastObservation?_eq, Poll.History.lastError?_eq,
    hobservations, herrors, List.length_map, List.getLast?_map]
  congr 1
  cases (rs.filterMap Round.samples?).getLast? <;> rfl

theorem Round.mismatches_ne_nil {r : Round ε} {samples : List Sample}
    (h : (r.toTry plan).isReady = false) (hsamples : r.samples? = some samples) :
    plan.mismatches samples ≠ [] := by
  obtain ⟨number, start, budget, finish, _ | _ | _⟩ := r
  · cases hsamples
    rintro hm
    simp [toTry, Outcome.verdict, hm, Poll.Try.isReady] at h
  · cases hsamples
  · cases hsamples

/-- A round has its samples, or there is a reason why not. -/
theorem Round.samples_or_error (message : ε → String) (r : Round ε) :
    (∃ samples, r.samples? = some samples) ∨ ∃ e, r.error? message = some e := by
  obtain ⟨number, start, budget, finish, samples | e | _⟩ := r
  · exact .inl ⟨samples, rfl⟩
  · exact .inr ⟨message e, rfl⟩
  · exact .inr ⟨_, rfl⟩

/-! ## The verdict -/

theorem eq_nil_of_shows {rs earlier : List (Round ε)} {last : Round ε}
    (hsplit : rs = earlier ++ [last]) (hearlier : ∀ r ∈ earlier, ¬ r.Shows plan)
    {before after : List (Round ε)} {r : Round ε} (hrs : rs = before ++ r :: after)
    (hshows : r.Shows plan) : after = [] := by
  by_contra hne
  rw [hsplit, ← List.dropLast_append_getLast hne, ← List.cons_append, ← List.append_assoc] at hrs
  obtain ⟨rfl, -⟩ := List.append_inj' hrs rfl
  exact hearlier r (by simp) hshows

theorem value?_of_isReady (now : Millis) {rs : List (Round ε)} {r : Round ε} (hr : r ∈ rs)
    (hready : (r.toTry plan).isReady = true) :
    Poll.History.value? ⟨now, rs.map (Round.toTry plan)⟩ = some () := by
  cases hvalue : Poll.History.value? ⟨now, rs.map (Round.toTry plan)⟩ with
  | some => rfl
  | none =>
    have h := Poll.History.value?_eq_none_iff.1 hvalue _ (List.mem_map_of_mem hr)
    rw [hready] at h
    cases h

/-- Among rounds that do not show the plan, the last one with all samples has mismatches. -/
theorem mismatches_eq_nil_iff {rs : List (Round ε)}
    (h : ∀ r ∈ rs, (r.toTry plan).isReady = false) :
    (rs.filterMap Round.samples?).getLast?.elim [] plan.mismatches = [] ↔
      rs.filterMap Round.samples? = [] := by
  cases hsamples : (rs.filterMap Round.samples?).getLast? with
  | none => simpa using hsamples
  | some samples =>
    have hmem := List.mem_of_getLast? hsamples
    obtain ⟨r, hr, hrs⟩ := List.mem_filterMap.1 hmem
    exact iff_of_false (Round.mismatches_ne_nil (h r hr) hrs) (List.ne_nil_of_mem hmem)

theorem mismatches_or_error (message : ε → String) {rs : List (Round ε)} {last : Round ε}
    (hlast : last ∈ rs) (h : ∀ r ∈ rs, (r.toTry plan).isReady = false) :
    (rs.filterMap Round.samples?).getLast?.elim [] plan.mismatches ≠ [] ∨
      ((rs.filterMap (Round.error? message)).getLast?).isSome := by
  rcases last.samples_or_error message with ⟨samples, hsamples⟩ | ⟨e, he⟩
  · refine .inl fun hnil => ?_
    have hmem := List.mem_filterMap.2 ⟨last, hlast, hsamples⟩
    rw [(mismatches_eq_nil_iff h).1 hnil] at hmem
    cases hmem
  · exact .inr (List.getLast?_isSome.2 (List.ne_nil_of_mem (List.mem_filterMap.2 ⟨last, hlast, he⟩)))

/-- A plan has converged if and only if in one round all samples were there in time, each from the
target and with the query of its probe, and all expectations of every probe hold on its sample. That
round is the last one, and there is nothing else to report. Otherwise the time is over; what is
reported are the mismatches of the last round with all samples and the error of the last one
without, and there is one of the two. -/
theorem converge_verdict (sampler : Sampler σ ε) (message : ε → String) (plan : Plan)
    (s : Poll.Settings) (hs : 0 < s.interval) (now : Millis) (w : σ) :
    ∃ c now' rs w', (converge sampler message plan s).run none now w = ⟨some c, now', w'⟩ ∧
      Rounds sampler plan s (now + s.timeout) 1 now w rs w' ∧
      c.attempts = rs.length ∧
      (c.state = .converged ↔ ∃ r ∈ rs, r.Shows plan) ∧
      (∀ before r after, rs = before ++ r :: after → r.Shows plan → after = []) ∧
      (c.state = .converged → c.mismatches = [] ∧ c.lastError = none) ∧
      (c.state ≠ .converged → c.state = .timedOut ∧
        c.mismatches = (rs.filterMap Round.samples?).getLast?.elim [] plan.mismatches ∧
        (c.mismatches = [] ↔ rs.filterMap Round.samples? = []) ∧
        c.lastError = (rs.filterMap (Round.error? message)).getLast? ∧
        (c.mismatches ≠ [] ∨ c.lastError.isSome)) ∧
      ∀ description attempts,
        c.ensure plan ≠ .error (.unverified description attempts "nothing observed") := by
  obtain ⟨rs, now', w', hrounds, hrun⟩ := exists_rounds sampler message plan hs now w
  obtain ⟨earlier, last, hsplit, hearlier, hready⟩ := hrounds.split
  have hlast : last ∈ rs := by simp [hsplit]
  have hends : ∀ before r after, rs = before ++ r :: after → r.Shows plan → after = [] :=
    fun _ _ _ => eq_nil_of_shows hsplit hearlier
  refine ⟨_, now', rs, w', hrun, hrounds, ?_⟩
  by_cases hshows : last.Shows plan
  · rw [Convergence.ofHistory, value?_of_isReady now hlast ((hready last hlast).2 hshows)]
    exact ⟨by simp [Poll.History.attempts], by simpa using ⟨last, hlast, hshows⟩, hends,
      fun _ => ⟨rfl, rfl⟩, fun h => absurd rfl h, by simp [Convergence.ensure, Convergence.converged]⟩
  · have hnone : ∀ r ∈ rs, ¬ r.Shows plan := by
      rw [hsplit]
      exact List.forall_mem_append.2 ⟨hearlier, by simpa using hshows⟩
    have hpending : ∀ r ∈ rs, (r.toTry plan).isReady = false := fun r hr =>
      Bool.eq_false_iff.2 fun h => hnone r hr ((hready r hr).1 h)
    have hsome := mismatches_or_error message hlast hpending
    rw [ofHistory_of_not_shows message now hpending]
    refine ⟨rfl, ?_, hends, nofun,
      fun _ => ⟨rfl, rfl, mismatches_eq_nil_iff hpending, rfl, hsome⟩, ?_⟩
    · exact iff_of_false nofun fun ⟨r, hr, h⟩ => hnone r hr h
    · intro description attempts h
      injection h with h
      injection h with _ _ h
      exact Convergence.details_ne hsome h

/-- Where nothing is ever printed, a session is waited for in vain, and the report says what is
missing. -/
theorem converge_verdict_of_empty_samples :
    let peer := Ip.v4 ⟨192, 0, 2, 11⟩
    let plan := ({ description := "session" } : Plan).push .external (.neighbor peer)
      ⟨.neighbor peer, true⟩
    let sampler : Sampler Unit Unit := fun target query => pure ⟨target, query.command.text, ""⟩
    ∃ c now' w', (converge sampler (fun _ => "") plan Poll.Settings.neighbor).run none 0 () =
        ⟨some c, now', w'⟩ ∧ c.state = .timedOut ∧
      ∀ description attempts,
        c.ensure plan ≠ .error (.unverified description attempts "nothing observed") := by
  intro peer plan sampler
  obtain ⟨c, now', rs, w', hrun, -, -, -, -, -, -, h⟩ :=
    converge_verdict sampler (fun _ => "") plan Poll.Settings.neighbor (by decide) 0 ()
  have hstate : ((converge sampler (fun _ => "") plan Poll.Settings.neighbor).run none 0
      ()).value?.map (·.state) = some .timedOut := by decide +kernel
  rw [hrun] at hstate
  exact ⟨c, now', w', hrun, Option.some.inj hstate, h⟩

end RouteWatch
