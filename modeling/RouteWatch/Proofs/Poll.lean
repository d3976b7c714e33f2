import RouteWatch.Poll
import RouteWatch.Proofs.Time.Leads

/-!
# What a poll does

A poll keeps what each of its attempts keeps, and it comes back whatever its attempts do. `Tries`
says without fuel how one attempt follows another; with an interval, every poll has such a history
(`run_poll`), for it never needs as many attempts as it has fuel for.
-/

namespace RouteWatch

namespace Poll

variable {σ ε ο α : Type} {I : σ → Prop} {attempt : Action σ ε (Attempt ο α)}

/-- What the attempt found, if it found what is awaited. -/
def Result.value? : Result ε ο α → Option α
  | .ready a => some a
  | _ => none

/-- The world is as `Q` says of what was found, and as before if nothing was. -/
def Found (Q : α → σ → Prop) (P : σ → Prop) : Option α → σ → Prop
  | some a => Q a
  | none => P

section

variable {P : σ → Prop} {Q : α → σ → Prop}
  (h : Timed.Leads P attempt.run fun r => Found Q P (Result.of r).value?)
include h

theorem leads_tryOnce (s : Settings) (deadline : Millis) (number : Nat) :
    Timed.Leads P (tryOnce s deadline attempt number) fun t => Found Q P (t.bind (·.result.value?)) := by
  have hwithin : ∀ span, Timed.Leads P (Timed.within span attempt.run)
      fun outcome => Found Q P (outcome.bind fun r => (Result.of r).value?) := fun span =>
    .within h (fun _ _ hw => hw) fun _ hw => ⟨hw, hw⟩
  -- the clock is read at the end, so nothing cuts that off
  have hend : ∀ (r : Option (Except ε (Attempt ο α))) (t : Millis → Try ε ο α),
      (∀ now, (t now).result = .of r) → Timed.Leads (Found Q P (Result.of r).value?)
        (Timed.now >>= fun now => pure (t now)) fun t => Found Q P (t.bind (·.result.value?)) := by
    intro r t ht limit now w hw
    change Found Q P (t now).result.value? w
    rwa [ht]
  exact .bind (R := fun _ => P) (.now fun _ _ hw => hw)
    (fun start => .bind (hwithin _) (fun r => hend r _ fun _ => rfl) fun _ hw => hw) fun _ hw => hw

theorem leads_triesFrom (s : Settings) (deadline : Millis) (fuel number : Nat) :
    Timed.Leads P (triesFrom s deadline attempt fuel number) fun ts =>
      Found Q P (ts.bind (List.findSome? (·.result.value?))) := by
  induction fuel generalizing number with
  | zero => exact .pure fun _ hw => hw
  | succ fuel ih =>
    have hnext : ∀ t : Try ε ο α, t.result.value? = none → Timed.Leads P
        (if deadline ≤ t.finish then pure [t]
        else do
          Timed.waitUntil (min (t.start + s.interval) deadline)
          return t :: (← triesFrom s deadline attempt fuel (number + 1)))
        fun ts => Found Q P (ts.bind (List.findSome? (·.result.value?))) := by
      intro t ht
      split
      · exact .pure fun _ hw => by simpa [ht, Found] using hw
      · refine .bind (.waitUntil fun _ _ hw => hw) (fun _ => .bind (ih _) (fun ts => ?_)
          fun _ hw => hw) fun _ hw => hw
        exact .pure fun _ hw => by simpa [ht] using hw
    refine .bind (leads_tryOnce h s deadline number) (fun t => ?_) fun _ hw => hw
    obtain ⟨_, _, _, _, result⟩ := t
    cases result with
    | ready a => exact .pure fun _ hw => hw
    | pending | failed | unfinished => exact hnext _ rfl

/-- A poll ends in the world of the attempt that is ready. -/
theorem leads_poll (s : Settings) :
    Timed.Leads P (poll s attempt) fun history => Found Q P (history.bind History.value?) := by
  refine .bind (R := fun _ => P) (.now fun _ _ hw => hw) (fun _ => .bind (leads_triesFrom h s _ _ _)
    (fun ts => .pure fun _ hw => ?_) fun _ hw => hw) fun _ hw => hw
  exact hw

end

theorem returns_tryOnce (s : Settings) (deadline : Millis) (attempt : Action σ ε (Attempt ο α))
    (number : Nat) : Timed.Returns (tryOnce s deadline attempt number) :=
  .bind .now fun _ => .bind (.within _ _) fun _ => .bind .now fun _ => .pure _

theorem returns_triesFrom (s : Settings) (deadline : Millis) (attempt : Action σ ε (Attempt ο α))
    (fuel number : Nat) : Timed.Returns (triesFrom s deadline attempt fuel number) := by
  induction fuel generalizing number with
  | zero => exact .pure _
  | succ fuel ih =>
    have hnext : ∀ t : Try ε ο α, Timed.Returns
        (if deadline ≤ t.finish then pure [t]
        else do
          Timed.waitUntil (min (t.start + s.interval) deadline)
          return t :: (← triesFrom s deadline attempt fuel (number + 1)) : Timed σ _) := by
      intro t
      split
      · exact .pure _
      · exact .bind (.waitUntil _) fun _ => .bind (ih _) fun _ => .pure _
    refine (returns_tryOnce s deadline attempt number).bind fun t => ?_
    cases t.result with
    | ready => exact .pure _
    | pending | failed | unfinished => exact hnext t

/-! ## The attempts of a poll -/

/-- The attempt found what is awaited. -/
def Try.isReady (t : Try ε ο α) : Bool :=
  match t.result with
  | .ready _ => true
  | _ => false

/-- The time that an attempt has which starts then. -/
def budgetAt (s : Settings) (deadline start : Millis) : Millis :=
  max (deadline - start) s.interval

/-- The attempt with that number, made then and in that world, and the world after it. -/
def tryAt (s : Settings) (deadline : Millis) (attempt : Action σ ε (Attempt ο α)) (number : Nat)
    (start : Millis) (w : σ) : Try ε ο α × σ :=
  let budget := budgetAt s deadline start
  match attempt.run.run (some (start + budget)) start w with
  | ⟨some r, now, w⟩ => (⟨number, start, budget, now, .of (some r)⟩, w)
  | ⟨none, _, w⟩ => (⟨number, start, budget, start + budget, .unfinished⟩, w)

variable {s : Settings} {deadline : Millis}

theorem run_tryOnce (attempt : Action σ ε (Attempt ο α)) (number : Nat) (start : Millis) (w : σ) :
    (tryOnce s deadline attempt number).run none start w =
      let t := tryAt s deadline attempt number start w
      ⟨some t.1, t.1.finish, t.2⟩ := by
  simp only [tryOnce, tryAt, budgetAt, Timed.run_bind, Timed.now, Timed.within, Option.all_none,
    if_true, Timed.run_pure]
  rcases attempt.run.run (some (start + max (deadline - start) s.interval)) start w
    with ⟨_ | r, now', w'⟩ <;> rfl

theorem start_le_finish (s : Settings) (deadline : Millis) (attempt : Action σ ε (Attempt ο α))
    (number : Nat) (start : Millis) (w : σ) :
    start ≤ (tryAt s deadline attempt number start w).1.finish := by
  have hclock := attempt.run.now_le (some (start + budgetAt s deadline start)) start w
  rw [tryAt]
  split
  next he => rw [he] at hclock; exact hclock
  next => exact Nat.le_add_right _ _

theorem start_tryAt (s : Settings) (deadline : Millis) (attempt : Action σ ε (Attempt ο α))
    (number : Nat) (start : Millis) (w : σ) :
    (tryAt s deadline attempt number start w).1.start = start := by
  rw [tryAt]
  split <;> rfl

/-- The attempts that follow one another from this number, moment and world on, and the world in the
end. The next one starts an interval after the start of this one, or at the deadline, or when this
one has ended. -/
inductive Tries (s : Settings) (deadline : Millis) (attempt : Action σ ε (Attempt ο α)) :
    Nat → Millis → σ → List (Try ε ο α) → σ → Prop
  /-- The attempt is ready, or there is no time for another one. -/
  | last {number start w t w'} (made : tryAt s deadline attempt number start w = (t, w'))
      (stops : t.isReady = true ∨ deadline ≤ t.finish) :
      Tries s deadline attempt number start w [t] w'
  /-- The attempt is not ready, and there is time left. -/
  | next {number start w t w' ts w''} (made : tryAt s deadline attempt number start w = (t, w'))
      (pending : t.isReady = false) (early : t.finish < deadline)
      (rest : Tries s deadline attempt (number + 1)
        (max t.finish (min (start + s.interval) deadline)) w' ts w'') :
      Tries s deadline attempt number start w (t :: ts) w''

theorem run_triesFrom_succ (attempt : Action σ ε (Attempt ο α)) (fuel number : Nat)
    (start : Millis) (w : σ) :
    (triesFrom s deadline attempt (fuel + 1) number).run none start w =
      let t := tryAt s deadline attempt number start w
      if t.1.isReady = true ∨ deadline ≤ t.1.finish then ⟨some [t.1], t.1.finish, t.2⟩
      else (List.cons t.1 <$> triesFrom s deadline attempt fuel (number + 1)).run none
        (max t.1.finish (min (start + s.interval) deadline)) t.2 := by
  have hstart := start_tryAt s deadline attempt number start w
  rw [triesFrom, Timed.run_bind, run_tryOnce]
  revert hstart
  rcases tryAt s deadline attempt number start w with ⟨⟨n, start', budget, finish, result⟩, w'⟩
  intro hstart
  obtain rfl : start' = start := hstart
  have hrest : ((do
      Timed.waitUntil (min (start' + s.interval) deadline)
      return ⟨n, start', budget, finish, result⟩ ::
        (← triesFrom s deadline attempt fuel (number + 1)) : Timed σ _)).run none finish w' =
      (List.cons ⟨n, start', budget, finish, result⟩ <$>
        triesFrom s deadline attempt fuel (number + 1)).run none
        (max finish (min (start' + s.interval) deadline)) w' := by
    rw [Timed.run_bind, Timed.run_waitUntil, ← bind_pure_comp]
  cases result with
  | ready a => simp [Try.isReady]
  | pending | failed | unfinished =>
    by_cases hlate : deadline ≤ finish
    · simp [Try.isReady, hlate]
    · simpa [Try.isReady, hlate] using hrest

/-- With enough fuel, the attempts follow one another until one is ready or the time is over. -/
theorem run_triesFrom (attempt : Action σ ε (Attempt ο α)) (fuel number : Nat) (start : Millis)
    (w : σ) (hfuel : deadline ≤ start + fuel * s.interval) :
    ∃ ts now' w', (triesFrom s deadline attempt (fuel + 1) number).run none start w =
        ⟨some ts, now', w'⟩ ∧ ts.getLast?.map Try.finish = some now' ∧
      Tries s deadline attempt number start w ts w' := by
  induction fuel generalizing number start w with
  | zero =>
    have hfinish := start_le_finish s deadline attempt number start w
    rw [run_triesFrom_succ]
    rcases hmade : tryAt s deadline attempt number start w with ⟨t, w'⟩
    rw [hmade] at hfinish
    have hlate : deadline ≤ t.finish := by lia
    exact ⟨[t], t.finish, w', by simp [hlate], rfl, .last hmade (.inr hlate)⟩
  | succ fuel ih =>
    rw [run_triesFrom_succ]
    rcases hmade : tryAt s deadline attempt number start w with ⟨t, w'⟩
    by_cases hstops : t.isReady = true ∨ deadline ≤ t.finish
    · exact ⟨[t], t.finish, w', by simp [hstops], rfl, .last hmade hstops⟩
    · obtain ⟨hpending, hearly⟩ := not_or.1 hstops
      have hnext : deadline ≤ max t.finish (min (start + s.interval) deadline) +
          fuel * s.interval := by
        rw [Nat.succ_mul] at hfuel
        lia
      obtain ⟨ts, now'', w'', hrun, hlast, htries⟩ := ih (number + 1) _ w' hnext
      refine ⟨t :: ts, now'', w'', ?_, ?_,
        .next hmade (by simpa using hpending) (Nat.lt_of_not_le hearly) htries⟩
      · simp only [hstops, if_false, ← bind_pure_comp, Timed.run_bind, hrun, Timed.run_pure]
      · cases ts with
        | nil => cases hlast
        | cons t' ts => rwa [List.getLast?_cons_cons]

/-! ## What is read off a history -/

/-- What the attempt found, if it found something else than what is awaited. -/
def Try.observation? (t : Try ε ο α) : Option ο :=
  match t.result with
  | .pending o => some o
  | _ => none

/-- Why the attempt failed, if it failed or was cut off. -/
def Try.error? (message : ε → String) (t : Try ε ο α) : Option String :=
  match t.result with
  | .failed e => some (message e)
  | .unfinished => some s!"attempt {t.number} did not finish within {t.budget.text}"
  | _ => none

namespace History

theorem value?_eq_none_iff {h : History ε ο α} :
    h.value? = none ↔ ∀ t ∈ h.tries, t.isReady = false := by
  rw [value?, List.findSome?_eq_none_iff]
  refine forall₂_congr fun t _ => ?_
  rw [Try.isReady]
  cases t.result <;> simp

theorem lastObservation?_eq (h : History ε ο α) :
    h.lastObservation? = (h.tries.filterMap Try.observation?).getLast? := by
  rw [lastObservation?, ← List.head?_filterMap, List.filterMap_reverse, List.head?_reverse]
  rfl

theorem lastError?_eq (message : ε → String) (h : History ε ο α) :
    h.lastError? message = (h.tries.filterMap (Try.error? message)).getLast? := by
  rw [lastError?, ← List.head?_filterMap, List.filterMap_reverse, List.head?_reverse]
  rfl

end History

end Poll

variable {σ ε ο α : Type} {I : σ → Prop} {attempt : Action σ ε (Poll.Attempt ο α)}

theorem keeps_poll (h : Timed.Keeps I attempt.run) (s : Poll.Settings) :
    Timed.Keeps I (poll s attempt) := by
  have hfound : ∀ (a : Option α) (w : σ), Poll.Found (fun _ => I) I a w ↔ I w := by
    rintro (_ | a) w <;> rfl
  exact (Poll.leads_poll (h.mono_post fun _ w => (hfound _ w).2) s).mono_post fun _ w =>
    (hfound _ w).1

theorem returns_poll (s : Poll.Settings) (attempt : Action σ ε (Poll.Attempt ο α)) :
    Timed.Returns (poll s attempt) :=
  .bind .now fun _ => .bind (Poll.returns_triesFrom s _ attempt _ _) fun _ => .pure _

/-- A poll with an interval has a history of attempts that ends by itself. -/
theorem run_poll (s : Poll.Settings) (hs : 0 < s.interval)
    (attempt : Action σ ε (Poll.Attempt ο α)) (now : Millis) (w : σ) :
    ∃ ts now' w', (poll s attempt).run none now w = ⟨some ⟨now, ts⟩, now', w'⟩ ∧
      ts.getLast?.map Poll.Try.finish = some now' ∧
      Poll.Tries s (now + s.timeout) attempt 1 now w ts w' := by
  have hfuel : now + s.timeout ≤ now + (s.timeout / s.interval + 1) * s.interval := by
    have h : s.timeout < s.timeout / s.interval * s.interval + s.interval :=
      Nat.lt_div_mul_add hs
    rw [Nat.succ_mul]
    lia
  obtain ⟨ts, now', w', hrun, hlast, htries⟩ :=
    Poll.run_triesFrom attempt (s.timeout / s.interval + 1) 1 now w hfuel
  refine ⟨ts, now', w', ?_, hlast, htries⟩
  have hmax : s.maxTries = s.timeout / s.interval + 1 + 1 := by
    rw [Poll.Settings.maxTries, if_neg (Nat.pos_iff_ne_zero.1 hs)]
  simp only [poll, Timed.run_bind, Timed.now, hmax, hrun, Timed.run_pure]

end RouteWatch
