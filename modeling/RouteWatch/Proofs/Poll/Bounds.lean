import Mathlib.Algebra.Order.Floor.Div
import RouteWatch.Proofs.Poll
import RouteWatch.Simulation.Scripts

/-!
# How long a poll takes

The attempts of a poll may take any time, and may never end by themselves. The bounds on when they
start, on their number and on the end of the poll hold nevertheless: an attempt is cut off when its
budget is over, and the next one starts an interval after it or at the deadline.

* `poll_bounds`: these bounds, and which attempt decides the outcome.
-/

namespace RouteWatch.Poll

variable {σ ε ο α : Type} {s : Settings} {deadline : Millis} {attempt : Action σ ε (Attempt ο α)}
  {number : Nat} {start : Millis} {w w' : σ} {t : Try ε ο α} {ts : List (Try ε ο α)}

/-! ## One attempt -/

theorem budget_tryAt (s : Settings) (deadline : Millis) (attempt : Action σ ε (Attempt ο α))
    (number : Nat) (start : Millis) (w : σ) :
    (tryAt s deadline attempt number start w).1.budget = budgetAt s deadline start := by
  rw [tryAt]
  split <;> rfl

theorem finish_tryAt_le (s : Settings) (deadline : Millis) (attempt : Action σ ε (Attempt ο α))
    (number : Nat) (start : Millis) (w : σ) :
    (tryAt s deadline attempt number start w).1.finish ≤ start + budgetAt s deadline start := by
  have hlimit := attempt.run.le_limit (start + budgetAt s deadline start) start w
    (Nat.le_add_right _ _)
  rw [tryAt]
  split
  next he =>
    rw [he] at hlimit
    exact hlimit
  next => exact Nat.le_refl _

/-- An attempt that starts by the deadline ends at most one interval after it. -/
theorem add_budgetAt_le (h : start ≤ deadline) :
    start + budgetAt s deadline start ≤ deadline + s.interval := by
  unfold budgetAt Millis at *
  omega

section

variable (made : tryAt s deadline attempt number start w = (t, w'))
include made

theorem start_of_made : t.start = start := by
  rw [← start_tryAt s deadline attempt number start w, made]

theorem le_finish_of_made : start ≤ t.finish := by
  have h := start_le_finish s deadline attempt number start w
  rwa [made] at h

theorem budget_of_made :
    t.budget = budgetAt s deadline t.start ∧ t.finish ≤ t.start + t.budget := by
  have hbudget := budget_tryAt s deadline attempt number start w
  have hfinish := finish_tryAt_le s deadline attempt number start w
  rw [made] at hbudget hfinish
  rw [start_of_made made, hbudget]
  exact ⟨rfl, hfinish⟩

end

/-- When an attempt starts that follows on one of this start and this end. -/
def nextStart (s : Settings) (deadline start finish : Millis) : Millis :=
  max finish (min (start + s.interval) deadline)

theorem le_nextStart (h : start ≤ t.finish) : start ≤ nextStart s deadline start t.finish :=
  Nat.le_trans h (Nat.le_max_left _ _)

theorem nextStart_le (h : t.finish < deadline) : nextStart s deadline start t.finish ≤ deadline :=
  Nat.max_le.2 ⟨Nat.le_of_lt h, Nat.min_le_right _ _⟩

theorem nextStart_apart (s : Settings) (start : Millis) (h : t.finish < deadline) :
    start + s.interval ≤ nextStart s deadline start t.finish ∨
      nextStart s deadline start t.finish = deadline := by
  unfold nextStart Millis at *
  omega

/-! ## A run of attempts -/

namespace Tries

theorem start_mem (h : Tries s deadline attempt number start w ts w') (hstart : start ≤ deadline) :
    ∀ t ∈ ts, start ≤ t.start ∧ t.start ≤ deadline := by
  induction h with
  | @last number start w t w' made stops =>
    have ht := start_of_made made
    intro t' ht'
    obtain rfl := List.mem_singleton.1 ht'
    exact ⟨Nat.le_of_eq ht.symm, ht ▸ hstart⟩
  | @next number start w t w' ts w'' made pending early rest ih =>
    have ht := start_of_made made
    intro t' ht'
    rcases List.mem_cons.1 ht' with rfl | ht'
    · exact ⟨Nat.le_of_eq ht.symm, ht ▸ hstart⟩
    · obtain ⟨hlow, hhigh⟩ := ih (nextStart_le early) t' ht'
      exact ⟨Nat.le_trans (le_nextStart (le_finish_of_made made)) hlow, hhigh⟩

theorem head?_start (h : Tries s deadline attempt number start w ts w') :
    ∃ t rest, ts = t :: rest ∧ t.start = start := by
  cases h with
  | last made stops => exact ⟨_, _, rfl, start_of_made made⟩
  | next made pending early rest => exact ⟨_, _, rfl, start_of_made made⟩

theorem apart (h : Tries s deadline attempt number start w ts w') :
    ts.IsChain fun t t' => t.start + s.interval ≤ t'.start ∨ t'.start = deadline := by
  induction h with
  | last => exact .singleton _
  | @next number start w t w' ts w'' made pending early rest ih =>
    obtain ⟨t', later, rfl, ht'⟩ := rest.head?_start
    refine .cons_cons ?_ ih
    rw [start_of_made made, ht']
    exact nextStart_apart s start early

/-- Each attempt has the time that is left, but an interval at least, and ends within it. -/
theorem budget (h : Tries s deadline attempt number start w ts w') :
    ∀ t ∈ ts, t.budget = budgetAt s deadline t.start ∧ t.finish ≤ t.start + t.budget := by
  induction h with
  | last made stops => simpa using budget_of_made made
  | next made pending early rest ih => exact List.forall_mem_cons.2 ⟨budget_of_made made, ih⟩

/-- If that many intervals reach the deadline, there is at most one attempt more. -/
theorem length_le (h : Tries s deadline attempt number start w ts w') (k : Nat)
    (hk : deadline ≤ start + k * s.interval) : ts.length ≤ k + 1 := by
  induction h generalizing k with
  | last => simp
  | @next number start w t w' ts w'' made pending early rest ih =>
    cases k with
    | zero =>
      exact absurd (Nat.lt_of_le_of_lt (le_finish_of_made made) early) (by simpa using hk)
    | succ k =>
      -- one interval is over, or the next attempt is at the deadline and there is no other one
      have hnext : deadline ≤ nextStart s deadline start t.finish + k * s.interval := by
        rw [Nat.succ_mul] at hk
        rcases nextStart_apart s start early with hlater | hlater
        · unfold Millis at *
          omega
        · rw [hlater]
          exact Nat.le_add_right _ _
      exact Nat.succ_le_succ (ih k hnext)

/-- The last attempt ends at most one interval after the deadline. -/
theorem finish_le (h : Tries s deadline attempt number start w ts w') (hstart : start ≤ deadline) :
    ∀ t ∈ ts, t.finish ≤ deadline + s.interval := by
  intro t ht
  obtain ⟨hbudget, hfinish⟩ := h.budget t ht
  rw [hbudget] at hfinish
  exact Nat.le_trans hfinish (add_budgetAt_le (h.start_mem hstart t ht).2)

theorem now_le (h : Tries s deadline attempt number start w ts w') (hstart : start ≤ deadline)
    {now : Millis} (hlast : ts.getLast?.map Try.finish = some now) :
    now ≤ deadline + s.interval := by
  obtain ⟨t, ht, rfl⟩ := Option.map_eq_some_iff.1 hlast
  exact h.finish_le hstart t (List.mem_of_getLast? ht)

/-- Attempts of which none is ready go on to the deadline. -/
theorem le_finish (h : Tries s deadline attempt number start w ts w')
    (hnone : ∀ t ∈ ts, t.isReady = false) {now : Millis}
    (hlast : ts.getLast?.map Try.finish = some now) : deadline ≤ now := by
  induction h with
  | @last number start w t w' made stops =>
    have hnow : t.finish = now := by simpa using hlast
    have hpending : ¬ t.isReady = true := by simp [hnone]
    exact hnow ▸ stops.resolve_left hpending
  | @next number start w t w' ts w'' made pending early rest ih =>
    obtain ⟨t', later, rfl, -⟩ := rest.head?_start
    exact ih (fun t ht => hnone t (List.mem_cons_of_mem _ ht)) (by simpa using hlast)

end Tries

/-! ## The history of a poll -/

/-- What the attempt found, if it found what is awaited. -/
def Try.value? (t : Try ε ο α) : Option α :=
  match t.result with
  | .ready a => some a
  | _ => none

theorem Try.value?_eq_some_iff {t : Try ε ο α} {a : α} :
    t.value? = some a ↔ t.result = .ready a := by
  rw [value?]
  cases t.result <;> simp

theorem Try.value?_eq_none_iff {t : Try ε ο α} : t.value? = none ↔ t.isReady = false := by
  rw [value?, isReady]
  cases t.result <;> simp

theorem History.value?_eq_some_iff {h : History ε ο α} {a : α} :
    h.value? = some a ↔ ∃ before t after, h.tries = before ++ t :: after ∧ t.result = .ready a ∧
      ∀ t' ∈ before, t'.isReady = false := by
  have hfirst : h.value? = h.tries.findSome? Try.value? := rfl
  simp only [hfirst, List.findSome?_eq_some_iff, Try.value?_eq_some_iff, Try.value?_eq_none_iff]

theorem History.outcome_eq_ok_iff (what : String) (message : ε → String) (h : History ε ο α)
    (a : α) : (∃ p, h.outcome what message = .ok p ∧ p.value = a) ↔ h.value? = some a := by
  rw [outcome]
  cases h.value? <;> simp

theorem History.of_outcome_eq_error {what : String} {message : ε → String} {h : History ε ο α}
    {e : TimedOut ο} (he : h.outcome what message = .error e) :
    h.value? = none ∧ e.elapsed = h.elapsed := by
  rw [outcome] at he
  cases hvalue : h.value? with
  | none =>
    simp only [hvalue] at he
    cases he
    exact ⟨rfl, rfl⟩
  | some a =>
    simp only [hvalue] at he
    cases he

theorem History.told_of_outcome_eq_error {what : String} {message : ε → String}
    {h : History ε ο α} {e : TimedOut ο} (he : h.outcome what message = .error e) :
    e.what = what ∧ e.attempts = h.attempts := by
  rw [outcome] at he
  cases hvalue : h.value? with
  | none =>
    rw [hvalue] at he
    cases he
    exact ⟨rfl, rfl⟩
  | some a =>
    rw [hvalue] at he
    cases he

/-- A poll ends, whatever its attempts do. They start by the deadline, an interval apart but for one
at the deadline, and their number is bounded by that; the poll ends one interval after the deadline
at the latest, and before the deadline only if it has found what it waited for. The first attempt
that is ready within its budget decides what that is. -/
theorem poll_bounds (s : Settings) (hs : 0 < s.interval) (attempt : Action σ ε (Attempt ο α))
    (what : String) (message : ε → String) (start : Millis) (w : σ) :
    ∃ h now' w', (poll s attempt).run none start w = ⟨some h, now', w'⟩ ∧
      Tries s (start + s.timeout) attempt 1 start w h.tries w' ∧
      (∀ t ∈ h.tries, t.budget = max (start + s.timeout - t.start) s.interval ∧
        t.finish ≤ t.start + t.budget) ∧
      (∀ t ∈ h.tries, start ≤ t.start ∧ t.start ≤ start + s.timeout) ∧
      h.tries.IsChain (fun t t' =>
        t.start + s.interval ≤ t'.start ∨ t'.start = start + s.timeout) ∧
      h.attempts ≤ s.timeout ⌈/⌉ s.interval + 1 ∧
      now' = start + h.elapsed ∧ h.elapsed ≤ s.timeout + s.interval ∧
      (∀ e, h.outcome what message = .error e → s.timeout ≤ e.elapsed) ∧
      ∀ a, (∃ p, h.outcome what message = .ok p ∧ p.value = a) ↔
        ∃ before t after, h.tries = before ++ t :: after ∧ t.result = .ready a ∧
          ∀ t' ∈ before, t'.isReady = false := by
  obtain ⟨ts, now', w', hrun, hlast, htries⟩ := run_poll s hs attempt start w
  have hstart : start ≤ start + s.timeout := Nat.le_add_right _ _
  obtain ⟨t, ht, hfinish⟩ : ∃ t, ts.getLast? = some t ∧ t.finish = now' := by
    simpa [Option.map_eq_some_iff] using hlast
  have hmem : t ∈ ts := List.mem_of_getLast? ht
  have hclock : start ≤ now' := by
    have h := (poll s attempt).now_le none start w
    rwa [hrun] at h
  have helapsed : History.elapsed ⟨start, ts⟩ = now' - start := by
    rw [History.elapsed, ht, Option.elim_some, hfinish]
  have hend : now' ≤ start + s.timeout + s.interval := by
    rw [← hfinish]
    exact htries.finish_le hstart t hmem
  have hcount : ts.length ≤ s.timeout ⌈/⌉ s.interval + 1 := by
    refine htries.length_le _ (Nat.add_le_add_left ?_ start)
    rw [Nat.mul_comm]
    exact le_smul_ceilDiv hs
  refine ⟨⟨start, ts⟩, now', w', hrun, htries, htries.budget, htries.start_mem hstart,
    htries.apart, hcount, ?_, ?_, fun e he => ?_, fun a => ?_⟩
  · rw [helapsed]
    unfold Millis at *
    omega
  · rw [helapsed]
    unfold Millis at *
    omega
  · obtain ⟨hvalue, he⟩ := History.of_outcome_eq_error he
    have hlate := htries.le_finish (History.value?_eq_none_iff.1 hvalue) hlast
    rw [he, helapsed]
    unfold Millis at *
    omega
  · rw [History.outcome_eq_ok_iff, History.value?_eq_some_iff]

/-- The first attempt overruns its interval. The second one ends exactly when its budget is over,
after the deadline, and counts. -/
theorem poll_bounds_of_late_attempt :
    let script : Simulation.AttemptScript Nat :=
      ⟨⟨12, .ok (.pending "busy")⟩, [⟨10, .ok (.ready 7)⟩]⟩
    let s : Settings := ⟨10, 20⟩
    0 < s.interval ∧ ∃ h now' w', (poll s script.attempt).run none 0 [] = ⟨some h, now', w'⟩ ∧
      w' = [0, 12] ∧ h.attempts ≤ s.timeout ⌈/⌉ s.interval + 1 ∧ now' = 22 ∧
      now' ≤ s.timeout + s.interval ∧
      ∃ before t after, h.tries = before ++ t :: after ∧ t.result = .ready 7 ∧
        ∀ t' ∈ before, t'.isReady = false := by
  intro script s
  have hs : 0 < s.interval := by decide
  obtain ⟨h, now', w', hrun, -, -, -, -, hcount, hnow, helapsed, -, hvalue⟩ :=
    poll_bounds s hs script.attempt "an answer" id 0 []
  have hends : ((poll s script.attempt).run none 0 []).now = 22 ∧
      ((poll s script.attempt).run none 0 []).world = [0, 12] ∧
      ((poll s script.attempt).run none 0 []).value?.bind History.value? = some 7 := by
    decide +kernel
  rw [hrun] at hends
  obtain ⟨hnow', hstarts, hready⟩ := hends
  refine ⟨hs, h, now', w', hrun, hstarts, hcount, hnow', ?_, (hvalue 7).1 ?_⟩
  · rw [hnow, Nat.zero_add]
    exact helapsed
  · exact (History.outcome_eq_ok_iff _ _ h 7).2 hready

end RouteWatch.Poll
