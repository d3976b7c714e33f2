import RouteWatch.Proofs.Poll.Bounds
import RouteWatch.Proofs.Poll.Instant

/-!
# When a poll sees a change

What is awaited is there from some moment on, and attempts take no time. The attempt that sees it is
the first one at a multiple of the interval from that moment on, or the one at the deadline if that
comes first. The last tick is clipped to the deadline, so nothing is missed in the rest of a timeout
that is no multiple of the interval.

* `EndsAt.index_eq`: the index of the attempt that ends the poll;
* `poll_detects`: whether the poll sees the change, after how many attempts and how much time.
-/

namespace RouteWatch.Poll

variable {σ ε ο α : Type} {s : Settings} {start offset : Millis} {index : Nat} {w : σ}
  {f : Millis → σ → Except ε (Attempt ο α) × σ}

/-- From that time after the start on an attempt is ready, and not before. -/
def MetFrom (start offset : Millis) (f : Millis → σ → Except ε (Attempt ο α) × σ) : Prop :=
  ∀ now, start ≤ now → ∀ w, (∃ a, (f now w).1 = .ok (.ready a)) ↔ start + offset ≤ now

/-- A tick is not clipped below an offset that is within the timeout. -/
theorem le_tick_iff (h : offset ≤ s.timeout) :
    start + offset ≤ tick s start index ↔ offset ≤ index * s.interval := by
  unfold tick Millis at *
  omega

theorem MetFrom.readyAt_iff (hf : MetFrom start offset f) :
    ReadyAt s start f w index ↔ start + offset ≤ tick s start index := by
  rw [← hf _ (le_tick index) (worldAt s start f w index), ReadyAt, Try.isReady, tryOf]
  rcases (f (tick s start index) (worldAt s start f w index)).1 with e | ⟨a | o⟩
  all_goals simp [Result.of]

/-- The poll ends with the first attempt that comes as late as the change or the deadline. -/
theorem EndsAt.index_eq (hs : 0 < s.interval) (hf : MetFrom start offset f)
    (h : EndsAt s start f w index) : index = min offset s.timeout ⌈/⌉ s.interval := by
  have htick : ∀ i, start + min offset s.timeout ≤ tick s start i ↔
      min offset s.timeout ⌈/⌉ s.interval ≤ i := by
    intro i
    rw [le_tick_iff (Nat.min_le_right _ _), ceilDiv_le_iff_le_smul hs, smul_eq_mul, Nat.mul_comm]
  apply Nat.le_antisymm
  · by_contra hlater
    have hlast := Nat.lt_of_not_le hlater
    have hpending := h.pending _ hlast
    have hearly := h.early _ hlast
    have hreached := (htick _).2 (Nat.le_refl _)
    rw [hf.readyAt_iff] at hpending
    unfold Millis at *
    omega
  · apply (htick index).1
    rcases h.stops with hready | hdeadline
    · rw [hf.readyAt_iff] at hready
      unfold Millis at *
      omega
    · unfold Millis at *
      omega

/-- The last tick of a poll, told by the time since its start. -/
theorem tick_ceilDiv (hs : 0 < s.interval) :
    tick s start (min offset s.timeout ⌈/⌉ s.interval) =
      start + min (offset ⌈/⌉ s.interval * s.interval) s.timeout := by
  have hreached : ∀ span : Millis, span ≤ span ⌈/⌉ s.interval * s.interval := by
    intro span
    rw [Nat.mul_comm]
    exact le_smul_ceilDiv hs
  have hoffset := hreached offset
  have htimeout := hreached s.timeout
  rcases Nat.le_total offset s.timeout with hle | hle
  · rw [Nat.min_eq_left hle, tick]
    unfold Millis at *
    omega
  · rw [Nat.min_eq_right hle, tick]
    unfold Millis at *
    omega

/-! ## What the poll returns -/

/-- The history of a poll that ends with the attempt of that index. -/
def historyTo (s : Settings) (start : Millis) (f : Millis → σ → Except ε (Attempt ο α) × σ) (w : σ)
    (index : Nat) : History ε ο α :=
  ⟨start, (List.range (index + 1)).map (tryOf s start f w)⟩

@[simp] theorem attempts_historyTo : (historyTo s start f w index).attempts = index + 1 := by
  simp [historyTo, History.attempts]

theorem elapsed_historyTo : (historyTo s start f w index).elapsed = tick s start index - start := by
  simp [historyTo, History.elapsed, List.getLast?_range, tryOf]

theorem EndsAt.value?_eq_none_iff (h : EndsAt s start f w index) :
    (historyTo s start f w index).value? = none ↔ ¬ ReadyAt s start f w index := by
  rw [History.value?_eq_none_iff, historyTo, List.forall_mem_map]
  constructor
  · intro hall hready
    have hlast := hall index (List.mem_range.2 (Nat.lt_succ_self index))
    rw [ReadyAt, hlast] at hready
    cases hready
  · intro hpending i hi
    rcases Nat.lt_or_eq_of_le (Nat.le_of_lt_succ (List.mem_range.1 hi)) with hlt | rfl
    · simpa [ReadyAt] using h.pending i hlt
    · simpa [ReadyAt] using hpending

theorem History.of_outcome_eq_ok {h : History ε ο α} {what : String} {message : ε → String}
    {p : Polled α} (hp : h.outcome what message = .ok p) :
    h.value? = some p.value ∧ p.attempts = h.attempts ∧ p.elapsed = h.elapsed := by
  rw [outcome] at hp
  cases hvalue : h.value? with
  | none =>
    rw [hvalue] at hp
    cases hp
  | some a =>
    rw [hvalue] at hp
    cases hp
    exact ⟨rfl, rfl, rfl⟩

theorem History.exists_outcome_eq_ok_iff {h : History ε ο α} {what : String}
    {message : ε → String} : (∃ p, h.outcome what message = .ok p) ↔ h.value? ≠ none := by
  rw [outcome]
  cases h.value? <;> simp

/-- A poll with an interval whose attempts take no time sees a change if and only if it comes within
the timeout. It sees it with the attempt at the next tick, and otherwise it ends at the deadline. A
change at the deadline itself is seen, and a poll without a timeout makes one attempt. -/
theorem poll_detects (s : Settings) (hs : 0 < s.interval) (start offset : Millis)
    (hf : MetFrom start offset f) (what : String) (message : ε → String) (w : σ) :
    ∃ h : History ε ο α,
      (poll s (ExceptT.mk (Timed.act f))).run none start w =
        ⟨some h, start + h.elapsed, worldAt s start f w h.attempts⟩ ∧
      ((∃ p, h.outcome what message = .ok p) ↔ offset ≤ s.timeout) ∧
      (∀ p, h.outcome what message = .ok p →
        p.attempts = offset ⌈/⌉ s.interval + 1 ∧
          p.elapsed = min (offset ⌈/⌉ s.interval * s.interval) s.timeout) ∧
      (∀ e, h.outcome what message = .error e →
        e.attempts = s.timeout ⌈/⌉ s.interval + 1 ∧ e.elapsed = s.timeout) ∧
      (offset = s.timeout → ∃ p, h.outcome what message = .ok p ∧ p.elapsed = s.timeout) ∧
      (s.timeout = 0 → h.attempts = 1) := by
  have hact : (ExceptT.mk (Timed.act f) : Action σ ε (Attempt ο α)).run = Timed.act f := rfl
  obtain ⟨last, hends, hrun⟩ := run_poll_act hs hact start w
  have hlast := hends.index_eq hs hf
  have htick : tick s start last =
      start + min (offset ⌈/⌉ s.interval * s.interval) s.timeout := by
    rw [hlast, tick_ceilDiv hs]
  have helapsed : (historyTo s start f w last).elapsed =
      min (offset ⌈/⌉ s.interval * s.interval) s.timeout := by
    rw [elapsed_historyTo, htick]
    exact Nat.add_sub_cancel_left _ _
  have hreached : offset ≤ offset ⌈/⌉ s.interval * s.interval := by
    rw [Nat.mul_comm]
    exact le_smul_ceilDiv hs
  have hseen : (∃ p, (historyTo s start f w last).outcome what message = .ok p) ↔
      offset ≤ s.timeout := by
    rw [History.exists_outcome_eq_ok_iff, ne_eq, hends.value?_eq_none_iff, not_not,
      hf.readyAt_iff, htick]
    unfold Millis at *
    omega
  have hclock : start + (historyTo s start f w last).elapsed = tick s start last := by
    rw [helapsed, htick]
  refine ⟨historyTo s start f w last, ?_, hseen, ?_, ?_, ?_, ?_⟩
  · rw [hrun, hclock, attempts_historyTo]
    rfl
  · intro p hp
    obtain ⟨-, hattempts, hspan⟩ := History.of_outcome_eq_ok hp
    rw [hattempts, hspan, helapsed, attempts_historyTo, hlast, Nat.min_eq_left (hseen.1 ⟨p, hp⟩)]
    exact ⟨rfl, rfl⟩
  · intro e he
    have hlate : s.timeout ≤ offset := by
      by_contra hearly
      obtain ⟨p, hp⟩ := hseen.2 (Nat.le_of_lt (Nat.lt_of_not_le hearly))
      rw [hp] at he
      cases he
    rw [(History.told_of_outcome_eq_error he).2, (History.of_outcome_eq_error he).2, helapsed,
      attempts_historyTo, hlast, Nat.min_eq_right hlate]
    exact ⟨rfl, Nat.min_eq_right (Nat.le_trans hlate hreached)⟩
  · intro hdeadline
    obtain ⟨p, hp⟩ := hseen.2 (Nat.le_of_eq hdeadline)
    refine ⟨p, hp, ?_⟩
    rw [(History.of_outcome_eq_ok hp).2.2, helapsed, ← hdeadline]
    exact Nat.min_eq_right hreached
  · intro hzero
    rw [attempts_historyTo, hlast, hzero, Nat.min_zero, zero_ceilDiv]

/-- The timeout is no multiple of the interval, and the change comes at the deadline: the fifth attempt,
half an interval after the fourth one, sees it. -/
theorem poll_detects_at_deadline :
    let s : Settings := ⟨10, 35⟩
    let f : Millis → List Millis → Except String (Attempt String Millis) × List Millis :=
      fun now starts => (.ok (if 35 ≤ now then .ready now else .pending "not yet"), starts ++ [now])
    0 < s.interval ∧ MetFrom 0 35 f ∧ ∃ h : History String String Millis,
      (poll s (ExceptT.mk (Timed.act f))).run none 0 [] = ⟨some h, 35, [0, 10, 20, 30, 35]⟩ ∧
      ∃ p, h.outcome "an answer" id = .ok p ∧ p.attempts = 5 ∧ p.elapsed = 35 := by
  intro s f
  have hs : 0 < s.interval := by decide
  have hf : MetFrom 0 35 f := by
    intro now _ starts
    by_cases hnow : 35 ≤ now
    · simp [f, hnow]
    · simp [f, hnow]
  obtain ⟨h, hrun, -, hok, -, hdeadline, -⟩ := poll_detects s hs 0 35 hf "an answer" id []
  obtain ⟨p, hp, helapsed⟩ := hdeadline rfl
  obtain ⟨hattempts, -⟩ := hok p hp
  obtain ⟨-, hcount, hspan⟩ := History.of_outcome_eq_ok hp
  have hfive : (35 : Nat) ⌈/⌉ 10 + 1 = 5 := by rw [Nat.ceilDiv_eq_add_pred_div]
  have hp5 : p.attempts = 5 := hattempts.trans hfive
  refine ⟨hs, hf, h, ?_, p, hp, hp5, helapsed⟩
  rw [hrun, ← hspan, ← hcount, hp5, helapsed]
  rfl

end RouteWatch.Poll
