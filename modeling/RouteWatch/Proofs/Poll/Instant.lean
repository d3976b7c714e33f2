import RouteWatch.Proofs.Poll

/-!
# Polls whose attempts take no time

When no attempt takes time, the attempts are made at the multiples of the interval and at the
deadline, and the poll ends with the first one that is ready, or with the one at the deadline. What
an attempt finds depends on the moment and on the world that the attempts before it have left.
-/

namespace RouteWatch.Poll

variable {σ ε ο α : Type}

/-- When the attempt of that index is made, counted from 0. -/
def tick (s : Settings) (start : Millis) (index : Nat) : Millis :=
  min (start + index * s.interval) (start + s.timeout)

/-- The world in which the attempt of that index is made. -/
def worldAt (s : Settings) (start : Millis) (f : Millis → σ → Except ε (Attempt ο α) × σ) (w : σ) :
    Nat → σ
  | 0 => w
  | index + 1 => (f (tick s start index) (worldAt s start f w index)).2

/-- The attempt of that index. -/
def tryOf (s : Settings) (start : Millis) (f : Millis → σ → Except ε (Attempt ο α) × σ) (w : σ)
    (index : Nat) : Try ε ο α where
  number := index + 1
  start := tick s start index
  budget := budgetAt s (start + s.timeout) (tick s start index)
  finish := tick s start index
  result := .of (some (f (tick s start index) (worldAt s start f w index)).1)

/-- The attempt of that index is ready. -/
def ReadyAt (s : Settings) (start : Millis) (f : Millis → σ → Except ε (Attempt ο α) × σ) (w : σ)
    (index : Nat) : Prop :=
  (tryOf s start f w index).isReady = true

/-- The poll ends with the attempt of that index: it is ready or at the deadline, and no earlier one
is. -/
structure EndsAt (s : Settings) (start : Millis) (f : Millis → σ → Except ε (Attempt ο α) × σ)
    (w : σ) (index : Nat) : Prop where
  pending : ∀ i < index, ¬ ReadyAt s start f w i
  /-- No earlier one is at the deadline. -/
  early : ∀ i < index, tick s start i < start + s.timeout
  stops : ReadyAt s start f w index ∨ start + s.timeout ≤ tick s start index

variable {s : Settings} {start : Millis} {attempt : Action σ ε (Attempt ο α)}
  {f : Millis → σ → Except ε (Attempt ο α) × σ} {w w' : σ}

theorem tick_zero : tick s start 0 = start := by
  rw [tick, Nat.zero_mul]
  exact Nat.min_eq_left (Nat.le_add_right _ _)

theorem le_tick (index : Nat) : start ≤ tick s start index :=
  Nat.le_min.2 ⟨Nat.le_add_right _ _, Nat.le_add_right _ _⟩

theorem tick_le (index : Nat) : tick s start index ≤ start + s.timeout :=
  Nat.min_le_right _ _

/-- Where the timeout is a multiple of the interval, the attempt of that index is at the deadline. -/
theorem tick_of_timeout {index : Nat} (h : s.timeout = index * s.interval) :
    tick s start index = start + s.timeout := by
  rw [tick, h, Nat.min_self]

/-- Attempts of lower index are before the deadline. -/
theorem tick_lt_of_timeout (hs : 0 < s.interval) {index i : Nat}
    (h : s.timeout = index * s.interval) (hi : i < index) : tick s start i < start + s.timeout := by
  have hlt : i * s.interval < index * s.interval := Nat.mul_lt_mul_of_pos_right hi hs
  rw [← h] at hlt
  exact Nat.lt_of_le_of_lt (Nat.min_le_left _ _) (Nat.add_lt_add_left hlt start)

theorem tick_succ {index : Nat} (h : tick s start index < start + s.timeout) :
    max (tick s start index) (min (tick s start index + s.interval) (start + s.timeout)) =
      tick s start (index + 1) := by
  unfold tick at *
  unfold Millis at *
  rw [Nat.succ_mul]
  omega

theorem tryAt_of_act (h : attempt.run = Timed.act f) (index : Nat) :
    tryAt s (start + s.timeout) attempt (index + 1) (tick s start index)
        (worldAt s start f w index) =
      (tryOf s start f w index, worldAt s start f w (index + 1)) := by
  rw [tryAt, h]
  rfl

/-- The attempts from one index on are those up to the index with which the poll ends. -/
theorem Tries.of_act (h : attempt.run = Timed.act f) {index number : Nat} {now : Millis} {v : σ}
    {ts : List (Try ε ο α)} (ht : Tries s (start + s.timeout) attempt number now v ts w')
    (hnumber : number = index + 1) (hnow : now = tick s start index)
    (hv : v = worldAt s start f w index) :
    ∃ last, index ≤ last ∧
      ts = (List.range' index (last + 1 - index)).map (tryOf s start f w) ∧
      w' = worldAt s start f w (last + 1) ∧
      (∀ i, index ≤ i → i < last → ¬ ReadyAt s start f w i ∧ tick s start i < start + s.timeout) ∧
      (ReadyAt s start f w last ∨ start + s.timeout ≤ tick s start last) := by
  induction ht generalizing index with
  | last made stops =>
    subst hnumber hnow hv
    rw [tryAt_of_act h] at made
    cases made
    refine ⟨index, Nat.le_refl _, ?_, rfl, fun i hi hlast => ?_, stops⟩
    · rw [Nat.add_sub_cancel_left]
      rfl
    · exact absurd hi (Nat.not_le_of_lt hlast)
  | next made pending early rest ih =>
    subst hnumber hnow hv
    rw [tryAt_of_act h] at made
    cases made
    -- what follows are the attempts from the next index on
    obtain ⟨last, hlast, hts, hw', hearlier, hstops⟩ := ih rfl (tick_succ early) rfl
    refine ⟨last, Nat.le_of_succ_le hlast, ?_, hw', fun i hi hi' => ?_, hstops⟩
    · have hcount : last + 1 - index = last + 1 - (index + 1) + 1 := by lia
      rw [hts, hcount, List.range'_succ]
      rfl
    · rcases Nat.eq_or_lt_of_le hi with rfl | hi
      · exact ⟨by simp [ReadyAt, pending], early⟩
      · exact hearlier i hi hi'

/-- A poll with an interval whose attempts take no time ends with one of them. -/
theorem run_poll_act (hs : 0 < s.interval) (h : attempt.run = Timed.act f) (start : Millis) (w : σ) :
    ∃ last, EndsAt s start f w last ∧
      (poll s attempt).run none start w =
        ⟨some ⟨start, (List.range (last + 1)).map (tryOf s start f w)⟩, tick s start last,
          worldAt s start f w (last + 1)⟩ := by
  obtain ⟨ts, now', w', hrun, hfinish, htries⟩ := run_poll s hs attempt start w
  obtain ⟨last, -, rfl, rfl, hearlier, hstops⟩ :=
    htries.of_act h (w := w) rfl tick_zero.symm rfl
  have hnow : now' = tick s start last := by
    rw [List.getLast?_map, Nat.sub_zero, List.range'_1_concat] at hfinish
    simpa [tryOf] using hfinish.symm
  refine ⟨last, ⟨fun i hi => (hearlier i (Nat.zero_le _) hi).1,
    fun i hi => (hearlier i (Nat.zero_le _) hi).2, hstops⟩, ?_⟩
  rw [hrun, hnow, List.range_eq_range', Nat.sub_zero]

end RouteWatch.Poll
