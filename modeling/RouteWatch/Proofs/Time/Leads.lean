import RouteWatch.Time.Timed

/-!
# Where a computation leads

`Timed.Leads P x Q` says what a run of `x` does to the world, whatever the time and the limit: from a
world with `P` it ends in one that `Q` allows for its value, and a run that is cut off has no value.
There is one rule for each way to build a computation. `Timed.Keeps` is the case of one property that
always stays, and `Timed.Returns` says that a run without a limit has a value.
-/

namespace RouteWatch.Timed

variable {σ τ α β : Type} {P : σ → Prop} {x : Timed σ α}

/-- Every run of the computation from a world with `P` ends as `Q` says. -/
def Leads (P : σ → Prop) (x : Timed σ α) (Q : Option α → σ → Prop) : Prop :=
  ∀ limit now w, P w → Q (x.run limit now w).value? (x.run limit now w).world

namespace Leads

theorem of_run {Q : Option α → σ → Prop} (h : Leads P x Q) {limit : Option Millis} {now : Millis}
    {w : σ} (hP : P w) {value : Option α} {now' : Millis} {w' : σ}
    (hrun : x.run limit now w = ⟨value, now', w'⟩) : Q value w' := by
  have hQ := h limit now w hP
  rwa [hrun] at hQ

theorem mono {P' : σ → Prop} {Q Q' : Option α → σ → Prop} (h : Leads P x Q)
    (hP : ∀ w, P' w → P w) (hQ : ∀ a w, Q a w → Q' a w) : Leads P' x Q' :=
  fun limit now w hw => hQ _ _ (h limit now w (hP w hw))

/-- The same, from the same worlds. -/
theorem mono_post {Q Q' : Option α → σ → Prop} (h : Leads P x Q) (hQ : ∀ a w, Q a w → Q' a w) :
    Leads P x Q' :=
  h.mono (fun _ hw => hw) hQ

theorem pure {a : α} {Q : Option α → σ → Prop} (h : ∀ w, P w → Q (some a) w) :
    Leads P (pure a) Q :=
  fun _ _ w hw => h w hw

theorem bind {f : α → Timed σ β} {R : Option α → σ → Prop} {Q : Option β → σ → Prop}
    (hx : Leads P x R) (hf : ∀ a, Leads (R (some a)) (f a) Q) (hcut : ∀ w, R none w → Q none w) :
    Leads P (x >>= f) Q := by
  intro limit now w hw
  have h := hx limit now w hw
  rw [run_bind]
  split
  next a now' w' he =>
    rw [he] at h
    exact hf a limit now' w' h
  next now' w' he =>
    rw [he] at h
    exact hcut w' h

theorem map {f : α → β} {R : Option α → σ → Prop} {Q : Option β → σ → Prop} (hx : Leads P x R)
    (hf : ∀ a w, R (some a) w → Q (some (f a)) w) (hcut : ∀ w, R none w → Q none w) :
    Leads P (f <$> x) Q := by
  rw [← bind_pure_comp]
  exact hx.bind (fun a => .pure (hf a)) hcut

theorem act {f : Millis → σ → α × σ} {Q : Option α → σ → Prop}
    (h : ∀ now w, P w → Q (some (f now w).1) (f now w).2) : Leads P (act f) Q :=
  fun _ now w hw => h now w hw

theorem now {Q : Option Millis → σ → Prop} (h : ∀ t w, P w → Q (some t) w) : Leads P now Q :=
  fun _ t w hw => h t w hw

theorem wait {span : Millis} {Q : Option Unit → σ → Prop} (h : ∀ a w, P w → Q a w) :
    Leads P (wait span) Q := by
  intro limit now w hw
  cases limit with
  | none => exact h _ w hw
  | some limit =>
    simp only [Timed.wait]
    split
    · exact h _ w hw
    · exact h _ w hw

theorem waitUntil {moment : Millis} {Q : Option Unit → σ → Prop} (h : ∀ a w, P w → Q a w) :
    Leads P (waitUntil moment) Q :=
  bind (R := fun _ => P) (now fun _ _ hw => hw) (fun _ => wait h) (h none)

theorem within {span : Millis} {R : Option α → σ → Prop} {Q : Option (Option α) → σ → Prop}
    (hx : Leads P x R) (hf : ∀ a w, R (some a) w → Q (some (some a)) w)
    (hcut : ∀ w, R none w → Q (some none) w ∧ Q none w) : Leads P (within span x) Q := by
  intro limit now w hw
  simp only [Timed.within]
  split
  next =>
    have h := hx (some (now + span)) now w hw
    split
    next a now' w' he => rw [he] at h; exact hf a w' h
    next now' w' he => rw [he] at h; exact (hcut w' h).1
  next =>
    have h := hx limit now w hw
    generalize x.run limit now w = e at h
    obtain ⟨value, now', w'⟩ := e
    cases value with
    | none => exact (hcut w' h).2
    | some a => exact hf a w' h

end Leads

/-- The computation keeps a property of the world, also when it is cut off. -/
def Keeps (I : σ → Prop) (x : Timed σ α) : Prop :=
  Leads I x fun _ => I

namespace Keeps

variable {I : σ → Prop}

theorem pure (a : α) : Keeps I (pure a) :=
  Leads.pure fun _ h => h

theorem bind {f : α → Timed σ β} (hx : Keeps I x) (hf : ∀ a, Keeps I (f a)) :
    Keeps I (x >>= f) :=
  Leads.bind hx hf fun _ h => h

theorem map (f : α → β) (hx : Keeps I x) : Keeps I (f <$> x) :=
  Leads.map hx (fun _ _ h => h) fun _ h => h

theorem wait (span : Millis) : Keeps I (wait span) :=
  Leads.wait fun _ _ h => h

theorem within (span : Millis) (hx : Keeps I x) : Keeps I (within span x) :=
  Leads.within hx (fun _ _ h => h) fun _ h => ⟨h, h⟩

theorem bind_action {ε : Type} {y : Action σ ε α} {f : α → Action σ ε β} (hy : Keeps I y.run)
    (hf : ∀ a, Keeps I (f a).run) : Keeps I (y >>= f).run :=
  hy.bind fun
    | .ok a => hf a
    | .error _ => .pure _

theorem map_action {ε : Type} {y : Action σ ε α} (f : α → β) (hy : Keeps I y.run) :
    Keeps I (f <$> y).run := by
  rw [ExceptT.run_map]
  exact hy.map _

theorem mapM_action {ε : Type} {f : α → Action σ ε β} (hf : ∀ a, Keeps I (f a).run)
    (l : List α) : Keeps I (l.mapM f).run := by
  induction l with
  | nil =>
    rw [List.mapM_nil]
    exact .pure _
  | cons a l ih =>
    rw [List.mapM_cons]
    exact (hf a).bind_action fun _ => ih.bind_action fun _ => .pure _

end Keeps

/-- Without a limit, the clock stands at the moment waited for, if it has not passed it. -/
theorem run_waitUntil (moment now : Millis) (w : σ) :
    (waitUntil moment).run none now w = ⟨some (), max now moment, w⟩ := by
  have hsum : now + (moment - now) = max now moment := by lia
  rw [← hsum]
  rfl

/-- The computation comes back if nothing cuts it off from outside. -/
def Returns (x : Timed σ α) : Prop :=
  ∀ now w, ∃ a now' w', x.run none now w = ⟨some a, now', w'⟩

namespace Returns

theorem pure (a : α) : Returns (pure a : Timed σ α) :=
  fun now w => ⟨a, now, w, rfl⟩

theorem bind {f : α → Timed σ β} (hx : Returns x) (hf : ∀ a, Returns (f a)) :
    Returns (x >>= f) := by
  intro now w
  obtain ⟨a, now', w', h⟩ := hx now w
  simpa only [run_bind, h] using hf a now' w'

theorem map (f : α → β) (hx : Returns x) : Returns (f <$> x) := by
  rw [← bind_pure_comp]
  exact hx.bind fun a => .pure (f a)

theorem bind_action {ε : Type} {y : Action σ ε α} {f : α → Action σ ε β} (hy : Returns y.run)
    (hf : ∀ a, Returns (f a).run) : Returns (y >>= f).run :=
  hy.bind fun
    | .ok a => hf a
    | .error _ => .pure _

theorem map_action {ε : Type} {y : Action σ ε α} (f : α → β) (hy : Returns y.run) :
    Returns (f <$> y).run := by
  rw [ExceptT.run_map]
  exact hy.map _

theorem act (f : Millis → σ → α × σ) : Returns (act f) :=
  fun now _ => ⟨_, now, _, rfl⟩

theorem now : Returns (now : Timed σ Millis) :=
  fun now w => ⟨now, now, w, rfl⟩

theorem wait (span : Millis) : Returns (wait span : Timed σ Unit) :=
  fun now w => ⟨(), now + span, w, rfl⟩

theorem waitUntil (moment : Millis) : Returns (waitUntil moment : Timed σ Unit) :=
  Returns.now.bind fun _ => .wait _

/-- A computation that is cut off by its own limit comes back, whatever it is. -/
theorem within (span : Millis) (x : Timed σ α) : Returns (within span x) := by
  intro now w
  simp only [Timed.within, Option.all_none, if_true]
  rcases x.run (some (now + span)) now w with ⟨_ | a, now', w'⟩
  · exact ⟨none, now + span, w', rfl⟩
  · exact ⟨some a, now', w', rfl⟩

end Returns

end RouteWatch.Timed
