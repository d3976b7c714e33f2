import RouteWatch.Proofs.Time.Leads

/-!
# Where an action leads

An action gives a value, fails, or is cut off. `Action.Leads P x Q E C` says of each of these ends how
the world is then, whatever the time and the limit. The errors themselves do not count here: what is
done about a failure does not depend on them.
-/

namespace RouteWatch.Action

variable {σ ε ε' α β : Type}

theorem run_outcome_bind (x : Action σ ε α) (f : Except ε α → Action σ ε' β) :
    (x.outcome >>= f).run = x.run >>= fun r => (f r).run :=
  ExceptT.run_bind_lift _ _

/-- Two actions, one after the other, have a value if both have. -/
theorem run_bind_eq_ok {x : Action σ ε α} {f : α → Action σ ε β} {limit : Option Millis}
    {now now' : Millis} {w w' : σ} {b : β}
    (h : (x >>= f).run.run limit now w = ⟨some (.ok b), now', w'⟩) :
    ∃ a now₁ w₁, x.run.run limit now w = ⟨some (.ok a), now₁, w₁⟩ ∧
      (f a).run.run limit now₁ w₁ = ⟨some (.ok b), now', w'⟩ := by
  rw [ExceptT.run_bind, Timed.run_bind] at h
  rcases hx : x.run.run limit now w with ⟨_ | _ | a, now₁, w₁⟩
  · simp [hx] at h
  · simp [hx] at h
  · rw [hx] at h
    exact ⟨a, now₁, w₁, rfl, h⟩

/-- The world after an action: with a value, after a failure, or where it was cut off. -/
def Ends (Q : α → σ → Prop) (E C : σ → Prop) : Option (Except ε α) → σ → Prop
  | some (.ok a) => Q a
  | some (.error _) => E
  | none => C

/-- Every run of the action from a world with `P` ends with a value as `Q` says, fails in a world with
`E`, or is cut off in a world with `C`. -/
def Leads (P : σ → Prop) (x : Action σ ε α) (Q : α → σ → Prop) (E C : σ → Prop) : Prop :=
  Timed.Leads P x.run (Ends Q E C)

namespace Leads

variable {P : σ → Prop} {Q : α → σ → Prop} {E C : σ → Prop} {x : Action σ ε α}

theorem mono {P' : σ → Prop} {Q' : α → σ → Prop} {E' C' : σ → Prop} (h : Leads P x Q E C)
    (hP : ∀ w, P' w → P w) (hQ : ∀ a w, Q a w → Q' a w) (hE : ∀ w, E w → E' w)
    (hC : ∀ w, C w → C' w) : Leads P' x Q' E' C' :=
  Timed.Leads.mono h hP fun
    | some (.ok a) => hQ a
    | some (.error _) => hE
    | none => hC

theorem mono_post {Q' : α → σ → Prop} {E' C' : σ → Prop} (h : Leads P x Q E C)
    (hQ : ∀ a w, Q a w → Q' a w) (hE : ∀ w, E w → E' w) (hC : ∀ w, C w → C' w) :
    Leads P x Q' E' C' :=
  h.mono (fun _ hw => hw) hQ hE hC

theorem mono_value {Q' : α → σ → Prop} (h : Leads P x Q E C) (hQ : ∀ a w, Q a w → Q' a w) :
    Leads P x Q' E C :=
  h.mono_post hQ (fun _ hw => hw) fun _ hw => hw

theorem mono_failure {E' C' : σ → Prop} (h : Leads P x Q E C) (hE : ∀ w, E w → E' w)
    (hC : ∀ w, C w → C' w) : Leads P x Q E' C' :=
  h.mono_post (fun _ _ hw => hw) hE hC

/-- Only the end with a value counts. -/
theorem value_only {Q' : α → σ → Prop} (h : Leads P x Q E C) (hQ : ∀ a w, Q a w → Q' a w) :
    Leads P x Q' (fun _ => True) fun _ => True :=
  h.mono_post hQ (fun _ _ => trivial) fun _ _ => trivial

/-- What is known besides the world may be used. -/
theorem of_imp {p : Prop} (h : p → Leads P x Q E C) : Leads (fun w => p ∧ P w) x Q E C :=
  fun limit now w hw => h hw.1 limit now w hw.2

theorem pure {a : α} (h : ∀ w, P w → Q a w) : Leads P (pure a : Action σ ε α) Q E C :=
  Timed.Leads.pure h

theorem throw {e : ε} (h : ∀ w, P w → E w) : Leads P (throw e : Action σ ε α) Q E C :=
  Timed.Leads.pure h

theorem bind {f : α → Action σ ε β} {R : β → σ → Prop} (hx : Leads P x Q E C)
    (hf : ∀ a, Leads (Q a) (f a) R E C) : Leads P (x >>= f) R E C :=
  Timed.Leads.bind hx (fun
    | .ok a => hf a
    | .error _ => Timed.Leads.pure fun _ hw => hw) fun _ hw => hw

theorem map {f : α → β} {R : β → σ → Prop} (hx : Leads P x Q E C)
    (hf : ∀ a w, Q a w → R (f a) w) : Leads P (f <$> x) R E C := by
  rw [← bind_pure_comp]
  exact hx.bind fun a => .pure (hf a)

theorem mapError {f : ε → ε'} (hx : Leads P x Q E C) : Leads P (x.mapError f) Q E C :=
  Timed.Leads.map hx (fun
    | .ok _ => fun _ hw => hw
    | .error _ => fun _ hw => hw) fun _ hw => hw

theorem ofExcept {r : Except ε α} (hok : ∀ a w, r = .ok a → P w → Q a w)
    (herror : ∀ e w, r = .error e → P w → E w) : Leads P (ofExcept r) Q E C := by
  cases r with
  | ok a => exact .pure fun w => hok a w rfl
  | error e => exact .throw fun w => herror e w rfl

theorem ofOption {e : ε} {o : Option α} (hsome : ∀ a w, o = some a → P w → Q a w)
    (hnone : ∀ w, o = none → P w → E w) : Leads P (ofOption e o) Q E C := by
  cases o with
  | none => exact .throw fun w => hnone w rfl
  | some a => exact .pure fun w => hsome a w rfl

theorem time {y : Timed σ α}
    (h : Timed.Leads P y fun a w => (∀ b, a = some b → Q b w) ∧ (a = none → C w)) :
    Leads P (time y : Action σ ε α) Q E C :=
  Timed.Leads.map h (fun a _ hw => hw.1 a rfl) fun _ hw => hw.2 rfl

/-- A failure that is no failure any more. -/
theorem outcome (hx : Leads P x Q E C) (ε' : Type) (E' : σ → Prop) :
    Leads P (x.outcome : Action σ ε' (Except ε α))
      (fun r w => (∀ a, r = .ok a → Q a w) ∧ (∀ e, r = .error e → E w)) E' C :=
  Timed.Leads.map hx (fun
    | .ok _ => fun _ hw => ⟨fun _ h => Except.ok.inj h ▸ hw, nofun⟩
    | .error _ => fun _ hw => ⟨nofun, fun _ _ => hw⟩) fun _ hw => hw

theorem of_keeps {I : σ → Prop} (h : Timed.Keeps I x.run) : Leads I x (fun _ => I) I I :=
  Timed.Leads.mono_post h fun
    | some (.ok _) => fun _ hw => hw
    | some (.error _) => fun _ hw => hw
    | none => fun _ hw => hw

theorem keeps {I : σ → Prop} (h : Leads I x (fun _ => I) I I) : Timed.Keeps I x.run := by
  intro limit now w hw
  have hend := h limit now w hw
  rcases hvalue : (x.run.run limit now w).value? with _ | _ | _ <;> rw [hvalue] at hend <;> exact hend

theorem anywhere (P : σ → Prop) (x : Action σ ε α) :
    Leads P x (fun _ _ => True) (fun _ => True) fun _ => True := by
  intro limit now w _
  rcases (x.run.run limit now w).value? with _ | _ | _ <;> trivial

end Leads

/-- Whenever the action has a value, the world is as `Q` says of it. -/
def Reports (x : Action σ ε α) (Q : α → σ → Prop) : Prop :=
  Leads (fun _ => True) x Q (fun _ => True) fun _ => True

end RouteWatch.Action
