import RouteWatch.Time.Span

/-!
# Computations that take time

A computation runs from a moment on a world, perhaps until a limit. It ends at a later moment with a
value, or it is cut off by the limit and leaves the world as it had made it by then. Two laws hold
of every computation: the clock never goes back (`now_le`), and no computation goes on after its
limit (`le_limit`). Waiting is the only thing that takes time; what is due exactly at a limit still
happens.
-/

namespace RouteWatch

/-- The end of a computation: its value, unless it was cut off, and the moment and the world then. -/
structure Ending (σ α : Type) where
  /-- The value of a computation that was not cut off. -/
  value? : Option α
  now : Millis
  world : σ

/-- A computation on a world `σ` that takes time. -/
@[ext] structure Timed (σ α : Type) where
  /-- The end of a run with this limit, from this moment and in this world. -/
  run : (limit : Option Millis) → (now : Millis) → (world : σ) → Ending σ α
  /-- The clock does not go back. -/
  now_le : ∀ limit now world, now ≤ (run limit now world).now
  le_limit : ∀ limit now world, now ≤ limit → (run (some limit) now world).now ≤ limit

namespace Timed

variable {σ α β : Type}

/-- The value, at once. -/
protected def pure (a : α) : Timed σ α where
  run _ now world := ⟨some a, now, world⟩
  now_le _ _ _ := Nat.le_refl _
  le_limit _ _ _ h := h

/-- One computation, then another one that depends on the value of the first. -/
protected def bind (x : Timed σ α) (f : α → Timed σ β) : Timed σ β where
  run limit now world :=
    match x.run limit now world with
    | ⟨some a, now, world⟩ => (f a).run limit now world
    | ⟨none, now, world⟩ => ⟨none, now, world⟩
  now_le limit now world := by
    have hx := x.now_le limit now world
    split
    next h => rw [h] at hx; exact Nat.le_trans hx ((f _).now_le ..)
    next h => rw [h] at hx; exact hx
  le_limit limit now world hl := by
    have hx := x.le_limit limit now world hl
    split
    next h => rw [h] at hx; exact (f _).le_limit _ _ _ hx
    next h => rw [h] at hx; exact hx

instance : Monad (Timed σ) where
  pure := Timed.pure
  bind := Timed.bind

@[simp] theorem run_pure (a : α) (limit : Option Millis) (now : Millis) (world : σ) :
    (pure a : Timed σ α).run limit now world = ⟨some a, now, world⟩ := rfl

theorem run_bind (x : Timed σ α) (f : α → Timed σ β) (limit : Option Millis) (now : Millis)
    (world : σ) :
    (x >>= f).run limit now world =
      match x.run limit now world with
      | ⟨some a, now, world⟩ => (f a).run limit now world
      | ⟨none, now, world⟩ => ⟨none, now, world⟩ := rfl

instance : LawfulMonad (Timed σ) :=
  LawfulMonad.mk' _
    (fun x => by
      ext limit now world
      simp only [Functor.map, Timed.bind]
      split <;> simp_all [Timed.pure])
    (fun _ _ => rfl)
    (fun x f g => by
      ext limit now world
      simp only [run_bind]
      rcases x.run limit now world with ⟨_ | _, _, _⟩ <;> rfl)

/-- The present moment. -/
def now : Timed σ Millis where
  run _ now world := ⟨some now, now, world⟩
  now_le _ _ _ := Nat.le_refl _
  le_limit _ _ _ h := h

/-- A change of the world that happens at a moment and takes no time. -/
def act (f : Millis → σ → α × σ) : Timed σ α where
  run _ now world := ⟨some (f now world).1, now, (f now world).2⟩
  now_le _ _ _ := Nat.le_refl _
  le_limit _ _ _ h := h

/-- What can be seen of the world now. -/
def look (f : σ → α) : Timed σ α :=
  act fun _ world => (f world, world)

/-- Nothing for a span of time. -/
def wait (span : Millis) : Timed σ Unit where
  run limit now world :=
    match limit with
    | none => ⟨some (), now + span, world⟩
    | some limit =>
      if now + span ≤ limit then ⟨some (), now + span, world⟩ else ⟨none, max now limit, world⟩
  now_le _ _ _ := by
    split
    · exact Nat.le_add_right ..
    · split
      · exact Nat.le_add_right ..
      · exact Nat.le_max_left ..
  le_limit _ _ _ h := by
    simp only
    split
    · assumption
    · exact Nat.max_le.2 ⟨h, Nat.le_refl _⟩

/-- Nothing until a moment; at once if it has passed. -/
def waitUntil (moment : Millis) : Timed σ Unit := do
  wait (moment - (← now))

/-- Nothing forever: this ends only by being cut off. -/
def hang : Timed σ α where
  run limit now world := ⟨none, max now (limit.getD now), world⟩
  now_le _ _ _ := Nat.le_max_left ..
  le_limit _ _ _ h := Nat.max_le.2 ⟨h, Nat.le_refl _⟩

/-- A computation that is cut off after a span of time; its value if it ends by then. -/
def within (span : Millis) (x : Timed σ α) : Timed σ (Option α) where
  run limit now world :=
    -- a limit that comes first cuts off this computation and all around it
    if limit.all (now + span ≤ ·) then
      match x.run (some (now + span)) now world with
      | ⟨some a, now, world⟩ => ⟨some (some a), now, world⟩
      | ⟨none, _, world⟩ => ⟨some none, now + span, world⟩
    else
      let e := x.run limit now world
      ⟨e.value?.map some, e.now, e.world⟩
  now_le limit now world := by
    split
    · have hx := x.now_le (some (now + span)) now world
      split
      next h => rw [h] at hx; exact hx
      next => exact Nat.le_add_right ..
    · exact x.now_le ..
  le_limit limit now world h := by
    split
    next hs =>
      have hx := x.le_limit (now + span) now world (Nat.le_add_right ..)
      have hs : now + span ≤ limit := by simpa using hs
      split
      next he => rw [he] at hx; exact Nat.le_trans hx hs
      next => exact hs
    next => exact x.le_limit _ _ _ h

/-- The computation on a world that stands beside another thing. -/
def beside (τ : Type) (x : Timed σ α) : Timed (σ × τ) α where
  run limit now world :=
    let e := x.run limit now world.1
    ⟨e.value?, e.now, (e.world, world.2)⟩
  now_le _ _ _ := x.now_le ..
  le_limit _ _ _ h := x.le_limit _ _ _ h

end Timed

/-- A computation that takes time and may fail. -/
abbrev Action (σ ε α : Type) := ExceptT ε (Timed σ) α

namespace Action

variable {σ ε ε' α : Type}

/-- What cannot fail. -/
def time (x : Timed σ α) : Action σ ε α :=
  ExceptT.lift x

/-- The value or the failure, at once. -/
def ofExcept (x : Except ε α) : Action σ ε α :=
  ExceptT.mk (pure x)

/-- The value that is there, or else the failure. -/
def ofOption (e : ε) (x : Option α) : Action σ ε α :=
  ofExcept (x.elim (.error e) .ok)

/-- The action with its failures told in other words. -/
def mapError (f : ε → ε') (x : Action σ ε α) : Action σ ε' α :=
  ExceptT.mk (Except.mapError f <$> x.run)

/-- How the action ended, which is no failure. -/
def outcome (x : Action σ ε α) : Action σ ε' (Except ε α) :=
  time x.run

end Action

end RouteWatch
