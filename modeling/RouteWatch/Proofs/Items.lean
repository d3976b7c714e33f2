import Mathlib.Data.List.Forall2

/-!
# Lists that are checked and read item by item

A list is good if each of its items is, and it is read if each of its items is. What it is read as
are the readings of the items in their order.
-/

namespace RouteWatch

variable {ε α β : Type}

theorem bind_eq_ok_iff {x : Except ε α} {f : α → Except ε β} {b : β} :
    x >>= f = .ok b ↔ ∃ a, x = .ok a ∧ f a = .ok b := by
  cases x <;> simp [bind, Except.bind]

theorem check_bind_eq_ok_iff {check : Except ε Unit} {f : Unit → Except ε α} {a : α} :
    check >>= f = .ok a ↔ check = .ok () ∧ f () = .ok a :=
  bind_eq_ok_iff.trans ⟨fun ⟨_, h⟩ => h, fun h => ⟨(), h⟩⟩

theorem forM_eq_ok_iff {check : α → Except ε Unit} {as : List α} :
    as.forM check = .ok () ↔ ∀ a ∈ as, check a = .ok () := by
  induction as with
  | nil => simp [pure, Except.pure]
  | cons a as ih =>
    have hstep : (a :: as).forM check = check a >>= fun _ => as.forM check := rfl
    rw [hstep, check_bind_eq_ok_iff, ih, List.forall_mem_cons]

theorem mapM_eq_ok_iff {f : α → Except ε β} {as : List α} {bs : List β} :
    as.mapM f = .ok bs ↔ List.Forall₂ (fun a b => f a = .ok b) as bs := by
  induction as generalizing bs with
  | nil =>
    rw [List.mapM_nil, List.forall₂_nil_left_iff]
    exact ⟨fun h => (Except.ok.inj h).symm, fun h => h ▸ rfl⟩
  | cons a as ih =>
    rw [List.mapM_cons, List.forall₂_cons_left_iff]
    simp only [bind_eq_ok_iff, ih, pure, Except.pure, Except.ok.injEq, exists_and_left]
    simp only [eq_comm]

theorem mapM_eq_some_iff {f : α → Option β} {as : List α} {bs : List β} :
    as.mapM f = some bs ↔ List.Forall₂ (fun a b => f a = some b) as bs := by
  induction as generalizing bs with
  | nil => simp [eq_comm]
  | cons a as ih =>
    rw [List.mapM_cons, List.forall₂_cons_left_iff]
    simp only [Option.bind_eq_bind, Option.bind_eq_some_iff, ih, Option.pure_def,
      Option.some.injEq, exists_and_left]
    simp only [eq_comm]

theorem forall₂_eq_some_iff {f : α → Option β} {as : List α} {bs : List β} :
    List.Forall₂ (fun a b => f a = some b) as bs ↔
      (∀ a ∈ as, (f a).isSome) ∧ bs = as.filterMap f := by
  induction as generalizing bs with
  | nil => simp
  | cons a as ih =>
    rw [List.forall₂_cons_left_iff]
    cases ha : f a with
    | none => simp [ha]
    | some b => simp [ha, ih, and_assoc]

theorem forall₂_and_eq_iff {p : α → Prop} {f : α → β} {as : List α} {bs : List β} :
    List.Forall₂ (fun a b => p a ∧ b = f a) as bs ↔ (∀ a ∈ as, p a) ∧ bs = as.map f := by
  rw [List.forall₂_and_left]
  refine and_congr_right fun _ => ?_
  rw [eq_comm, ← List.forall₂_eq_eq_eq, List.forall₂_map_left_iff]
  simp only [eq_comm]

/-- What is read of the items, in one list. -/
theorem mapM_flatten_eq_ok_iff {f : α → Except ε (List β)} {p : α → Prop} {g : α → List β}
    {as : List α} {bs : List β} (hf : ∀ a found, f a = .ok found ↔ p a ∧ found = g a) :
    (do return (← as.mapM f).flatten) = .ok bs ↔ (∀ a ∈ as, p a) ∧ bs = as.flatMap g := by
  have hread : ∀ found, as.mapM f = .ok found ↔ (∀ a ∈ as, p a) ∧ found = as.map g := by
    intro found
    rw [mapM_eq_ok_iff, ← forall₂_and_eq_iff]
    simp only [hf]
  rw [bind_eq_ok_iff]
  simp only [hread]
  constructor
  · rintro ⟨_, ⟨hall, rfl⟩, hflatten⟩
    exact ⟨hall, (Except.ok.inj hflatten).symm⟩
  · rintro ⟨hall, rfl⟩
    exact ⟨_, ⟨hall, rfl⟩, rfl⟩

theorem exists_mapM_eq_error_iff {f : α → Except ε β} {as : List α} :
    (∃ e, as.mapM f = .error e) ↔ ∃ a ∈ as, ∃ e, f a = .error e := by
  induction as with
  | nil => simp [pure, Except.pure]
  | cons a as ih =>
    rw [List.mapM_cons, List.exists_mem_cons_iff, ← ih]
    cases ha : f a with
    | error e => simp [bind, Except.bind]
    | ok b => cases has : as.mapM f <;> simp [bind, Except.bind, pure, Except.pure]

end RouteWatch
