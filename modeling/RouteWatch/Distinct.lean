/-!
# Lists without repetition

`distinct` keeps each item of a list once, where it comes first. A list that goes on adds to it the
items that it has not seen (`distinct_append`).
-/

namespace RouteWatch

variable {α : Type} [DecidableEq α]

/-- The items, each once, in the order in which they come first. -/
def distinct : List α → List α
  | [] => []
  | a :: rest => a :: (distinct rest).filter (· ≠ a)

@[simp] theorem mem_distinct {a : α} {items : List α} : a ∈ distinct items ↔ a ∈ items := by
  induction items with
  | nil => simp [distinct]
  | cons b rest ih =>
    simp only [distinct, List.mem_cons, List.mem_filter, ih, decide_eq_true_eq]
    by_cases h : a = b <;> simp [h]

@[simp] theorem distinct_eq_nil_iff {items : List α} : distinct items = [] ↔ items = [] := by
  cases items <;> simp [distinct]

theorem distinct_sublist (items : List α) : (distinct items).Sublist items := by
  induction items with
  | nil => exact .slnil
  | cons a rest ih => exact (List.filter_sublist.trans ih).cons_cons a

theorem nodup_distinct (items : List α) : (distinct items).Nodup := by
  induction items with
  | nil => simp [distinct]
  | cons a rest ih =>
    exact List.nodup_cons.2 ⟨by simp, ih.filter _⟩

theorem distinct_of_nodup {items : List α} (h : items.Nodup) : distinct items = items := by
  induction items with
  | nil => rfl
  | cons a rest ih =>
    obtain ⟨ha, hrest⟩ := List.nodup_cons.1 h
    rw [distinct, ih hrest, List.filter_eq_self.2]
    intro b hb
    simpa using fun hba : b = a => ha (hba ▸ hb)

theorem distinct_of_forall_eq {a : α} {items : List α} (hne : items ≠ [])
    (h : ∀ b ∈ items, b = a) : distinct items = [a] := by
  cases items with
  | nil => exact absurd rfl hne
  | cons b rest =>
    obtain ⟨rfl, hrest⟩ := List.forall_mem_cons.1 h
    rw [distinct, List.filter_eq_nil_iff.2]
    intro c hc
    simpa using hrest c (mem_distinct.1 hc)

/-- The items that are not among those seen. -/
def unseen (seen items : List α) : List α :=
  items.filter fun a => decide (a ∉ seen)

theorem unseen_of_disjoint {seen items : List α} (h : ∀ a ∈ items, a ∉ seen) :
    unseen seen items = items :=
  List.filter_eq_self.2 fun a ha => decide_eq_true (h a ha)

@[simp] theorem unseen_nil_left (items : List α) : unseen [] items = items :=
  unseen_of_disjoint fun _ _ => List.not_mem_nil

@[simp] theorem unseen_nil_right (seen : List α) : unseen seen [] = [] := rfl

theorem unseen_of_subset {seen items : List α} (h : ∀ a ∈ items, a ∈ seen) :
    unseen seen items = [] := by
  rw [unseen, List.filter_eq_nil_iff]
  intro a ha
  simpa using h a ha

@[simp] theorem unseen_self (items : List α) : unseen items items = [] :=
  unseen_of_subset fun _ ha => ha

@[simp] theorem unseen_distinct (seen items : List α) :
    unseen (distinct seen) items = unseen seen items := by
  simp [unseen]

/-- What comes later adds the items that are new. -/
theorem distinct_append (items more : List α) :
    distinct (items ++ more) = distinct items ++ unseen items (distinct more) := by
  induction items with
  | nil => exact (unseen_nil_left _).symm
  | cons a rest ih => simp [distinct, ih, unseen, List.filter_filter]

theorem distinct_map {β : Type} [DecidableEq β] {f : α → β} (hf : ∀ a b, f a = f b → a = b)
    (items : List α) : distinct (items.map f) = (distinct items).map f := by
  induction items with
  | nil => rfl
  | cons a rest ih =>
    have hne : (fun b => decide (b ≠ f a)) ∘ f = fun b => decide (b ≠ a) := by
      funext b
      exact decide_eq_decide.2 (not_congr ⟨hf b a, congrArg f⟩)
    rw [List.map_cons, distinct, ih, distinct, List.map_cons, List.filter_map, hne]

end RouteWatch
