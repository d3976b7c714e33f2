import RouteWatch.Proofs.Scenario.Effects

/-!
# Labels through a scenario

An environment keeps labels if its labels are a store that changes only as it is told to: a change
that fails may or may not have been made. What a scenario saves of a label is then the change that
brings its former value back.
-/

namespace RouteWatch.Scenario

variable {σ : Type}

/-- The labels of all objects. -/
abbrev Labels := ObjectKey → String → Option String

/-- The labels after one was given this value or taken away. -/
def Labels.set (v : Labels) (object : ObjectKey) (key : String) (value : Option String) : Labels :=
  fun o k => if o = object ∧ k = key then value else v o k

namespace Change

/-- The labels after the change. -/
def relabel : Change → Labels → Labels
  | .label object key value, v => v.set object key (some value)
  | .unlabel object key, v => v.set object key none
  | _, v => v

/-- The change is one of that label. -/
def Touches (object : ObjectKey) (key : String) : Change → Prop
  | .label o k _ => object = o ∧ key = k
  | .unlabel o k => object = o ∧ key = k
  | _ => False

theorem relabel_of_not_touches {c : Change} {object : ObjectKey} {key : String}
    (h : ¬ c.Touches object key) (v : Labels) : c.relabel v object key = v object key := by
  cases c <;> simp_all [relabel, Touches, Labels.set]

@[simp] theorem relabel_withdraw (ra : RouteAdvertisement) (v : Labels) :
    (withdraw ra).relabel v = v := rfl

@[simp] theorem relabel_assign (object : ObjectKey) (key : String) (value : Option String)
    (v : Labels) : (assign object key value).relabel v = v.set object key value := by
  cases value <;> rfl

end Change

/-- The labels, as `view` shows them in a world, are what they are told to be, and are read as they
are. -/
structure KeepsLabels (env : Environment σ) (view : σ → Labels) : Prop
    extends Tracks env Change.relabel view where
  /-- Labels that are read are those that there are. -/
  reads : ∀ v object, Timed.Leads (fun w => view w = v) (env.labels object).run fun r _ =>
    ∀ labels, r = some (.ok labels) → labels.get? = v object

variable {env : Environment σ} {view : σ → Labels}

theorem gives_save (hkeeps : KeepsLabels env view) (v : Labels) (object : ObjectKey)
    (key : String) :
    Gives (fun w => view w = v) (save env object key) fun c =>
      c = .assign object key (v object key) := by
  refine Gives.bind (Q := fun labels => labels.get? = v object)
    (.act fun limit now w hw =>
      ⟨hkeeps.labels v object limit now w hw, hkeeps.reads v object limit now w hw⟩)
    fun labels hlabels => .pure ?_
  rw [hlabels]

end RouteWatch.Scenario
