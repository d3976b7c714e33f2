import RouteWatch.Proofs.Scenario.History
import RouteWatch.Proofs.Scenario.Labels

/-!
# Scenarios clean up

When a scenario comes back, whatever its result, all labels are what they were and every route
advertisement that it declared is withdrawn, provided that the calls of its cleanup succeed. A work
`Restores` the labels and the advertisement if that can be read off its body and its cleanup; the
works of all four scenarios do (`gives_work`).
-/

namespace RouteWatch.Scenario

variable {σ : Type} {env : Environment σ} {view : σ → Labels} {choice : ScenarioChoice}

/-- The labels agree wherever no step changes them. -/
def AgreeOutside (body : List Step) (v w : Labels) : Prop :=
  ∀ object key, (∀ c, .change c ∈ body → ¬ c.Touches object key) → w object key = v object key

/-- The cleanup of the work makes up for every part of its body: for labels that were these at first,
and for the advertisement. -/
structure Work.Restores (work : Work) (v : Labels) (ra : RouteAdvertisement) : Prop where
  /-- No other advertisement is declared. -/
  advertised : ∀ ra', .change (.advertise ra') ∈ work.body → ra' = ra
  withdrawn : .withdraw ra ∈ work.cleanup
  /-- The cleanup declares nothing. -/
  quiet : ∀ ra', .advertise ra' ∉ work.cleanup
  /-- The cleanup brings back the labels that the body may have changed. -/
  relabeled : ∀ w, AgreeOutside work.body v w → effects Change.relabel work.cleanup w = v
  /-- Where success leaves nothing to the cleanup, the body changes no labels and withdraws the
  advertisement itself. -/
  undone : work.onFailureOnly = true →
    (∀ c, .change c ∈ work.body → ∀ object key, ¬ c.Touches object key) ∧
      ∃ before after, work.body = before ++ .change (.withdraw ra) :: after ∧
        ∀ ra', .change (.advertise ra') ∉ after

/-! ## The works of the scenarios -/

/-- Where only two labels may have changed, assigning both what they were brings all labels back. -/
theorem effects_assign_assign {v w : Labels} {a b : ObjectKey} {k : String}
    (h : ∀ object key, ¬ (object = a ∧ key = k) → ¬ (object = b ∧ key = k) →
      w object key = v object key) :
    effects Change.relabel [.assign a k (v a k), .assign b k (v b k)] w = v := by
  funext object key
  simp only [effects, List.foldl_cons, List.foldl_nil, Change.relabel_assign, Labels.set]
  split
  next hb => obtain ⟨rfl, rfl⟩ := hb; rfl
  next hb =>
    split
    next ha => obtain ⟨rfl, rfl⟩ := ha; rfl
    next ha => exact h object key ha hb

theorem gives_work (hkeeps : KeepsLabels env view) (choice : ScenarioChoice) (v : Labels) :
    Gives (fun w => view w = v) (choice.work env) fun work => ∃ ra, work.Restores v ra := by
  have hsave := gives_save hkeeps v
  cases choice with
  | defaultNetwork name =>
    refine (Gives.requireSubnets _ _).bind fun _ _ => .pure ⟨defaultAdvertisement name, ?_⟩
    exact {
      advertised := by simp
      withdrawn := by simp
      quiet := by simp
      relabeled := fun w h => by
        funext object key
        exact h object key (by simp [Change.Touches])
      undone := fun _ => ⟨by simp [Change.Touches], [_, _, _], [_, _], rfl, by simp⟩ }
  | selector o =>
    refine (Gives.lift (Q := fun _ => True) fun _ _ => trivial).bind fun _ _ =>
      (Gives.requireSubnets _ _).bind fun _ _ => (Gives.requireSubnets _ _).bind fun _ _ =>
        (hsave _ _).bind fun c₁ hc₁ => (hsave _ _).bind fun c₂ hc₂ => .pure ⟨o.advertisement, ?_⟩
    subst hc₁ hc₂
    exact {
      advertised := by simp
      withdrawn := by simp
      quiet := by simp
      relabeled := fun w h => effects_assign_assign fun object key h₁ h₂ =>
        h object key (by simpa [Change.Touches] using And.intro h₁ h₂)
      undone := by simp }
  | failover o =>
    refine Gives.bind (Q := fun _ => True)
      (.act ((hkeeps.egressAssignments v o.egress).mono_post fun _ _ h =>
        ⟨h, fun _ _ => trivial⟩)) fun _ _ =>
      (Gives.lift (Q := fun _ => True) fun _ _ => trivial).bind fun m _ =>
        (hsave _ _).bind fun c₁ hc₁ => (hsave _ _).bind fun c₂ hc₂ => .pure ⟨o.advertisement, ?_⟩
    subst hc₁ hc₂
    exact {
      advertised := by simp
      withdrawn := by simp
      quiet := by simp
      -- the body takes the label from the holder last, and the cleanup gives it back first
      relabeled := fun w h => effects_assign_assign fun object key h₁ h₂ =>
        h object key (by simpa [Change.Touches] using And.intro h₂ h₁)
      undone := by simp }
  | recovery o =>
    refine (Gives.requireSubnets _ _).bind fun _ _ => .pure ⟨defaultAdvertisement o.name, ?_⟩
    exact {
      advertised := by simp
      withdrawn := by simp
      quiet := by simp
      relabeled := fun w h => by
        funext object key
        exact h object key (by simp [Change.Touches])
      undone := by simp }

/-! ## What the history of such a work is -/

theorem agreeOutside_effects {body : List Step} {cs : List Change} (v : Labels)
    (h : ∀ c ∈ cs, .change c ∈ body) : AgreeOutside body v (effects Change.relabel cs v) := by
  induction cs generalizing v with
  | nil => exact fun _ _ _ => rfl
  | cons c cs ih =>
    obtain ⟨hc, hcs⟩ := List.forall_mem_cons.1 h
    intro object key huntouched
    rw [effects, List.foldl_cons, ← effects, ih _ hcs object key huntouched]
    exact Change.relabel_of_not_touches (huntouched c hc) v

namespace Work.Restores

variable {work : Work} {v : Labels} {ra ra' : RouteAdvertisement} (h : work.Restores v ra)
include h

theorem eq_of_sent {t₀ t₁ : Trace} {r : Option (Except ScenarioError Unit)} (asks : OnlyAsks t₀)
    (body : Leave work.body r t₁) (hsent : .sent (.change (.advertise ra')) ∈ t₀ ++ t₁) :
    ra' = ra := by
  rcases List.mem_append.1 hsent with hsent | hsent
  · exact absurd rfl (asks _ hsent _)
  · obtain ⟨step, hstep, hq⟩ := body.request_of_mem hsent
    exact h.advertised ra' (Step.eq_of_request hq ▸ hstep)

theorem not_sent {t : Trace} {r : Option Unit} (undone : Undo work.cleanup r t) :
    .sent (.change (.advertise ra')) ∉ t := by
  intro hsent
  obtain ⟨c, hc, hq⟩ := undone.request_of_mem hsent
  obtain rfl : Change.advertise ra' = c := Request.change.inj hq
  exact h.quiet ra' hc

end Work.Restores

namespace History

variable {v v' : Labels} {result : Except ScenarioError Unit} {t cleanup : Trace}

theorem restored
    (h : History Change.relabel (fun work => ∃ ra, work.Restores v ra) v result t cleanup v')
    (hclean : ∀ q good, .answered q good ∈ cleanup → good = true) : v' = v := by
  cases h with
  | unprepared asks => rfl
  | uncleaned prepared asks body succeeds =>
    obtain ⟨ra, hrestores⟩ := prepared
    have huntouched := (hrestores.undone succeeds).1
    funext object key
    exact agreeOutside_effects v (fun _ h => mem_changesOf.1 h) object key
      fun c hc => huntouched c hc object key
  | cleaned prepared asks body begins undone effective =>
    obtain ⟨ra, hrestores⟩ := prepared
    rw [effective hclean]
    exact hrestores.relabeled _
      (agreeOutside_effects v fun _ h => begins.subset (mem_changesOf.1 h))

theorem withdrawn {works : Work → Prop} {β : Type} {effect : Change → β → β} {v v' : β}
    (h : History effect works v result t cleanup v')
    (hworks : ∀ work, works work → ∃ v ra, work.Restores v ra)
    (hclean : ∀ q good, .answered q good ∈ cleanup → good = true)
    {before after : Trace} {ra : RouteAdvertisement}
    (ht : t = before ++ .sent (.change (.advertise ra)) :: after) :
    .answered (.change (.withdraw ra)) true ∈ after := by
  have hmem : .sent (.change (.advertise ra)) ∈ t := by simp [ht]
  cases h with
  | unprepared asks => exact absurd rfl (asks _ hmem _)
  | @uncleaned work t₀ t₁ prepared asks body succeeds =>
    obtain ⟨v, ra', hrestores⟩ := hworks work prepared
    obtain rfl := hrestores.eq_of_sent asks body hmem
    obtain ⟨-, first, later, hbody, hlater⟩ := hrestores.undone succeeds
    rw [hbody] at body
    obtain ⟨t₁, t₂, rfl, -, hleave⟩ := body.of_append_ok
    rw [← List.append_assoc] at ht
    cases hleave with
    | next hleave =>
      refine mem_of_mem_later ht (fun h => ?_) (by simp [Step.request])
      obtain ⟨step, hstep, hq⟩ := hleave.request_of_mem
        (e := .sent (.change (.advertise ra))) (by simpa [Step.request] using h)
      exact hlater ra (Step.eq_of_request hq ▸ hstep)
  | @cleaned work _ t₀ t₁ _ taken _ prepared asks body begins undone effective =>
    obtain ⟨v, ra', hrestores⟩ := hworks work prepared
    have hquiet : .sent (.change (.advertise ra)) ∉ cleanup := hrestores.not_sent undone
    obtain rfl := hrestores.eq_of_sent asks body ((List.mem_append.1 hmem).resolve_right hquiet)
    obtain ⟨good, hgood⟩ := undone.answered rfl hrestores.withdrawn
    obtain rfl := hclean _ good hgood
    exact mem_of_mem_later ht hquiet hgood

end History

variable {start : Start σ}

theorem leads_work_restores (hkeeps : KeepsLabels env view) (choice : ScenarioChoice)
    (start : Start σ) : Leads (· = start.world) (choice.work env) fun r _ =>
      ∀ work, r = some (.ok work) → ∃ ra, work.Restores (view start.world) ra :=
  (gives_work hkeeps choice (view start.world)).mono (fun _ hw => congrArg view hw)
    fun _ _ hw => hw.2

/-- A scenario that comes back after a cleanup that went well has brought all labels back. -/
theorem labels_restored (hkeeps : KeepsLabels env view)
    (hback : (start.run (choice.scenario env)).value?.isSome)
    (hclean : ∀ q good, .answered q good ∈ start.cleanupTrace env choice → good = true) :
    view (start.run (choice.scenario env)).world = view start.world := by
  rcases hrun : start.run (choice.scenario env) with ⟨_ | ⟨result, report⟩, now, w⟩
  · simp [hrun] at hback
  · exact (scenario_history hkeeps.toTracks (leads_work_restores hkeeps choice start) hrun).restored hclean

/-- And it has withdrawn every advertisement after it declared it. -/
theorem advertisements_withdrawn (hkeeps : KeepsLabels env view)
    (hback : (start.run (choice.scenario env)).value?.isSome)
    (hclean : ∀ q good, .answered q good ∈ start.cleanupTrace env choice → good = true)
    {before after : Trace} {ra : RouteAdvertisement}
    (ht : start.trace env choice = before ++ .sent (.change (.advertise ra)) :: after) :
    .answered (.change (.withdraw ra)) true ∈ after := by
  rcases hrun : start.run (choice.scenario env) with ⟨_ | ⟨result, report⟩, now, w⟩
  · simp [hrun] at hback
  · exact (scenario_history hkeeps.toTracks (leads_work_restores hkeeps choice start) hrun).withdrawn
      (fun work h => ⟨_, h⟩) hclean ht

end RouteWatch.Scenario
