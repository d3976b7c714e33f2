import RouteWatch.Proofs.Host.Session
import RouteWatch.Router.Container

/-!
# Removing the router

A router is removed by two calls, one for its container and one for its staging directory, or by one
call for both. Nothing else that is asked of its host looks like one of them. From the moment the
staging directory has been made, a router that is not handed out has been removed.

* `leads_deprovision`, `leads_release`: the calls of a removal;
* `leads_provision`: a router that could not be started has been removed, once there was something to
  remove.
-/

namespace RouteWatch

open CallLog

variable {σ : Type}

namespace ExternalRouter

/-- The call is one of those that remove the router. -/
def IsRemoval (r : ExternalRouter) (i : Invocation) : Prop :=
  i = r.host.invocation [r.removalLine] ∨ i = r.host.invocation r.removeContainer ∨
    i = r.host.invocation r.removeStaging

/-- The calls remove the container of the router and its staging directory, and nothing else. -/
structure Removal (r : ExternalRouter) (calls : List Invocation) : Prop where
  only : ∀ i ∈ calls, r.IsRemoval i
  complete : r.host.invocation [r.removalLine] ∈ calls ∨
    (r.host.invocation r.removeContainer ∈ calls ∧ r.host.invocation r.removeStaging ∈ calls)

/-- The call copies a file to the host, or starts the container. -/
def SetsUp (r : ExternalRouter) (i : Invocation) : Prop :=
  i.program = "scp" ∨ ∃ image, i = r.host.invocation (r.startContainer image)

variable {r : ExternalRouter} {calls : List Invocation}

theorem removal_both :
    r.Removal [r.host.invocation r.removeContainer, r.host.invocation r.removeStaging] :=
  ⟨by simp [IsRemoval], by simp⟩

theorem removal_line : r.Removal [r.host.invocation [r.removalLine]] :=
  ⟨by simp [IsRemoval], by simp⟩

/-- However far a removal has come, the line that removes both completes it. -/
theorem removal_concat (h : ∀ i ∈ calls, r.IsRemoval i) :
    r.Removal (calls ++ [r.host.invocation [r.removalLine]]) := by
  refine ⟨fun i hi => ?_, .inl (by simp)⟩
  rcases List.mem_append.1 hi with hi | hi
  · exact h i hi
  · exact .inl (List.mem_singleton.1 hi)

/-! ## The calls of a removal -/

theorem leads_release (rn : Runner σ) (hactive : r.active = true) (log : CallLog) :
    Timed.Leads (fun s => s.2 = log) (r.release (logged rn)) fun _ s =>
      Adds log (· = [r.host.invocation [r.removalLine]]) s.2 := by
  have hcall : Timed.Leads (fun s => s.2 = log) (r.host.shellStatus (logged rn) r.removalLine)
      fun _ s => Adds log (· = [r.host.invocation [r.removalLine]]) s.2 :=
    Timed.Leads.bind (leads_logged rn _ log)
      (fun _ => .pure fun _ hs => adds_of_callEvents hs) fun _ hs => adds_of_callEvents hs
  rw [release, if_pos hactive]
  exact hcall.map (fun _ _ hs => hs) fun _ hs => hs

theorem leads_execStatus (rn : Runner σ) (host : HostSession) (args : List String)
    (log : CallLog) :
    let called := fun s : σ × CallLog => Adds log (· = [host.invocation args]) s.2
    Action.Leads (fun s => s.2 = log)
      (Action.mapError RouterError.host (host.execStatus (logged rn) args))
      (fun _ => called) called called := by
  intro called
  refine Action.Leads.mapError (Action.Leads.bind ?_ fun _ => .pure fun _ hs => hs)
  refine (HostSession.leads_call rn (host.invocation args) log).mono_post
    (fun _ _ hs => adds_of_callEvents hs) (fun s hs => ?_) fun _ hs => adds_of_callEvents hs
  obtain ⟨fault, hs⟩ := hs
  exact adds_of_callEvents hs

theorem leads_deprovision (rn : Runner σ) (hactive : r.active = true) (log : CallLog) :
    let begun := fun s : σ × CallLog => Adds log (fun calls => ∀ i ∈ calls, r.IsRemoval i) s.2
    Action.Leads (fun s => s.2 = log) (r.deprovision (logged rn))
      (fun _ s => Adds log r.Removal s.2) begun begun := by
  intro begun
  have hcontainer : Action.Leads (fun s => s.2 = log)
      (discard (Action.mapError RouterError.host
        (r.host.execStatus (logged rn) r.removeContainer)))
      (fun _ s => Adds log (· = [r.host.invocation r.removeContainer]) s.2) begun begun := by
    have hbegun : ∀ s : σ × CallLog,
        Adds log (· = [r.host.invocation r.removeContainer]) s.2 → begun s := by
      refine fun s hs => hs.mono ?_
      rintro _ rfl i hi
      exact .inr (.inl (List.mem_singleton.1 hi))
    exact ((leads_execStatus rn r.host r.removeContainer log).map fun _ _ hs => hs).mono_failure
      hbegun hbegun
  have hstaging : ∀ log₁, Adds log (· = [r.host.invocation r.removeContainer]) log₁ →
      Action.Leads (fun s => s.2 = log₁)
        (discard (Action.mapError RouterError.host
          (r.host.execStatus (logged rn) r.removeStaging)))
        (fun _ s => Adds log r.Removal s.2) begun begun := by
    intro log₁ hlog₁
    have hremoval : ∀ s : σ × CallLog,
        Adds log₁ (· = [r.host.invocation r.removeStaging]) s.2 → Adds log r.Removal s.2 := by
      refine fun s hs => hlog₁.trans hs ?_
      rintro _ _ rfl rfl
      exact removal_both
    have hbegun : ∀ s : σ × CallLog,
        Adds log₁ (· = [r.host.invocation r.removeStaging]) s.2 → begun s :=
      fun s hs => (hremoval s hs).mono fun _ h => h.only
    exact ((leads_execStatus rn r.host r.removeStaging log₁).map fun _ _ hs => hs).mono_post
      (fun _ => hremoval) hbegun hbegun
  rw [deprovision, if_pos hactive]
  exact hcontainer.bind fun _ => leads_log fun log₁ hlog₁ =>
    (hstaging log₁ hlog₁).bind fun _ => .pure fun _ hs => hs

theorem returns_release {rn : Runner σ} (hreturns : ∀ i, Timed.Returns (rn i))
    (r : ExternalRouter) : Timed.Returns (r.release rn) := by
  rw [release]
  split
  · exact .map _ ((hreturns _).bind fun _ => .pure _)
  · exact .pure _

theorem returns_deprovision {rn : Runner σ} (hreturns : ∀ i, Timed.Returns (rn i))
    (r : ExternalRouter) : Timed.Returns (r.deprovision rn).run := by
  have hstatus : ∀ args, Timed.Returns (Action.mapError RouterError.host
      (r.host.execStatus rn args)).run := by
    intro args
    refine .map _ (Timed.Returns.bind_action ?_ fun _ => .pure _)
    refine Timed.Returns.bind_action ((hreturns _).map _) fun answer => ?_
    cases answer with
    | ok reply => exact .pure _
    | error fault => exact .pure _
  rw [deprovision]
  dsimp only
  split
  · exact ((hstatus _).map_action _).bind_action fun _ =>
      ((hstatus _).map_action _).bind_action fun _ => .pure _
  · exact .pure _

theorem keeps_release {I : σ → Prop} {rn : Runner σ}
    (h : ∀ i, r.IsRemoval i → Timed.Keeps I (rn i)) : Timed.Keeps I (r.release rn) := by
  rw [release]
  split
  · exact .map _ ((h _ (.inl rfl)).bind fun _ => .pure _)
  · exact .pure _

theorem keeps_deprovision {I : σ → Prop} {rn : Runner σ}
    (h : ∀ i, r.IsRemoval i → Timed.Keeps I (rn i)) : Timed.Keeps I (r.deprovision rn).run := by
  have hstatus : ∀ args, r.IsRemoval (r.host.invocation args) →
      Timed.Keeps I (Action.mapError RouterError.host (r.host.execStatus rn args)).run := fun _ hi =>
    .map _ (Timed.Keeps.bind_action (HostSession.keeps_call (h _ hi)) fun _ => .pure _)
  rw [deprovision]
  dsimp only
  split
  · exact ((hstatus _ (.inr (.inl rfl))).map_action _).bind_action fun _ =>
      ((hstatus _ (.inr (.inr rfl))).map_action _).bind_action fun _ => .pure _
  · exact .pure _

theorem deprovision_of_inactive (rn : Runner σ) (h : r.active = false) :
    r.deprovision rn = pure r := by
  obtain ⟨host, runtime, elevated, name, id, stagingDir, spec, active⟩ := r
  obtain rfl : active = false := h
  rfl

/-- A router that was removed has nothing to remove any more. -/
theorem active_of_deprovision (rn : Runner σ) (r : ExternalRouter) :
    Action.Leads (fun _ => True) (r.deprovision rn) (fun r' _ => r'.active = false)
      (fun _ => True) (fun _ => True) := by
  have hany : ∀ {α : Type} {x : Action σ RouterError α},
      Action.Leads (fun _ => True) x (fun _ _ => True) (fun _ => True) fun _ => True :=
    .of_keeps fun _ _ _ _ => trivial
  rw [deprovision]
  dsimp only
  split
  · exact hany.bind fun _ => hany.bind fun _ => .pure fun _ _ => rfl
  · exact .pure fun _ _ => rfl

theorem release_of_inactive (rn : Runner σ) (h : r.active = false) : r.release rn = pure () := by
  rw [release, h]
  rfl

end ExternalRouter

/-! ## Calls that remove nothing -/

/-- The last argument but one names the volume, which is too long for an option. -/
theorem ExternalRouter.startContainer_volume (r : ExternalRouter) (image : String) :
    ∃ volume, (r.startContainer image).dropLast.getLast? = some volume ∧ 3 < volume.length := by
  refine ⟨s!"{r.stagingDir}:/etc/frr", ?_, ?_⟩
  · rw [startContainer, runtimeCommand, asRoot]
    split <;> simp
  · have hsuffix : ":/etc/frr".length = 9 := by decide
    have hsum : s!"{r.stagingDir}:/etc/frr".length = r.stagingDir.length + 9 := by
      rw [← hsuffix, ← String.length_append]
      rfl
    omega

theorem ExternalRouter.startContainer_ne (r : ExternalRouter) (image : String) :
    (r.startContainer image).dropLast.getLast? ∉ [none, some "-f", some "-rf"] := by
  obtain ⟨volume, hvolume, hlength⟩ := r.startContainer_volume image
  rw [hvolume]
  intro hmem
  simp only [List.mem_cons, reduceCtorEq, Option.some.injEq, List.not_mem_nil, or_false,
    false_or] at hmem
  rcases hmem with rfl | rfl
  · revert hlength
    decide
  · revert hlength
    decide

/-- The call is one of those that remove some router from the host. -/
def HostSession.Removes (host : HostSession) (i : Invocation) : Prop :=
  ∃ r : ExternalRouter, r.host = host ∧ r.IsRemoval i

namespace HostSession

variable {host : HostSession}

theorem Removes.eq_invocation {i : Invocation} (h : host.Removes i) :
    ∃ args, i = host.invocation args ∧
      args.dropLast.getLast? ∈ [none, some "-f", some "-rf"] := by
  obtain ⟨r, rfl, h⟩ := h
  rcases h with rfl | rfl | rfl
  · exact ⟨_, rfl, by simp⟩
  · refine ⟨_, rfl, ?_⟩
    rw [ExternalRouter.removeContainer, ExternalRouter.runtimeCommand, ExternalRouter.asRoot]
    split <;> simp
  · refine ⟨_, rfl, ?_⟩
    rw [ExternalRouter.removeStaging, ExternalRouter.asRoot]
    split <;> simp

/-- The last argument but one tells what is no removal. -/
theorem not_removes_invocation {args : List String}
    (h : args.dropLast.getLast? ∉ [none, some "-f", some "-rf"]) :
    ¬ host.Removes (host.invocation args) := by
  intro hremoves
  obtain ⟨args', heq, hargs'⟩ := hremoves.eq_invocation
  rw [← invocation_inj.1 heq] at hargs'
  exact h hargs'

theorem not_removes_of_program {i : Invocation} (h : i.program ≠ "ssh") : ¬ host.Removes i := by
  intro hremoves
  obtain ⟨args, rfl, -⟩ := hremoves.eq_invocation
  exact h rfl

end HostSession

theorem ExternalRouter.Removal.not_setsUp {r : ExternalRouter} {calls : List Invocation}
    (h : r.Removal calls) {i : Invocation} (hi : i ∈ calls) : ¬ r.SetsUp i := by
  have hremoves : r.host.Removes i := ⟨r, rfl, h.only i hi⟩
  rintro (hprogram | ⟨image, rfl⟩)
  · exact HostSession.not_removes_of_program (by simp [hprogram]) hremoves
  · exact HostSession.not_removes_invocation (r.startContainer_ne image) hremoves

/-! ## From the staging directory on -/

/-- The router is the one with that suffix. -/
structure ExternalRouter.IsOf (r : ExternalRouter) (config : LabConfig) (suffix : String) : Prop where
  host : r.host = .ofConfig config.host
  /-- The program that runs containers, and how it is run. -/
  runtime : r.runtime = config.router.runtime ∧ r.elevated = config.router.elevated
  name : r.name = config.router.containerPrefix ++ suffix
  stagingDir : r.stagingDir = config.host.stagingPrefix ++ suffix

namespace LabConfig

variable (config : LabConfig) (suffix : String)

/-- The call that makes the staging directory. -/
def makeStaging : Invocation :=
  (HostSession.ofConfig config.host).invocation ["mkdir", "-p", config.host.stagingPrefix ++ suffix]

/-- Nothing is to be removed, and nothing has been. -/
structure Unstaged (log : CallLog) : Prop where
  only : Only (fun i => ¬ (HostSession.ofConfig config.host).Removes i) log
  unmade : ¬ Succeeded (config.makeStaging suffix) log

/-- There is something to remove, and nothing has been. -/
structure Staged (log : CallLog) : Prop where
  only : Only (fun i => ¬ (HostSession.ofConfig config.host).Removes i) log
  made : Succeeded (config.makeStaging suffix) log

/-- The router has been removed, and nothing has been done on the host since. -/
structure Removed (log : CallLog) : Prop where
  made : Succeeded (config.makeStaging suffix) log
  removal : ∃ (r : ExternalRouter) (before removal : List Invocation), r.IsOf config suffix ∧
    issued log = before ++ removal ∧
    (∀ i ∈ before, ¬ (HostSession.ofConfig config.host).Removes i) ∧ r.Removal removal

variable {config suffix} {log log' : CallLog}

theorem Staged.removed {r : ExternalRouter} (h : config.Staged suffix log)
    (hr : r.IsOf config suffix) (hadds : Adds log r.Removal log') : config.Removed suffix log' := by
  refine ⟨h.made.adds hadds, ?_⟩
  obtain ⟨t, rfl, hremoval⟩ := hadds
  exact ⟨r, issued log, issued t, hr, issued_append log t, fun i hi => h.only.of_mem_issued hi,
    hremoval⟩

theorem keeps_staged {i : Invocation} (h : ¬ (HostSession.ofConfig config.host).Removes i)
    (rn : Runner σ) : Timed.Keeps (fun s => config.Staged suffix s.2) (logged rn i) := by
  intro limit now s hs
  refine ⟨keeps_only h rn limit now s hs.only, ?_⟩
  rw [leads_logged rn i s.2 limit now s rfl]
  exact hs.made.adds (adds_of_callEvents rfl)

theorem keeps_unstaged {i : Invocation} (h : ¬ (HostSession.ofConfig config.host).Removes i)
    (hother : i ≠ config.makeStaging suffix) (rn : Runner σ) :
    Timed.Keeps (fun s => config.Unstaged suffix s.2) (logged rn i) := by
  intro limit now s hs
  refine ⟨keeps_only h rn limit now s hs.only, ?_⟩
  rw [leads_logged rn i s.2 limit now s rfl]
  intro hmade
  rcases succeeded_append_callEvents hmade with hmade | ⟨rfl, -⟩
  · exact hs.unmade hmade
  · exact hother rfl

theorem not_removes_makeStaging :
    ¬ (HostSession.ofConfig config.host).Removes (config.makeStaging suffix) :=
  HostSession.not_removes_invocation (by simp)

theorem leads_makeStaging (rn : Runner σ) (config : LabConfig) (suffix : String) :
    let unstaged := fun s : σ × CallLog => config.Unstaged suffix s.2
    Action.Leads unstaged
      ((HostSession.ofConfig config.host).exec (logged rn)
        ["mkdir", "-p", config.host.stagingPrefix ++ suffix])
      (fun _ s => config.Staged suffix s.2) unstaged unstaged := by
  intro unstaged
  refine leads_log (P := config.Unstaged suffix) fun log hlog => ?_
  have hunmade : ∀ answer : Option (Except LaunchFault Reply),
      (∀ reply, answer = some (.ok reply) → reply.status.success = false) →
      config.Unstaged suffix (log ++ callEvents (config.makeStaging suffix) answer) := by
    intro answer hanswer
    refine ⟨hlog.only.call not_removes_makeStaging answer, fun hmade => ?_⟩
    rcases succeeded_append_callEvents hmade with hmade | ⟨-, reply, hreply, hsuccess⟩
    · exact hlog.unmade hmade
    · rw [hanswer reply hreply] at hsuccess
      cases hsuccess
  refine (HostSession.leads_exec rn _ _ log).mono_post (fun reply s hs => ?_)
    (fun s hs => ?_) fun s hs => ?_
  · obtain ⟨hsuccess, hs⟩ := hs
    rw [hs]
    exact ⟨hlog.only.call not_removes_makeStaging _, reply, by simp [callEvents, makeStaging],
      hsuccess⟩
  · obtain ⟨answer, hfailed, hs⟩ := hs
    change config.Unstaged suffix s.2
    rw [hs]
    exact hunmade _ fun reply h => hfailed reply (Option.some.inj h)
  · change config.Unstaged suffix s.2
    rw [hs]
    exact hunmade none (by simp)

end LabConfig

namespace ExternalRouter

variable {config : LabConfig} {suffix : String} {r : ExternalRouter}

/-- To start the router, its files are copied, its container is started and looked up. -/
theorem leads_start_of {I : σ → Prop} {rn : Runner σ} {image : String}
    (hcopy : ∀ i, i.program = "scp" → Timed.Keeps I (rn i))
    (hrun : Timed.Keeps I (rn (r.host.invocation (r.startContainer image))))
    (hlist : ∀ args, args.dropLast.getLast? = some "--format" →
      Timed.Keeps I (rn (r.host.invocation args))) (localDir conf : String) :
    Action.Leads I (r.start rn image localDir conf) (fun r' w => (∃ id, r' = { r with id }) ∧ I w)
      I I := by
  have hstage : ∀ file content,
      Action.Leads I (r.stage rn localDir file content) (fun _ => I) I I := by
    intro file content
    exact Action.Leads.mapError (.of_keeps (HostSession.keeps_upload (hcopy _ rfl)))
  have hstarted : Action.Leads I (discard (Action.mapError RouterError.host
      (r.host.execText rn (r.startContainer image)))) (fun _ => I) I I :=
    .map (.mapError (.of_keeps (HostSession.keeps_execText hrun))) fun _ _ hw => hw
  have hlookup : Action.Leads I (r.lookupId rn) (fun _ => I) I I := by
    refine Action.Leads.bind (.mapError (.of_keeps (HostSession.keeps_execText (hlist _ ?_))))
      fun _ => .ofOption (fun _ _ _ hw => hw) fun _ _ hw => hw
    rw [runtimeCommand, asRoot]
    split <;> simp
  exact (hstage _ _).bind fun _ => (hstage _ _).bind fun _ => hstarted.bind fun _ =>
    hlookup.bind fun id => .pure fun _ hw => ⟨⟨id, rfl⟩, hw⟩

/-- Starting the router removes nothing. -/
theorem leads_start (rn : Runner σ) (hr : r.IsOf config suffix) (hactive : r.active = true)
    (image localDir conf : String) :
    let staged := fun s : σ × CallLog => config.Staged suffix s.2
    Action.Leads staged (r.start (logged rn) image localDir conf)
      (fun r' s => (r'.IsOf config suffix ∧ r'.active = true) ∧ staged s) staged staged := by
  intro staged
  have hhost : ∀ args : List String, args.dropLast.getLast? ∉ [none, some "-f", some "-rf"] →
      Timed.Keeps staged (logged rn (r.host.invocation args)) := by
    intro args hargs
    rw [hr.host]
    exact LabConfig.keeps_staged (HostSession.not_removes_invocation hargs) rn
  refine (leads_start_of (I := staged) (fun i hi => ?_) (hhost _ (r.startContainer_ne image))
    (fun args hargs => hhost args (by simp [hargs])) localDir conf).mono_value fun r' s hs => ?_
  · exact LabConfig.keeps_staged (HostSession.not_removes_of_program (by simp [hi])) rn
  · obtain ⟨⟨id, rfl⟩, hs⟩ := hs
    exact ⟨⟨⟨hr.host, hr.runtime, hr.name, hr.stagingDir⟩, hactive⟩, hs⟩

/-- The handle of a router that is to be started. -/
def unstarted (host : HostSession) (hostConfig : HostConfig) (config : RouterConfig)
    (spec : RouterSpec) (suffix : String) : ExternalRouter where
  host
  runtime := config.runtime
  elevated := config.elevated
  name := config.containerPrefix ++ suffix
  id := ""
  stagingDir := hostConfig.stagingPrefix ++ suffix
  spec
  active := true

theorem isOf_unstarted (config : LabConfig) (spec : RouterSpec) (suffix : String) :
    (unstarted (.ofConfig config.host) config.host config.router spec suffix).IsOf config suffix :=
  ⟨rfl, ⟨rfl, rfl⟩, rfl, rfl⟩

/-- A router that can be configured is provisioned by making its directory and starting it. From the
moment the directory is there the handle is active, and it is given up if the router cannot be
started. -/
theorem leads_provision_of {rn : Runner σ} {host : HostSession} {hostConfig : HostConfig}
    {config : RouterConfig} {spec : RouterSpec} {suffix localDir : String} {P S E C : σ → Prop}
    {M : String → σ → Prop} {Q : ExternalRouter → σ → Prop} (hE : ∀ w, P w → E w)
    (hmake : ∀ conf, spec.render = .ok conf →
      Action.Leads P (host.exec rn ["mkdir", "-p", hostConfig.stagingPrefix ++ suffix])
        (fun _ => M conf) E C)
    (hstart : ∀ conf, spec.render = .ok conf →
      Action.Leads (M conf) ((unstarted host hostConfig config spec suffix).start rn config.image
        localDir conf) Q S C)
    (hrelease : Action.Leads S (Action.time (ε := RouterError)
      ((unstarted host hostConfig config spec suffix).release rn)) (fun _ => E) E C) :
    Action.Leads P (provision rn host hostConfig config spec suffix localDir) Q E C := by
  refine Action.Leads.bind (Q := fun conf w => spec.render = .ok conf ∧ P w)
    (.ofExcept (fun conf w hconf hw => ⟨?_, hw⟩) fun _ w _ hw => hE w hw) fun conf =>
    .of_imp fun hconf => ?_
  · rcases hrender : spec.render with e | conf' <;> rw [hrender] at hconf
    · cases hconf
    · cases hconf
      rfl
  refine Action.Leads.bind (Q := fun _ => M conf)
    (.map (.mapError (hmake conf hconf)) fun _ _ hw => hw) fun _ => ?_
  refine Action.Leads.bind ((hstart conf hconf).outcome RouterError E) fun result => ?_
  cases result with
  | ok r => exact .pure fun w hw => hw.1 r rfl
  | error e =>
    exact Action.Leads.bind (hrelease.mono (fun _ hw => hw.2 e rfl) (fun _ _ hw => hw)
      (fun _ hw => hw) fun _ hw => hw) fun _ => .throw fun _ hw => hw

/-- A router that could not be started has been removed, if there was something to remove. -/
theorem leads_provision (rn : Runner σ) (spec : RouterSpec) (localDir : String) :
    Action.Leads (fun s => config.Unstaged suffix s.2)
      (provision (logged rn) (.ofConfig config.host) config.host config.router spec suffix localDir)
      (fun r s => (r.IsOf config suffix ∧ r.active = true) ∧ config.Staged suffix s.2)
      (fun s => config.Unstaged suffix s.2 ∨ config.Removed suffix s.2)
      (fun s => config.Unstaged suffix s.2 ∨ Succeeded (config.makeStaging suffix) s.2) := by
  have hr := isOf_unstarted config spec suffix
  refine leads_provision_of (S := fun s => config.Staged suffix s.2)
    (M := fun _ s => config.Staged suffix s.2) (fun _ hs => .inl hs) (fun _ _ => ?_)
    (fun conf _ => ?_) ?_
  · exact (LabConfig.leads_makeStaging rn config suffix).mono_failure (fun _ hs => .inl hs)
      fun _ hs => .inl hs
  · exact (leads_start rn hr rfl config.router.image localDir conf).mono_failure
      (fun _ hs => hs) fun _ hs => .inr hs.made
  · refine leads_log (P := config.Staged suffix) fun log hlog =>
      Action.Leads.time ((leads_release rn rfl log).mono_post fun answer s hs => ?_)
    have hremoved : config.Removed suffix s.2 := by
      refine hlog.removed hr (hs.mono ?_)
      rintro _ rfl
      exact removal_line
    exact ⟨fun _ _ => .inr hremoved, fun _ => .inr hremoved.made⟩

end ExternalRouter

end RouteWatch
