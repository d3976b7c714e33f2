import RouteWatch.Proofs.Lab.Site

/-!
# What the setup of a lab does

The calls that set up a lab make its router and declare its peering. If the setup succeeds, all of
this has been done, the declaration last, and nothing else. If it fails or is cut off, what was done
has concerned this router, or has declared this peering. A teardown does the opposite.

* `Lab.leads_setup_created`: what has been done by a setup;
* `Lab.keeps_teardown`: what is done by a teardown.
-/

namespace RouteWatch

open CallLog Timed

variable {σ : Type} {config : LabConfig} {suffix : String}

/-! ## Deeds -/

/-- The object that describes the peering of a lab. -/
def Lab.peeringObject (c : ClusterConfig) : ObjectName :=
  ⟨FrrConfiguration.kind, peeringName, some c.frrNamespace⟩

/-- The path of a file of the router on its host. -/
def ExternalRouter.path (r : ExternalRouter) (file : String) : String :=
  s!"{r.stagingDir}/{file}"

/-- What is done to start the router with that configuration file. -/
def LabConfig.creation (config : LabConfig) (suffix conf : String) : List Deed :=
  let r := config.routerOf suffix
  [.makeDirectory r.stagingDir, .copy (r.path "frr.conf") conf,
    .copy (r.path "daemons") Router.daemons, .start r.name ⟨config.router.image, r.stagingDir⟩]

theorem LabConfig.forall_mem_creation {conf : String} {P : Deed → Prop} :
    (∀ d ∈ config.creation suffix conf, P d) ↔
      P (.makeDirectory (config.routerOf suffix).stagingDir) ∧
      P (.copy ((config.routerOf suffix).path "frr.conf") conf) ∧
      P (.copy ((config.routerOf suffix).path "daemons") Router.daemons) ∧
      P (.start (config.routerOf suffix).name
        ⟨config.router.image, (config.routerOf suffix).stagingDir⟩) := by
  simp [creation]

/-- The deed concerns the router with that suffix. -/
inductive Deed.Concerns (config : LabConfig) (suffix : String) : Deed → Prop
  | makeDirectory : Concerns config suffix (.makeDirectory (config.routerOf suffix).stagingDir)
  | copy {path : String} (h : Within (config.routerOf suffix).stagingDir path) (content : String) :
    Concerns config suffix (.copy path content)
  | start (container : Container) :
    Concerns config suffix (.start (config.routerOf suffix).name container)
  | removeContainer : Concerns config suffix (.removeContainer (config.routerOf suffix).name)
  | removeTree : Concerns config suffix (.removeTree (config.routerOf suffix).stagingDir)

theorem ExternalRouter.within_path (r : ExternalRouter) (file : String) :
    Within r.stagingDir (r.path file) := by
  refine .inr ⟨file.toList, ?_⟩
  simp [path, toString, String.toList_append]

theorem concerns_of_mem_creation {conf : String} {d : Deed} (h : d ∈ config.creation suffix conf) :
    d.Concerns config suffix := by
  simp only [LabConfig.creation, List.mem_cons, List.not_mem_nil, or_false] at h
  rcases h with rfl | rfl | rfl | rfl
  · exact .makeDirectory
  · exact .copy (ExternalRouter.within_path _ _) _
  · exact .copy (ExternalRouter.within_path _ _) _
  · exact .start _

/-- All that the calls on the log do is as `P` says. -/
def LabConfig.Does (config : LabConfig) (P : Deed → Prop) : CallLog → Prop :=
  Only fun i => ∀ d ∈ config.deeds i, P d

theorem LabConfig.Does.mono {P P' : Deed → Prop} {log : CallLog} (h : config.Does P log)
    (himp : ∀ d, P d → P' d) : config.Does P' log :=
  fun e he d hd => himp d (h e he d hd)

/-- All that the calls on the log do is as `P` says, and those have succeeded that do what is made. -/
structure Making (config : LabConfig) (P : Deed → Prop) (made : List Deed) (log : CallLog) : Prop where
  only : config.Does P log
  made : ∀ d ∈ made, ∃ i, d ∈ config.deeds i ∧ Succeeded i log

namespace Making

variable {P P' : Deed → Prop} {made : List Deed} {log : CallLog} {i : Invocation}

theorem mono (h : Making config P made log) (himp : ∀ d, P d → P' d) : Making config P' made log :=
  ⟨h.only.mono himp, h.made⟩

theorem call (h : Making config P made log) (hi : ∀ d ∈ config.deeds i, P d)
    (answer : Option (Except LaunchFault Reply)) :
    Making config P made (log ++ callEvents i answer) := by
  refine ⟨h.only.call hi answer, fun d hd => ?_⟩
  obtain ⟨j, hj, hsucceeded⟩ := h.made d hd
  exact ⟨j, hj, hsucceeded.adds (adds_of_callEvents rfl)⟩

theorem success (h : Making config P made log) (hi : ∀ d ∈ config.deeds i, P d)
    {reply : Reply} (hreply : reply.status.success = true) :
    Making config P (made ++ config.deeds i) (log ++ callEvents i (some (.ok reply))) := by
  refine ⟨h.only.call hi _, fun d hd => ?_⟩
  rcases List.mem_append.1 hd with hd | hd
  · exact (h.call hi _).made d hd
  · exact ⟨i, hd, reply, by simp [callEvents], hreply⟩

/-- A call that has to succeed does its deeds. -/
theorem leads_succeed (rn : Runner σ) (host : HostSession) (line : String) (made : List Deed)
    {ds : List Deed} (hdeeds : config.deeds i = ds) (hds : ∀ d ∈ ds, P d) :
    let begun := fun s : σ × CallLog => config.Does P s.2
    Action.Leads (fun s => Making config P made s.2) (host.succeed (logged rn) line i)
      (fun _ s => Making config P (made ++ ds) s.2) begun begun := by
  intro begun
  subst hdeeds
  refine leads_log (P := Making config P made) fun log hlog =>
    (HostSession.leads_succeed rn host line i log).mono_post (fun reply s hs => ?_)
      (fun s hs => ?_) fun s hs => ?_
  · obtain ⟨hreply, hs⟩ := hs
    exact hs ▸ hlog.success hds hreply
  · obtain ⟨answer, -, hs⟩ := hs
    exact Making.only (hs ▸ hlog.call hds (some answer))
  · exact Making.only (hs ▸ hlog.call hds none)

/-- So does a command that has to print something. -/
theorem leads_execText (rn : Runner σ) {host : HostSession} {args : List String}
    (made : List Deed) {ds : List Deed} (hdeeds : config.deeds (host.invocation args) = ds)
    (hds : ∀ d ∈ ds, P d) :
    let begun := fun s : σ × CallLog => config.Does P s.2
    Action.Leads (fun s => Making config P made s.2) (host.execText (logged rn) args)
      (fun _ s => Making config P (made ++ ds) s.2) begun begun :=
  Action.Leads.bind (leads_succeed rn host _ made hdeeds hds) fun _ =>
    .ofExcept (fun _ _ _ hs => hs) fun _ _ _ hs => hs.only

end Making

theorem LabConfig.keeps_does (rn : Runner σ) {P : Deed → Prop} {i : Invocation}
    (hi : ∀ d ∈ config.deeds i, P d) : Keeps (fun s => config.Does P s.2) (logged rn i) :=
  keeps_only hi rn

/-! ## The router -/

namespace ExternalRouter.IsOf

variable {r : ExternalRouter}

theorem removeContainer (h : r.IsOf config suffix) :
    r.removeContainer = (config.routerOf suffix).removeContainer := by
  rw [ExternalRouter.removeContainer, runtimeCommand, asRoot, h.runtime.1, h.runtime.2, h.name]
  rfl

theorem removeStaging (h : r.IsOf config suffix) :
    r.removeStaging = (config.routerOf suffix).removeStaging := by
  rw [ExternalRouter.removeStaging, asRoot, h.runtime.2, h.stagingDir]
  rfl

theorem removalLine (h : r.IsOf config suffix) :
    r.removalLine = (config.routerOf suffix).removalLine := by
  rw [ExternalRouter.removalLine, h.removeContainer, h.removeStaging, ExternalRouter.removalLine]

theorem startContainer (h : r.IsOf config suffix) (image : String) :
    r.startContainer image = (config.routerOf suffix).startContainer image := by
  rw [ExternalRouter.startContainer, runtimeCommand, asRoot, h.runtime.1, h.runtime.2, h.name,
    h.stagingDir]
  rfl

theorem path (h : r.IsOf config suffix) (file : String) :
    r.path file = (config.routerOf suffix).path file := by
  rw [ExternalRouter.path, h.stagingDir]
  rfl

/-- A removal of the router concerns nothing else. -/
theorem concerns_of_isRemoval (h : r.IsOf config suffix) {i : Invocation} (hi : r.IsRemoval i) :
    ∀ d ∈ config.deeds i, d.Concerns config suffix := by
  rw [IsRemoval, h.host, h.removalLine, h.removeContainer, h.removeStaging] at hi
  rcases hi with rfl | rfl | rfl
  · rw [LabConfig.deeds_removalLine]
    simp [Deed.Concerns.removeContainer, Deed.Concerns.removeTree]
  · rw [LabConfig.deeds_removeContainer]
    simp [Deed.Concerns.removeContainer]
  · rw [LabConfig.deeds_removeStaging]
    simp [Deed.Concerns.removeTree]

end ExternalRouter.IsOf

namespace ExternalRouter

/-- The router with that suffix was made as specified, with that configuration file. -/
structure IsMade (config : LabConfig) (suffix : String) (spec : RouterSpec) (conf : String)
    (r : ExternalRouter) : Prop where
  isOf : r.IsOf config suffix
  active : r.active = true
  asSpecified : r.spec = spec
  render : spec.render = .ok conf

variable {spec : RouterSpec} {conf : String} {r : ExternalRouter}

theorem leads_stage_making (rn : Runner σ) (hr : r.IsOf config suffix)
    (localDir file content : String) {made : List Deed} {P : Deed → Prop}
    (hcopy : P (.copy ((config.routerOf suffix).path file) content)) :
    let begun := fun s : σ × CallLog => config.Does P s.2
    Action.Leads (fun s => Making config P made s.2) (r.stage (logged rn) localDir file content)
      (fun _ s => Making config P (made ++ [.copy ((config.routerOf suffix).path file) content]) s.2)
      begun begun := by
  have hdeeds : config.deeds (r.host.copying s!"{localDir}/{file}" content (r.path file)) =
      [.copy ((config.routerOf suffix).path file) content] := by
    rw [hr.host, LabConfig.deeds_copying, hr.path]
  exact .mapError (.map (Making.leads_succeed rn r.host _ made hdeeds
    (List.forall_mem_singleton.2 hcopy)) fun _ _ hs => hs)

theorem leads_lookupId_making (rn : Runner σ) (hr : r.IsOf config suffix) {made : List Deed}
    {P : Deed → Prop} :
    let begun := fun s : σ × CallLog => config.Does P s.2
    Action.Leads (fun s => Making config P made s.2) (r.lookupId (logged rn))
      (fun _ s => Making config P made s.2) begun begun := by
  have hdeeds : config.deeds (r.host.invocation (r.runtimeCommand
      ["ps", "--filter", s!"name=^{r.name}$", "--format", listFormat "ID"])) = [] := by
    rw [hr.host]
    refine LabConfig.deeds_asks ?_
    rw [HostSession.Asks, runtimeCommand, asRoot]
    split <;> simp
  have hprinted := Making.leads_execText (P := P) rn made hdeeds (List.forall_mem_nil _)
  rw [List.append_nil] at hprinted
  exact .bind (.mapError hprinted) fun _ => .ofExcept (fun _ _ _ hs => hs) fun _ _ _ hs => hs.only

theorem leads_start_making (rn : Runner σ) (hr : r.IsMade config suffix spec conf)
    (localDir : String) :
    let P := (· ∈ config.creation suffix conf)
    let begun := fun s : σ × CallLog => config.Does P s.2
    Action.Leads
      (fun s => Making config P [.makeDirectory (config.routerOf suffix).stagingDir] s.2)
      (r.start (logged rn) config.router.image localDir conf)
      (fun r' s => r'.IsMade config suffix spec conf ∧
        Making config P (config.creation suffix conf) s.2)
      begun begun := by
  intro P begun
  have hdeeds : config.deeds (r.host.invocation (r.startContainer config.router.image)) =
      [.start (config.routerOf suffix).name
        ⟨config.router.image, (config.routerOf suffix).stagingDir⟩] := by
    rw [hr.isOf.host, hr.isOf.startContainer, LabConfig.deeds_startContainer]
  refine (leads_stage_making rn hr.isOf localDir "frr.conf" conf
    (by simp [P, LabConfig.creation])).bind fun _ => ?_
  refine (leads_stage_making rn hr.isOf localDir "daemons" Router.daemons
    (by simp [P, LabConfig.creation])).bind fun _ => ?_
  refine Action.Leads.bind (Q := fun _ (s : σ × CallLog) =>
      Making config P (config.creation suffix conf) s.2)
    (.map (.mapError (Making.leads_execText rn _ hdeeds (by simp [P, LabConfig.creation])))
      fun _ _ hs => hs) fun _ => ?_
  refine (leads_lookupId_making rn hr.isOf).bind fun id => .pure fun _ hs => ⟨?_, hs⟩
  exact ⟨⟨hr.isOf.host, hr.isOf.runtime, hr.isOf.name, hr.isOf.stagingDir⟩, hr.active,
    hr.asSpecified, hr.render⟩

/-- A router that could not be provisioned has been removed with nothing else. -/
theorem leads_provision_making (rn : Runner σ) (spec : RouterSpec) (localDir : String) :
    let begun := fun s : σ × CallLog => config.Does (·.Concerns config suffix) s.2
    Action.Leads (fun s => config.Does (fun _ => False) s.2)
      (provision (logged rn) (.ofConfig config.host) config.host config.router spec suffix localDir)
      (fun r s => ∃ conf, r.IsMade config suffix spec conf ∧
        Making config (· ∈ config.creation suffix conf) (config.creation suffix conf) s.2)
      begun begun := by
  intro begun
  have hbegun : ∀ conf (s : σ × CallLog),
      config.Does (· ∈ config.creation suffix conf) s.2 → begun s :=
    fun _ _ hs => hs.mono fun _ => concerns_of_mem_creation
  refine leads_provision_of (S := begun) (M := fun conf s =>
    Making config (· ∈ config.creation suffix conf)
      [.makeDirectory (config.routerOf suffix).stagingDir] s.2) (fun _ hs => hs.mono nofun)
    (fun conf _ => ?_) (fun conf hconf => ?_) ?_
  · exact (Making.leads_succeed rn (.ofConfig config.host) _ [] LabConfig.deeds_makeStaging
      (by simp [LabConfig.creation])).mono (fun _ hs => ⟨hs.mono nofun, nofun⟩) (fun _ _ hs => hs)
      (hbegun conf) (hbegun conf)
  · exact (leads_start_making rn ⟨isOf_unstarted _ _ _, rfl, rfl, hconf⟩ localDir).mono_post
      (fun _ _ hs => ⟨conf, hs⟩) (hbegun conf) (hbegun conf)
  · exact .of_keeps (.map _ (keeps_release fun i hi => LabConfig.keeps_does rn
      ((isOf_unstarted _ _ _).concerns_of_isRemoval hi)))

end ExternalRouter

/-! ## The lab -/

namespace Lab

/-- The peering of a lab is always the same object, however many labs there are. -/
theorem object_peeringOf (c : ClusterConfig) (spec : RouterSpec) (routers : List Ip) :
    (peeringOf c spec routers).resource.object = peeringObject c :=
  rfl

/-- The lab with that suffix was set up, with that configuration file for its router: its peering was
declared last. -/
structure Created (config : LabConfig) (suffix conf : String) (lab : Lab) (log : CallLog) : Prop where
  cluster : lab.cluster = config.cluster
  peering : lab.peering =
    peeringOf config.cluster (routerSpec config.router lab.topology lab.routers) lab.routers
  router : lab.router.IsMade config suffix (routerSpec config.router lab.topology lab.routers) conf
  declared : ∃ (before : CallLog) (reply : Reply),
    Making config (fun d => d ∈ config.creation suffix conf ∨
        d = .put (peeringObject config.cluster) lab.peering.manifest)
      (config.creation suffix conf) before ∧
    reply.status.success = true ∧
    log = before ++ callEvents (Cluster.application config.cluster lab.peering.resource)
      (some (.ok reply))

/-- What a setup does, it does to its router, or it declares its peering. -/
def Doing (config : LabConfig) (suffix : String) (manifest : Json) (d : Deed) : Prop :=
  d.Concerns config suffix ∨ d = .put (peeringObject config.cluster) manifest

/-- What a teardown does, it does to its router, or it deletes its peering. -/
def Undoing (config : LabConfig) (suffix : String) (d : Deed) : Prop :=
  d.Concerns config suffix ∨ d = .delete (peeringObject config.cluster)

theorem leads_declarePeering_making (rn : Runner σ) {r : ExternalRouter} {conf : String}
    (hr : r.IsOf config suffix) (c : FrrConfiguration)
    (hobject : c.resource.object = peeringObject config.cluster) :
    let P := fun d => d ∈ config.creation suffix conf ∨
      d = .put (peeringObject config.cluster) c.manifest
    let made := config.creation suffix conf
    let begun := fun s : σ × CallLog => config.Does (Doing config suffix c.manifest) s.2
    Action.Leads (fun s => Making config (· ∈ config.creation suffix conf) made s.2)
      (declarePeering (logged rn) config.cluster r c)
      (fun _ s => ∃ before reply, Making config P made before ∧ reply.status.success = true ∧
        s.2 = before ++ callEvents (Cluster.application config.cluster c.resource)
          (some (.ok reply)))
      begun begun := by
  intro P made begun
  have hbegun : ∀ s : σ × CallLog, Making config P made s.2 → begun s :=
    fun _ hs => hs.only.mono fun _ hd => hd.imp_left concerns_of_mem_creation
  have hdeclare := Cluster.leads_declare rn config.cluster c.resource (P := Making config P made)
    fun log answer hlog => hlog.call (by
      rw [LabConfig.deeds_application, hobject]
      simp [P]) answer
  have hremove : Action.Leads begun (remove (logged rn) r) (fun _ => begun) begun begun :=
    .of_keeps (keeps_remove fun i hi => LabConfig.keeps_does rn fun d hd =>
      .inl (hr.concerns_of_isRemoval hi d hd))
  exact leads_declarePeering_of (hdeclare.mono (fun _ hs => hs.mono fun _ => .inl)
    (fun _ _ hs => hs) hbegun hbegun) hremove

/-- A lab that was set up has made its router and declared its peering, and has done nothing else. One
that could not be set up has made and removed its router, and may have declared its peering. -/
theorem leads_setup_created (rn : Runner σ) (config : LabConfig) (enable : Bool)
    (suffix localDir : String) :
    let begun := fun s : σ × CallLog => ∃ manifest, config.Does (Doing config suffix manifest) s.2
    Action.Leads (fun s => config.Does (fun _ => False) s.2)
      (setup (logged rn) config enable suffix localDir)
      (fun lab s => ∃ conf, lab.Created config suffix conf s.2) begun begun := by
  intro begun
  have hidle : ∀ {i : Invocation}, config.deeds i = [] →
      Keeps (fun s => config.Does (fun _ => False) s.2) (logged rn i) := fun hi =>
    LabConfig.keeps_does rn (by simp [hi])
  refine (leads_setup_of (E := begun) (C := begun)
    (P := fun topology routers r s => ∃ conf,
      r.IsMade config suffix (routerSpec config.router topology routers) conf ∧
      Making config (· ∈ config.creation suffix conf) (config.creation suffix conf) s.2)
    (Q := fun topology routers r s => ∃ conf,
      r.IsMade config suffix (routerSpec config.router topology routers) conf ∧
      ∃ before reply, Making config (fun d => d ∈ config.creation suffix conf ∨
          d = .put (peeringObject config.cluster) (peeringOf config.cluster
            (routerSpec config.router topology routers) routers).manifest)
        (config.creation suffix conf) before ∧ reply.status.success = true ∧
      s.2 = before ++ callEvents (Cluster.application config.cluster (peeringOf config.cluster
        (routerSpec config.router topology routers) routers).resource) (some (.ok reply)))
    (fun _ => hidle (LabConfig.deeds_get _)) (fun _ => hidle (LabConfig.deeds_patch _))
    (fun _ hargs => hidle (LabConfig.deeds_asks hargs)) (fun _ hs => ⟨.null, hs.mono nofun⟩)
    (fun _ hs => ⟨.null, hs.mono nofun⟩) (fun topology routers => ?_) (fun topology routers r => ?_)
    enable).mono_value ?_
  · exact (ExternalRouter.leads_provision_making rn _ localDir).mono_failure
      (fun _ hs => ⟨.null, hs.mono fun _ => .inl⟩)
      fun _ hs => ⟨.null, hs.mono fun _ => .inl⟩
  · rintro limit now s ⟨conf, hr, hs⟩
    exact ((leads_declarePeering_making rn hr.isOf _ (object_peeringOf _ _ _)).mono_post
      (fun _ _ hs => ⟨conf, hr, hs⟩) (fun _ hs => ⟨_, hs⟩) fun _ hs => ⟨_, hs⟩)
      limit now s hs
  · rintro lab s ⟨⟨hcluster, hpeering⟩, conf, hr, hs⟩
    refine ⟨conf, hcluster, hpeering, hr, ?_⟩
    rw [hpeering]
    exact hs

/-- A run of the setup of the lab ends with this and leaves this on its log. -/
def SetsUp (config : LabConfig) (suffix : String) (value : Option (Except ScenarioError Lab))
    (log : CallLog) : Prop :=
  ∃ (σ : Type) (rn : Runner σ) (enable : Bool) (localDir : String) (limit : Option Millis)
    (now now' : Millis) (w w' : σ),
    (setup (logged rn) config enable suffix localDir).run.run limit now (w, []) =
      ⟨value, now', (w', log)⟩

section

variable {conf : String} {lab : Lab} {log : CallLog} {value : Option (Except ScenarioError Lab)}

theorem SetsUp.ends (h : SetsUp config suffix value log) :
    Action.Ends (fun lab log => ∃ conf, Created config suffix conf lab log)
      (fun log => ∃ manifest, config.Does (Doing config suffix manifest) log)
      (fun log => ∃ manifest, config.Does (Doing config suffix manifest) log) value log := by
  obtain ⟨σ, rn, enable, localDir, limit, now, now', w, w', hrun⟩ := h
  have hends := (leads_setup_created rn config enable suffix localDir).of_run (w := (w, [])) nofun hrun
  rcases value with _ | e | lab
  · exact hends
  · exact hends
  · exact hends

theorem SetsUp.created (h : SetsUp config suffix (some (.ok lab)) log) :
    ∃ conf, lab.Created config suffix conf log :=
  h.ends

theorem Created.making (h : lab.Created config suffix conf log) :
    Making config (fun d => d ∈ config.creation suffix conf ∨
        d = .put (peeringObject config.cluster) lab.peering.manifest)
      (config.creation suffix conf ++ [.put (peeringObject config.cluster) lab.peering.manifest])
      log := by
  obtain ⟨before, reply, hbefore, hsuccess, rfl⟩ := h.declared
  have hdeeds : config.deeds (Cluster.application config.cluster lab.peering.resource) =
      [.put (peeringObject config.cluster) lab.peering.manifest] := by
    rw [LabConfig.deeds_application, h.peering]
    rfl
  rw [← hdeeds]
  exact hbefore.success (hdeeds ▸ List.forall_mem_singleton.2 (.inr rfl)) hsuccess

theorem SetsUp.does (h : SetsUp config suffix value log) :
    ∃ manifest, config.Does (Doing config suffix manifest) log := by
  rcases value with _ | e | lab
  · exact h.ends
  · exact h.ends
  · obtain ⟨conf, hcreated⟩ := h.created
    exact ⟨_, hcreated.making.only.mono fun _ hd => hd.imp_left concerns_of_mem_creation⟩

end

/-- A teardown removes the router and deletes the peering, and does nothing else. -/
theorem keeps_teardown (rn : Runner σ) {lab : Lab} {conf : String} {log : CallLog}
    (h : lab.Created config suffix conf log) :
    Keeps (fun s => config.Does (Undoing config suffix) s.2) (lab.teardown (logged rn)).run := by
  have hdelete : Keeps (fun s => config.Does (Undoing config suffix) s.2)
      (Cluster.deleteResource (logged rn) lab.cluster lab.peering.resource).run := by
    rw [h.cluster]
    refine Cluster.keeps_delete (fun args => LabConfig.keeps_does rn ?_) (LabConfig.keeps_does rn ?_)
    · simp [LabConfig.deeds_get]
    · rw [LabConfig.deeds_deletion, h.peering]
      exact List.forall_mem_singleton.2 (.inr rfl)
  rw [run_teardown]
  exact hdelete.bind fun _ => (keeps_remove fun i hi => LabConfig.keeps_does rn fun d hd =>
    .inl (h.router.isOf.concerns_of_isRemoval hi d hd)).bind fun _ => .pure _

/-! ## A site that does what it is told -/

/-- A host and a cluster that execute every call. What they are asked besides is answered as by
`brokenCopies`. -/
def executing (config : LabConfig) : Runner (Unit × Site) := fun i => do
  Timed.act fun _ w => ((), (w.1, w.2.after (config.deeds i)))
  if i.program = "scp" then return .ok {}
  else if i.args.contains (ExternalRouter.listFormat "ID") then return .ok (printing "4f2c")
  else if i.args.contains Cluster.namesPath then
    Timed.look fun w => .ok <|
      if (w.2.objects (peeringObject config.cluster)).isSome then printing peeringName else {}
  else (brokenCopies i).beside Site

end Lab

end RouteWatch
