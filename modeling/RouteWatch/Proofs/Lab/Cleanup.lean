import RouteWatch.Proofs.Lab.Setup
import RouteWatch.Proofs.Router.Removal

/-!
# What becomes of the router of a lab

A lab that cannot be set up, and one that is torn down, leaves no router on its host. What matters of
a setup is only whether the staging directory has been made and whether the router has been removed
(`LabConfig.Unstaged`, `Staged`, `Removed`), and each part of the setup leads from one of these to
another.

* `leads_setup`: where the setup of a lab leads;
* `run_teardown`: the two attempts of a teardown;
* `lab_leaves_no_router`: no router is left, and no other one is removed.
-/

namespace RouteWatch

open CallLog Timed

variable {σ : Type} {rn : Runner σ}

/-! ## Setting up -/

/-- The first argument is a verb or names the credentials in a call to the cluster, and is an option of
`ssh` in a call to the host. -/
theorem Cluster.IsCall.head?_ne {c : ClusterConfig} {i : Invocation} (h : Cluster.IsCall c i) :
    i.args.head? ≠ some "-oControlMaster=auto" := by
  obtain ⟨verb, hverb, rest, input, rfl⟩ := h
  intro hfirst
  obtain ⟨oc, _ | file, _, _, _, _, _, _, _⟩ := c
  · have hverb : verb = "-oControlMaster=auto" := Option.some.inj hfirst
    subst hverb
    revert hverb
    decide
  · have hcredentials : "--kubeconfig" = "-oControlMaster=auto" := Option.some.inj hfirst
    revert hcredentials
    decide

/-- A call to the cluster is no call to the host, whatever the two programs are called. -/
theorem Cluster.IsCall.ne_invocation {c : ClusterConfig} {i : Invocation} (h : Cluster.IsCall c i)
    (config : HostConfig) (args : List String) :
    i ≠ (HostSession.ofConfig config).invocation args := by
  rintro rfl
  exact h.head?_ne rfl

namespace Lab

variable {config : LabConfig} {suffix : String}

theorem not_removes_of_isCall {i : Invocation} (h : Cluster.IsCall config.cluster i) :
    ¬ (HostSession.ofConfig config.host).Removes i := by
  intro hremoves
  obtain ⟨args, heq, -⟩ := hremoves.eq_invocation
  exact h.ne_invocation config.host args heq

theorem leads_remove (rn : Runner σ) {r : ExternalRouter} (hactive : r.active = true)
    (log : CallLog) :
    let removed := fun s : σ × CallLog => Adds log r.Removal s.2
    Action.Leads (fun s => s.2 = log) (remove (logged rn) r) (fun _ => removed) removed
      (fun s => Adds log (fun _ => True) s.2) := by
  intro removed
  have hdeprovision := (r.leads_deprovision rn hactive log).outcome ScenarioError removed
  refine Action.Leads.bind (hdeprovision.mono_failure (fun _ hs => hs)
    fun _ hs => hs.mono fun _ _ => trivial) fun result => ?_
  cases result with
  | ok r' => exact .pure fun s hs => hs.1 r' rfl
  | error e =>
    have hrelease : ∀ log₁, Adds log (fun calls => ∀ i ∈ calls, r.IsRemoval i) log₁ →
        Action.Leads (fun s => s.2 = log₁)
          (Action.time (ε := ScenarioError) (r.release (logged rn))) (fun _ => removed) removed
          (fun s => Adds log (fun _ => True) s.2) := by
      intro log₁ hlog₁
      refine Action.Leads.time ((r.leads_release rn hactive log₁).mono_post fun answer s hs => ?_)
      have hremoval : Adds log r.Removal s.2 := by
        refine hlog₁.trans hs ?_
        rintro calls _ hcalls rfl
        exact ExternalRouter.removal_concat hcalls
      exact ⟨fun _ _ => hremoval, fun _ => hremoval.mono fun _ _ => trivial⟩
    refine Action.Leads.bind (Action.Leads.mono (leads_log hrelease) (fun s hs => hs.2 e rfl)
      (fun _ _ hs => hs) (fun _ hs => hs) fun _ hs => hs) fun _ => .throw fun _ hs => hs

theorem keeps_remove {I : σ → Prop} {r : ExternalRouter}
    (h : ∀ i, r.IsRemoval i → Keeps I (rn i)) : Keeps I (remove rn r).run := by
  rw [remove, Action.run_outcome_bind]
  refine (ExternalRouter.keeps_deprovision h).bind fun result => ?_
  cases result with
  | ok r' => exact .pure _
  | error e => exact Keeps.bind_action (.map _ (ExternalRouter.keeps_release h)) fun _ => .pure _

/-- A peering that cannot be declared is followed by a removal of the router, and the failure is that of
the declaration. -/
theorem leads_declarePeering_of {c : ClusterConfig} {r : ExternalRouter} {peering : FrrConfiguration}
    {P S E C : σ → Prop} {Q : σ → Prop}
    (hdeclare : Action.Leads P (Cluster.declare rn c peering.resource) (fun _ => Q) S C)
    (hremove : Action.Leads S (remove rn r) (fun _ => E) E C) :
    Action.Leads P (declarePeering rn c r peering) (fun _ => Q) E C := by
  refine Action.Leads.bind (hdeclare.outcome ScenarioError E) fun result => ?_
  cases result with
  | ok => exact .pure fun w hw => hw.1 _ rfl
  | error e =>
    have hforgotten := (hremove.outcome ScenarioError E).map (f := fun _ => ()) (R := fun _ => E)
      fun result w hw => by
        cases result with
        | ok => exact hw.1 _ rfl
        | error e => exact hw.2 e rfl
    exact Action.Leads.bind (hforgotten.mono (fun w hw => hw.2 e rfl) (fun _ _ hw => hw)
      (fun _ hw => hw) fun _ hw => hw) fun _ => .throw fun _ hw => hw

/-- What every call keeps, a setup keeps. -/
theorem keeps_setup {I : σ → Prop} (h : ∀ i, Keeps I (rn i)) (config : LabConfig) (enable : Bool)
    (suffix localDir : String) : Keeps I (setup rn config enable suffix localDir).run := by
  have hprovision : ∀ spec, Action.Leads I
      (ExternalRouter.provision rn (.ofConfig config.host) config.host config.router spec suffix
        localDir) (fun _ => I) I I := fun spec =>
    ExternalRouter.leads_provision_of (S := I) (M := fun _ => I) (fun _ hw => hw)
      (fun _ _ => .of_keeps (HostSession.keeps_succeed (h _) _))
      (fun _ _ => (ExternalRouter.leads_start_of (fun i _ => h i) (h _) (fun _ _ => h _) _
        _).mono_value fun _ _ hw => hw.2)
      (.of_keeps (.map _ (ExternalRouter.keeps_release fun i _ => h i)))
  have hsetup := leads_setup_of (P := fun _ _ _ => I) (Q := fun _ _ _ => I) (fun _ => h _)
    (fun _ => h _) (fun _ _ => h _) (fun _ hw => hw) (fun _ hw => hw)
    (fun topology routers => hprovision (routerSpec config.router topology routers))
    (fun _ _ _ => leads_declarePeering_of (.of_keeps (Cluster.keeps_declare (h _)))
      (.of_keeps (keeps_remove fun i _ => h i))) enable
  exact (hsetup.mono_value fun _ _ hw => hw.2).keeps

theorem leads_declarePeering (rn : Runner σ) {r : ExternalRouter} (hr : r.IsOf config suffix)
    (hactive : r.active = true) (peering : FrrConfiguration) :
    let staged := fun s : σ × CallLog => config.Staged suffix s.2
    Action.Leads staged (declarePeering (logged rn) config.cluster r peering) (fun _ => staged)
      (fun s => config.Removed suffix s.2)
      (fun s => Succeeded (config.makeStaging suffix) s.2) := by
  intro staged
  have hdeclare : Action.Leads staged (Cluster.declare (logged rn) config.cluster peering.resource)
      (fun _ => staged) staged staged :=
    .of_keeps (Cluster.keeps_declare (LabConfig.keeps_staged
      (not_removes_of_isCall ⟨"apply", by decide, _, _, rfl⟩) rn))
  have hremove : Action.Leads staged (remove (logged rn) r)
      (fun _ s => config.Removed suffix s.2) (fun s => config.Removed suffix s.2)
      (fun s => Succeeded (config.makeStaging suffix) s.2) :=
    leads_log (P := config.Staged suffix) fun log hlog =>
      (leads_remove rn hactive log).mono_post (fun _ _ hs => hlog.removed hr hs)
        (fun _ hs => hlog.removed hr hs) fun _ hs => hlog.made.adds hs
  exact leads_declarePeering_of (hdeclare.mono_failure (fun _ hs => hs)
    fun _ hs => hs.made) hremove

/-- A lab that could not be set up leaves no router: nothing is there to be removed, or it has been
removed. -/
theorem leads_setup (rn : Runner σ) (config : LabConfig) (enable : Bool)
    (suffix localDir : String) :
    Action.Leads (fun s => config.Unstaged suffix s.2)
      (setup (logged rn) config enable suffix localDir)
      (fun lab s => (lab.router.IsOf config suffix ∧ lab.router.active = true) ∧
        config.Staged suffix s.2)
      (fun s => config.Unstaged suffix s.2 ∨ config.Removed suffix s.2)
      (fun s => config.Unstaged suffix s.2 ∨ Succeeded (config.makeStaging suffix) s.2) := by
  -- up to the router, all calls are to the cluster or only ask the host
  let unstaged := fun s : σ × CallLog => config.Unstaged suffix s.2
  have hcluster : ∀ i, Cluster.IsCall config.cluster i → Keeps unstaged (logged rn i) := fun i hi =>
    LabConfig.keeps_unstaged (not_removes_of_isCall hi) (hi.ne_invocation _ _) rn
  have hhost : ∀ args, HostSession.Asks args →
      Keeps unstaged (logged rn ((HostSession.ofConfig config.host).invocation args)) := by
    intro args hargs
    rw [HostSession.Asks] at hargs
    refine LabConfig.keeps_unstaged (HostSession.not_removes_invocation ?_) (fun heq => ?_) rn
    · intro hremoval
      generalize args.dropLast.getLast? = a at hargs hremoval
      revert a
      decide
    · rw [HostSession.invocation_inj.1 heq] at hargs
      revert hargs
      simp
  refine (leads_setup_of (I := unstaged)
    (P := fun _ _ router s => (router.IsOf config suffix ∧ router.active = true) ∧
      config.Staged suffix s.2)
    (Q := fun _ _ router s => (router.IsOf config suffix ∧ router.active = true) ∧
      config.Staged suffix s.2)
    (fun _ => hcluster _ ⟨"get", by decide, _, none, rfl⟩)
    (fun _ => hcluster _ ⟨"patch", by decide, _, none, rfl⟩) hhost (fun _ hs => .inl hs)
    (fun _ hs => .inl hs) (fun _ _ => ExternalRouter.leads_provision rn _ localDir)
    (fun _ _ router => .of_imp ?_) enable).mono_value fun _ _ hs => hs.2
  rintro ⟨hrouter, hactive⟩
  exact (leads_declarePeering rn hrouter hactive _).mono_post
    (fun _ _ hs => ⟨⟨hrouter, hactive⟩, hs⟩) (fun _ hs => .inr hs) fun _ hs => .inr hs

/-! ## Tearing down -/

/-- A teardown makes two attempts, the second one whatever becomes of the first. -/
theorem run_teardown (rn : Runner σ) (lab : Lab) :
    (lab.teardown rn).run =
      (Cluster.deleteResource rn lab.cluster lab.peering.resource).run >>= fun deleted =>
        (remove rn lab.router).run >>= fun removed =>
          pure (deleted.mapError (.lab <| .cluster ·) >>= fun _ => removed) := by
  rw [teardown, Action.run_outcome_bind, onCluster, Action.mapError, ExceptT.run_mk,
    map_eq_pure_bind, bind_assoc]
  congr 1
  funext deleted
  rw [pure_bind, Action.run_outcome_bind]
  congr 1
  funext removed
  cases deleted <;> rfl

theorem run_teardown_eq {lab : Lab} {limit : Option Millis} {now now' : Millis} {w w' : σ}
    {result : Except ScenarioError Unit}
    (h : (lab.teardown rn).run.run limit now w = ⟨some result, now', w'⟩) :
    ∃ deleted now₁ w₁ removed,
      (Cluster.deleteResource rn lab.cluster lab.peering.resource).run.run limit now w =
        ⟨some deleted, now₁, w₁⟩ ∧
      (remove rn lab.router).run.run limit now₁ w₁ = ⟨some removed, now', w'⟩ ∧
      (∀ e, deleted = .error e → result = .error (.lab (.cluster e))) ∧
      (deleted = .ok () → result = removed) := by
  rw [run_teardown, Timed.run_bind] at h
  rcases hdelete : (Cluster.deleteResource rn lab.cluster lab.peering.resource).run.run limit now w
    with ⟨_ | deleted, now₁, w₁⟩
  · simp [hdelete] at h
  simp only [hdelete, Timed.run_bind] at h
  rcases hremove : (remove rn lab.router).run.run limit now₁ w₁ with ⟨_ | removed, now₂, w₂⟩
  · simp [hremove] at h
  simp only [hremove, Timed.run_pure] at h
  cases h
  refine ⟨deleted, now₁, w₁, removed, rfl, hremove, ?_, ?_⟩
  · rintro e rfl
    rfl
  · rintro rfl
    rfl

theorem returns_teardown (hreturns : ∀ i, Returns (rn i)) (lab : Lab) :
    Returns (lab.teardown rn).run := by
  have hremove : Returns (remove rn lab.router).run := by
    rw [remove, Action.run_outcome_bind]
    refine (ExternalRouter.returns_deprovision hreturns lab.router).bind fun result => ?_
    cases result with
    | ok r => exact .pure _
    | error e =>
      exact Returns.bind_action ((ExternalRouter.returns_release hreturns lab.router).map _)
        fun _ => .pure _
  rw [run_teardown]
  exact (Cluster.returns_delete hreturns _ _ _ _).bind fun _ => hremove.bind fun _ => .pure _

/-- A lab leaves no router behind. If it could not be set up, the router has been removed after all
that was done to start it, provided that its directory was made, and otherwise nothing is removed. A
teardown attempts to delete the configuration of the peering and to remove the router, and its result
is the first failure. A router that was removed is left alone. -/
theorem lab_leaves_no_router (rn : Runner σ) (limit : Option Millis) (now : Millis) (w : σ) :
    (∀ (config : LabConfig) enable suffix localDir value now' s,
      (setup (logged rn) config enable suffix localDir).run.run limit now (w, []) =
          ⟨value, now', s⟩ →
        (¬ Succeeded (config.makeStaging suffix) s.2 →
          ∀ i ∈ issued s.2, ¬ (HostSession.ofConfig config.host).Removes i) ∧
        (∀ e, value = some (.error e) → Succeeded (config.makeStaging suffix) s.2 →
          ∃ (r : ExternalRouter) (before removal : List Invocation), r.IsOf config suffix ∧
            issued s.2 = before ++ removal ∧ r.Removal removal ∧
            (∀ i ∈ before, ¬ (HostSession.ofConfig config.host).Removes i) ∧
            ∀ i ∈ removal, ¬ r.SetsUp i) ∧
        (∀ lab, value = some (.ok lab) →
          lab.router.IsOf config suffix ∧ lab.router.active = true)) ∧
    (∀ lab : Lab, lab.router.active = true →
      ((∀ i, Returns (rn i)) → Returns (lab.teardown (logged rn)).run) ∧
      ∀ result now' s,
        (lab.teardown (logged rn)).run.run limit now (w, []) = ⟨some result, now', s⟩ →
          ∃ (deletion removal : CallLog) (deleted : Except ClusterError Unit) (now₁ : Millis)
            (s₁ : σ × CallLog) (removed : Except ScenarioError Unit),
            s.2 = deletion ++ removal ∧
            Cluster.Deletes lab.cluster lab.peering.resource.kind lab.peering.resource.space
              lab.peering.resource.name deletion ∧
            lab.router.Removal (issued removal) ∧
            (Cluster.deleteResource (logged rn) lab.cluster lab.peering.resource).run.run limit now
              (w, []) = ⟨some deleted, now₁, s₁⟩ ∧
            (remove (logged rn) lab.router).run.run limit now₁ s₁ = ⟨some removed, now', s⟩ ∧
            (∀ e, deleted = .error e → result = .error (.lab (.cluster e))) ∧
            (deleted = .ok () → result = removed)) ∧
    ∀ (r r' : ExternalRouter) now' w',
      (r.deprovision rn).run.run limit now w = ⟨some (.ok r'), now', w'⟩ →
        ∀ {τ : Type} (rn' : Runner τ), r'.deprovision rn' = pure r' ∧ r'.release rn' = pure () := by
  refine ⟨?_, ?_, ?_⟩
  · intro config enable suffix localDir value now' s hrun
    have hnone : config.Unstaged suffix [] := ⟨nofun, fun ⟨_, hmem, _⟩ => nomatch hmem⟩
    have hends := (leads_setup rn config enable suffix localDir).of_run hnone hrun
    have hstate : config.Unstaged suffix s.2 ∨ Succeeded (config.makeStaging suffix) s.2 := by
      rcases value with _ | _ | lab
      · exact hends
      · exact hends.imp_right LabConfig.Removed.made
      · exact .inr hends.2.made
    refine ⟨fun hunmade i hi => ?_, ?_, ?_⟩
    · rcases hstate with hunstaged | hmade
      · exact hunstaged.only.of_mem_issued hi
      · exact absurd hmade hunmade
    · rintro e rfl hmade
      rcases hends with hunstaged | hremoved
      · exact absurd hmade hunstaged.unmade
      · obtain ⟨-, r, before, removal, hr, hissued, hbefore, hremoval⟩ := hremoved
        exact ⟨r, before, removal, hr, hissued, hremoval, hbefore, fun i hi => hremoval.not_setsUp hi⟩
    · rintro lab rfl
      exact hends.1
  · intro lab hactive
    refine ⟨fun hreturns => returns_teardown (fun i => returns_logged (hreturns i)) lab, ?_⟩
    intro result now' s hrun
    obtain ⟨deleted, now₁, s₁, removed, hdelete, hremove, hfirst, hsecond⟩ := run_teardown_eq hrun
    obtain ⟨deletion, hs₁, hdeletes⟩ : ∃ t, s₁.2 = [] ++ t ∧ Cluster.Deletes lab.cluster
        lab.peering.resource.kind lab.peering.resource.space lab.peering.resource.name t := by
      have hends := (Cluster.leads_delete rn lab.cluster _ _ _ []).of_run rfl hdelete
      cases deleted <;> exact hends
    obtain ⟨removal, hs, hremoval⟩ : Adds s₁.2 lab.router.Removal s.2 := by
      have hends := (leads_remove rn hactive s₁.2).of_run rfl hremove
      cases removed <;> exact hends
    rw [List.nil_append] at hs₁
    exact ⟨deletion, removal, deleted, now₁, s₁, removed, hs₁ ▸ hs, hdeletes, hremoval, hdelete,
      hremove, hfirst, hsecond⟩
  · intro r r' now' w' hrun τ rn'
    have hinactive : r'.active = false := (r.active_of_deprovision rn).of_run trivial hrun
    exact ⟨r'.deprovision_of_inactive rn' hinactive, r'.release_of_inactive rn' hinactive⟩

/-! ## A host to which nothing can be copied -/

/-- What a program prints that ends well. -/
def printing (text : String) : Reply :=
  { stdout := text.toList.map fun c => UInt8.ofNat c.toNat }

/-- A cluster of one node that advertises routes, and a host to which no file can be copied. -/
def brokenCopies : Runner Unit := fun i =>
  let asked (arg : String) := i.args.contains arg
  pure <| .ok <|
    if i.program = "scp" then { status := .exited 1 }
    else if asked s!"-ojsonpath={Cluster.providersPath}" then printing "FRR"
    else if asked s!"-ojsonpath={Cluster.advertisementsPath}" then printing "Enabled"
    else if asked s!"-ojsonpath={Cluster.networksPath}" then printing "172.30.0.0/16"
    else if asked Cluster.readinessPath then printing "True"
    else if asked "-ojson" then
      printing <| "\x7b\"items\":[\x7b\"metadata\":\x7b\"name\":\"n\"\x7d,\"status\":" ++
        "\x7b\"addresses\":[\x7b\"type\":\"InternalIP\",\"address\":\"192.0.2.11\"\x7d]\x7d\x7d]\x7d"
    else if asked HostSession.probe then printing HostSession.probe
    else if asked "route" then printing "[\x7b\"prefsrc\":\"192.0.2.1\"\x7d]"
    else {}

theorem lab_leaves_no_router_of_brokenCopies :
    let s := ((setup (logged brokenCopies) {} false "ab" "/tmp").run.run none 0 ((), [])).world
    ∃ (r : ExternalRouter) (before removal : List Invocation),
      r.name = "frr-ab" ∧ r.stagingDir = "/tmp/bgp-test-frr-ab" ∧
        issued s.2 = before ++ removal ∧ r.Removal removal := by
  intro s
  have hfailed : ((setup (logged brokenCopies) {} false "ab" "/tmp").run.run none 0
        ((), [])).value?.map Except.isOk = some false ∧
      Succeeded (LabConfig.makeStaging {} "ab") s.2 := by
    decide +kernel
  rcases hrun : (setup (logged brokenCopies) {} false "ab" "/tmp").run.run none 0 ((), [])
    with ⟨_ | e | lab, now', s'⟩
  · simp [hrun] at hfailed
  · obtain ⟨hsetup, -, -⟩ := lab_leaves_no_router brokenCopies none 0 ()
    obtain ⟨-, hremoved, -⟩ := hsetup {} false "ab" "/tmp" _ _ _ hrun
    have hs : s = s' := congrArg Ending.world hrun
    obtain ⟨r, before, removal, hr, hissued, hremoval, -⟩ := hremoved e rfl (hs ▸ hfailed.2)
    exact ⟨r, before, removal, hr.name, hr.stagingDir, hs ▸ hissued, hremoval⟩
  · simp [hrun, Except.isOk, Except.toBool] at hfailed

end Lab

end RouteWatch
