import RouteWatch.Lab
import RouteWatch.Proofs.Cluster.Calls
import RouteWatch.Proofs.Host.Session

/-!
# How a lab is set up

Setting up has about ten points of failure, but only two parts of it do more than ask the cluster and
the host: the router is provisioned, and its peering is declared. Where a setup leads is therefore
told by what the questions keep and where these two parts lead.

* `Lab.leads_setup_through`: where the setup of a lab leads.
-/

namespace RouteWatch

open Timed

variable {σ : Type} {I : σ → Prop} {rn : Runner σ}

/-! ## What is asked before the router is started -/

namespace HostSession

/-- The command only asks for something. -/
def Asks (args : List String) : Prop :=
  args.dropLast.getLast? ∈ [some "echo", some "--format", some "get"]

variable {host : HostSession}

theorem keeps_runningRouters (h : ∀ args, args.dropLast.getLast? = some "--format" →
    Keeps I (rn (host.invocation args))) (config : RouterConfig) :
    Keeps I (host.runningRouters rn config).run := by
  refine Keeps.bind_action (.map _ (keeps_execText (h _ ?_))) fun _ => .pure _
  split <;> simp

/-- The command that asks for the address of the host towards the node. -/
def sourceArgs (node : Ip) : List String :=
  ["ip", "-j"] ++ (match node.family with
    | .v4 => []
    | .v6 => ["-6"]) ++ ["route", "get", node.text]

theorem getLast?_sourceArgs (node : Ip) :
    (sourceArgs node).dropLast.getLast? = some "get" ∧
      (sourceArgs node).getLast? = some node.text := by
  rw [sourceArgs]
  cases node <;> simp [Ip.family]

theorem keeps_sourceTowards {node : Ip} (h : Keeps I (rn (host.invocation (sourceArgs node)))) :
    Keeps I (host.sourceTowards rn node).run :=
  Keeps.bind_action (.map _ (keeps_execText h)) fun _ => Keeps.bind_action (.pure _) fun _ => .pure _

end HostSession

theorem Lab.keeps_routerAddress {host : HostSession}
    (h : ∀ args, HostSession.Asks args → Keeps I (rn (host.invocation args)))
    (topology : Topology) (family : Family) :
    Keeps I (routerAddress rn host topology family).run :=
  Keeps.bind_action (.pure _) fun node => .map _ <| HostSession.keeps_sourceTowards <|
    h _ (by simp [HostSession.Asks, HostSession.getLast?_sourceArgs node])

theorem Lab.keeps_ensureAdvertisements {c : ClusterConfig}
    (hget : ∀ args, Keeps I (rn (Cluster.invocation c ("get" :: args))))
    (hpatch : ∀ args, Keeps I (rn (Cluster.invocation c ("patch" :: args)))) (enable : Bool) :
    Keeps I (ensureAdvertisements rn c enable).run := by
  refine Keeps.bind_action (.map _ (Cluster.keeps_advertisesRoutes hget)) fun advertises => ?_
  split
  · exact .pure _
  split
  · refine Keeps.bind_action (.map _ (Cluster.keeps_enableAdvertisements hpatch)) fun _ =>
      Keeps.bind_action (.map _ (Cluster.keeps_awaitOperator hget _)) fun _ =>
      Keeps.bind_action (.map _ (Cluster.keeps_advertisesRoutes hget)) fun advertises => ?_
    split
    · exact .pure _
    · exact .pure _
  · exact .pure _

/-- What a lab holds follows from the configuration, the topology and the addresses of the router. -/
structure Lab.Follows (config : LabConfig) (lab : Lab) : Prop where
  cluster : lab.cluster = config.cluster
  peering : lab.peering =
    peeringOf config.cluster (routerSpec config.router lab.topology lab.routers) lab.routers
  statics : lab.statics =
    lab.topology.families.flatMap (routerSpec config.router lab.topology lab.routers).staticsOf

/-- A lab is set up by asking for the topology of the cluster and for the addresses of the host,
provisioning the router and declaring the peering. Nothing is done after that. -/
theorem Lab.leads_setup_through {config : LabConfig} {suffix localDir : String} {E C : σ → Prop}
    {R : Topology → List Ip → σ → Prop} {P Q : Topology → List Ip → ExternalRouter → σ → Prop}
    (hget : ∀ args, Keeps I (rn (Cluster.invocation config.cluster ("get" :: args))))
    (hpatch : ∀ args, Keeps I (rn (Cluster.invocation config.cluster ("patch" :: args))))
    (hecho : Keeps I (rn ((HostSession.ofConfig config.host).invocation
      ["echo", HostSession.probe])))
    (hlist : ∀ args, args.dropLast.getLast? = some "--format" →
      Keeps I (rn ((HostSession.ofConfig config.host).invocation args)))
    (hE : ∀ w, I w → E w) (hC : ∀ w, I w → C w)
    (hroutes : ∀ topology : Topology, Action.Leads I
      (topology.families.mapM (routerAddress rn (.ofConfig config.host) topology)) (R topology) E C)
    (hprovision : ∀ topology routers, Action.Leads (R topology routers)
      (ExternalRouter.provision rn (.ofConfig config.host) config.host config.router
        (routerSpec config.router topology routers) suffix localDir) (P topology routers) E C)
    (hdeclare : ∀ topology routers router, Action.Leads (P topology routers router)
      (declarePeering rn config.cluster router
        (peeringOf config.cluster (routerSpec config.router topology routers) routers))
      (fun _ => Q topology routers router) E C) (enable : Bool) :
    Action.Leads I (setup rn config enable suffix localDir)
      (fun lab w => lab.Follows config ∧ Q lab.topology lab.routers lab.router w) E C := by
  have hasked : ∀ {τ : Type} {x : Action σ ScenarioError τ}, Keeps I x.run →
      Action.Leads I x (fun _ => I) E C := fun hx =>
    (Action.Leads.of_keeps hx).mono_failure hE hC
  refine (hasked (keeps_ensureAdvertisements hget hpatch enable)).bind fun _ =>
    (hasked (.map _ (Cluster.keeps_awaitFrr hget))).bind fun _ =>
    (hasked (.map _ (Cluster.keeps_topology hget))).bind fun topology => ?_
  have hconnect := (HostSession.leads_connect config.host hecho).mapError
    (f := fun e => ScenarioError.lab (.host e))
  refine Action.Leads.bind (hconnect.mono_failure hE hC) fun host => .of_imp ?_
  rintro rfl
  refine (hasked (.map_action _ (.map _ (HostSession.keeps_runningRouters hlist _)))).bind fun _ =>
    (hroutes topology).bind fun routers => ?_
  refine Action.Leads.bind (hprovision topology routers).mapError fun router =>
    (hdeclare topology routers router).bind fun _ => .pure fun _ hw => ?_
  exact ⟨⟨rfl, rfl, rfl⟩, hw⟩

/-- The case in which all that is asked keeps the same. -/
theorem Lab.leads_setup_of {config : LabConfig} {suffix localDir : String} {E C : σ → Prop}
    {P Q : Topology → List Ip → ExternalRouter → σ → Prop}
    (hget : ∀ args, Keeps I (rn (Cluster.invocation config.cluster ("get" :: args))))
    (hpatch : ∀ args, Keeps I (rn (Cluster.invocation config.cluster ("patch" :: args))))
    (hhost : ∀ args, HostSession.Asks args →
      Keeps I (rn ((HostSession.ofConfig config.host).invocation args)))
    (hE : ∀ w, I w → E w) (hC : ∀ w, I w → C w)
    (hprovision : ∀ topology routers, Action.Leads I
      (ExternalRouter.provision rn (.ofConfig config.host) config.host config.router
        (routerSpec config.router topology routers) suffix localDir) (P topology routers) E C)
    (hdeclare : ∀ topology routers router, Action.Leads (P topology routers router)
      (declarePeering rn config.cluster router
        (peeringOf config.cluster (routerSpec config.router topology routers) routers))
      (fun _ => Q topology routers router) E C) (enable : Bool) :
    Action.Leads I (setup rn config enable suffix localDir)
      (fun lab w => (lab.cluster = config.cluster ∧
          lab.peering = peeringOf config.cluster
            (routerSpec config.router lab.topology lab.routers) lab.routers) ∧
        Q lab.topology lab.routers lab.router w) E C := by
  refine (leads_setup_through (R := fun _ _ => I) hget hpatch
    (hhost _ (by simp [HostSession.Asks]))
    (fun args hargs => hhost args (by simp [HostSession.Asks, hargs]))
    hE hC (fun topology => ?_) hprovision hdeclare enable).mono_value fun lab w hw =>
    ⟨⟨hw.1.cluster, hw.1.peering⟩, hw.2⟩
  exact (Action.Leads.of_keeps (.mapM_action (keeps_routerAddress hhost topology) _)).mono_failure
    hE hC

end RouteWatch
