import RouteWatch.Proofs.Ip.RoundTrip
import RouteWatch.Proofs.Lab.Sessions
import RouteWatch.Proofs.Mesh

/-!
# The addresses of the router

To set up a lab, the host is asked for its address towards the first node, once for each family of the
cluster, and what it answers are the addresses of the router. Nobody looks at the family of an answer.
The static networks of a family are looked for by way of the router's address in it, and if there is
none, they are not looked for at all.

* `leads_setup_answered`: the questions of a setup and their answers;
* `verifiesStatics_iff`: whether the static networks of a family are looked for;
* `verifiesFamilies_iff`: all families are verified if and only if each answer has the family that was
  asked for.
-/

namespace RouteWatch

open CallLog Timed

variable {σ : Type}

/-! ## What the host answers -/

namespace HostSession

variable {host : HostSession} {node : Ip} {i : Invocation}

/-- The address in the reply to a question for one. -/
def sourceOfReply? (reply : Reply) : Option Ip :=
  if reply.status.success then ((Text.Utf8.decode reply.stdout).toOption.bind sourceOfJson).join
  else none

/-- The node that the call asks for an address towards, if it asks for one. -/
def asked? (host : HostSession) (i : Invocation) : Option Ip :=
  (i.args.getLast?.bind Ip.parse?).filter fun node => i = host.invocation (sourceArgs node)

/-- The node that was asked about and the address that the host gave, if that is what happened. -/
def given? (host : HostSession) : CallEvent → Option (Ip × Ip)
  | .answered i (.ok reply) => do return (← host.asked? i, ← sourceOfReply? reply)
  | _ => none

/-- All addresses that the host gave, each with the node that was asked about. -/
def given (host : HostSession) (log : CallLog) : List (Ip × Ip) :=
  log.filterMap host.given?

theorem asked?_eq_some_iff :
    host.asked? i = some node ↔ i = host.invocation (sourceArgs node) := by
  rw [asked?, Option.filter_eq_some_iff, decide_eq_true_eq]
  constructor
  · exact fun h => h.2
  · rintro rfl
    refine ⟨?_, rfl⟩
    rw [invocation, List.getLast?_append, List.getLast?_cons, (getLast?_sourceArgs node).2]
    exact Ip.parse?_text node

theorem given?_of_ne {e : CallEvent}
    (h : ∀ node, e.invocation ≠ host.invocation (sourceArgs node)) : host.given? e = none := by
  cases e with
  | sent i => rfl
  | answered i answer =>
    have hunasked : host.asked? i = none :=
      Option.eq_none_iff_forall_ne_some.2 fun node hnode => h node (asked?_eq_some_iff.1 hnode)
    cases answer with
    | error fault => rfl
    | ok reply => simp [given?, hunasked]

theorem given_call {log : CallLog} {reply : Reply} {source : Ip}
    (h : sourceOfReply? reply = some source) :
    host.given (log ++ callEvents (host.invocation (sourceArgs node)) (some (.ok reply))) =
      host.given log ++ [(node, source)] := by
  have hasked : host.asked? (host.invocation (sourceArgs node)) = some node :=
    asked?_eq_some_iff.2 rfl
  have hsent : host.given? (.sent (host.invocation (sourceArgs node))) = none := rfl
  have hanswered : host.given? (.answered (host.invocation (sourceArgs node)) (.ok reply)) =
      some (node, source) := by
    simp only [given?, hasked, h]
    rfl
  simp [given, callEvents, hsent, hanswered]

/-- The call does not ask for an address. -/
theorem keeps_given {p : List (Ip × Ip) → Prop} (rn : Runner σ)
    (h : ∀ node, i ≠ host.invocation (sourceArgs node)) :
    Keeps (fun s => p (host.given s.2)) (logged rn i) := by
  intro limit now s hs
  rw [leads_logged rn i s.2 limit now s rfl]
  have hnone : (callEvents i ((logged rn i).run limit now s).value?).filterMap host.given? = [] := by
    rw [List.filterMap_eq_nil_iff]
    intro e he
    exact given?_of_ne (invocation_of_mem_callEvents he ▸ h)
  rwa [given, List.filterMap_append, hnone, List.append_nil]

/-- The last argument but one tells what does not. -/
theorem keeps_given_invocation {p : List (Ip × Ip) → Prop} (rn : Runner σ) {args : List String}
    (h : args.dropLast.getLast? ≠ some "get") :
    Keeps (fun s => p (host.given s.2)) (logged rn (host.invocation args)) := by
  refine keeps_given rn fun node heq => h ?_
  rw [invocation_inj.1 heq, (getLast?_sourceArgs node).1]

theorem leads_sourceTowards (rn : Runner σ) (host : HostSession) (node : Ip)
    (before : List (Ip × Ip)) :
    Action.Leads (fun s => host.given s.2 = before) (host.sourceTowards (logged rn) node)
      (fun source s => host.given s.2 = before ++ [(node, source)]) (fun _ => True)
      fun _ => True := by
  refine leads_log (P := fun log => host.given log = before) fun log hlog => ?_
  refine Action.Leads.bind (.mapError (leads_execText rn host (sourceArgs node) log)) fun text => ?_
  refine Action.Leads.bind (Q := fun source s => ∃ reply, reply.status.success = true ∧
      Text.Utf8.decode reply.stdout = .ok text ∧ sourceOfJson text = some source ∧
      s.2 = log ++ callEvents (host.invocation (sourceArgs node)) (some (.ok reply)))
    (.ofOption (fun source s hsource hs => ?_) fun _ _ _ => trivial) fun source =>
    .ofOption (fun a s ha hs => ?_) fun _ _ _ => trivial
  · obtain ⟨reply, hsuccess, hdecode, hs⟩ := hs
    exact ⟨reply, hsuccess, hdecode, hsource, hs⟩
  · obtain ⟨reply, hsuccess, hdecode, hsource, hs⟩ := hs
    subst ha
    have hreply : sourceOfReply? reply = some a := by
      simp [sourceOfReply?, hsuccess, hdecode, hsource, Except.toOption]
    rw [hs, given_call hreply, hlog]

end HostSession

/-! ## The questions of a setup -/

namespace Lab

variable {config : LabConfig} {suffix : String}

/-- The host was asked for its address towards the first node, in each family of the cluster in order,
and these are the addresses of the router. -/
structure Answered (topology : Topology) (routers : List Ip) (asked : List (Ip × Ip)) : Prop where
  nodes : asked.map (some ·.1) =
    topology.families.map (topology.nodes.head topology.nonempty).address?
  routers : asked.map Prod.snd = routers

theorem leads_routerAddress (rn : Runner σ) (host : HostSession) (topology : Topology)
    (family : Family) (before : List (Ip × Ip)) :
    Action.Leads (fun s => host.given s.2 = before)
      (routerAddress (logged rn) host topology family)
      (fun router s => ∃ node, (topology.nodes.head topology.nonempty).address? family = some node ∧
        host.given s.2 = before ++ [(node, router)]) (fun _ => True) fun _ => True := by
  refine Action.Leads.bind (Q := fun node s =>
    (topology.nodes.head topology.nonempty).address? family = some node ∧ host.given s.2 = before)
    (.ofOption (fun _ _ hnode hs => ⟨hnode, hs⟩) fun _ _ _ => trivial) fun node =>
    .of_imp fun hnode => ?_
  exact Action.Leads.mapError ((host.leads_sourceTowards rn node before).mono_value
    fun _ _ hs => ⟨node, hnode, hs⟩)

theorem leads_routerAddresses (rn : Runner σ) (host : HostSession) (topology : Topology)
    (families : List Family) (before : List (Ip × Ip)) :
    Action.Leads (fun s => host.given s.2 = before)
      (families.mapM (routerAddress (logged rn) host topology))
      (fun routers s => ∃ asked, host.given s.2 = before ++ asked ∧
        asked.map (some ·.1) = families.map (topology.nodes.head topology.nonempty).address? ∧
        asked.map Prod.snd = routers) (fun _ => True) fun _ => True := by
  induction families generalizing before with
  | nil =>
    rw [List.mapM_nil]
    exact .pure fun s hs => ⟨[], by simpa using hs, rfl, rfl⟩
  | cons family families ih =>
    rw [List.mapM_cons]
    refine (leads_routerAddress rn host topology family before).bind fun router => ?_
    rintro limit now s ⟨node, hnode, hs⟩
    refine ((ih (before ++ [(node, router)])).bind fun routers => .pure fun s hs => ?_) limit now s hs
    obtain ⟨asked, hgiven, hnodes, rfl⟩ := hs
    exact ⟨(node, router) :: asked, by simpa using hgiven, by simp [hnode, hnodes], rfl⟩

/-- Nothing of the kind is asked to provision the router. -/
theorem leads_provision_given {p : List (Ip × Ip) → Prop} (rn : Runner σ) (spec : RouterSpec)
    (localDir : String) :
    let kept := fun s : σ × CallLog => p ((HostSession.ofConfig config.host).given s.2)
    Action.Leads kept (ExternalRouter.provision (logged rn) (.ofConfig config.host) config.host
      config.router spec suffix localDir) (fun _ => kept) (fun _ => True) fun _ => True := by
  intro kept
  let r := ExternalRouter.unstarted (.ofConfig config.host) config.host config.router spec suffix
  have hstart : ∀ conf, Action.Leads kept (r.start (logged rn) config.router.image localDir conf)
      (fun _ => kept) (fun _ => True) fun _ => True := by
    intro conf
    obtain ⟨volume, hvolume, hlength⟩ := r.startContainer_volume config.router.image
    refine (ExternalRouter.leads_start_of (I := kept) (fun i hi => ?_)
      (HostSession.keeps_given_invocation rn fun hget => ?_)
      (fun args hargs => HostSession.keeps_given_invocation rn (by simp [hargs]))
      localDir conf).value_only fun _ _ hs => hs.2
    · refine HostSession.keeps_given rn fun node heq => ?_
      have hprogram : "ssh" = "scp" := by rwa [heq] at hi
      exact absurd hprogram (by decide)
    · obtain rfl : volume = "get" := Option.some.inj (hvolume.symm.trans hget)
      revert hlength
      decide
  refine ExternalRouter.leads_provision_of (P := kept) (M := fun _ => kept) (S := fun _ => True)
    (fun _ _ => trivial) (fun conf _ => ?_) (fun conf _ => hstart conf) (.anywhere _ _)
  exact (Action.Leads.of_keeps (I := kept) (HostSession.keeps_succeed
    (HostSession.keeps_given_invocation rn (by simp)) _)).value_only fun _ _ hs => hs

theorem leads_setup_answered (rn : Runner σ) (config : LabConfig) (enable : Bool)
    (suffix localDir : String) :
    let host := HostSession.ofConfig config.host
    Action.Leads (fun s => host.given s.2 = []) (setup (logged rn) config enable suffix localDir)
      (fun lab s => lab.Follows config ∧ Answered lab.topology lab.routers (host.given s.2))
      (fun _ => True) fun _ => True := by
  intro host
  have hcluster : ∀ {p : List (Ip × Ip) → Prop} {i}, Cluster.IsCall config.cluster i →
      Keeps (fun s => p (host.given s.2)) (logged rn i) := fun hi =>
    HostSession.keeps_given rn fun _ => hi.ne_invocation _ _
  let answered := fun topology routers (s : σ × CallLog) =>
    Answered topology routers (host.given s.2)
  refine leads_setup_through (R := answered) (P := fun topology routers _ => answered topology routers)
    (Q := fun topology routers _ => answered topology routers)
    (fun _ => hcluster (p := (· = [])) ⟨"get", by decide, _, none, rfl⟩)
    (fun _ => hcluster (p := (· = [])) ⟨"patch", by decide, _, none, rfl⟩)
    (HostSession.keeps_given_invocation (p := (· = [])) rn (by simp))
    (fun args hargs => HostSession.keeps_given_invocation (p := (· = [])) rn (by simp [hargs]))
    (fun _ _ => trivial) (fun _ _ => trivial) (fun topology => ?_)
    (fun topology routers => leads_provision_given (p := Answered topology routers) rn _ localDir)
    (fun topology routers r => ?_) enable
  · refine (leads_routerAddresses rn host topology topology.families []).mono_value
      fun routers s hs => ?_
    obtain ⟨asked, hgiven, hnodes, hrouters⟩ := hs
    have hasked : host.given s.2 = asked := hgiven
    exact ⟨hasked ▸ hnodes, hasked ▸ hrouters⟩
  · refine leads_declarePeering_of (S := fun _ => True) ?_ (.anywhere _ _)
    exact (Action.Leads.of_keeps (I := answered topology routers)
      (Cluster.keeps_declare (hcluster ⟨"apply", by decide, _, _, rfl⟩))).value_only
      fun _ _ hs => hs

theorem SetsUp.answered {lab : Lab} {log : CallLog}
    (h : SetsUp config suffix (some (.ok lab)) log) :
    lab.Follows config ∧
      Answered lab.topology lab.routers ((HostSession.ofConfig config.host).given log) := by
  obtain ⟨σ, rn, enable, localDir, limit, now, now', w, w', hrun⟩ := h
  exact (leads_setup_answered rn config enable suffix localDir).of_run (w := (w, [])) rfl hrun

/-! ## What is looked for -/

/-- The static networks of the family are looked for at every node, in both views, by way of an address
of the router in the family. -/
def VerifiesStatics (lab : Lab) (family : Family) : Prop :=
  ∀ network, ∀ node ∈ lab.topology.nodes, ∀ net ∈ lab.statics, net.family = family →
    ∃ router ∈ lab.routers, router.family = family ∧ ∀ view : View,
      (Mesh.full lab.topology network lab.statics lab.routers).Expects (.node node.name)
        (view.query family) ⟨.route view net router, true⟩

/-- All families of the cluster are verified: the router has one address in each of them, in order, and
their static networks are looked for, of which there are some. -/
structure VerifiesFamilies (lab : Lab) : Prop where
  addresses : lab.routers.map Ip.family = lab.topology.families
  statics : ∀ family ∈ lab.topology.families, lab.VerifiesStatics family
  nonempty : ∀ family ∈ lab.topology.families, ∃ net ∈ lab.statics, net.family = family

variable {topology : Topology} {routers : List Ip} {family : Family} {lab : Lab}

/-- A router that can be configured has static networks of every family of its peers. -/
theorem exists_static {conf : String}
    (hrender : (routerSpec config.router topology routers).render = .ok conf)
    (h : family ∈ topology.families) :
    ∃ net ∈ (routerSpec config.router topology routers).staticsOf family, net.family = family := by
  obtain ⟨node, hnode, ip, hip⟩ := topology.exists_address h
  have hpeer : ip ∈ (routerSpec config.router topology routers).peers4 ++
      (routerSpec config.router topology routers).peers6 :=
    mem_peers_routerSpec.2 ⟨family, h, node, hnode, hip⟩
  generalize routerSpec config.router topology routers = spec at hrender hpeer ⊢
  obtain ⟨hvalid, -⟩ := RouterSpec.render_eq_ok_iff.1 hrender
  have hpeers : (⟨none, spec.peers4, spec.peers6⟩ : RouterSpec.Instance).peers family ≠ [] := by
    have hfamily := Node.family_of_address? hip
    rcases List.mem_append.1 hpeer with hpeer | hpeer
    · obtain rfl : family = .v4 := hfamily ▸ hvalid.family _ List.mem_cons_self .v4 ip hpeer
      exact List.ne_nil_of_mem hpeer
    · obtain rfl : family = .v6 := hfamily ▸ hvalid.family _ List.mem_cons_self .v6 ip hpeer
      exact List.ne_nil_of_mem hpeer
  obtain ⟨net, hnet⟩ := List.exists_mem_of_ne_nil _
    (RouterSpec.staticsOf_ne_nil_iff.2 (hvalid.static _ List.mem_cons_self family hpeers))
  exact ⟨net, hnet, RouterSpec.family_of_mem_staticsOf hnet⟩

theorem SetsUp.exists_static {log : CallLog} (h : SetsUp config suffix (some (.ok lab)) log)
    (hfamily : family ∈ lab.topology.families) : ∃ net ∈ lab.statics, net.family = family := by
  obtain ⟨hfollows, -⟩ := h.answered
  obtain ⟨conf, hcreated⟩ := h.created
  obtain ⟨net, hnet, hnetFamily⟩ := Lab.exists_static hcreated.router.render hfamily
  rw [hfollows.statics]
  exact ⟨net, List.mem_flatMap.2 ⟨family, hfamily, hnet⟩, hnetFamily⟩

/-- The static networks of a family are looked for if and only if the router has an address in it. -/
theorem verifiesStatics_iff (hfamily : family ∈ lab.topology.families)
    (hstatic : ∃ net ∈ lab.statics, net.family = family) :
    lab.VerifiesStatics family ↔ ∃ router ∈ lab.routers, router.family = family := by
  constructor
  · intro h
    obtain ⟨net, hnet, hnetFamily⟩ := hstatic
    obtain ⟨node, hnode⟩ := List.exists_mem_of_ne_nil _ lab.topology.nonempty
    obtain ⟨router, hrouter, hrouterFamily, -⟩ := h .default node hnode net hnet hnetFamily
    exact ⟨router, hrouter, hrouterFamily⟩
  · rintro ⟨router, hrouter, hrouterFamily⟩ network node hnode net hnet rfl
    have hsome : (lab.routers.find? (·.family == net.family)).isSome :=
      List.find?_isSome.2 ⟨router, hrouter, by simpa using hrouterFamily⟩
    obtain ⟨first, hfirst⟩ := Option.isSome_iff_exists.1 hsome
    refine ⟨first, List.mem_of_find?_eq_some hfirst, by simpa using List.find?_some hfirst,
      fun view => ?_⟩
    exact (Mesh.Due.static view hnode hnet hfamily hfirst).expects_full

namespace Answered

variable {asked : List (Ip × Ip)}

theorem families (h : Answered topology routers asked) :
    asked.map (·.1.family) = topology.families := by
  obtain ⟨hnodes, -⟩ := h
  generalize topology.families = families at hnodes
  induction asked generalizing families with
  | nil =>
    cases families with
    | nil => rfl
    | cons family families => cases hnodes
  | cons q asked ih =>
    cases families with
    | nil => cases hnodes
    | cons family families =>
      obtain ⟨hnode, hnodes⟩ := List.cons.inj hnodes
      rw [List.map_cons, Node.family_of_address? hnode.symm, ih families hnodes]

theorem addresses_iff (h : Answered topology routers asked) :
    routers.map Ip.family = topology.families ↔ ∀ q ∈ asked, q.2.family = q.1.family := by
  rw [← h.families, ← h.routers, List.map_map, List.map_inj_left]
  rfl

end Answered

/-- After a setup, the addresses of the router are what the host has given when it was asked about the
first node in each family, and there are static networks of each family. All families are verified if
and only if each address has the family of the node's. The static networks of a family are looked for if
and only if some address has the family. -/
theorem verifiesFamilies_iff {log : CallLog} (h : SetsUp config suffix (some (.ok lab)) log) :
    let asked := (HostSession.ofConfig config.host).given log
    Answered lab.topology lab.routers asked ∧
    (lab.VerifiesFamilies ↔ ∀ q ∈ asked, q.2.family = q.1.family) ∧
    ∀ family ∈ lab.topology.families, (∃ net ∈ lab.statics, net.family = family) ∧
      (lab.VerifiesStatics family ↔ ∃ q ∈ asked, q.2.family = family) := by
  intro asked
  obtain ⟨-, hanswered⟩ := h.answered
  have hstatic : ∀ family ∈ lab.topology.families, ∃ net ∈ lab.statics, net.family = family :=
    fun family hfamily => h.exists_static hfamily
  refine ⟨hanswered, ?_, fun family hfamily => ⟨hstatic family hfamily, ?_⟩⟩
  · rw [← hanswered.addresses_iff]
    refine ⟨fun hall => hall.addresses, fun haddresses => ?_⟩
    refine ⟨haddresses, fun family hfamily => ?_, hstatic⟩
    rw [verifiesStatics_iff hfamily (hstatic family hfamily)]
    rw [← haddresses] at hfamily
    exact List.mem_map.1 hfamily
  · rw [verifiesStatics_iff hfamily (hstatic family hfamily), ← hanswered.routers]
    constructor
    · rintro ⟨router, hrouter, hrouterFamily⟩
      obtain ⟨q, hq, rfl⟩ := List.mem_map.1 hrouter
      exact ⟨q, hq, hrouterFamily⟩
    · rintro ⟨q, hq, hsource⟩
      exact ⟨q.2, List.mem_map_of_mem hq, hsource⟩

/-! ## A host that answers as it likes -/

theorem exists_setsUp {rn : Runner σ} {w : σ} {enable : Bool} {localDir : String}
    (h : ((setup (logged rn) config enable suffix localDir).run.run none 0
      (w, [])).value?.map Except.isOk = some true) :
    ∃ lab, SetsUp config suffix (some (.ok lab))
      ((setup (logged rn) config enable suffix localDir).run.run none 0 (w, [])).world.2 := by
  rcases hrun : (setup (logged rn) config enable suffix localDir).run.run none 0 (w, [])
    with ⟨_ | e | lab, now, w', log⟩
  · simp [hrun] at h
  · simp [hrun, Except.isOk, Except.toBool] at h
  · exact ⟨lab, σ, rn, enable, localDir, none, 0, now, w, w', hrun⟩

/-- A cluster of one node and a host that execute every call. The host names this as its address,
whoever it is asked about. -/
def answering (source : String) : Runner (Unit × Site) := fun i =>
  if i.args.contains "route" then
    pure (.ok (printing s!"[\x7b\"prefsrc\":\"{source}\"\x7d]"))
  else executing {} i

theorem verifiesFamilies_of_answer :
    ∃ lab log, SetsUp {} "ab" (some (.ok lab)) log ∧ lab.VerifiesFamilies := by
  have hok : ((setup (logged (answering "192.0.2.1")) {} false "ab" "/tmp").run.run none 0
        (((), Site.empty), [])).value?.map Except.isOk = some true ∧
      (HostSession.ofConfig {}).given ((setup (logged (answering "192.0.2.1")) {} false "ab"
        "/tmp").run.run none 0 (((), Site.empty), [])).world.2 =
          [(.v4 ⟨192, 0, 2, 11⟩, .v4 ⟨192, 0, 2, 1⟩)] := by
    decide +kernel
  obtain ⟨hok, hgiven⟩ := hok
  obtain ⟨lab, hsets⟩ := exists_setsUp hok
  refine ⟨lab, _, hsets, (verifiesFamilies_iff hsets).2.1.2 ?_⟩
  rw [hgiven]
  simp [Ip.family]

/-- The cluster uses one family, and the host answers in the other one. The setup succeeds, and none of
the static networks is looked for. -/
theorem setup_skips_family :
    ∃ lab log, SetsUp {} "ab" (some (.ok lab)) log ∧ lab.topology.families = [.v4] ∧
      lab.routers = [.v6 ⟨0x2001, 0xdb8, 0, 0, 0, 0, 0, 1⟩] ∧ ¬ lab.VerifiesStatics .v4 ∧
      ¬ lab.VerifiesFamilies := by
  have hok : ((setup (logged (answering "2001:db8::1")) {} false "ab" "/tmp").run.run none 0
        (((), Site.empty), [])).value?.map Except.isOk = some true ∧
      (HostSession.ofConfig {}).given ((setup (logged (answering "2001:db8::1")) {} false "ab"
        "/tmp").run.run none 0 (((), Site.empty), [])).world.2 =
          [(.v4 ⟨192, 0, 2, 11⟩, .v6 ⟨0x2001, 0xdb8, 0, 0, 0, 0, 0, 1⟩)] := by
    decide +kernel
  obtain ⟨hok, hgiven⟩ := hok
  obtain ⟨lab, hsets⟩ := exists_setsUp hok
  obtain ⟨-, hanswered⟩ := hsets.answered
  rw [hgiven] at hanswered
  have hfamilies : lab.topology.families = [.v4] := hanswered.families.symm
  have hrouters : lab.routers = [.v6 ⟨0x2001, 0xdb8, 0, 0, 0, 0, 0, 1⟩] := hanswered.routers.symm
  have hunverified : ¬ lab.VerifiesStatics .v4 := by
    have hfamily : .v4 ∈ lab.topology.families := by simp [hfamilies]
    rw [verifiesStatics_iff hfamily (hsets.exists_static hfamily), hrouters]
    simp [Ip.family]
  exact ⟨lab, _, hsets, hfamilies, hrouters, hunverified,
    fun h => hunverified (h.statics .v4 (by simp [hfamilies]))⟩

end Lab

end RouteWatch
