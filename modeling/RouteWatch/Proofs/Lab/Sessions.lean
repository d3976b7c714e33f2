import RouteWatch.Proofs.Lab.Creation
import RouteWatch.Proofs.Router.Document
import RouteWatch.Proofs.Topology

/-!
# The sessions between the router and the nodes

A session is configured at both of its ends: in the configuration file of the router, and in the
declared peering of the nodes. Both are read here, and what is said at one end is what the other end
expects.

* `FrrConfiguration.router?_manifest`: what a declared peering says;
* `Lab.sessions_agree`: the router and the nodes are configured for the same sessions.
-/

namespace RouteWatch

open Statement CallLog

/-! ## The end of the nodes -/

namespace Json

/-- The number of a system. -/
def asn? : Json → Option Asn
  | .number literal => Asn.parse? literal
  | _ => none

theorem asn?_nat (asn : Asn) : (nat asn.toNat).asn? = some asn :=
  Asn.parse?_toString asn

/-- The address of a neighbor and the number of its system. -/
def neighbor? (j : Json) : Option (Ip × Asn) := do
  return (← Ip.parse? (← (← j.field? "address").string?), ← (← j.field? "asn").asn?)

/-- The number of a router's own system, and its neighbors. -/
def router? (j : Json) : Option (Asn × List (Ip × Asn)) := do
  return (← (← j.field? "asn").asn?, ← (← (← j.field? "neighbors").array?).mapM neighbor?)

end Json

namespace FrrConfiguration

/-- The first router of the manifest. -/
def router? (manifest : Json) : Option (Asn × List (Ip × Asn)) := do
  let bgp ← (← manifest.field? "spec").field? "bgp"
  (← (← (← bgp.field? "routers").array?).head?).router?

theorem neighbor?_neighborManifest (c : FrrConfiguration) (neighbor : Ip) :
    (c.neighborManifest neighbor).neighbor? = some (neighbor, c.neighborAsn) := by
  have haddress : (c.neighborManifest neighbor).field? "address" = some (.text neighbor.text) := by
    simp [neighborManifest, Json.field?_map, Table.ofList, Table.get?_insert]
  have hasn : (c.neighborManifest neighbor).field? "asn" = some (.nat c.neighborAsn.toNat) := by
    simp [neighborManifest, Json.field?_map, Table.ofList, Table.get?_insert]
  simp [Json.neighbor?, haddress, hasn, Json.text, Json.string?, Ip.parse?_text, Json.asn?_nat]

/-- A manifest has one router, whose neighbors are those of the configuration. -/
theorem router?_manifest (c : FrrConfiguration) :
    router? c.manifest = some (c.asn, c.neighbors.map (·, c.neighborAsn)) := by
  have hspec : c.manifest.field? "spec" = some (.map [("nodeSelector", .map []),
      ("bgp", .map [("routers", .array [.map [("asn", .nat c.asn.toNat),
        ("neighbors", .array (c.neighbors.map c.neighborManifest))]])])]) := by
    simp [manifest, Json.field?_map, Table.ofList, Table.get?_insert]
  have hneighbors : (c.neighbors.map c.neighborManifest).mapM Json.neighbor? =
      some (c.neighbors.map (·, c.neighborAsn)) := by
    induction c.neighbors with
    | nil => rfl
    | cons ip ips ih => simp [List.mapM_cons, neighbor?_neighborManifest, ih]
  simp [router?, hspec, Json.router?, Json.field?_map, Table.ofList, Table.get?_insert, Json.array?,
    Json.asn?_nat, hneighbors]

end FrrConfiguration

/-! ## Both ends -/

namespace Lab

/-- A routing instance of the router and the peering of the nodes are two ends of the same sessions:
the router, with that number, peers with every node in every family, and the nodes, with theirs, peer
with every address of the router. -/
structure Sessions (topology : Topology) (routers : List Ip) (own others : Asn)
    (stmts : List Statement) (neighbors : List (Ip × Asn)) : Prop where
  head : stmts.head? = some (.router own none)
  nodes : ∀ ip, ip ∈ (stmts.filterMap neighbor?).map Prod.fst ↔
    ∃ family ∈ topology.families, ∃ node ∈ topology.nodes, node.address? family = some ip
  /-- No neighbor is named twice. -/
  once : ((stmts.filterMap neighbor?).map Prod.fst).Nodup
  numbered : ∀ n ∈ stmts.filterMap neighbor?, n.2 = others
  routers : neighbors = (distinct routers).map (·, own)
  /-- Routes are reflected to the nodes if they belong to the router's own system. -/
  reflected : stmts.filterMap reflected? =
    if own = others then (stmts.filterMap neighbor?).map Prod.fst else []

/-- The default routing instance of the configuration file and the first router of the manifest are two
ends of the same sessions. -/
def Agree (topology : Topology) (routers : List Ip) (conf : String) (manifest : Json) : Prop :=
  ∃ (doc default : List Statement) (more : List (List Statement)) (own others : Asn)
    (neighbors : List (Ip × Asn)),
    ofText? conf = some doc ∧ instancesIn? doc = some (default :: more) ∧
    FrrConfiguration.router? manifest = some (others, neighbors) ∧
    Sessions topology routers own others default neighbors

variable {config : LabConfig}

theorem mem_peers_routerSpec {topology : Topology} {routers : List Ip} {ip : Ip} :
    ip ∈ (routerSpec config.router topology routers).peers4 ++
        (routerSpec config.router topology routers).peers6 ↔
      ∃ family ∈ topology.families, ∃ node ∈ topology.nodes, node.address? family = some ip := by
  have hpeers : ip ∈ (routerSpec config.router topology routers).peers4 ++
      (routerSpec config.router topology routers).peers6 ↔
        ip ∈ topology.families.flatMap topology.peers := by
    rw [routerSpec]
    cases firstV4? routers with
    | none | some =>
      cases hfamily : ip.family <;>
        simp [RouterSpec.withPeers, RouterSpec.withRouterId, RouterSpec.ofFamily, hfamily]
  rw [hpeers, List.mem_flatMap]
  refine ⟨?_, ?_⟩
  · rintro ⟨family, hfamily, hip⟩
    exact ⟨family, hfamily, (Topology.mem_peers_iff.1 hip).2⟩
  · rintro ⟨family, hfamily, hip⟩
    exact ⟨family, hfamily, Topology.mem_peers_iff.2 ⟨hfamily, hip⟩⟩

theorem agree_of_render {topology : Topology} {routers : List Ip} {conf : String}
    (h : (routerSpec config.router topology routers).render = .ok conf) :
    Agree topology routers conf
      (peeringOf config.cluster (routerSpec config.router topology routers) routers).manifest := by
  generalize hspec : routerSpec config.router topology routers = spec at h
  obtain ⟨hvalid, rfl⟩ := RouterSpec.render_eq_ok_iff.1 h
  let i : RouterSpec.Instance := ⟨none, spec.peers4, spec.peers6⟩
  have hconfigures : spec.Configures i (spec.body i) :=
    RouterSpec.configures hvalid List.mem_cons_self
  have haddresses : ((spec.body i).filterMap neighbor?).map Prod.fst =
      distinct spec.peers4 ++ distinct spec.peers6 := by
    rw [hconfigures.neighbors, List.map_map]
    exact List.map_id _
  refine ⟨spec.document, spec.body i, _, spec.asn, spec.remoteAsn,
    (distinct routers).map (·, spec.asn), ofText?_lines (RouterSpec.isPlain_of_mem_document hvalid),
    spec.instancesIn?_document, FrrConfiguration.router?_manifest _, ?_⟩
  refine ⟨hconfigures.head, fun ip => ?_, ?_, ?_, rfl, ?_⟩
  · have hpeers : ip ∈ spec.peers4 ++ spec.peers6 ↔
        ∃ family ∈ topology.families, ∃ node ∈ topology.nodes, node.address? family = some ip := by
      rw [← hspec, mem_peers_routerSpec]
    rw [haddresses, ← hpeers]
    simp
  · rw [haddresses]
    exact hconfigures.once
  · rw [hconfigures.neighbors]
    exact List.forall_mem_map.2 fun _ _ => rfl
  · rw [haddresses, RouterSpec.filterMap_reflected_body]
    exact if_congr eq_comm rfl rfl

/-- Whatever the configuration, the topology and the addresses of the router, a router that can be
configured and the peering of the nodes are configured for the same sessions. In a lab that was set up,
these two are the configuration file that was copied to the router and the manifest that was
declared. -/
theorem sessions_agree (config : LabConfig) :
    (∀ topology routers conf, (routerSpec config.router topology routers).render = .ok conf →
      Agree topology routers conf
        (peeringOf config.cluster (routerSpec config.router topology routers) routers).manifest) ∧
    ∀ suffix lab log, SetsUp config suffix (some (.ok lab)) log →
      ∃ conf manifest,
        (∃ i, .copy (lab.router.path "frr.conf") conf ∈ config.deeds i ∧ Succeeded i log) ∧
        (∃ i, .put (peeringObject config.cluster) manifest ∈ config.deeds i ∧ Succeeded i log) ∧
        Agree lab.topology lab.routers conf manifest := by
  refine ⟨fun topology routers conf => agree_of_render, fun suffix lab log h => ?_⟩
  obtain ⟨conf, hcreated⟩ := h.created
  obtain ⟨-, hconf, -, -⟩ :=
    LabConfig.forall_mem_creation.1 fun d hd => hcreated.making.made d (List.mem_append_left _ hd)
  refine ⟨conf, lab.peering.manifest, ?_, hcreated.making.made _ (by simp), ?_⟩
  · rwa [hcreated.router.isOf.path]
  · rw [hcreated.peering]
    exact agree_of_render hcreated.router.render

/-- A lab whose nodes belong to another system than its router. -/
theorem sessions_agree_of_external_router :
    let config : LabConfig := { router := { peerAsn := some 64513 } }
    ∃ lab log conf, SetsUp config "ab" (some (.ok lab)) log ∧
      (routerSpec config.router lab.topology lab.routers).render = .ok conf ∧
      Agree lab.topology lab.routers conf (peeringOf config.cluster
        (routerSpec config.router lab.topology lab.routers) lab.routers).manifest ∧
      ∃ conf manifest,
        (∃ i, .copy (lab.router.path "frr.conf") conf ∈ config.deeds i ∧ Succeeded i log) ∧
        (∃ i, .put (peeringObject config.cluster) manifest ∈ config.deeds i ∧ Succeeded i log) ∧
        Agree lab.topology lab.routers conf manifest := by
  intro config
  have hok : ((setup (logged (executing config)) config false "ab" "/tmp").run.run none 0
      (((), Site.empty), [])).value?.map Except.isOk = some true := by
    decide +kernel
  rcases hrun : (setup (logged (executing config)) config false "ab" "/tmp").run.run none 0
    (((), Site.empty), []) with ⟨_ | e | lab, now, w, log⟩
  · simp [hrun] at hok
  · simp [hrun, Except.isOk, Except.toBool] at hok
  have hsets : SetsUp config "ab" (some (.ok lab)) log :=
    ⟨_, executing config, false, "/tmp", none, 0, now, ((), .empty), w, hrun⟩
  obtain ⟨conf, hcreated⟩ := hsets.created
  exact ⟨lab, log, conf, hsets, hcreated.router.render,
    (sessions_agree config).1 _ _ _ hcreated.router.render, (sessions_agree config).2 _ _ _ hsets⟩

end Lab

end RouteWatch
