import RouteWatch.Proofs.Router.Document

/-!
# What the configuration of a router gives away

The configuration can be read back, and every part of it tells something about the router. So two
routers have the same configuration only if they agree on all that is written in it. What is not
written does not matter: that a peer is repeated, the host bits of networks, the networks of a family
without peers, and without any peer the number of their system.

* `RouterSpec.alike_of_body_eq`, `RouterSpec.Alike.body_eq`: what a routing instance tells;
* `RouterSpec.render_eq_iff`: what the configuration tells.
-/

namespace RouteWatch

open Text Statement

/-- The name of a VRF, and its peers, each once. -/
def VrfSpec.merged (vrf : VrfSpec) : String × List Ip × List Ip :=
  (vrf.name, distinct vrf.peers4, distinct vrf.peers6)

namespace RouterSpec

variable {a b : RouterSpec} {i j : Instance}

/-! ## Routing instances -/

/-- The instance of one router and that of the other are described alike. -/
structure Alike (a b : RouterSpec) (i j : Instance) : Prop where
  asn : a.asn = b.asn
  routerId : a.routerId = b.routerId
  vrf : i.vrf = j.vrf
  peers : ∀ family, distinct (i.peers family) = distinct (j.peers family)
  remoteAsn : ∀ family, i.peers family ≠ [] → a.remoteAsn = b.remoteAsn
  statics : ∀ family, i.peers family ≠ [] → a.staticsOf family = b.staticsOf family

/-- The peers of a family among those of both. -/
theorem filter_peers (h : ∀ family, ∀ peer ∈ i.peers family, peer.family = family) (family : Family) :
    (distinct i.peers4 ++ distinct i.peers6).filter (·.family = family) =
      distinct (i.peers family) := by
  have hkept (f : Family) : (distinct (i.peers f)).filter (·.family = f) = distinct (i.peers f) :=
    List.filter_eq_self.2 fun peer hpeer => by simpa using h f peer (mem_distinct.1 hpeer)
  have hdropped (f : Family) (hne : f ≠ family) :
      (distinct (i.peers f)).filter (·.family = family) = [] :=
    List.filter_eq_nil_iff.2 fun peer hpeer => by simpa [h f peer (mem_distinct.1 hpeer)] using hne
  rw [List.filter_append]
  cases family with
  | v4 => exact (congrArg₂ (· ++ ·) (hkept .v4) (hdropped .v6 (by decide))).trans (List.append_nil _)
  | v6 => exact (congrArg₂ (· ++ ·) (hdropped .v4 (by decide)) (hkept .v6)).trans (List.nil_append _)

theorem mem_named_iff {family : Family} {peer : Ip} (h : peer ∈ i.peers family) :
    peer ∈ distinct i.peers4 ++ distinct i.peers6 := by
  rw [List.mem_append, mem_distinct, mem_distinct]
  cases family with
  | v4 => exact .inl h
  | v6 => exact .inr h

theorem network_injective : Function.Injective Statement.network := fun _ _ h => network.inj h

theorem familyBlocks_congr {family : Family} {peers : List Ip}
    (hinternal : peers ≠ [] → a.isInternal = b.isInternal)
    (hstatics : peers ≠ [] → a.staticsOf family = b.staticsOf family) :
    a.familyBlocks family peers = b.familyBlocks family peers := by
  rcases eq_or_ne peers [] with rfl | hpeers
  · rfl
  · have hacts : a.activation = b.activation := by
      funext peer
      rw [activation, activation, hinternal hpeers]
    rw [familyBlocks, familyBlocks, hstatics hpeers, hacts]

theorem alike_of_body_eq (hi : ∀ family, ∀ peer ∈ i.peers family, peer.family = family)
    (hj : ∀ family, ∀ peer ∈ j.peers family, peer.family = family) (h : a.body i = b.body j) :
    Alike a b i j := by
  have hhead : Statement.router a.asn i.vrf = .router b.asn j.vrf :=
    Option.some.inj (congrArg List.head? h)
  have hnamed : (distinct i.peers4 ++ distinct i.peers6).map (·, a.remoteAsn) =
      (distinct j.peers4 ++ distinct j.peers6).map (·, b.remoteAsn) := by
    rw [← filterMap_neighbor_body, h, filterMap_neighbor_body]
  have hall : distinct i.peers4 ++ distinct i.peers6 = distinct j.peers4 ++ distinct j.peers6 := by
    simpa [Function.comp_def] using congrArg (List.map Prod.fst) hnamed
  have hpeers (family : Family) : distinct (i.peers family) = distinct (j.peers family) := by
    rw [← filter_peers hi, hall, filter_peers hj]
  refine ⟨(router.inj hhead).1, ?_, (router.inj hhead).2, hpeers, ?_, ?_⟩
  · have hsecond := congrArg (fun stmts => stmts.tail.head?) h
    cases ha : a.routerId <;> cases hb : b.routerId <;> simp [body, preamble, ha, hb] at hsecond
    · rfl
    · rw [hsecond]
  · intro family hne
    obtain ⟨peer, hpeer⟩ := List.exists_mem_of_ne_nil _ hne
    have hmem : (peer, a.remoteAsn) ∈ (distinct j.peers4 ++ distinct j.peers6).map (·, b.remoteAsn) :=
      hnamed ▸ List.mem_map_of_mem (mem_named_iff hpeer)
    obtain ⟨_, -, heq⟩ := List.mem_map.1 hmem
    exact (congrArg Prod.snd heq).symm
  · intro family hne
    have hne' : j.peers family ≠ [] := by
      rw [Ne, ← distinct_eq_nil_iff, ← hpeers, distinct_eq_nil_iff]
      exact hne
    have hblocks := congrArg (blocksAbout? family) h
    rw [blocksAbout?_body, blocksAbout?_body, if_neg hne, if_neg hne'] at hblocks
    have horiginating := (List.cons.inj (Option.some.inj hblocks)).1
    exact network_injective.list_map (List.cons.inj horiginating).2

theorem Alike.body_eq (h : Alike a b i j) : a.body i = b.body j := by
  have h4 : distinct i.peers4 = distinct j.peers4 := h.peers .v4
  have h6 : distinct i.peers6 = distinct j.peers6 := h.peers .v6
  have hinternal (family : Family) (hne : i.peers family ≠ []) : a.isInternal = b.isInternal := by
    rw [isInternal, isInternal, h.asn, h.remoteAsn family hne]
  have hblocks (family : Family) : a.familyBlocks family (distinct (i.peers family)) =
      b.familyBlocks family (distinct (i.peers family)) :=
    familyBlocks_congr (fun hne => hinternal family (mt distinct_eq_nil_iff.2 hne))
      fun hne => h.statics family (mt distinct_eq_nil_iff.2 hne)
  have hnamed : (distinct i.peers4 ++ distinct i.peers6).map (Statement.remoteAs · a.remoteAsn) =
      (distinct i.peers4 ++ distinct i.peers6).map (.remoteAs · b.remoteAsn) := by
    refine List.map_congr_left fun peer hpeer => ?_
    rw [List.mem_append, mem_distinct, mem_distinct] at hpeer
    have hsame : a.remoteAsn = b.remoteAsn :=
      hpeer.elim (fun h4 => h.remoteAsn .v4 (List.ne_nil_of_mem h4))
        fun h6 => h.remoteAsn .v6 (List.ne_nil_of_mem h6)
    rw [hsame]
  have hpreamble : a.preamble i = b.preamble j := by
    rw [preamble, preamble, h.routerId, hnamed, h4, h6]
  calc a.body i
      = .router a.asn i.vrf :: (a.preamble i ++ (a.familyBlocks .v4 (distinct i.peers4) ++
          a.familyBlocks .v6 (distinct i.peers6))) := rfl
    _ = .router b.asn j.vrf :: (b.preamble j ++ (b.familyBlocks .v4 (distinct i.peers4) ++
          b.familyBlocks .v6 (distinct i.peers6))) := by
        rw [h.asn, h.vrf, hpreamble]
        exact congrArg _ (congrArg₂ (· ++ ·) rfl (congrArg₂ (· ++ ·) (hblocks .v4) (hblocks .v6)))
    _ = b.body j := by rw [h4, h6, body]

/-! ## Configurations -/

/-- There are peers of the family, in one routing instance or the other. -/
def HasPeers (spec : RouterSpec) (family : Family) : Prop :=
  ∃ i ∈ spec.instances, i.peers family ≠ []

/-- The routers agree on all that matters for their configuration. -/
structure Agrees (a b : RouterSpec) : Prop where
  asn : a.asn = b.asn
  routerId : a.routerId = b.routerId
  peers4 : distinct a.peers4 = distinct b.peers4
  peers6 : distinct a.peers6 = distinct b.peers6
  vrf : a.vrf.map VrfSpec.merged = b.vrf.map VrfSpec.merged
  /-- The number of the peers' system matters if there are peers. -/
  remoteAsn : ∀ family, a.HasPeers family → a.remoteAsn = b.remoteAsn
  /-- The networks of a family matter if there are peers of the family. -/
  statics : ∀ family, a.HasPeers family → a.staticsOf family = b.staticsOf family

theorem agrees_of_forall₂ (h : List.Forall₂ (Alike a b) a.instances b.instances) : Agrees a b := by
  have hpeered : ∀ i ∈ a.instances, ∀ family, i.peers family ≠ [] →
      a.remoteAsn = b.remoteAsn ∧ a.staticsOf family = b.staticsOf family :=
    ((List.forall₂_and_left _ _).1 (h.imp fun i j hij =>
      ⟨fun family hne => ⟨hij.remoteAsn family hne, hij.statics family hne⟩, hij⟩)).1
  rw [instances, instances, List.forall₂_cons] at h
  obtain ⟨hdefault, hvrf⟩ := h
  refine ⟨hdefault.asn, hdefault.routerId, hdefault.peers .v4, hdefault.peers .v6, ?_, ?_, ?_⟩
  · rcases ha : a.vrf with _ | v <;> rcases hb : b.vrf with _ | v' <;> simp [ha, hb] at hvrf
    · rfl
    · have hname : v.name = v'.name := Option.some.inj hvrf.vrf
      have h4 : distinct v.peers4 = distinct v'.peers4 := hvrf.peers .v4
      have h6 : distinct v.peers6 = distinct v'.peers6 := hvrf.peers .v6
      rw [Option.map_some, Option.map_some, VrfSpec.merged, VrfSpec.merged, hname, h4, h6]
  · rintro family ⟨i, hi, hne⟩
    exact (hpeered i hi family hne).1
  · rintro family ⟨i, hi, hne⟩
    exact (hpeered i hi family hne).2

theorem Agrees.forall₂ (h : Agrees a b) : List.Forall₂ (Alike a b) a.instances b.instances := by
  have halike {i j : Instance} (hi : i ∈ a.instances) (hvrf : i.vrf = j.vrf)
      (h4 : distinct i.peers4 = distinct j.peers4) (h6 : distinct i.peers6 = distinct j.peers6) :
      Alike a b i j :=
    ⟨h.asn, h.routerId, hvrf, fun | .v4 => h4 | .v6 => h6,
      fun family hne => h.remoteAsn family ⟨i, hi, hne⟩,
      fun family hne => h.statics family ⟨i, hi, hne⟩⟩
  refine .cons (halike (List.mem_cons_self ..) rfl h.peers4 h.peers6) ?_
  have hvrf := h.vrf
  rcases ha : a.vrf with _ | v <;> rcases hb : b.vrf with _ | v' <;> simp [ha, hb] at hvrf
  · exact .nil
  · obtain ⟨hname, h4, h6⟩ := by simpa [VrfSpec.merged] using hvrf
    exact .cons (halike (by simp [instances, ha]) (congrArg some hname) h4 h6) .nil

/-- Two routers have the same configuration when they agree on all that matters for it, and only then.
A name of a VRF cannot make its line look like two, or like another line. -/
theorem render_eq_iff (a b : RouterSpec) (ha : a.validate = .ok ()) (hb : b.validate = .ok ()) :
    (a.render = b.render ↔ Agrees a b) ∧
      ∀ vrf, a.vrf = some vrf →
        let line := (Statement.router a.asn (some vrf.name)).text
        '\n' ∉ line.toList ∧
          ∀ s : Statement, s.IsPlain → s.text = line → s = .router a.asn (some vrf.name) := by
  rw [validate_iff] at ha hb
  refine ⟨?_, fun vrf hvrf => ?_⟩
  · have hrender : a.render = b.render ↔ a.document = b.document := by
      rw [render_eq_ok_iff.2 ⟨ha, rfl⟩, render_eq_ok_iff.2 ⟨hb, rfl⟩]
      refine ⟨fun h => ?_, fun h => by rw [h]⟩
      have hread := ofText?_lines (isPlain_of_mem_document ha)
      rw [Except.ok.inj h, ofText?_lines (isPlain_of_mem_document hb)] at hread
      exact (Option.some.inj hread).symm
    have hdocument : a.document = b.document ↔
        a.instances.map a.body = b.instances.map b.body :=
      ⟨fun h => Option.some.inj (by rw [← instancesIn?_document, h, instancesIn?_document]),
        fun h => by rw [document_eq, h, ← document_eq]⟩
    rw [hrender, hdocument, ← List.forall₂_eq_eq_eq, List.forall₂_map_left_iff,
      List.forall₂_map_right_iff]
    refine ⟨fun h => agrees_of_forall₂ (List.forall₂_iff_zip.2 ⟨h.length_eq, fun {i j} hij => ?_⟩),
      fun h => h.forall₂.imp fun i j => Alike.body_eq⟩
    obtain ⟨hi, hj⟩ := List.of_mem_zip hij
    exact alike_of_body_eq (ha.family i hi) (hb.family j hj) (List.forall₂_zip h hij)
  · have hplain : (Statement.router a.asn (some vrf.name)).IsPlain := ha.name vrf hvrf
    exact ⟨line_feed_not_mem_text hplain, fun s hs htext => (text_inj hs hplain).1 htext⟩

/-- A peer is repeated, a network has host bits, and the number of the peers' system is given although
it is the router's own: none of this is seen in the configuration. -/
theorem render_eq_of_repeated_peer :
    let a : RouterSpec := { (ofConfig {}).withPeers [.v4 ⟨192, 0, 2, 11⟩] with
      vrf := some ⟨"red", [], []⟩ }
    let b : RouterSpec := { a with
      peerAsn := some a.asn
      peers4 := [.v4 ⟨192, 0, 2, 11⟩, .v4 ⟨192, 0, 2, 11⟩]
      statics := .v4 (.sharing 24 ⟨192, 168, 1, 7⟩) :: a.statics }
    a.validate = .ok () ∧ b.validate = .ok () ∧ a.render = b.render := by
  intro a b
  have ha : a.validate = .ok () := by decide
  have hb : b.validate = .ok () := by decide
  refine ⟨ha, hb, (render_eq_iff a b ha hb).1.2 ?_⟩
  refine ⟨rfl, rfl, by decide, by decide, rfl, fun _ _ => rfl, fun family h => ?_⟩
  cases family <;> decide

end RouterSpec

end RouteWatch
