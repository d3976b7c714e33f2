import RouteWatch.Proofs.Items
import RouteWatch.Proofs.Router.Reading

/-!
# What the configuration of a router says

A configuration is read back into sections: the routing instances, and in each of them the blocks
about a family. Every instance names each of its neighbors once, and every family with neighbors has
two blocks, one with the networks that are originated and one that activates these neighbors.

* `RouterSpec.validate_iff`: the routers that can be configured;
* `RouterSpec.configures`: what is said in a routing instance;
* `RouterSpec.render_structure`: what is said in the configuration file.
-/

namespace RouteWatch

open Text

namespace Statement

/-! ## Sections -/

/-- The parts of a list of statements that start with one that opens and go on up to the next one that
closes. There are none if one of them is not closed. -/
def sections? (opens : Statement → Bool) (close : Statement) :
    List Statement → Option (List (List Statement))
  | [] => some []
  | s :: rest =>
    if opens s then
      if close ∈ rest then
        (sections? opens close rest).map ((s :: rest.takeWhile (· ≠ close)) :: ·)
      else none
    else sections? opens close rest

section

variable {opens : Statement → Bool} {close s : Statement} {a b : List Statement}

theorem sections?_append_of_not_opens (h : ∀ t ∈ a, opens t = false) :
    sections? opens close (a ++ b) = sections? opens close b := by
  induction a with
  | nil => rfl
  | cons t a ih =>
    obtain ⟨ht, ha⟩ := List.forall_mem_cons.1 h
    simp [sections?, ht, ih ha]

/-- A section at the start. -/
theorem sections?_section (hs : opens s = true) (hclose : opens close = false)
    (ha : ∀ t ∈ a, opens t = false) (hends : close ∉ a) :
    sections? opens close (s :: a ++ close :: b) = (sections? opens close b).map ((s :: a) :: ·) := by
  have htake : (a ++ close :: b).takeWhile (· ≠ close) = a := by
    have hne : ∀ t ∈ a, decide (t ≠ close) = true := by
      rintro t ht
      simpa using fun h : t = close => hends (h ▸ ht)
    rw [List.takeWhile_append_of_pos hne]
    simp
  have hrest : sections? opens close (a ++ close :: b) = sections? opens close b := by
    rw [sections?_append_of_not_opens ha]
    simp [sections?, hclose]
  have hmem : close ∈ a ++ close :: b := List.mem_append_right a List.mem_cons_self
  rw [List.cons_append, sections?, if_pos hs, if_pos hmem, htake, hrest]

end

/-- The line starts a routing instance. -/
def startsInstance : Statement → Bool
  | router .. => true
  | _ => false

/-- The routing instances of a configuration, without the lines that end them. -/
def instancesIn? (doc : List Statement) : Option (List (List Statement)) :=
  sections? startsInstance endRouter doc

/-- The blocks about a family, without the lines that end them. -/
def blocksAbout? (family : Family) (doc : List Statement) : Option (List (List Statement)) :=
  sections? (· == addressFamily family) endFamily doc

section

variable {family : Family} {a b : List Statement}

theorem blocksAbout?_append (h : addressFamily family ∉ a) :
    blocksAbout? family (a ++ b) = blocksAbout? family b :=
  sections?_append_of_not_opens fun t ht => by
    simpa using fun htf : t = addressFamily family => h (htf ▸ ht)

theorem blocksAbout?_block (h : addressFamily family ∉ a) (hends : endFamily ∉ a) :
    blocksAbout? family (addressFamily family :: a ++ endFamily :: b) =
      (blocksAbout? family b).map ((addressFamily family :: a) :: ·) :=
  sections?_section (beq_self_eq_true _) rfl (fun t ht => by
    simpa using fun htf : t = addressFamily family => h (htf ▸ ht)) hends

theorem blocksAbout?_eq_nil (h : addressFamily family ∉ a) : blocksAbout? family a = some [] := by
  simpa [blocksAbout?, sections?] using blocksAbout?_append (b := []) h

end

/-- The neighbor that the line names, and the number of its system. -/
def neighbor? : Statement → Option (Ip × Asn)
  | remoteAs peer asn => some (peer, asn)
  | _ => none

/-- The neighbor with which routes are exchanged. -/
def activated? : Statement → Option Ip
  | activate peer => some peer
  | _ => none

/-- The neighbor that gets the router as the next hop. -/
def servedAsNextHop? : Statement → Option Ip
  | nextHopSelf peer => some peer
  | _ => none

/-- The neighbor to which routes are reflected. -/
def reflected? : Statement → Option Ip
  | reflectorClient peer => some peer
  | _ => none

end Statement

namespace RouterSpec

/-! ## The routers that can be configured -/

/-- The router can be configured. -/
structure IsValid (spec : RouterSpec) : Prop where
  /-- A VRF has a name, and no blank in it. -/
  name : ∀ vrf, spec.vrf = some vrf → IsWord vrf.name.toList
  /-- Peers are listed with those of their family. -/
  family : ∀ i ∈ spec.instances, ∀ family, ∀ peer ∈ i.peers family, peer.family = family
  /-- There is a network to originate in every family with peers. -/
  static : ∀ i ∈ spec.instances, ∀ family, i.peers family ≠ [] →
    ∃ net ∈ spec.statics, net.family = family

open Statement

variable {spec : RouterSpec} {i : Instance} {family : Family}

theorem staticsOf_ne_nil_iff :
    spec.staticsOf family ≠ [] ↔ ∃ net ∈ spec.statics, net.family = family := by
  have hmem : spec.staticsOf family ≠ [] ↔ ∃ net, net ∈ spec.staticsOf family :=
    ⟨List.exists_mem_of_ne_nil _, fun ⟨net, hnet⟩ h => by simp [h] at hnet⟩
  rw [hmem]
  simp only [staticsOf, mem_distinct, List.mem_map, List.mem_filter, beq_iff_eq]
  constructor
  · rintro ⟨-, net, hnet, -⟩
    exact ⟨net, hnet⟩
  · rintro ⟨net, hnet⟩
    exact ⟨_, net, hnet, rfl⟩

theorem validatePeers_eq_ok_iff {peers : List Ip} :
    spec.validatePeers family peers = .ok () ↔
      (∀ peer ∈ peers, peer.family = family) ∧
        (peers ≠ [] → ∃ net ∈ spec.statics, net.family = family) := by
  rw [validatePeers, ← staticsOf_ne_nil_iff]
  split
  next peer hpeer =>
    have hmem := List.mem_of_find?_eq_some hpeer
    have hne := List.find?_some hpeer
    simp only [bne_iff_ne] at hne
    simp only [reduceCtorEq, false_iff, not_and]
    exact fun h => absurd (h peer hmem) hne
  next hnone =>
    have hall : ∀ peer ∈ peers, peer.family = family := by simpa using hnone
    split
    next hbad =>
      simp only [Bool.and_eq_true, Bool.not_eq_true', List.isEmpty_eq_false_iff,
        List.isEmpty_iff] at hbad
      simp [hbad.1, hbad.2]
    next hgood =>
      simp only [Bool.and_eq_true, Bool.not_eq_true', List.isEmpty_eq_false_iff,
        List.isEmpty_iff] at hgood
      simp only [true_iff]
      exact ⟨hall, fun hne hnil => hgood ⟨hne, hnil⟩⟩

theorem isWord_name_iff {name : String} :
    IsWord name.toList ↔ (name.isEmpty || name.toList.any isBlank) = false := by
  have hempty : name.isEmpty = false ↔ name.toList ≠ [] := by
    rw [Bool.eq_false_iff]
    exact not_congr (by simp)
  rw [Bool.or_eq_false_iff, hempty, List.any_eq_false]
  exact ⟨fun h => ⟨h.ne_nil, fun c hc => by simp [h.not_blank c hc]⟩,
    fun h => ⟨h.1, fun c hc => by simpa using h.2 c hc⟩⟩

theorem validateInstance_eq_ok_iff :
    spec.validateInstance i = .ok () ↔
      (∀ name, i.vrf = some name → IsWord name.toList) ∧
        ∀ family, (∀ peer ∈ i.peers family, peer.family = family) ∧
          (i.peers family ≠ [] → ∃ net ∈ spec.statics, net.family = family) := by
  have hpeers : (∀ family, (∀ peer ∈ i.peers family, peer.family = family) ∧
      (i.peers family ≠ [] → ∃ net ∈ spec.statics, net.family = family)) ↔
      spec.validatePeers .v4 i.peers4 = .ok () ∧ spec.validatePeers .v6 i.peers6 = .ok () := by
    rw [validatePeers_eq_ok_iff, validatePeers_eq_ok_iff]
    exact ⟨fun h => ⟨h .v4, h .v6⟩, fun h => fun | .v4 => h.1 | .v6 => h.2⟩
  rw [hpeers, validateInstance]
  cases i.vrf with
  | none => simp [check_bind_eq_ok_iff]
  | some name =>
    have hword : IsWord name.toList ↔ _ := isWord_name_iff
    dsimp only
    split
    next hbad =>
      rw [hbad] at hword
      simp [check_bind_eq_ok_iff, hword]
    next hgood =>
      rw [Bool.not_eq_true] at hgood
      simp [check_bind_eq_ok_iff, hword, hgood]

theorem validate_iff : spec.validate = .ok () ↔ spec.IsValid := by
  simp only [validate, forM_eq_ok_iff, validateInstance_eq_ok_iff]
  constructor
  · intro h
    refine ⟨fun vrf hvrf => ?_, fun i hi family => ((h i hi).2 family).1,
      fun i hi family => ((h i hi).2 family).2⟩
    exact (h ⟨some vrf.name, vrf.peers4, vrf.peers6⟩ (by simp [instances, hvrf])).1 _ rfl
  · intro h i hi
    refine ⟨fun name hname => ?_, fun family => ⟨h.family i hi family, h.static i hi family⟩⟩
    rcases List.mem_cons.1 hi with rfl | hi
    · cases hname
    · obtain ⟨vrf, hvrf, rfl⟩ := by simpa using hi
      exact Option.some.inj hname ▸ h.name vrf hvrf

/-! ## The parts of a routing instance -/

/-- The statements of a routing instance about the instance as a whole and about its neighbors. -/
def preamble (spec : RouterSpec) (i : Instance) : List Statement :=
  (spec.routerId.map .routerId).toList ++ [.noDefault .v4, .noDefault .v6, .noImportCheck]
    ++ (distinct i.peers4 ++ distinct i.peers6).map (.remoteAs · spec.remoteAsn)

/-- The statements of a routing instance, without the lines that end it. -/
def body (spec : RouterSpec) (i : Instance) : List Statement :=
  .router spec.asn i.vrf :: (spec.preamble i ++
    (spec.familyBlocks .v4 (distinct i.peers4) ++ spec.familyBlocks .v6 (distinct i.peers6)))

theorem instanceBlock_eq (spec : RouterSpec) (i : Instance) :
    spec.instanceBlock i = spec.body i ++ .endRouter :: [.endMark] := by
  simp [instanceBlock, body, preamble]

theorem mem_activation_iff {peer : Ip} {s : Statement} :
    s ∈ spec.activation peer ↔ spec.isInternal = true ∧ s = .reflectorClient peer ∨
      s = .activate peer ∨ s = .nextHopSelf peer := by
  rw [activation]
  split <;> simp_all

/-- What can be said in the blocks about a family. -/
theorem mem_familyBlocks {peers : List Ip} {s : Statement} (h : s ∈ spec.familyBlocks family peers) :
    s = .separator ∨ s = .addressFamily family ∨ s = .endFamily ∨
      (∃ net ∈ spec.staticsOf family, s = .network net) ∨
      ∃ peer ∈ peers, s ∈ spec.activation peer := by
  rw [familyBlocks] at h
  split at h
  · cases h
  · simp only [List.mem_append, List.mem_cons, List.mem_map, List.mem_flatMap, List.not_mem_nil,
      or_false] at h
    grind

/-- The block that originates the networks of the family. -/
def originating (spec : RouterSpec) (family : Family) : List Statement :=
  .addressFamily family :: (spec.staticsOf family).map .network

/-- The block that activates the neighbors of the family. -/
def activating (spec : RouterSpec) (family : Family) (peers : List Ip) : List Statement :=
  .addressFamily family :: peers.flatMap spec.activation

theorem blocksAbout?_familyBlocks (peers : List Ip) (rest : List Statement) :
    blocksAbout? family (spec.familyBlocks family peers ++ rest) = (blocksAbout? family rest).map
      ((if peers = [] then [] else [spec.originating family, spec.activating family peers]) ++ ·) := by
  by_cases hpeers : peers = []
  · simp [familyBlocks, hpeers]
  have hacts : ∀ s ∈ peers.flatMap spec.activation, s ≠ .addressFamily family ∧ s ≠ .endFamily := by
    simp only [List.mem_flatMap, mem_activation_iff]
    rintro s ⟨peer, -, ⟨-, rfl⟩ | rfl | rfl⟩
    all_goals exact ⟨nofun, nofun⟩
  have hshape : spec.familyBlocks family peers ++ rest =
      [.separator] ++ (spec.originating family ++ .endFamily ::
        ([.separator] ++ (spec.activating family peers ++ .endFamily :: rest))) := by
    simp [familyBlocks, hpeers, originating, activating]
  rw [hshape, blocksAbout?_append (by simp), originating, blocksAbout?_block (by simp) (by simp),
    blocksAbout?_append (by simp), activating,
    blocksAbout?_block (fun h => (hacts _ h).1 rfl) (fun h => (hacts _ h).2 rfl), if_neg hpeers,
    Option.map_map]
  rfl

/-- The blocks about one family are not about the other. -/
theorem addressFamily_not_mem {other : Family} (hne : family ≠ other) (peers : List Ip) :
    .addressFamily family ∉ spec.familyBlocks other peers := by
  intro hmem
  rcases mem_familyBlocks hmem with h | h | h | ⟨net, -, h⟩ | ⟨peer, -, h⟩
  all_goals simp_all [mem_activation_iff]

theorem addressFamily_not_mem_preamble :
    .addressFamily family ∉ .router spec.asn i.vrf :: spec.preamble i := by
  simp [preamble]

/-- The blocks about a family that are in a routing instance. -/
theorem blocksAbout?_body (spec : RouterSpec) (i : Instance) (family : Family) :
    blocksAbout? family (spec.body i) = some
      (if i.peers family = [] then [] else
        [spec.originating family, spec.activating family (distinct (i.peers family))]) := by
  rw [body, ← List.cons_append, blocksAbout?_append addressFamily_not_mem_preamble]
  cases family with
  | v4 =>
    rw [blocksAbout?_familyBlocks, blocksAbout?_eq_nil (addressFamily_not_mem (by decide) _),
      Option.map_some, List.append_nil]
    simp only [distinct_eq_nil_iff]
    rfl
  | v6 =>
    rw [blocksAbout?_append (addressFamily_not_mem (by decide) _),
      ← List.append_nil (spec.familyBlocks _ _), blocksAbout?_familyBlocks,
      blocksAbout?_eq_nil List.not_mem_nil, Option.map_some, List.append_nil]
    simp only [distinct_eq_nil_iff]
    rfl

/-! ## What is said in a routing instance -/

/-- The statements exchange routes with the peers, each once, and with nobody else. -/
structure Activates (spec : RouterSpec) (peers : List Ip) (acts : List Statement) : Prop where
  activated : acts.filterMap activated? = peers
  served : acts.filterMap servedAsNextHop? = peers
  /-- Only peers of the router's own system get the routes of the others. -/
  reflected : acts.filterMap reflected? = if spec.remoteAsn = spec.asn then peers else []
  only : ∀ s ∈ acts, ∃ peer ∈ peers,
    s = .activate peer ∨ s = .nextHopSelf peer ∨ s = .reflectorClient peer

/-- The statements are about the routing instance. -/
structure Configures (spec : RouterSpec) (i : Instance) (stmts : List Statement) : Prop where
  head : stmts.head? = some (.router spec.asn i.vrf)
  neighbors : stmts.filterMap neighbor? =
    (distinct i.peers4 ++ distinct i.peers6).map (·, spec.remoteAsn)
  /-- No neighbor is named twice. -/
  once : (distinct i.peers4 ++ distinct i.peers6).Nodup
  /-- No neighbor is left out. -/
  activated : stmts.filterMap activated? = (stmts.filterMap neighbor?).map Prod.fst
  blocks : ∀ family, i.peers family ≠ [] → spec.staticsOf family ≠ [] ∧
    ∃ acts, spec.Activates (distinct (i.peers family)) acts ∧ blocksAbout? family stmts = some
      [.addressFamily family :: (spec.staticsOf family).map .network, .addressFamily family :: acts]
  /-- Nothing is said about a family without peers. -/
  silent : ∀ family, i.peers family = [] →
    .addressFamily family ∉ stmts ∧ ∀ net, .network net ∈ stmts → net.family ≠ family

theorem filterMap_activations {f : Statement → Option Ip} {peers : List Ip}
    (h : ∀ peer, (spec.activation peer).filterMap f = [peer]) :
    (peers.flatMap spec.activation).filterMap f = peers := by
  induction peers with
  | nil => rfl
  | cons peer peers ih => simp [h, ih]

theorem activates_activations (spec : RouterSpec) (peers : List Ip) :
    spec.Activates peers (peers.flatMap spec.activation) where
  activated := filterMap_activations fun peer => by
    rw [activation]
    split <;> rfl
  served := filterMap_activations fun peer => by
    rw [activation]
    split <;> rfl
  reflected := by
    split
    next h => exact filterMap_activations fun peer => by simp [activation, isInternal, h, reflected?]
    next h =>
      simp only [List.filterMap_eq_nil_iff, List.mem_flatMap]
      rintro s ⟨peer, -, hs⟩
      rcases mem_activation_iff.1 hs with ⟨hinternal, -⟩ | rfl | rfl
      · exact absurd (by simpa [isInternal] using hinternal) h
      · rfl
      · rfl
  only := by
    simp only [List.mem_flatMap]
    rintro s ⟨peer, hpeer, hs⟩
    refine ⟨peer, hpeer, ?_⟩
    rcases mem_activation_iff.1 hs with ⟨-, rfl⟩ | rfl | rfl
    all_goals simp

theorem filterMap_neighbor_familyBlocks (spec : RouterSpec) (family : Family) (peers : List Ip) :
    (spec.familyBlocks family peers).filterMap neighbor? = [] := by
  rw [List.filterMap_eq_nil_iff]
  intro s hs
  rcases mem_familyBlocks hs with rfl | rfl | rfl | ⟨net, -, rfl⟩ | ⟨peer, -, hact⟩
  case inr.inr.inr.inr => rcases mem_activation_iff.1 hact with ⟨-, rfl⟩ | rfl | rfl <;> rfl
  all_goals rfl

theorem filterMap_neighbor_body (spec : RouterSpec) (i : Instance) :
    (spec.body i).filterMap neighbor? =
      (distinct i.peers4 ++ distinct i.peers6).map (·, spec.remoteAsn) := by
  have hid : (spec.routerId.map Statement.routerId).toList.filterMap neighbor? = [] := by
    cases spec.routerId <;> rfl
  simp [body, preamble, hid, filterMap_neighbor_familyBlocks, List.filterMap_cons, neighbor?,
    List.filterMap_map, Function.comp_def]

/-- What only the activation of a peer tells is told of all peers in turn. -/
theorem filterMap_body_of_activation {f : Statement → Option Ip}
    (hf : ∀ s, (∀ peer, s ∉ [.reflectorClient peer, .activate peer, .nextHopSelf peer]) → f s = none)
    (i : Instance) :
    (spec.body i).filterMap f =
      ((distinct i.peers4 ++ distinct i.peers6).flatMap spec.activation).filterMap f := by
  have hfamily : ∀ family peers, (spec.familyBlocks family peers).filterMap f =
      (peers.flatMap spec.activation).filterMap f := by
    intro family peers
    have hnets : ((spec.staticsOf family).map Statement.network).filterMap f = [] := by
      simp [hf]
    by_cases hpeers : peers = []
    · simp [familyBlocks, hpeers]
    · simp [familyBlocks, hpeers, hnets, hf]
  have hpreamble : (spec.preamble i).filterMap f = [] := by
    rw [List.filterMap_eq_nil_iff]
    intro s hs
    refine hf s fun peer => ?_
    simp only [preamble, List.mem_append, Option.mem_toList, Option.map_eq_some_iff, List.mem_cons,
      List.mem_map, List.not_mem_nil, or_false] at hs ⊢
    grind
  rw [body, List.filterMap_cons, hf _ (by simp), List.filterMap_append, List.filterMap_append,
    hpreamble, hfamily, hfamily, List.nil_append, List.flatMap_append, List.filterMap_append]

theorem filterMap_activated_body (spec : RouterSpec) (i : Instance) :
    (spec.body i).filterMap activated? = distinct i.peers4 ++ distinct i.peers6 := by
  rw [filterMap_body_of_activation fun s hs => ?_, (spec.activates_activations _).activated]
  cases s with
  | activate peer => exact absurd (by simp) (hs peer)
  | _ => rfl

/-- Routes are reflected to all neighbors or to none. -/
theorem filterMap_reflected_body (spec : RouterSpec) (i : Instance) :
    (spec.body i).filterMap reflected? =
      if spec.remoteAsn = spec.asn then distinct i.peers4 ++ distinct i.peers6 else [] := by
  rw [filterMap_body_of_activation fun s hs => ?_, (spec.activates_activations _).reflected]
  cases s with
  | reflectorClient peer => exact absurd (by simp) (hs peer)
  | _ => rfl

/-- What can be said in a routing instance after its first line. -/
theorem mem_tail_body {s : Statement} (h : s ∈ (spec.body i).tail) :
    s ∈ spec.preamble i ∨ ∃ family, s ∈ spec.familyBlocks family (distinct (i.peers family)) := by
  simp only [body, List.tail_cons, List.mem_append] at h
  exact h.imp_right fun | .inl h => ⟨.v4, h⟩ | .inr h => ⟨.v6, h⟩

theorem family_of_mem_staticsOf {net : Subnet} (h : net ∈ spec.staticsOf family) :
    net.family = family := by
  simp only [staticsOf, mem_distinct, List.mem_map, List.mem_filter, beq_iff_eq] at h
  obtain ⟨given, ⟨-, hgiven⟩, rfl⟩ := h
  rw [Subnet.family_trunc, hgiven]

theorem peers_ne_nil_of_mem_familyBlocks {peers : List Ip} {s : Statement}
    (h : s ∈ spec.familyBlocks family (distinct peers)) : peers ≠ [] := by
  rintro rfl
  cases h

/-- A family is spoken of in its own blocks. -/
theorem peers_ne_nil_of_addressFamily_mem (h : .addressFamily family ∈ spec.body i) :
    i.peers family ≠ [] := by
  obtain h | ⟨other, h⟩ := mem_tail_body ((List.mem_cons.1 h).resolve_left nofun)
  · exact absurd (List.mem_cons_of_mem _ h) addressFamily_not_mem_preamble
  · obtain rfl : family = other := Decidable.byContradiction fun hne => addressFamily_not_mem hne _ h
    exact peers_ne_nil_of_mem_familyBlocks h

/-- A network is originated in the blocks of its family. -/
theorem peers_ne_nil_of_network_mem {net : Subnet} (h : .network net ∈ spec.body i) :
    i.peers net.family ≠ [] := by
  obtain h | ⟨family, h⟩ := mem_tail_body ((List.mem_cons.1 h).resolve_left nofun)
  · simp [preamble] at h
  · have hne := peers_ne_nil_of_mem_familyBlocks h
    have hnet : net ∈ spec.staticsOf family := by
      simpa [mem_activation_iff] using mem_familyBlocks h
    rwa [family_of_mem_staticsOf hnet]

theorem nodup_peers (h : spec.IsValid) (hi : i ∈ spec.instances) :
    (distinct i.peers4 ++ distinct i.peers6).Nodup := by
  refine List.nodup_append.2 ⟨nodup_distinct _, nodup_distinct _, ?_⟩
  rintro peer h4 _ h6 rfl
  have hfamily : Family.v4 = Family.v6 :=
    (h.family i hi .v4 peer (mem_distinct.1 h4)).symm.trans
      (h.family i hi .v6 peer (mem_distinct.1 h6))
  cases hfamily

theorem configures (h : spec.IsValid) (hi : i ∈ spec.instances) :
    spec.Configures i (spec.body i) where
  head := rfl
  neighbors := filterMap_neighbor_body spec i
  once := nodup_peers h hi
  activated := by
    rw [filterMap_activated_body, filterMap_neighbor_body, List.map_map]
    exact (List.map_id _).symm
  blocks family hpeers := by
    refine ⟨staticsOf_ne_nil_iff.2 (h.static i hi family hpeers), _,
      spec.activates_activations _, ?_⟩
    rw [blocksAbout?_body, if_neg hpeers]
    rfl
  silent family hpeers :=
    ⟨fun hmem => peers_ne_nil_of_addressFamily_mem hmem hpeers,
      fun net hmem hnet => peers_ne_nil_of_network_mem hmem (hnet ▸ hpeers)⟩

/-! ## The configuration file -/

/-- No line of a routing instance but the first starts one or ends it, or has a name in it. -/
theorem plain_of_mem_tail_body {s : Statement} (h : s ∈ (spec.body i).tail) :
    startsInstance s = false ∧ s ≠ .endRouter ∧ s.IsPlain := by
  obtain h | ⟨family, h⟩ := mem_tail_body h
  · have hsome : (∃ id, s = .routerId id) ∨ (∃ family, s = .noDefault family) ∨
        s = .noImportCheck ∨ ∃ peer, s = .remoteAs peer spec.remoteAsn := by
      simp only [preamble, List.mem_append, Option.mem_toList, Option.map_eq_some_iff,
        List.mem_cons, List.mem_map] at h
      grind
    rcases hsome with ⟨id, rfl⟩ | ⟨family, rfl⟩ | rfl | ⟨peer, rfl⟩
    all_goals exact ⟨rfl, nofun, trivial⟩
  · rcases mem_familyBlocks h with rfl | rfl | rfl | ⟨net, -, rfl⟩ | ⟨peer, -, hact⟩
    case inr.inr.inr.inr =>
      rcases mem_activation_iff.1 hact with ⟨-, rfl⟩ | rfl | rfl
      all_goals exact ⟨rfl, nofun, trivial⟩
    all_goals exact ⟨rfl, nofun, trivial⟩

theorem instancesIn?_blocks (spec : RouterSpec) (instances : List Instance) :
    instancesIn? (instances.flatMap spec.instanceBlock) = some (instances.map spec.body) := by
  induction instances with
  | nil => rfl
  | cons i instances ih =>
    have hshape : (i :: instances).flatMap spec.instanceBlock =
        .router spec.asn i.vrf :: (spec.body i).tail ++ .endRouter ::
          ([.endMark] ++ instances.flatMap spec.instanceBlock) := by
      simp [instanceBlock_eq, body]
    rw [hshape, instancesIn?, sections?_section rfl rfl (fun s hs => (plain_of_mem_tail_body hs).1)
      fun hmem => (plain_of_mem_tail_body hmem).2.1 rfl,
      sections?_append_of_not_opens (by simp [startsInstance])]
    exact congrArg (Option.map (spec.body i :: ·)) ih

/-- The routing instances of a configuration are those of the router. -/
theorem instancesIn?_document (spec : RouterSpec) :
    instancesIn? spec.document = some (spec.instances.map spec.body) :=
  spec.instancesIn?_blocks spec.instances

theorem document_eq (spec : RouterSpec) :
    spec.document = (spec.instances.map spec.body).flatMap (· ++ [.endRouter, .endMark]) := by
  rw [List.flatMap_map, document]
  exact congrArg (spec.instances.flatMap ·) (funext spec.instanceBlock_eq)

theorem isPlain_of_mem_document (h : spec.IsValid) : ∀ s ∈ spec.document, s.IsPlain := by
  have hhead : ∀ i ∈ spec.instances, (Statement.router spec.asn i.vrf).IsPlain := by
    intro i hi
    rcases List.mem_cons.1 hi with rfl | hi
    · trivial
    · obtain ⟨vrf, hvrf, rfl⟩ := by simpa using hi
      exact h.name vrf hvrf
  simp only [document, List.mem_flatMap, instanceBlock_eq, List.mem_append, List.mem_cons,
    List.not_mem_nil, or_false]
  rintro s ⟨i, hi, hs | rfl | rfl⟩
  · rcases List.mem_cons.1 hs with rfl | hs
    · exact hhead i hi
    · exact (plain_of_mem_tail_body hs).2.2
  · trivial
  · trivial

theorem render_eq_ok_iff {text : String} :
    spec.render = .ok text ↔ spec.IsValid ∧ lines spec.document = text := by
  rw [render, check_bind_eq_ok_iff, validate_iff]
  simp [pure, Except.pure]

/-- The configuration is given when the router can be configured. It is read as one section for each
routing instance, each with the line that ends it, and nothing else is said. -/
theorem render_structure (spec : RouterSpec) :
    ((∃ text, spec.render = .ok text) ↔ spec.IsValid) ∧
      ∀ text, spec.render = .ok text → ∃ doc instances, ofText? text = some doc ∧
        instancesIn? doc = some instances ∧
        doc = instances.flatMap (· ++ [.endRouter, .endMark]) ∧
        List.Forall₂ spec.Configures spec.instances instances := by
  refine ⟨?_, ?_⟩
  · simp [render_eq_ok_iff]
  intro text htext
  obtain ⟨hvalid, rfl⟩ := render_eq_ok_iff.1 htext
  refine ⟨spec.document, _, ofText?_lines (isPlain_of_mem_document hvalid),
    spec.instancesIn?_document, spec.document_eq, ?_⟩
  rw [List.forall₂_map_right_iff, List.forall₂_same]
  exact fun i hi => configures hvalid hi

/-- A router with peers of both families and one peer in a VRF. -/
theorem render_structure_of_two_instances :
    let spec := ((ofConfig {}).withPeers
      [.v4 ⟨192, 0, 2, 11⟩, .v6 ⟨0x2001, 0xDB8, 0, 0, 0, 0, 0, 11⟩]).withVrf
        ⟨"red", [.v4 ⟨192, 0, 2, 11⟩], []⟩
    ∃ text doc default red, spec.render = .ok text ∧ ofText? text = some doc ∧
      instancesIn? doc = some [default, red] ∧
      spec.Configures ⟨none, spec.peers4, spec.peers6⟩ default ∧
      spec.Configures ⟨some "red", [.v4 ⟨192, 0, 2, 11⟩], []⟩ red := by
  intro spec
  obtain ⟨hok, hread⟩ := render_structure spec
  obtain ⟨text, htext⟩ := hok.2 (validate_iff.1 (by decide))
  obtain ⟨doc, instances, hdoc, hread, -, hinstances⟩ := hread text htext
  obtain ⟨default, rest, hdefault, hrest, rfl⟩ := List.forall₂_cons_left_iff.1 hinstances
  obtain ⟨red, rest, hred, hnil, rfl⟩ := List.forall₂_cons_left_iff.1 hrest
  obtain rfl := List.forall₂_nil_left_iff.1 hnil
  exact ⟨text, doc, default, red, htext, hdoc, hread, hdefault, hred⟩

end RouterSpec

end RouteWatch
