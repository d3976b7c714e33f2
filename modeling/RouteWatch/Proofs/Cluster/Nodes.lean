import Mathlib.Data.List.Nodup
import RouteWatch.Cluster.Objects
import RouteWatch.Proofs.Items
import RouteWatch.Proofs.Json.RoundTrip
import RouteWatch.Proofs.NetworkName
import RouteWatch.Proofs.Node

/-!
# The nodes that the cluster prints

What is printed of a node is read in three layers: the node itself, the addresses in its status, and
the annotation with its subnets, which is JSON within a string. The annotation is seen as the texts
under each key, so that a single text and a list of one are the same from there on. A node is made
by calls, of which the addresses never fail and the subnets fail if two are for the same place;
places differ for different keys, since a network is read from one key only.

* `Node.Listing.Shows`, `Node.Listing.Faulty`: what the node must be, and why there may be none;
* `Node.foldlM_assignSubnet_eq_ok_iff`: assignments one after the other;
* `Node.Listing.toNode_eq_ok_iff_shows`: one listed node;
* `Node.ofJson_listed`: all of them.
-/

namespace RouteWatch

/-! ## The annotation -/

/-- The value is these texts: a list of strings, or one string, which stands for itself alone. -/
inductive Json.Holds : Json → List String → Prop
  | one (text : String) : Holds (.text text) [text]
  | many (texts : List String) : Holds (.ofTexts texts) texts

/-- The text is a map of texts, with these under its names in the order in which they are
written. -/
def Json.MapsTo (text : String) (entries : List (String × List String)) : Prop :=
  ∃ fields, Json.parse? text = some (.object fields) ∧
    List.Forall₂ (fun field entry => field.1 = some entry.1 ∧ field.2.Holds entry.2) fields entries

theorem Json.string?_eq_some_iff {j : Json} {s : String} : j.string? = some s ↔ j = .text s := by
  cases j <;> simp [string?, text]

theorem Json.oneOrMany?_eq_some_iff {j : Json} {texts : List String} :
    j.oneOrMany? = some texts ↔ j.Holds texts := by
  have hmany : ∀ items : List Json, items.mapM string? = some texts ↔ items = texts.map text := by
    intro items
    rw [mapM_eq_some_iff, ← List.forall₂_eq_eq_eq, List.forall₂_map_right_iff]
    simp only [string?_eq_some_iff]
  constructor
  · intro h
    cases j with
    | string s =>
      obtain ⟨s, rfl, rfl⟩ := Option.map_eq_some_iff.1 h
      exact .one s
    | array items =>
      rw [(hmany items).1 h]
      exact .many texts
    | null | bool | number | object => cases h
  · intro h
    cases h with
    | one s => rfl
    | many texts => exact (hmany _).2 rfl

theorem Cluster.readable_eq_ok_iff {α : Type} {what value : String} {a? : Option α} {a : α} :
    Cluster.readable what value a? = .ok a ↔ a? = some a := by
  cases a? <;> simp [Cluster.readable]

theorem Cluster.readJson_eq_ok_iff {α : Type} {value? : Json → Option α} {text : String} {a : α} :
    Cluster.readJson value? text = .ok a ↔ (Json.parse? text).bind value? = some a := by
  rw [Cluster.readJson]
  cases (Json.parse? text).bind value? <;> simp

namespace Node

theorem readJson_subnetTable?_eq_ok_iff {text : String} {table : Table String (List String)} :
    Cluster.readJson subnetTable? text = .ok table ↔
      ∃ entries, Json.MapsTo text entries ∧ table = Table.ofList entries := by
  have hentries : ∀ (fields : List (Option String × Json)) (entries : List (String × List String)),
      (fields.mapM fun f => do return (← f.1, ← f.2.oneOrMany?)) = some entries ↔
        List.Forall₂ (fun field entry => field.1 = some entry.1 ∧ field.2.Holds entry.2)
          fields entries := by
    intro fields entries
    rw [mapM_eq_some_iff]
    have hfield : ∀ (field : Option String × Json) (entry : String × List String),
        (do return (← field.1, ← field.2.oneOrMany?) : Option (String × List String)) = some entry ↔
          field.1 = some entry.1 ∧ field.2.Holds entry.2 := by
      intro field entry
      rw [← Json.oneOrMany?_eq_some_iff]
      cases field.1 <;> cases field.2.oneOrMany? <;> simp [Prod.ext_iff]
    simp only [hfield]
  rw [Cluster.readJson_eq_ok_iff, Option.bind_eq_some_iff]
  constructor
  · rintro ⟨j, hj, htable⟩
    cases j with
    | object fields =>
      obtain ⟨entries, hmap, htable⟩ := Option.bind_eq_some_iff.1 htable
      exact ⟨entries, ⟨fields, hj, (hentries fields entries).1 hmap⟩, (Option.some.inj htable).symm⟩
    | null | bool | number | string | array => cases htable
  · rintro ⟨entries, ⟨fields, hj, hmap⟩, rfl⟩
    refine ⟨_, hj, ?_⟩
    rw [subnetTable?, (hentries fields entries).2 hmap]
    rfl

/-! ## What is listed of a node -/

namespace Listing

/-- The texts of the addresses of the node within the cluster. -/
def insideTexts (l : Listing) : List String :=
  (l.addresses.filter (·.1 == "InternalIP")).map (·.2)

/-- The annotation of the node has the texts under the key. Of fields with one key the last one
counts. -/
def Lists (l : Listing) (key : String) (texts : List String) : Prop :=
  ∃ annotation entries, l.annotations.get? subnetsAnnotation = some annotation ∧
    Json.MapsTo annotation entries ∧ entries.reverse.lookup key = some texts

/-- The node is the listed one. -/
structure Shows (l : Listing) (node : Node) : Prop where
  name : node.name = l.name
  /-- Of the addresses within the cluster, the first one of each family counts. -/
  address (family : Family) :
    node.address? family = (l.insideTexts.filterMap Ip.parse?).find? (·.family = family)
  /-- Only keys that name a network count. -/
  subnet (network : NetworkName) (family : Family) (subnet : Subnet) :
    node.subnet? network family = some subnet ↔
      ∃ key texts, NetworkName.ofKey? key = some network ∧ l.Lists key texts ∧
        ∃ net ∈ texts.filterMap Subnet.parse?, net.family = family ∧ subnet = net.trunc

/-- No node can be made of the listed one. -/
inductive Faulty (l : Listing) : Prop
  /-- An address within the cluster is none. -/
  | address {text : String} (hmem : text ∈ l.insideTexts) (h : Ip.parse? text = none)
  /-- The annotation is no map of texts. -/
  | unreadable {text : String} (hget : l.annotations.get? subnetsAnnotation = some text)
      (h : ¬ ∃ entries, Json.MapsTo text entries)
  /-- A text under the key of a network is no subnet. -/
  | subnet {key : String} {texts : List String} {text : String}
      (hkey : (NetworkName.ofKey? key).isSome) (hlists : l.Lists key texts) (hmem : text ∈ texts)
      (h : Subnet.parse? text = none)
  /-- Under the key of a network there are two subnets of one family. -/
  | repetition {key : String} {texts : List String} (hkey : (NetworkName.ofKey? key).isSome)
      (hlists : l.Lists key texts)
      (h : ¬ ((texts.filterMap Subnet.parse?).map Subnet.family).Nodup)

end Listing

/-! ## Assignments one after the other -/

/-- What a subnet in a network is for. -/
def place (s : NetworkName × Subnet) : SubnetKey :=
  ⟨s.1, s.2.family⟩

/-- The subnets are assigned if none is for what another one, or one of the node, is for. -/
theorem foldlM_assignSubnet_eq_ok_iff {subnets : List (NetworkName × Subnet)} {node final : Node} :
    subnets.foldlM (fun node s => (node.assignSubnet s.1 s.2).mapError ClusterError.topology) node
        = .ok final ↔
      ((subnets.map place).Nodup ∧ ∀ s ∈ subnets, node.subnet? s.1 s.2.family = none) ∧
        final = node.after (subnets.map fun s => .assignSubnet s.1 s.2) := by
  induction subnets generalizing node with
  | nil =>
    rw [List.foldlM_nil]
    simp [after, pure, Except.pure, eq_comm]
  | cons s subnets ih =>
    rw [List.foldlM_cons]
    cases hplace : node.subnet? s.1 s.2.family with
    | some existing =>
      rw [assignSubnet, assign_of_some hplace]
      simp [hplace, Except.mapError, bind, Except.bind]
    | none =>
      obtain ⟨next, hnext, -, -, hsubnet⟩ := exists_assign_eq_ok hplace
      have hafter : node.next (.assignSubnet s.1 s.2) = next := by
        rw [Node.next, NodeCall.run, hnext]
      -- the assignment takes its own place and no other one
      have hfree : ∀ other : NetworkName × Subnet, next.subnet? other.1 other.2.family = none ↔
          place s ≠ place other ∧ node.subnet? other.1 other.2.family = none := by
        intro other
        rw [hsubnet, place, place, Ne, SubnetKey.mk.injEq]
        by_cases h : s.1 = other.1 ∧ s.2.family = other.2.family
        · simp [h]
        · simp [h]
      rw [assignSubnet, hnext]
      refine (@ih next).trans ?_
      rw [List.map_cons, List.nodup_cons, List.map_cons, after, after, List.foldl_cons, hafter,
        List.forall_mem_cons]
      simp only [hfree, hplace, true_and, List.mem_map, not_exists, not_and]
      constructor
      · rintro ⟨⟨hnodup, hrest⟩, rfl⟩
        exact ⟨⟨⟨fun other hother h => (hrest other hother).1 h.symm, hnodup⟩,
          fun other hother => (hrest other hother).2⟩, rfl⟩
      · rintro ⟨⟨⟨hnew, hnodup⟩, hrest⟩, rfl⟩
        refine ⟨⟨hnodup, fun other hother => ⟨fun h => ?_, hrest other hother⟩⟩, rfl⟩
        exact hnew other hother h.symm

/-! ## One listed node -/

/-- The subnets under the key, if it names a network. -/
def subnetsUnder (entry : String × List String) : List (NetworkName × Subnet) :=
  match NetworkName.ofKey? entry.1 with
  | none => []
  | some network => (entry.2.filterMap Subnet.parse?).map (network, ·)

/-- The key names no network, or all texts under it are subnets. -/
def AllSubnets (entry : String × List String) : Prop :=
  (NetworkName.ofKey? entry.1).isSome → ∀ text ∈ entry.2, (Subnet.parse? text).isSome

theorem subnetsOfTable_eq_ok_iff {table : Table String (List String)}
    {subnets : List (NetworkName × Subnet)} :
    subnetsOfTable table = .ok subnets ↔
      (∀ entry ∈ table.entries, AllSubnets entry) ∧
        subnets = table.entries.flatMap subnetsUnder := by
  have htext : ∀ (network : NetworkName) (text : String) (found : NetworkName × Subnet),
      (network, ·) <$> Cluster.readable "pod subnet" text (Subnet.parse? text) = .ok found ↔
        (Subnet.parse? text).map (network, ·) = some found := by
    intro network text found
    cases Subnet.parse? text <;> simp [Cluster.readable]
  refine mapM_flatten_eq_ok_iff (p := AllSubnets) (g := subnetsUnder) fun entry found => ?_
  obtain ⟨key, texts⟩ := entry
  unfold AllSubnets subnetsUnder
  dsimp only
  cases NetworkName.ofKey? key with
  | none =>
    show Except.ok [] = .ok found ↔ _
    rw [Except.ok.injEq, eq_comm]
    exact (and_iff_right (by simp)).symm
  | some network =>
    dsimp only
    rw [mapM_eq_ok_iff]
    simp only [htext]
    rw [forall₂_eq_some_iff]
    simp [List.map_filterMap]

theorem internalAddresses_eq_ok_iff {l : Listing} {ips : List Ip} :
    l.internalAddresses = .ok ips ↔
      (∀ text ∈ l.insideTexts, (Ip.parse? text).isSome) ∧
        ips = l.insideTexts.filterMap Ip.parse? := by
  rw [Listing.internalAddresses, mapM_eq_ok_iff]
  simp only [Cluster.readable_eq_ok_iff]
  rw [forall₂_eq_some_iff, Listing.insideTexts, List.forall_mem_map, List.filterMap_map]
  rfl

/-- Under the key of a network there is at most one subnet of each family. -/
def NoRepetition (entry : String × List String) : Prop :=
  (NetworkName.ofKey? entry.1).isSome → ((entry.2.filterMap Subnet.parse?).map Subnet.family).Nodup

theorem mem_subnetsUnder_iff {entry : String × List String} {s : NetworkName × Subnet} :
    s ∈ subnetsUnder entry ↔
      NetworkName.ofKey? entry.1 = some s.1 ∧ s.2 ∈ entry.2.filterMap Subnet.parse? := by
  rw [subnetsUnder]
  cases NetworkName.ofKey? entry.1 with
  | none => simp
  | some network =>
    rw [List.mem_map]
    constructor
    · rintro ⟨subnet, hsubnet, rfl⟩
      exact ⟨rfl, hsubnet⟩
    · rintro ⟨hnetwork, hsubnet⟩
      exact ⟨s.2, hsubnet, Prod.ext (Option.some.inj hnetwork) rfl⟩

/-- Subnets are for different things, unless two under one key are of one family: different keys
name different networks. -/
theorem nodup_places_iff (table : Table String (List String)) :
    ((table.entries.flatMap subnetsUnder).map place).Nodup ↔
      ∀ entry ∈ table.entries, NoRepetition entry := by
  have hkeys : table.entries.Pairwise fun a b =>
      (subnetsUnder a).map place |>.Disjoint ((subnetsUnder b).map place) := by
    refine table.sorted.imp fun {a b} hlt => ?_
    intro key ha hb
    obtain ⟨s, hs, rfl⟩ := List.mem_map.1 ha
    obtain ⟨s', hs', hplace⟩ := List.mem_map.1 hb
    have hnetwork : s'.1 = s.1 := congrArg SubnetKey.network hplace
    have hkey : a.1 = b.1 := by
      refine NetworkName.ofKey?_inj (mem_subnetsUnder_iff.1 hs).1 ?_
      rw [← hnetwork]
      exact (mem_subnetsUnder_iff.1 hs').1
    rw [hkey] at hlt
    simp at hlt
  rw [List.map_flatMap, List.nodup_flatMap, and_iff_left hkeys]
  refine forall₂_congr fun entry _ => ?_
  rw [NoRepetition, subnetsUnder]
  cases NetworkName.ofKey? entry.1 with
  | none => simp
  | some network =>
    have hplaces : ((entry.2.filterMap Subnet.parse?).map (network, ·)).map place =
        ((entry.2.filterMap Subnet.parse?).map Subnet.family).map (SubnetKey.mk network) := by
      rw [List.map_map, List.map_map]
      rfl
    dsimp only
    rw [hplaces, List.nodup_map_iff (fun _ _ h => (SubnetKey.mk.inj h).2)]
    simp

namespace Listing

variable {l : Listing} {table : Table String (List String)}

/-- The table of the annotation of the node; a node without the annotation has an empty one. -/
inductive HasTable (l : Listing) : Table String (List String) → Prop
  | missing (h : l.annotations.get? subnetsAnnotation = none) : HasTable l ∅
  | read {text : String} {entries : List (String × List String)}
      (h : l.annotations.get? subnetsAnnotation = some text)
      (hmap : Json.MapsTo text entries) : HasTable l (Table.ofList entries)

theorem HasTable.lists_iff {key : String} {texts : List String} (h : l.HasTable table) :
    l.Lists key texts ↔ table.get? key = some texts := by
  cases h with
  | missing hnone =>
    constructor
    · rintro ⟨text, -, hsome, -⟩
      rw [hnone] at hsome
      cases hsome
    · intro hget
      cases hget
  | @read text entries hsome hmap =>
    rw [Table.get?_ofList]
    constructor
    · rintro ⟨text', entries', hsome', hmap', hlookup⟩
      obtain rfl := Option.some.inj (hsome.symm.trans hsome')
      have hread := readJson_subnetTable?_eq_ok_iff.2 ⟨entries, hmap, rfl⟩
      have hread' := readJson_subnetTable?_eq_ok_iff.2 ⟨entries', hmap', rfl⟩
      have htable := Except.ok.inj (hread.symm.trans hread')
      rw [← Table.get?_ofList, htable, Table.get?_ofList]
      exact hlookup
    · exact fun hlookup => ⟨text, entries, hsome, hmap, hlookup⟩

/-- Only an annotation that is no map of texts keeps a node from having a table. -/
theorem exists_hasTable_iff :
    (∃ table, l.HasTable table) ↔
      ∀ annotation, l.annotations.get? subnetsAnnotation = some annotation →
        ∃ entries, Json.MapsTo annotation entries := by
  constructor
  · rintro ⟨table, htable⟩ annotation hsome
    cases htable with
    | missing hnone =>
      rw [hnone] at hsome
      cases hsome
    | read hsome' hmap =>
      obtain rfl := Option.some.inj (hsome.symm.trans hsome')
      exact ⟨_, hmap⟩
  · intro h
    cases hget : l.annotations.get? subnetsAnnotation with
    | none => exact ⟨∅, .missing hget⟩
    | some annotation =>
      obtain ⟨entries, hmap⟩ := h annotation hget
      exact ⟨_, .read hget hmap⟩

theorem subnets_eq_ok_iff {subnets : List (NetworkName × Subnet)} :
    l.subnets = .ok subnets ↔
      ∃ table, l.HasTable table ∧ (∀ entry ∈ table.entries, AllSubnets entry) ∧
        subnets = table.entries.flatMap subnetsUnder := by
  unfold Listing.subnets
  cases hget : l.annotations.get? subnetsAnnotation with
  | none =>
    constructor
    · intro h
      cases h
      exact ⟨∅, .missing hget, List.forall_mem_nil _, rfl⟩
    · rintro ⟨table, htable, -, rfl⟩
      cases htable with
      | missing => rfl
      | read hsome =>
        rw [hget] at hsome
        cases hsome
  | some text =>
    have hread : ∀ table, Cluster.readJson subnetTable? text = .ok table ↔ l.HasTable table := by
      intro table
      rw [readJson_subnetTable?_eq_ok_iff]
      constructor
      · rintro ⟨entries, hmap, rfl⟩
        exact .read hget hmap
      · intro htable
        cases htable with
        | missing hnone =>
          rw [hget] at hnone
          cases hnone
        | read hsome hmap =>
          obtain rfl := Option.some.inj (hget.symm.trans hsome)
          exact ⟨_, hmap, rfl⟩
    refine bind_eq_ok_iff.trans ?_
    simp only [hread, subnetsOfTable_eq_ok_iff]

/-! ## The node -/

/-- What is done to a new node to make it the listed one. -/
def calls (ips : List Ip) (subnets : List (NetworkName × Subnet)) : List NodeCall :=
  (ips.find? (·.family == Family.v4)).toList.map .setAddress ++
    (ips.find? (·.family == Family.v6)).toList.map .setAddress ++
    subnets.map fun s => .assignSubnet s.1 s.2

variable {ips : List Ip} {subnets : List (NetworkName × Subnet)}

theorem filterMap_address?_calls (family : Family) :
    (calls ips subnets).filterMap (·.address? family) =
      (ips.find? (·.family == family)).toList := by
  have hfirst : ∀ first : Family,
      ((ips.find? (·.family == first)).toList.map NodeCall.setAddress).filterMap
          (·.address? family) =
        if first = family then (ips.find? (·.family == first)).toList else [] := by
    intro first
    cases hfind : ips.find? (·.family == first) with
    | none => simp
    | some ip =>
      have hip : ip.family = first := by simpa using List.find?_some hfind
      by_cases h : first = family
      · simp [NodeCall.address?, hip, h]
      · simp [NodeCall.address?, hip, h]
  have hsubnets : (subnets.map fun s => NodeCall.assignSubnet s.1 s.2).filterMap
      (·.address? family) = [] := by
    simp [List.filterMap_map, NodeCall.address?]
  rw [calls, List.filterMap_append, List.filterMap_append, hfirst, hfirst, hsubnets]
  cases family <;> simp

theorem findSome?_subnet?_calls (network : NetworkName) (family : Family) :
    (calls ips subnets).findSome? (·.subnet? network family) =
      subnets.findSome? fun s => if place s = ⟨network, family⟩ then some s.2 else none := by
  have hfirst : ∀ found : Option Ip,
      (found.toList.map NodeCall.setAddress).findSome? (·.subnet? network family) = none := by
    intro found
    cases found <;> simp [NodeCall.subnet?]
  rw [calls, List.findSome?_append, List.findSome?_append, hfirst, hfirst, List.findSome?_map]
  simp [NodeCall.subnet?, place, Function.comp_def]

theorem foldl_setAddress (name : String) (ips : List Ip) (subnets : List (NetworkName × Subnet)) :
    let first (family : Family) := (ips.find? (·.family == family)).toList
    ((first .v4 ++ first .v6).foldl setAddress { name := name }).after
        (subnets.map fun s => .assignSubnet s.1 s.2) =
      (fresh name).after (calls ips subnets) := by
  intro first
  rw [calls, after_append, ← List.map_append]
  refine congrArg (after · _) ?_
  rw [after, List.foldl_map]
  rfl

theorem subnet?_foldl_setAddress (ips : List Ip) (node : Node) (network : NetworkName)
    (family : Family) :
    (ips.foldl setAddress node).subnet? network family = node.subnet? network family := by
  induction ips generalizing node with
  | nil => rfl
  | cons ip ips ih => rw [List.foldl_cons, ih, subnet?_setAddress]

/-- A node is made if everything that is listed for it can be read, and no two subnets are for the
same. -/
theorem toNode_eq_ok_iff {node : Node} :
    l.toNode = .ok node ↔
      (∀ text ∈ l.insideTexts, (Ip.parse? text).isSome) ∧
        ∃ table, l.HasTable table ∧
          (∀ entry ∈ table.entries, AllSubnets entry ∧ NoRepetition entry) ∧
          node = (fresh l.name).after
            (calls (l.insideTexts.filterMap Ip.parse?) (table.entries.flatMap subnetsUnder)) := by
  constructor
  · intro h
    obtain ⟨ips, hips, h⟩ := bind_eq_ok_iff.1 h
    obtain ⟨subnets, hsubnets, h⟩ := bind_eq_ok_iff.1 h
    obtain ⟨hall, rfl⟩ := internalAddresses_eq_ok_iff.1 hips
    obtain ⟨table, htable, hentries, rfl⟩ := subnets_eq_ok_iff.1 hsubnets
    obtain ⟨⟨hnodup, -⟩, hnode⟩ := foldlM_assignSubnet_eq_ok_iff.1 h
    rw [nodup_places_iff] at hnodup
    rw [foldl_setAddress] at hnode
    exact ⟨hall, table, htable, fun e he => ⟨hentries e he, hnodup e he⟩, hnode⟩
  · rintro ⟨hall, table, htable, hentries, hnode⟩
    have hsubnets := subnets_eq_ok_iff.2 ⟨table, htable, fun e he => (hentries e he).1, rfl⟩
    refine bind_eq_ok_iff.2 ⟨_, internalAddresses_eq_ok_iff.2 ⟨hall, rfl⟩, ?_⟩
    refine bind_eq_ok_iff.2 ⟨_, hsubnets, foldlM_assignSubnet_eq_ok_iff.2 ?_⟩
    rw [nodup_places_iff, foldl_setAddress]
    exact ⟨⟨fun e he => (hentries e he).2, fun s _ => subnet?_foldl_setAddress _ _ _ _⟩, hnode⟩

/-! ## What the node shows -/

theorem place_eq_iff {s : NetworkName × Subnet} {network : NetworkName} {family : Family} :
    place s = ⟨network, family⟩ ↔ s.1 = network ∧ s.2.family = family := by
  rw [place, SubnetKey.mk.injEq]

theorem findSome?_place_iff (hnodup : (subnets.map place).Nodup) (network : NetworkName)
    (family : Family) (subnet : Subnet) :
    (subnets.findSome? fun s => if place s = ⟨network, family⟩ then some s.2 else none) =
        some subnet ↔
      (network, subnet) ∈ subnets ∧ subnet.family = family := by
  induction subnets with
  | nil => simp
  | cons s subnets ih =>
    obtain ⟨hnew, hrest⟩ := List.nodup_cons.1 hnodup
    rw [List.findSome?_cons]
    by_cases hplace : place s = ⟨network, family⟩
    · have hnot : ∀ subnet, (network, subnet) ∈ subnets → subnet.family ≠ family := by
        intro subnet hmem hfamily
        apply hnew
        rw [hplace, ← place_eq_iff (s := (network, subnet)).2 ⟨rfl, hfamily⟩]
        exact List.mem_map_of_mem hmem
      obtain ⟨rfl, rfl⟩ := place_eq_iff.1 hplace
      rw [if_pos hplace, List.mem_cons]
      constructor
      · intro h
        cases h
        exact ⟨.inl rfl, rfl⟩
      · rintro ⟨h | h, hfamily⟩
        · exact congrArg some (congrArg Prod.snd h).symm
        · exact absurd hfamily (hnot subnet h)
    · have hne : subnet.family = family → (network, subnet) ≠ s := by
        rintro hfamily rfl
        exact hplace (place_eq_iff.2 ⟨rfl, hfamily⟩)
      rw [if_neg hplace, ih hrest, List.mem_cons]
      constructor
      · exact fun h => ⟨.inr h.1, h.2⟩
      · rintro ⟨h | h, hfamily⟩
        · exact absurd h (hne hfamily)
        · exact ⟨h, hfamily⟩

theorem shows_after (htable : l.HasTable table)
    (hentries : ∀ entry ∈ table.entries, AllSubnets entry ∧ NoRepetition entry) :
    l.Shows ((fresh l.name).after
      (calls (l.insideTexts.filterMap Ip.parse?) (table.entries.flatMap subnetsUnder))) where
  name := name_after _ _
  address family := by
    have hnone : (fresh l.name).address? family = none := by cases family <;> rfl
    rw [address?_after, filterMap_address?_calls, hnone, Option.or_none]
    cases (l.insideTexts.filterMap Ip.parse?).find? (·.family == family) <;> rfl
  subnet network family subnet := by
    have hnone : (fresh l.name).subnet? network family = none := rfl
    have hnodup := (nodup_places_iff table).2 fun entry hentry => (hentries entry hentry).2
    rw [subnet?_after, hnone, Option.none_or, findSome?_subnet?_calls, Option.map_eq_some_iff]
    simp only [findSome?_place_iff hnodup, List.mem_flatMap, mem_subnetsUnder_iff]
    constructor
    · rintro ⟨net, ⟨⟨entry, hentry, hkey, hnet⟩, hfamily⟩, rfl⟩
      have hlists := htable.lists_iff.2 ((Table.mem_entries_iff table).1 hentry)
      exact ⟨entry.1, entry.2, hkey, hlists, net, hnet, hfamily, rfl⟩
    · rintro ⟨key, texts, hkey, hlists, net, hnet, hfamily, rfl⟩
      have hentry := (Table.mem_entries_iff table).2 (htable.lists_iff.1 hlists)
      exact ⟨net, ⟨⟨(key, texts), hentry, hkey, hnet⟩, hfamily⟩, rfl⟩

/-- Two nodes that a listed one is are the same. -/
theorem Shows.eq {node node' : Node} (h : l.Shows node) (h' : l.Shows node') : node = node' := by
  have hsubnet : ∀ network family, node.subnet? network family = node'.subnet? network family := by
    intro network family
    apply Option.ext
    intro subnet
    rw [h.subnet, h'.subnet]
  apply eq_of_views
  · rw [h.name, h'.name]
  · intro family
    rw [h.address, h'.address]
  · exact hsubnet

theorem not_faulty_iff :
    ¬ l.Faulty ↔ (∀ text ∈ l.insideTexts, (Ip.parse? text).isSome) ∧
      ∃ table, l.HasTable table ∧
        ∀ entry ∈ table.entries, AllSubnets entry ∧ NoRepetition entry := by
  constructor
  · intro hok
    refine ⟨fun text htext => ?_, ?_⟩
    · rw [← Option.ne_none_iff_isSome]
      exact fun hnone => hok (.address htext hnone)
    · have hmap : ∃ table, l.HasTable table := by
        refine exists_hasTable_iff.2 fun annotation hget => ?_
        by_contra hnot
        exact hok (.unreadable hget hnot)
      obtain ⟨table, htable⟩ := hmap
      refine ⟨table, htable, fun entry hentry => ?_⟩
      have hlists := htable.lists_iff.2 ((Table.mem_entries_iff table).1 hentry)
      constructor
      · intro hkey text htext
        rw [← Option.ne_none_iff_isSome]
        exact fun hnone => hok (.subnet hkey hlists htext hnone)
      · intro hkey
        by_contra hnot
        exact hok (.repetition hkey hlists hnot)
  · rintro ⟨haddresses, table, htable, hentries⟩ hfaulty
    have hentry : ∀ {key texts}, l.Lists key texts →
        AllSubnets (key, texts) ∧ NoRepetition (key, texts) := fun hlists =>
      hentries _ ((Table.mem_entries_iff table).2 (htable.lists_iff.1 hlists))
    cases hfaulty with
    | address htext hnone =>
      have hsome := haddresses _ htext
      rw [hnone] at hsome
      cases hsome
    | unreadable hget hnot => exact hnot (exists_hasTable_iff.1 ⟨table, htable⟩ _ hget)
    | subnet hkey hlists htext hnone =>
      have hsome := (hentry hlists).1 hkey _ htext
      rw [hnone] at hsome
      cases hsome
    | repetition hkey hlists hnot => exact hnot ((hentry hlists).2 hkey)

theorem toNode_eq_ok_iff_shows {node : Node} : l.toNode = .ok node ↔ l.Shows node ∧ ¬ l.Faulty := by
  rw [toNode_eq_ok_iff, not_faulty_iff]
  constructor
  · rintro ⟨haddresses, table, htable, hentries, rfl⟩
    exact ⟨shows_after htable hentries, haddresses, table, htable, hentries⟩
  · rintro ⟨hshows, haddresses, table, htable, hentries⟩
    exact ⟨haddresses, table, htable, hentries, hshows.eq (shows_after htable hentries)⟩

theorem toNode_eq_error_iff : (∃ e, l.toNode = .error e) ↔ l.Faulty := by
  constructor
  · rintro ⟨e, he⟩
    by_contra hok
    obtain ⟨haddresses, table, htable, hentries⟩ := not_faulty_iff.1 hok
    rw [toNode_eq_ok_iff.2 ⟨haddresses, table, htable, hentries, rfl⟩] at he
    cases he
  · intro hfaulty
    cases hnode : l.toNode with
    | error e => exact ⟨e, rfl⟩
    | ok node => exact absurd hfaulty (toNode_eq_ok_iff_shows.1 hnode).2

/-- The listed nodes differ at most in addresses that are not within the cluster. -/
structure AgreesWithin (l l' : Listing) : Prop where
  name : l.name = l'.name
  annotations : l.annotations = l'.annotations
  addresses : l.insideTexts = l'.insideTexts

theorem AgreesWithin.toNode_eq {l' : Listing} (h : l.AgreesWithin l') : l.toNode = l'.toNode := by
  have hread : ∀ l : Listing, l.internalAddresses =
      l.insideTexts.mapM fun text => Cluster.readable "node address" text (Ip.parse? text) := by
    intro l
    rw [insideTexts, List.mapM_map]
    rfl
  unfold toNode subnets
  rw [hread, hread, h.name, h.annotations, h.addresses]

end Listing

/-! ## All listed nodes -/

/-- The nodes that are found are the listed ones in their order. None are found exactly if there is
a listed one of which no node can be made. Addresses outside the cluster do not matter, and neither
can two keys mean one network. -/
theorem ofJson_listed {text : String} {listings : List Listing}
    (h : Cluster.readJson listings? text = .ok listings) :
    (∀ nodes, ofJson text = .ok nodes ↔
      List.Forall₂ Listing.Shows listings nodes ∧ ∀ l ∈ listings, ¬ l.Faulty) ∧
    ((∃ e, ofJson text = .error e) ↔ ∃ l ∈ listings, l.Faulty) ∧
    (∀ text' listings', Cluster.readJson listings? text' = .ok listings' →
      List.Forall₂ Listing.AgreesWithin listings listings' → ofJson text' = ofJson text) ∧
    ∀ key key' network, NetworkName.ofKey? key = some network →
      NetworkName.ofKey? key' = some network → key = key' := by
  have hread : ∀ {text listings}, Cluster.readJson listings? text = .ok listings →
      ofJson text = listings.mapM Listing.toNode := fun h => by
    rw [ofJson, h]
    rfl
  refine ⟨fun nodes => ?_, ?_, fun text' listings' h' hagree => ?_,
    fun _ _ _ => NetworkName.ofKey?_inj⟩
  · rw [hread h, mapM_eq_ok_iff, and_comm, ← List.forall₂_and_left]
    simp only [Listing.toNode_eq_ok_iff_shows, and_comm]
  · rw [hread h, exists_mapM_eq_error_iff]
    simp only [Listing.toNode_eq_error_iff]
  · rw [hread h, hread h']
    clear h h'
    induction hagree with
    | nil => rfl
    | cons hl _ ih => rw [List.mapM_cons, List.mapM_cons, ih, hl.toNode_eq]

/-- An annotation with one subnet, with none under a key that names no network, and with two in a
list. -/
def printedSubnets : Json :=
  .object [(some "default", .text "10.128.3.0/16"), (some "other", .text "none"),
    (some "space_blue", .ofTexts ["10.201.0.0/24", "fd00:201::/64"])]

/-- One node, with an address in the cluster after one that is not. -/
def printedNodes : Json :=
  let metadata : Json := .object [(some "name", .text "worker-0"),
    (some "annotations", .object [(some subnetsAnnotation, .text printedSubnets.compact)])]
  let addresses : Json := .array [
    .object [(some "type", .text "Hostname"), (some "address", .text "worker-0")],
    .object [(some "type", .text "InternalIP"), (some "address", .text "192.0.2.11")]]
  .object [(some "items", .array [.object [(some "metadata", metadata),
    (some "status", .object [(some "addresses", addresses)])]])]

/-- What is listed there. -/
def listedNode : Listing where
  name := "worker-0"
  annotations := Table.empty.insert subnetsAnnotation printedSubnets.compact
  addresses := [("Hostname", "worker-0"), ("InternalIP", "192.0.2.11")]

theorem ofJson_listed_one : Cluster.readJson listings? printedNodes.compact = .ok [listedNode] ∧
    ∃ node, ofJson printedNodes.compact = .ok [node] ∧ listedNode.Shows node ∧
      ¬ listedNode.Faulty := by
  have hlisted : Cluster.readJson listings? printedNodes.compact = .ok [listedNode] := by
    have hplain : printedNodes.IsPlain := by
      simp [printedNodes, Json.isPlain_object_iff, Json.isPlain_array_iff, Json.IsPlain.text]
    rw [Cluster.readJson, Json.parse?_compact hplain]
    rfl
  refine ⟨hlisted, ?_⟩
  cases hnodes : ofJson printedNodes.compact with
  | error e =>
    have hok : listedNode.toNode.isOk := by decide +kernel
    obtain ⟨l, hl, hfaulty⟩ := (ofJson_listed hlisted).2.1.1 ⟨e, hnodes⟩
    obtain rfl := List.mem_singleton.1 hl
    obtain ⟨e, he⟩ := Listing.toNode_eq_error_iff.2 hfaulty
    rw [he] at hok
    cases hok
  | ok nodes =>
    obtain ⟨hshows, hok⟩ := ((ofJson_listed hlisted).1 nodes).1 hnodes
    obtain ⟨node, rest, hnode, hrest, rfl⟩ := List.forall₂_cons_left_iff.1 hshows
    obtain rfl := List.forall₂_nil_left_iff.1 hrest
    exact ⟨node, rfl, hnode, hok _ (List.mem_singleton_self _)⟩

end Node

end RouteWatch
