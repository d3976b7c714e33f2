import RouteWatch.Cluster.Manifest
import RouteWatch.Proofs.Json.RoundTrip

/-!
# Reading manifests

An object that is declared is named in its manifest, where its kind is written otherwise than in
commands. A manifest is looked up by the names of its fields, each of which has one value.

* `FrrConfiguration.isPlain_manifest`: the manifest of a peering can be written and read;
* `FrrConfiguration.ofManifest?_manifest`: it names the object that is declared.
-/

namespace RouteWatch

namespace Json

/-- The value under the name. -/
def field? (name : String) : Json → Option Json
  | .object fields => (fields.find? (·.1 == some name)).map (·.2)
  | _ => none

theorem field?_map (name : String) (fields : List (String × Json)) :
    (map fields).field? name = (Table.ofList fields).get? name := by
  have hfind : ∀ entries : List (String × Json),
      ((entries.map fun e => (some e.1, e.2)).find? (·.1 == some name)).map (·.2) =
        (entries.find? fun e => compare name e.1 == .eq).map (·.2) := by
    intro entries
    induction entries with
    | nil => rfl
    | cons e entries ih =>
      by_cases h : name = e.1
      · simp [h]
      · have h' : e.1 ≠ name := Ne.symm h
        simpa [List.find?_cons, h, h'] using ih
  exact hfind _

theorem isPlain_map {fields : List (String × Json)} (h : ∀ f ∈ fields, IsPlain f.2) :
    IsPlain (map fields) := by
  have hfold : ∀ (more : List (String × Json)) (t : Table String Json), (∀ f ∈ more, IsPlain f.2) →
      (∀ e ∈ t.entries, IsPlain e.2) →
      ∀ e ∈ (more.foldl (fun t e => t.insert e.1 e.2) t).entries, IsPlain e.2 := by
    intro more
    induction more with
    | nil => exact fun _ _ ht => ht
    | cons f more ih =>
      intro t hmore ht
      obtain ⟨hf, hmore⟩ := List.forall_mem_cons.1 hmore
      refine ih _ hmore fun e he => ?_
      rcases Table.mem_insertInto he with rfl | he
      · exact hf
      · exact ht e he
  refine .object (List.forall_mem_map.2 fun _ _ => rfl) (List.forall_mem_map.2 ?_)
  exact hfold fields .empty h nofun

theorem isPlain_ofTable (t : Table String String) : IsPlain (ofTable t) :=
  .object (List.forall_mem_map.2 fun _ _ => rfl) (List.forall_mem_map.2 fun _ _ => .text _)

end Json

/-- The name of an object of the cluster. -/
structure ObjectName where
  /-- The kind of the object, as it is named in commands. -/
  kind : String
  name : String
  /-- The namespace, if the object lies in one. -/
  space : Option String
  deriving DecidableEq

namespace ObjectName

/-- The kind as it is named in commands, if it is one of those that are declared. -/
def kind? : String → Option String
  | "FRRConfiguration" => some FrrConfiguration.kind
  | "RouteAdvertisements" => some RouteAdvertisement.kind
  | _ => none

/-- The object that the manifest describes. -/
def ofManifest? (manifest : Json) : Option ObjectName := do
  let kind ← (← manifest.field? "kind").string?
  let metadata ← manifest.field? "metadata"
  let name ← (← metadata.field? "name").string?
  return ⟨← kind? kind, name, (metadata.field? "namespace").bind Json.string?⟩

end ObjectName

/-- The object that the resource is declared as. -/
def Resource.object (r : Resource) : ObjectName :=
  ⟨r.kind, r.name, r.space⟩

namespace FrrConfiguration

theorem isPlain_manifest (c : FrrConfiguration) : c.manifest.IsPlain := by
  have hneighbors : (Json.array (c.neighbors.map c.neighborManifest)).IsPlain := by
    refine .array (List.forall_mem_map.2 fun ip _ => Json.isPlain_map ?_)
    simp [Json.IsPlain.text, Json.IsPlain.nat, Json.IsPlain.bool, Json.isPlain_map]
  have hrouters : (Json.array [.map [("asn", .nat c.asn.toNat),
      ("neighbors", .array (c.neighbors.map c.neighborManifest))]]).IsPlain := by
    refine .array (List.forall_mem_singleton.2 (Json.isPlain_map ?_))
    simp [Json.IsPlain.nat, hneighbors]
  refine Json.isPlain_map ?_
  simp [Json.IsPlain.text, Json.isPlain_map, Json.isPlain_ofTable, hrouters]


theorem ofManifest?_manifest (c : FrrConfiguration) :
    ObjectName.ofManifest? c.manifest = some c.resource.object := by
  have hkind : c.manifest.field? "kind" = some (.text "FRRConfiguration") := by
    simp [manifest, Json.field?_map, Table.ofList, Table.get?_insert]
  have hmetadata : c.manifest.field? "metadata" = some (.map [
      ("name", .text c.name), ("namespace", .text c.space), ("labels", .ofTable c.labels)]) := by
    simp [manifest, Json.field?_map, Table.ofList, Table.get?_insert]
  simp [ObjectName.ofManifest?, hkind, hmetadata, Json.field?_map, Table.ofList, Table.get?_insert,
    Json.text, Json.string?, ObjectName.kind?, Resource.object, resource]

end FrrConfiguration

end RouteWatch
