import RouteWatch.Cluster.Error
import RouteWatch.Json.Reader
import RouteWatch.Node

/-!
# Reading what the cluster prints

Objects of the cluster are printed as JSON, of which only a few fields are read. Nodes carry their
pod subnets in an annotation that is JSON itself. Lists of names and states are printed as words.
-/

namespace RouteWatch

namespace Json

/-- The items of a list, each read. -/
def listOf? {α : Type} (item? : Json → Option α) (j : Json) : Option (List α) := do
  (← j.array?).mapM item?

/-- The value of a field that may be missing. -/
def getOr? {α : Type} (default : α) (value? : Json → Option α) : Option Json → Option α
  | some j => value? j
  | none => some default

/-- The value of a field that may be missing or null. -/
def optional? {α : Type} (value? : Json → Option α) : Option Json → Option (Option α)
  | none | some .null => some none
  | some j => (value? j).map some

def ip? (j : Json) : Option Ip := do
  Ip.parse? (← j.string?)

/-- One string, or a list of strings. -/
def oneOrMany? : Json → Option (List String)
  | .string s => s.map ([·])
  | .array items => items.mapM string?
  | _ => none

end Json

/-- The value that JSON text denotes. -/
def Cluster.readJson {α : Type} (value? : Json → Option α) (text : String) :
    Except ClusterError α :=
  match (Json.parse? text).bind value? with
  | some a => .ok a
  | none => .error .json

/-- The value that JSON text denotes, or that of no text at all. -/
def Cluster.readJsonOr {α : Type} (default : α) (value? : Json → Option α) (text : String) :
    Except ClusterError α :=
  if Text.isAllBlank text then .ok default else readJson value? text

/-- The value of a result that is there, or else an unreadable value. -/
def Cluster.readable {α : Type} (what value : String) : Option α → Except ClusterError α
  | some a => .ok a
  | none => .error (.unreadable what value)

namespace Node

/-- The annotation that lists the pod subnets of a node. -/
def subnetsAnnotation : String :=
  "k8s.ovn.org/node-subnets"

/-- The subnets under the keys of the annotation. Keys are taken in ascending order; one that names
no network is skipped. -/
def subnetsOfTable (table : Table String (List String)) :
    Except ClusterError (List (NetworkName × Subnet)) := do
  let found ← table.entries.mapM fun (key, subnets) =>
    match NetworkName.ofKey? key with
    | none => return []
    | some network =>
      subnets.mapM fun text =>
        (network, ·) <$> Cluster.readable "pod subnet" text (Subnet.parse? text)
  return found.flatten

def subnetTable? : Json → Option (Table String (List String))
  | .object fields => do
    let named ← fields.mapM fun f => do return (← f.1, ← f.2.oneOrMany?)
    return Table.ofList named
  | _ => none

def subnetsOfAnnotation (text : String) : Except ClusterError (List (NetworkName × Subnet)) := do
  subnetsOfTable (← Cluster.readJson subnetTable? text)

/-- What is read of a node that the cluster prints. -/
structure Listing where
  name : String
  annotations : Table String String
  /-- The addresses, each with its kind. -/
  addresses : List (String × String)

/-- An address with its kind. -/
def listedAddress? (j : Json) : Option (String × String) := do
  let [kind, address] ← j.record? ["type", "address"] | none
  return (← (← kind).string?, ← (← address).string?)

def listedAddresses? (j : Json) : Option (List (String × String)) := do
  let [addresses] ← j.record? ["addresses"] | none
  Json.getOr? [] (Json.listOf? listedAddress?) addresses

def listedName? (j : Json) : Option (String × Table String String) := do
  let [name, annotations] ← j.record? ["name", "annotations"] | none
  return (← (← name).string?, ← Json.getOr? ∅ Json.strings? annotations)

/-- A node that the cluster prints. -/
def listing? (j : Json) : Option Listing := do
  let [metadata, status] ← j.record? ["metadata", "status"] | none
  let (name, annotations) ← listedName? (← metadata)
  return { name, annotations, addresses := ← Json.getOr? [] listedAddresses? status }

def listings? (j : Json) : Option (List Listing) := do
  let [items] ← j.record? ["items"] | none
  Json.listOf? listing? (← items)

namespace Listing

def internalAddresses (l : Listing) : Except ClusterError (List Ip) :=
  (l.addresses.filter (·.1 == "InternalIP")).mapM fun (_, text) =>
    Cluster.readable "node address" text (Ip.parse? text)

def subnets (l : Listing) : Except ClusterError (List (NetworkName × Subnet)) :=
  match l.annotations.get? subnetsAnnotation with
  | some text => subnetsOfAnnotation text
  | none => .ok []

/-- The node, with the first address of each family. -/
def toNode (l : Listing) : Except ClusterError Node := do
  let addresses ← l.internalAddresses
  let first (family : Family) := (addresses.find? (·.family == family)).toList
  let node := (first .v4 ++ first .v6).foldl setAddress { name := l.name }
  (← l.subnets).foldlM
    (fun node s => (node.assignSubnet s.1 s.2).mapError .topology) node

end Listing

def ofJson (text : String) : Except ClusterError (List Node) := do
  (← Cluster.readJson listings? text).mapM Listing.toNode

end Node

/-- A node that holds an egress address. -/
structure EgressAssignment where
  node : String
  egress : Ip
  deriving DecidableEq

namespace EgressAssignment

def item? (j : Json) : Option EgressAssignment := do
  let [node, egress] ← j.record? ["node", "egressIP"] | none
  return ⟨← (← node).string?, ← (← egress).ip?⟩

/-- The nodes that hold an egress address. Nothing printed means that none does. -/
def ofJson (text : String) : Except ClusterError (List EgressAssignment) :=
  Cluster.readJsonOr [] (Json.listOf? item?) text

end EgressAssignment

/-- The labels of an object. Nothing printed means that it has none. -/
def Cluster.labelsOfJson (text : String) : Except ClusterError (Table String String) :=
  readJsonOr ∅ Json.strings? text

/-- A condition in the status of an object. -/
structure Condition where
  /-- Why the condition is in that state, in one word. -/
  reason : String
  /-- Whether the condition is met. -/
  status : String
  /-- The same for people. -/
  message : String
  deriving DecidableEq

namespace Condition

def item? (j : Json) : Option Condition := do
  let [reason, status, message] ← j.record? ["reason", "status", "message"] | none
  let text := Json.getOr? "" Json.string?
  return ⟨← text reason, ← text status, ← text message⟩

/-- The condition, if any is printed. -/
def ofJson (text : String) : Except ClusterError (Option Condition) :=
  Cluster.readJsonOr none (fun j => some <$> item? j) text

/-- The condition is met, for the desired reason. -/
def isMet (desired : String) (c : Condition) : Bool :=
  Text.contains c.reason desired && c.status == "True"

def text (c : Condition) : String :=
  if c.message.isEmpty then s!"{c.reason} ({c.status})"
  else s!"{c.reason} ({c.status}): {c.message}"

end Condition

/-- The state of an operator of the cluster. -/
structure OperatorStatus where
  /-- What it manages works. -/
  available : Bool
  /-- It rolls out a change. -/
  progressing : Bool
  /-- It does not work as it should. -/
  degraded : Bool
  deriving DecidableEq

namespace OperatorStatus

/-- The name of a condition, and its state. -/
def item? (j : Json) : Option (String × String) := do
  let [kind, status] ← j.record? ["type", "status"] | none
  return (← (← kind).string?, ← Json.getOr? "" Json.string? status)

/-- The state that the conditions tell. A condition that is not listed is not met. -/
def ofConditions (conditions : List (String × String)) : OperatorStatus :=
  let met (kind : String) := conditions.contains (kind, "True")
  ⟨met "Available", met "Progressing", met "Degraded"⟩

def ofJson (text : String) : Except ClusterError OperatorStatus :=
  ofConditions <$> Cluster.readJsonOr [] (Json.listOf? item?) text

def settled (s : OperatorStatus) : Bool :=
  s.available && !s.progressing && !s.degraded

def text (s : OperatorStatus) : String :=
  s!"Available={s.available}, Progressing={s.progressing}, Degraded={s.degraded}"

end OperatorStatus

/-- There are pods, and all are ready. Their states are given as words. -/
def Cluster.podsReady (states : String) : Bool :=
  let words := Text.words states
  !words.isEmpty && words.all (· == "True")

end RouteWatch
