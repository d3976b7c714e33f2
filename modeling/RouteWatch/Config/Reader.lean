import RouteWatch.Config.Basic
import RouteWatch.Toml.Document

/-!
# Reading a configuration

A configuration is a TOML document of three tables. Keys that are not known and keys that are there
twice are refused, and so are numbers of autonomous systems that are reserved. Pairs are taken in
order, and the first one that is refused decides about the error. A table may also be written as the
list of its values.
-/

namespace RouteWatch

namespace Config

/-- What is read of a configuration; a failure tells the reserved number that caused it, if one
did. -/
abbrev Read (α : Type) := Except (Option Nat) α

/-- What is there, or else a failure. -/
def orFail {α : Type} (a : Option α) : Read α :=
  a.elim (.error none) .ok

def text : Toml → Read String
  | .string s => .ok s
  | _ => .error none

def flag : Toml → Read Bool
  | .boolean b => .ok b
  | _ => .error none

/-- The numbers that no session can use. -/
def reservedAsns : List Nat :=
  [0, 23456, 4294967295]

def asn : Toml → Read Asn
  | .integer n =>
    if n < 0 || 4294967295 < n then .error none
    else if reservedAsns.contains n.toNat then .error (some n.toNat)
    else .ok (UInt32.ofNat n.toNat)
  | _ => .error none

/-- A value that is written as a string. -/
def parsed {α : Type} (parse? : String → Option α) (t : Toml) : Read α := do
  orFail (parse? (← text t))

/-- A list of values. -/
def list {α : Type} (item : Toml → Read α) : Toml → Read (List α)
  | .array items => items.mapM item
  | _ => .error none

/-- A field of a record: its key, and how its value changes the record. -/
structure Field (ρ : Type) where
  key : String
  /-- The record with the value. -/
  set : Toml → ρ → Read ρ

/-- The field with the key, whose value is read like this and put into the record. -/
def field {ρ α : Type} (key : String) (value : Toml → Read α) (put : α → ρ → ρ) : Field ρ where
  key := key
  set t r := do return put (← value t) r

/-- The record with the values of the pairs. `seen` are the keys that were there before. -/
def ofPairs {ρ : Type} (fields : List (Field ρ)) (seen : List String) (r : ρ) :
    List (String × Toml) → Read ρ
  | [] => .ok r
  | (key, value) :: rest =>
    match fields.find? (·.key == key) with
    | none => .error none
    | some f =>
      if seen.contains key then .error none
      else do ofPairs fields (key :: seen) (← f.set value r) rest

/-- The record with the values of the items, which are those of the fields in order. -/
def ofItems {ρ : Type} : List (Field ρ) → ρ → List Toml → Read ρ
  | _, r, [] => .ok r
  | [], _, _ :: _ => .error none
  | f :: fields, r, item :: rest => do ofItems fields (← f.set item r) rest

/-- The record that differs from this one by the values in a table, or in the list of its values. -/
def record {ρ : Type} (fields : List (Field ρ)) (r : ρ) : Toml → Read ρ
  | .table style pairs => do
    let r ← ofPairs fields [] r pairs
    if style = .headed true then .error none else .ok r
  | .array items => ofItems fields r items
  | _ => .error none

def hostFields : List (Field HostConfig) :=
  [field "ssh_name" text fun v r => { r with sshName := v },
   field "user" text fun v r => { r with user := some v },
   field "identity_file" text fun v r => { r with identityFile := some v },
   field "staging_prefix" text fun v r => { r with stagingPrefix := v }]

/-- The fields of a VRF, whose name has no default. -/
def vrfFields : List (Field (Option String × List Ipv4 × List Ipv6)) :=
  [field "name" text fun v r => (some v, r.2),
   field "peers_v4" (list (parsed Ipv4.parse?)) fun v r => (r.1, v, r.2.2),
   field "peers_v6" (list (parsed Ipv6.parse?)) fun v r => (r.1, r.2.1, v)]

def vrf (t : Toml) : Read VrfConfig := do
  let (name, peers4, peers6) ← record vrfFields (none, [], []) t
  return { name := ← orFail name, peers4, peers6 }

def routerFields : List (Field RouterConfig) :=
  [field "image" text fun v r => { r with image := v },
   field "container_prefix" text fun v r => { r with containerPrefix := v },
   field "runtime" text fun v r => { r with runtime := v },
   field "sudo" flag fun v r => { r with elevated := v },
   field "asn" asn fun v r => { r with asn := v },
   field "peer_asn" asn fun v r => { r with peerAsn := some v },
   field "static_networks_v4" (list (parsed Subnet4.parse?)) fun v r => { r with statics4 := v },
   field "static_networks_v6" (list (parsed Subnet6.parse?)) fun v r => { r with statics6 := v },
   field "vrf" vrf fun v r => { r with vrf := some v }]

def clusterFields : List (Field ClusterConfig) :=
  [field "oc" text fun v r => { r with oc := v },
   field "kubeconfig" text fun v r => { r with kubeconfig := some v },
   field "frr_namespace" text fun v r => { r with frrNamespace := v },
   field "frr_pod_selector" text fun v r => { r with frrPods := v },
   field "frr_webhook_selector" text fun v r => { r with frrWebhook := v },
   field "ovn_namespace" text fun v r => { r with ovnNamespace := v },
   field "ovn_pod_selector" text fun v r => { r with ovnPods := v },
   field "frr_container" text fun v r => { r with frrContainer := v },
   field "debug_namespace" text fun v r => { r with debugNamespace := v }]

def labFields : List (Field LabConfig) :=
  [field "host" (record hostFields {}) fun v r => { r with host := v },
   field "router" (record routerFields {}) fun v r => { r with router := v },
   field "cluster" (record clusterFields {}) fun v r => { r with cluster := v }]

end Config

namespace LabConfig

/-- The configuration in the text. -/
def parse (s : String) : Except ConfigError LabConfig :=
  match Toml.parse? s with
  | some t => (Config.record Config.labFields {} t).mapError .malformed
  | none => .error (.malformed none)

/-- The configuration in the text, as the environment changes it, if it is acceptable. -/
def load (env : Variables) (config : LabConfig) : Except ConfigError LabConfig := do
  let config := config.withVariables env
  config.validate
  return config

/-- The configuration in the file; a file that cannot be read has no content. -/
def ofFile (env : Variables) (file : String) (content? : Option String) :
    Except ConfigError LabConfig :=
  match content? with
  | some content => do load env (← parse content)
  | none => .error (.unreadable file)

/-- The configuration in the file that the environment names, or else the default one. -/
def ofVariables (env : Variables) (content? : String → Option String) :
    Except ConfigError LabConfig :=
  match env configVariable with
  | some file => ofFile env file (content? file)
  | none => load env {}

end LabConfig

end RouteWatch
