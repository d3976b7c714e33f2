import RouteWatch.Config.Basic
import RouteWatch.Distinct

/-!
# What the external router should be

The router reflects routes between the nodes. It peers with addresses of both families in the
default routing instance, and perhaps in a second one bound to a VRF, and originates static networks
in both.
-/

namespace RouteWatch

/-- A routing instance bound to a VRF. -/
structure VrfSpec where
  name : String
  peers4 : List Ip
  peers6 : List Ip
  deriving DecidableEq

/-- What the external router should be. -/
structure RouterSpec where
  asn : Asn
  /-- The number of the peers' system, if not the same. -/
  peerAsn : Option Asn
  /-- The router's identifier, if it is not to choose one. -/
  routerId : Option Ipv4
  peers4 : List Ip
  peers6 : List Ip
  /-- The networks that the router originates. -/
  statics : List Subnet
  /-- The second routing instance. -/
  vrf : Option VrfSpec
  deriving DecidableEq

/-- Why a router cannot be configured as specified. -/
inductive RenderError where
  /-- A peer stands among those of the other family. -/
  | wrongFamily (peer : Ip) (family : Family)
  /-- A family has peers, but the router would originate no network of it. -/
  | noStatics (family : Family)
  /-- The name of the VRF cannot stand in a configuration. -/
  | invalidVrfName (name : String)
  deriving DecidableEq

def RenderError.message : RenderError → String
  | .wrongFamily peer family => s!"Peer {peer} is not an {family} address"
  | .noStatics family => s!"The {family} family has peers but no static networks"
  | .invalidVrfName name => s!"Invalid VRF name {Text.quoted name}"

namespace RouterSpec

/-- The routing instance of a configured VRF. -/
def vrfOfConfig (vrf : VrfConfig) : VrfSpec :=
  ⟨vrf.name, vrf.peers4.map .v4, vrf.peers6.map .v6⟩

/-- The router as configured, without peers in the default instance. -/
def ofConfig (config : RouterConfig) : RouterSpec where
  asn := config.asn
  peerAsn := config.peerAsn
  routerId := none
  peers4 := []
  peers6 := []
  statics := config.statics4.map .v4 ++ config.statics6.map .v6
  vrf := config.vrf.map vrfOfConfig

/-- The addresses of a family. -/
def ofFamily (family : Family) (ips : List Ip) : List Ip :=
  ips.filter (·.family == family)

def withPeers (spec : RouterSpec) (peers : List Ip) : RouterSpec :=
  { spec with peers4 := ofFamily .v4 peers, peers6 := ofFamily .v6 peers }

def withRouterId (spec : RouterSpec) (id : Ipv4) : RouterSpec :=
  { spec with routerId := some id }

def withVrf (spec : RouterSpec) (vrf : VrfSpec) : RouterSpec :=
  { spec with vrf := some vrf }

/-- The number of the peers' system. -/
def remoteAsn (spec : RouterSpec) : Asn :=
  spec.peerAsn.getD spec.asn

/-- The peers belong to the router's own system. Only then are routes reflected to them. -/
def isInternal (spec : RouterSpec) : Bool :=
  spec.remoteAsn == spec.asn

/-- The networks of the family, each once and without host bits. -/
def staticsOf (spec : RouterSpec) (family : Family) : List Subnet :=
  distinct ((spec.statics.filter (·.family == family)).map Subnet.trunc)

/-- A routing instance: the VRF that it is bound to, and its peers of each family. -/
structure Instance where
  vrf : Option String
  peers4 : List Ip
  peers6 : List Ip

def Instance.peers (i : Instance) : Family → List Ip
  | .v4 => i.peers4
  | .v6 => i.peers6

/-- The routing instances, the default one first. -/
def instances (spec : RouterSpec) : List Instance :=
  ⟨none, spec.peers4, spec.peers6⟩ ::
    (spec.vrf.map fun vrf => ⟨some vrf.name, vrf.peers4, vrf.peers6⟩).toList

/-- What is wrong with the peers of a family. -/
def validatePeers (spec : RouterSpec) (family : Family) (peers : List Ip) :
    Except RenderError Unit :=
  match peers.find? (·.family != family) with
  | some peer => .error (.wrongFamily peer family)
  | none =>
    if !peers.isEmpty && (spec.staticsOf family).isEmpty then .error (.noStatics family)
    else .ok ()

/-- What is wrong with a routing instance. -/
def validateInstance (spec : RouterSpec) (i : Instance) : Except RenderError Unit := do
  match i.vrf with
  | some name => if name.isEmpty || name.toList.any Text.isBlank then throw (.invalidVrfName name)
  | none => pure ()
  spec.validatePeers .v4 i.peers4
  spec.validatePeers .v6 i.peers6

/-- What is wrong with the router. -/
def validate (spec : RouterSpec) : Except RenderError Unit :=
  spec.instances.forM spec.validateInstance

end RouterSpec

end RouteWatch
