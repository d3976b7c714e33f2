import RouteWatch.Ip.Subnet
import RouteWatch.Text.Blank
import RouteWatch.Text.Quoted

/-!
# Configuration of a lab

What can be set: the host that runs the external router, the router itself, and the access to the
cluster. All but the name of the host has a default. Variables of the environment take precedence
over the host's part.
-/

namespace RouteWatch

/-- The host that runs the external router. -/
structure HostConfig where
  /-- The name or address under which `ssh` reaches the host. -/
  sshName : String := ""
  /-- The user to log in as, if not the usual one. -/
  user : Option String := none
  /-- The private key to log in with, if not the usual one. -/
  identityFile : Option String := none
  /-- The start of the name of the staging directory. Each router adds a suffix of its own. -/
  stagingPrefix : String := "/tmp/bgp-test-frr-"
  deriving DecidableEq

/-- A routing instance of the external router in a VRF. -/
structure VrfConfig where
  name : String
  peers4 : List Ipv4 := []
  peers6 : List Ipv6 := []
  deriving DecidableEq

/-- The number of an autonomous system. -/
abbrev Asn := UInt32

/-- The external router. -/
structure RouterConfig where
  image : String := "quay.io/frrouting/frr:9.1.2"
  /-- The start of the name of the container. Each router adds a suffix of its own. -/
  containerPrefix : String := "frr-"
  /-- The program on the host that runs containers. -/
  runtime : String := "podman"
  /-- Whether commands that need it are run with `sudo`. -/
  elevated : Bool := true
  /-- The number of the router's own system. -/
  asn : Asn := 64512
  /-- The number of the nodes' system, if not the same. -/
  peerAsn : Option Asn := none
  /-- The networks of addresses of four octets that the router originates. -/
  statics4 : List Subnet4 :=
    [.sharing 24 ⟨192, 168, 1, 0⟩, .sharing 32 ⟨192, 169, 1, 1⟩]
  /-- The networks of addresses of eight groups that the router originates. -/
  statics6 : List Subnet6 :=
    [.sharing 128 ⟨0x2001, 0xDB8, 0, 0, 0, 0, 0, 0⟩]
  /-- One more routing instance. -/
  vrf : Option VrfConfig := none
  deriving DecidableEq

/-- The access to the cluster. -/
structure ClusterConfig where
  /-- The program that talks to the cluster. -/
  oc : String := "oc"
  /-- The file with the credentials, if not the usual one. -/
  kubeconfig : Option String := none
  /-- The namespace of the routing agents. -/
  frrNamespace : String := "openshift-frr-k8s"
  /-- The labels of the routing agents. -/
  frrPods : String := "app=frr-k8s"
  /-- The labels of the webhook that checks their configuration. -/
  frrWebhook : String := "component=frr-k8s-webhook-server"
  /-- The namespace of the network's own pods. -/
  ovnNamespace : String := "openshift-ovn-kubernetes"
  /-- The labels of the network's own pods. -/
  ovnPods : String := "app=ovnkube-node"
  /-- The container of a routing agent that has the daemon's shell. -/
  frrContainer : String := "frr"
  /-- The namespace in which debug pods are made. -/
  debugNamespace : String := "default"
  deriving DecidableEq

structure LabConfig where
  host : HostConfig := {}
  router : RouterConfig := {}
  cluster : ClusterConfig := {}
  deriving DecidableEq

/-- Why there is no configuration. -/
inductive ConfigError where
  | unreadable (file : String)
  /-- The file is no configuration; perhaps because a number of a system is reserved. -/
  | malformed (reserved : Option Nat)
  | missingHost
  /-- A value is not acceptable. -/
  | invalid (reason : String)
  deriving DecidableEq

def configVariable : String :=
  "FRR_LAB_CONFIG"

def hostVariable : String :=
  "QE_HYPERVISOR_PUBLIC_ADDRESS"

def keyVariable : String :=
  "SSH_CLOUD_PRIV_KEY"

def ConfigError.message : ConfigError → String
  | .unreadable file => s!"Cannot read {Text.quoted file}"
  | .malformed none => "Cannot parse the configuration"
  | .malformed (some asn) => s!"Cannot parse the configuration: AS number {asn} is reserved"
  | .missingHost =>
    s!"No host configured! Set `host.ssh_name` or the environment variable {hostVariable}"
  | .invalid reason => s!"Invalid configuration: {reason}"

/-- Variables of the environment that are set. -/
abbrev Variables := String → Option String

namespace LabConfig

/-- The configuration with the host and the key that the environment names. Blank names do not
count. -/
def withVariables (env : Variables) (config : LabConfig) : LabConfig :=
  let name := ((env hostVariable).map Text.trim).filter (!·.isEmpty)
  let key := (env keyVariable).filter (!·.isEmpty)
  { config with host := { config.host with
      sshName := name.getD config.host.sshName
      identityFile := key.or config.host.identityFile } }

/-- What else is wrong with the configuration. -/
def validate (config : LabConfig) : Except ConfigError Unit :=
  if Text.isAllBlank config.host.sshName then .error .missingHost
  else if Text.isAllBlank config.router.image then
    .error (.invalid "router.image must not be empty")
  else if config.router.vrf.any fun vrf => Text.isAllBlank vrf.name then
    .error (.invalid "router.vrf.name must not be empty")
  else .ok ()

end LabConfig

end RouteWatch
