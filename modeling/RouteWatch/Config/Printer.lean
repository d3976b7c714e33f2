import RouteWatch.Config.Basic
import RouteWatch.Json.Value

/-!
# Showing a configuration

A configuration as JSON, with the keys under which it is read. Every value is there, also one that
was not set.
-/

namespace RouteWatch

def HostConfig.json (c : HostConfig) : Json :=
  .map [
    ("ssh_name", .text c.sshName),
    ("user", .ofText? c.user),
    ("identity_file", .ofText? c.identityFile),
    ("staging_prefix", .text c.stagingPrefix)]

def VrfConfig.json (c : VrfConfig) : Json :=
  .map [
    ("name", .text c.name),
    ("peers_v4", .ofTexts (c.peers4.map Ipv4.text)),
    ("peers_v6", .ofTexts (c.peers6.map fun ip => (Ip.v6 ip).text))]

def RouterConfig.json (c : RouterConfig) : Json :=
  .map [
    ("image", .text c.image),
    ("container_prefix", .text c.containerPrefix),
    ("runtime", .text c.runtime),
    ("sudo", .bool c.elevated),
    ("asn", .nat c.asn.toNat),
    ("peer_asn", c.peerAsn.elim .null fun (asn : Asn) => .nat asn.toNat),
    ("static_networks_v4", .ofTexts (c.statics4.map Subnet4.text)),
    ("static_networks_v6", .ofTexts (c.statics6.map Subnet6.text)),
    ("vrf", c.vrf.elim .null VrfConfig.json)]

def ClusterConfig.json (c : ClusterConfig) : Json :=
  .map [
    ("oc", .text c.oc),
    ("kubeconfig", .ofText? c.kubeconfig),
    ("frr_namespace", .text c.frrNamespace),
    ("frr_pod_selector", .text c.frrPods),
    ("frr_webhook_selector", .text c.frrWebhook),
    ("ovn_namespace", .text c.ovnNamespace),
    ("ovn_pod_selector", .text c.ovnPods),
    ("frr_container", .text c.frrContainer),
    ("debug_namespace", .text c.debugNamespace)]

def LabConfig.json (c : LabConfig) : Json :=
  .map [("host", c.host.json), ("router", c.router.json), ("cluster", c.cluster.json)]

end RouteWatch
