import RouteWatch.Router.Spec

/-!
# The configuration file of the external router

The file is a list of statements, one a line. Each routing instance names its neighbors; no family
is active by default, so a family with peers has two blocks, of which the first has the networks
that the router originates and the second activates the peers. A family without peers has none.
-/

namespace RouteWatch

/-- A line of the configuration of a router. -/
inductive Statement where
  /-- The start of a routing instance. -/
  | router (asn : Asn) (vrf : Option String)
  | routerId (id : Ipv4)
  /-- No family is active unless it is said. -/
  | noDefault (family : Family)
  /-- Networks are originated whether or not there is a route to them. -/
  | noImportCheck
  /-- A neighbor and the number of its system. -/
  | remoteAs (peer : Ip) (asn : Asn)
  /-- A line that only separates. -/
  | separator
  /-- The start of a block about a family. -/
  | addressFamily (family : Family)
  /-- A network that the router originates. -/
  | network (net : Subnet)
  | reflectorClient (peer : Ip)
  /-- Routes are exchanged with the neighbor. -/
  | activate (peer : Ip)
  /-- The neighbor gets the router as the next hop. -/
  | nextHopSelf (peer : Ip)
  | endFamily
  | endRouter
  /-- A line that only separates routing instances. -/
  | endMark
  deriving DecidableEq

namespace Statement

/-- The line. -/
def text : Statement → String
  | .router asn none => s!"router bgp {asn}"
  | .router asn (some vrf) => s!"router bgp {asn} vrf {vrf}"
  | .routerId id => s!" bgp router-id {id.text}"
  | .noDefault family => s!" no bgp default {family}-unicast"
  | .noImportCheck => " no bgp network import-check"
  | .remoteAs peer asn => s!" neighbor {peer} remote-as {asn}"
  | .separator => " !"
  | .addressFamily family => s!" address-family {family} unicast"
  | .network net => s!"  network {net}"
  | .reflectorClient peer => s!"  neighbor {peer} route-reflector-client"
  | .activate peer => s!"  neighbor {peer} activate"
  | .nextHopSelf peer => s!"  neighbor {peer} next-hop-self"
  | .endFamily => " exit-address-family"
  | .endRouter => "exit"
  | .endMark => "!"

/-- The lines, each ended by a line feed. -/
def lines (statements : List Statement) : String :=
  String.join (statements.map fun s => s.text ++ "\n")

end Statement

namespace RouterSpec

/-- What is said about a peer in the block that activates it. -/
def activation (spec : RouterSpec) (peer : Ip) : List Statement :=
  (if spec.isInternal then [.reflectorClient peer] else []) ++ [.activate peer, .nextHopSelf peer]

/-- The two blocks about a family, if it has peers. -/
def familyBlocks (spec : RouterSpec) (family : Family) (peers : List Ip) : List Statement :=
  if peers.isEmpty then []
  else
    [.separator, .addressFamily family] ++ (spec.staticsOf family).map .network ++ [.endFamily]
      ++ [.separator, .addressFamily family] ++ peers.flatMap spec.activation ++ [.endFamily]

/-- The statements about a routing instance. -/
def instanceBlock (spec : RouterSpec) (i : Instance) : List Statement :=
  -- a peer that is given twice is configured once
  let peers4 := distinct i.peers4
  let peers6 := distinct i.peers6
  [.router spec.asn i.vrf] ++ (spec.routerId.map .routerId).toList
    ++ [.noDefault .v4, .noDefault .v6, .noImportCheck]
    ++ (peers4 ++ peers6).map (.remoteAs · spec.remoteAsn)
    ++ spec.familyBlocks .v4 peers4 ++ spec.familyBlocks .v6 peers6
    ++ [.endRouter, .endMark]

/-- The statements of the configuration file. -/
def document (spec : RouterSpec) : List Statement :=
  spec.instances.flatMap spec.instanceBlock

/-- The configuration file. -/
def render (spec : RouterSpec) : Except RenderError String := do
  spec.validate
  return Statement.lines spec.document

end RouterSpec

end RouteWatch
