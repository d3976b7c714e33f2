import RouteWatch.Scenario.Environment
import RouteWatch.Simulation.Tables

/-!
# A simulated cluster

A cluster with an external router whose routing tables follow what was declared. Sessions come up
some time after the start, and a change of the declarations shows in the tables some time after it
was made. The world keeps what was declared and when, the labels, and what was done; everything else
is computed from that and from the time.
-/

namespace RouteWatch.Simulation

/-- How a simulated cluster behaves. -/
structure Behavior where
  /-- The time until the sessions are established. -/
  sessionDelay : Millis := 10000
  /-- The time until a change shows in the tables. -/
  routeDelay : Millis := 40000
  /-- Routes stay although they are withdrawn. -/
  sticky : Bool := false
  /-- All user-defined networks are advertised, whatever their labels. -/
  leaky : Bool := false
  /-- The number of samples that fail at first. -/
  failingSamples : Nat := 0
  /-- The time that the sessions and routes take to come back after a restart, if they do. -/
  recoveryDelay : Option Millis := some 60000

structure Cluster where
  topology : Topology
  behavior : Behavior

structure Declaration where
  ra : RouteAdvertisement
  declared : Millis
  /-- When it was deleted, if it was. -/
  deleted : Option Millis := none

/-- An egress address and the nodes that held it. -/
structure Egress where
  name : String
  ip : Ip
  /-- The node that held it from the start. -/
  first : String
  /-- The nodes to which it was moved, and when, in order. -/
  moves : List (String × Millis) := []

/-- Something that was done to the world. -/
inductive Event where
  | advertise (name : String)
  | withdraw (name : String)
  | label (object : ObjectKey) (key value : String)
  | unlabel (object : ObjectKey) (key : String)
  | disrupt (part : Disruption)

def Event.text : Event → String
  | .advertise name => s!"advertise {name}"
  | .withdraw name => s!"withdraw {name}"
  | .label object key value => s!"label {object.kind} {object.name} {key}={value}"
  | .unlabel object key => s!"unlabel {object.kind} {object.name} {key}"
  | .disrupt part => part.text

/-- The state of a simulated cluster. -/
structure World where
  /-- What was declared, in order. -/
  declarations : List Declaration := []
  /-- The labels of the objects that ever had one. -/
  labels : Table ObjectKey (Table String String) := ∅
  /-- The egress address, if there is one. -/
  egress : Option Egress := none
  /-- When a part of the cluster was last restarted. -/
  outage : Option Millis := none
  /-- The number of samples that were taken. -/
  samples : Nat := 0
  /-- What was done, in order. -/
  events : List Event := []

namespace World

def labelsOf (w : World) (object : ObjectKey) : Table String String :=
  (w.labels.get? object).getD ∅

def setLabel (w : World) (object : ObjectKey) (key value : String) : World :=
  { w with labels := w.labels.insert object ((w.labelsOf object).insert key value) }

def clearLabel (w : World) (object : ObjectKey) (key : String) : World :=
  match w.labels.get? object with
  | some labels => { w with labels := w.labels.insert object (labels.erase key) }
  | none => w

/-- The names of the advertisements that are declared and not deleted. -/
def declared (w : World) : List String :=
  (w.declarations.filter (·.deleted.isNone)).map (·.ra.name)

/-- The world in which that was done as well. -/
def log (w : World) (event : Event) : World :=
  { w with events := w.events ++ [event] }

/-- The world in which the routes are advertised from now on. -/
def declare (w : World) (now : Millis) (ra : RouteAdvertisement) : World :=
  { w with declarations := w.declarations ++ [{ ra, declared := now }] }

/-- The declaration, which is deleted now if it has the name and is not deleted yet. -/
def Declaration.delete (now : Millis) (name : String) (d : Declaration) : Declaration :=
  if d.ra.name == name && d.deleted.isNone then { d with deleted := some now } else d

/-- The world in which no advertisement of the name is declared from now on. -/
def withdraw (w : World) (now : Millis) (name : String) : World :=
  { w with declarations := w.declarations.map (Declaration.delete now name) }

end World

namespace Egress

/-- The node that holds the address. -/
def holder (e : Egress) : String :=
  e.moves.getLast?.elim e.first (·.1)

/-- The node that holds the address as far as the tables show. -/
def shownHolder (e : Egress) (routeDelay now : Millis) : String :=
  (e.moves.reverse.find? fun move => move.2 + routeDelay ≤ now).elim e.first (·.1)

end Egress

namespace Cluster

def routers (c : Cluster) : List Ip :=
  c.topology.families.map fun
    | .v4 => .v4 ⟨192, 0, 2, 1⟩
    | .v6 => .v6 ⟨0x2001, 0xDB8, 0, 0, 0, 0, 0, 1⟩

def statics (c : Cluster) : List Subnet :=
  c.topology.families.flatMap fun
    | .v4 => [.v4 (.sharing 24 ⟨192, 168, 1, 0⟩), .v4 (.sharing 32 ⟨192, 169, 1, 1⟩)]
    | .v6 => [.v6 (.sharing 64 ⟨0x2001, 0xDB8, 1, 0, 0, 0, 0, 0⟩),
        .v6 (.sharing 128 ⟨0x2001, 0xDB8, 2, 0, 0, 0, 0, 1⟩)]

/-- A part that was restarted has not come back yet. -/
def isDisrupted (c : Cluster) (w : World) (now : Millis) : Bool :=
  w.outage.any fun since => c.behavior.recoveryDelay.all fun delay => now < since + delay

/-- The sessions are established. -/
def sessionsUp (c : Cluster) (w : World) (now : Millis) : Bool :=
  c.behavior.sessionDelay ≤ now && !c.isDisrupted w now

/-- The declaration shows in the tables. -/
def isActive (c : Cluster) (now : Millis) (d : Declaration) : Bool :=
  d.declared + c.behavior.routeDelay ≤ now
    && !d.deleted.any fun at_ => !c.behavior.sticky && at_ + c.behavior.routeDelay ≤ now

def active (c : Cluster) (w : World) (now : Millis) : List Declaration :=
  w.declarations.filter (c.isActive now)

/-- The networks in which some node has a subnet, apart from the default one. -/
def userNetworks (c : Cluster) : List NetworkName :=
  (c.topology.nodes.flatMap Node.networks).filter (· != .default)

/-- The cluster-wide user-defined networks that have the label. -/
def labeledNetworks (w : World) (key value : String) : List NetworkName :=
  (w.labels.entries.filter fun e =>
    e.1.kind == ObjectKey.networkKind && e.2.get? key == some value).map fun e =>
      NetworkName.ofClusterWide e.1.name

def selected (c : Cluster) (w : World) : NetworkSelector → List NetworkName
  | .default => [.default]
  | .labeled key value => if c.behavior.leaky then c.userNetworks else labeledNetworks w key value

/-- The networks that are advertised, each once and in ascending order. -/
def advertisedNetworks (c : Cluster) (w : World) (now : Millis) : List NetworkName :=
  let podNetworks := (c.active w now).filter (·.ra.advertisements.contains .podNetwork)
  let networks := podNetworks.flatMap fun d => c.selected w d.ra.selector
  (Table.ofList (networks.map fun network => (network, ()))).keys

/-- The route to the egress address by way of the node that holds it, as far as the tables show. -/
def egressRoute (c : Cluster) (now : Millis) (e : Egress) : Option AdvertisedRoute := do
  let node ← c.topology.node? (e.shownHolder c.behavior.routeDelay now)
  return ⟨node.name, .host e.ip, ← node.address? e.ip.family⟩

/-- The routes that show in the tables. -/
def visibleRoutes (c : Cluster) (w : World) (now : Millis) : List AdvertisedRoute :=
  if c.isDisrupted w now then []
  else
    let pods := (c.advertisedNetworks w now).flatMap c.topology.advertisedRoutes
    let egress :=
      if (c.active w now).any (·.ra.advertisements.contains .egressIp) then
        (w.egress.bind (c.egressRoute now)).toList
      else []
    pods ++ egress

/-- A route as it stands in a table. -/
def rowOf (r : AdvertisedRoute) : Row :=
  ⟨r.subnet, r.nextHop⟩

/-- The routes to the networks of the external router on itself. -/
def localRows (c : Cluster) : List Row :=
  c.statics.map fun net => ⟨net, .unspecified net.family⟩

/-- The routes to the networks of the external router on a node, while the sessions are up. -/
def learnedRows (c : Cluster) (w : World) (now : Millis) : List Row :=
  if c.sessionsUp w now then
    c.statics.filterMap fun net =>
      (c.routers.find? (·.family == net.family)).map fun router => ⟨net, router⟩
  else []

def ofFamily (family : Family) (rows : List Row) : List Row :=
  rows.filter (·.subnet.family == family)

def printedByRouter (c : Cluster) (w : World) (now : Millis) : Query → String
  | .neighbor peer => neighborPage peer (c.sessionsUp w now)
  | .table family =>
    daemonTable (ofFamily family ((c.visibleRoutes w now).map rowOf ++ c.localRows))
  | .kernel family => kernelTable (ofFamily family ((c.visibleRoutes w now).map rowOf))

/-- The rows of the tables of a node. A node has no route to its own subnets. -/
def nodeRows (c : Cluster) (w : World) (now : Millis) (name : String) : List Row :=
  ((c.visibleRoutes w now).filter (·.node != name)).map rowOf ++ c.learnedRows w now

def printedByNode (c : Cluster) (w : World) (now : Millis) (name : String) : Query → String
  | .neighbor _ => ""
  | .table family => daemonTable (ofFamily family (c.nodeRows w now name))
  | .kernel family => kernelTable (ofFamily family (c.nodeRows w now name))

/-- What the target prints, if there is such a target. -/
def printed? (c : Cluster) (w : World) (now : Millis) (query : Query) : Target → Option String
  | .external => some (c.printedByRouter w now query)
  | .node name =>
    if (c.topology.node? name).isSome then some (c.printedByNode w now name query) else none

def sampler (c : Cluster) : Sampler World SampleError := fun target query => do
  let text? ← Action.time <| Timed.act fun now w =>
    let w := { w with samples := w.samples + 1 }
    (if w.samples ≤ c.behavior.failingSamples then none else c.printed? w now query target, w)
  let text ← Action.ofOption (.unknownTarget target) text?
  return ⟨target, query.command.text, text⟩

/-- The nodes that may hold an egress address, apart from this one. -/
def otherHolders (c : Cluster) (w : World) (name : String) : List String :=
  (c.topology.nodes.map (·.name)).filter fun other =>
    other != name && (w.labelsOf (.node other)).contains egressLabel

/-- The egress address moves away from the node to the first other one that may hold it. -/
def moveEgress (c : Cluster) (w : World) (now : Millis) (name : String) : World :=
  match w.egress, (c.otherHolders w name).head? with
  | some e, some next =>
    if e.holder = name then { w with egress := some { e with moves := e.moves ++ [(next, now)] } }
    else w
  | _, _ => w

/-- The label is taken from the object, and perhaps an egress address from the node. -/
def unlabel (c : Cluster) (object : ObjectKey) (key : String) (now : Millis) (w : World) : World :=
  let w := w.clearLabel object key
  if object.kind == ObjectKey.nodeKind && key == egressLabel then c.moveEgress w now object.name
  else w

/-- A change of the world, which cannot fail. -/
def change (event : Event) (f : Millis → World → World) : Action World ScenarioError Unit :=
  Action.time <| Timed.act fun now w => ((), f now (w.log event))

/-- Something that is seen in the world. -/
def look {α : Type} (f : World → α) : Action World ScenarioError α :=
  Action.time (Timed.look f)

def assignments (w : World) (name : String) : List EgressAssignment :=
  (w.egress.filter (·.name == name)).toList.map fun e => { node := e.holder, egress := e.ip }

/-- The simulated cluster as an environment of scenarios. -/
def environment (c : Cluster) : Environment World where
  topology := c.topology
  routers := c.routers
  statics := c.statics
  converge := RouteWatch.converge c.sampler SampleError.message
  advertise ra := change (.advertise ra.name) fun now w => w.declare now ra
  withdraw ra := change (.withdraw ra.name) fun now w => w.withdraw now ra.name
  labels object := look (·.labelsOf object)
  label object key value := change (.label object key value) fun _ w => w.setLabel object key value
  unlabel object key := change (.unlabel object key) (c.unlabel object key)
  egressAssignments name := look (assignments · name)
  disrupt part := change (.disrupt part) fun now w => { w with outage := some now }

end Cluster

end RouteWatch.Simulation
