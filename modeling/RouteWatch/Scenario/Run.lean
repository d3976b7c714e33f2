import RouteWatch.Scenario.Work

/-!
# Scenarios

Four scenarios declare a route advertisement and check what becomes of it. Each first checks its
options and saves the labels that it is going to change. In the end it withdraws the advertisement
and gives the labels their former values.
-/

namespace RouteWatch

namespace Scenario

variable {σ : Type}

/-- All that has to be there once the default network is advertised. -/
def defaultMesh (env : Environment σ) : Plan :=
  Mesh.full env.topology .default env.statics env.routers

/-- The advertisement of the default network under that name. -/
def defaultAdvertisement (name : String) : RouteAdvertisement :=
  { name, selector := .default }

/-- The default network is advertised and withdrawn again: the full mesh comes, and then all its
routes go and stay away. -/
def defaultNetwork (env : Environment σ) (name : String) : Scenario σ Work := do
  requireSubnets env .default
  let ra := defaultAdvertisement name
  let withdrawn := Mesh.routes env.topology .default false
  return {
    body := [
      .change (.advertise ra),
      .check (Mesh.sessions env.topology) Poll.Settings.neighbor,
      .check (defaultMesh env) Poll.Settings.routePropagation,
      .change (.withdraw ra),
      .check withdrawn Poll.Settings.routePropagation,
      .checkStable withdrawn Poll.Settings.routePropagation]
    cleanup := [.withdraw ra]
    onFailureOnly := true }

/-- What the selection of networks is checked with. -/
structure SelectorOptions where
  name : String
  label : Label
  /-- The network that gets the label. -/
  selected : String
  /-- The network that loses it. -/
  other : String

namespace SelectorOptions

/-- The advertisement of the networks with the label. -/
def advertisement (o : SelectorOptions) : RouteAdvertisement :=
  { name := o.name, selector := .labeled o.label.key o.label.value }

/-- The routes of the one network are there, and those of the other one are not. -/
def plan (o : SelectorOptions) (topology : Topology) : Plan :=
  let selected := NetworkName.ofClusterWide o.selected
  [Mesh.routes topology selected true,
      Mesh.routes topology (NetworkName.ofClusterWide o.other) false].foldl
    Plan.extend { description := s!"only network {selected} advertised" }

/-- The two networks are different ones. -/
def requireDifferent (o : SelectorOptions) : Except ScenarioError Unit :=
  if o.selected = o.other then
    .error (.invalid
      s!"network {o.selected} cannot be selected and not selected at the same time")
  else .ok ()

end SelectorOptions

/-- Only the networks with a label are advertised: one network gets it and is there, and at the same
time another one, which loses it, is not. -/
def selector (env : Environment σ) (o : SelectorOptions) : Scenario σ Work := do
  ExceptT.mk (pure o.requireDifferent)
  requireSubnets env (NetworkName.ofClusterWide o.selected)
  requireSubnets env (NetworkName.ofClusterWide o.other)
  let restoreSelected ← save env (.network o.selected) o.label.key
  let restoreOther ← save env (.network o.other) o.label.key
  return {
    body := [
      .change (.label (.network o.selected) o.label.key o.label.value),
      .change (.unlabel (.network o.other) o.label.key),
      .change (.advertise o.advertisement),
      .check (o.plan env.topology) Poll.Settings.routePropagation]
    cleanup := [.withdraw o.advertisement, restoreSelected, restoreOther] }

/-- What the move of an egress address is checked with. -/
structure FailoverOptions where
  name : String
  egress : String
  /-- The node to which the address is moved, if not the first other one. -/
  target : Option String

/-- The advertisement of the default network and of egress addresses. -/
def FailoverOptions.advertisement (o : FailoverOptions) : RouteAdvertisement :=
  { name := o.name, selector := .default, advertisements := [.podNetwork, .egressIp] }

/-- The node to which an egress address is moved. -/
def failoverTarget (topology : Topology) (holder : Node) :
    Option String → Except ScenarioError Node
  | some name =>
    match topology.node? name with
    | some node =>
      if node.name = holder.name then .error (.noFailoverTarget holder.name) else .ok node
    | none => .error (.unknownNode name)
  | none =>
    match topology.nodes.find? (·.name != holder.name) with
    | some node => .ok node
    | none => .error (.noFailoverTarget holder.name)

def nodeAddress (node : Node) (family : Family) : Except ScenarioError Ip :=
  match node.address? family with
  | some ip => .ok ip
  | none => .error (.lab (.topology (.missingAddress node.name family)))

/-- An egress address that is to be moved from one node to another. -/
structure EgressMove where
  egress : Ip
  holder : Node
  /-- The node to which it is moved. -/
  target : Node
  /-- The address of the holder in the family of the egress address. -/
  holderIp : Ip
  /-- The address of the target in that family. -/
  targetIp : Ip

namespace EgressMove

/-- The move of an egress address that is held like this. -/
def ofAssignment (topology : Topology) (held : EgressAssignment) (target : Option String) :
    Except ScenarioError EgressMove := do
  let some holder := topology.node? held.node
    | throw (.unknownNode held.node)
  let target ← failoverTarget topology holder target
  let holderIp ← nodeAddress holder held.egress.family
  let targetIp ← nodeAddress target held.egress.family
  return { egress := held.egress, holder, target, holderIp, targetIp }

/-- The external router has the address by way of the target, and not by way of the holder. -/
def plan (m : EgressMove) : Plan :=
  [Mesh.egressRoute m.egress m.holderIp false, Mesh.egressRoute m.egress m.targetIp true].foldl
    Plan.extend
    { description := s!"egress IP {m.egress} moved from {m.holder.name} to {m.target.name}" }

end EgressMove

/-- The move of the egress address with the first of these assignments. -/
def FailoverOptions.move (o : FailoverOptions) (topology : Topology) :
    List EgressAssignment → Except ScenarioError EgressMove
  | held :: _ => EgressMove.ofAssignment topology held o.target
  | [] => .error (.noEgressAssignment o.egress)

/-- An egress address is advertised and moved to another node by labels: the external router has it
by way of the one node, and later by way of the other one only. -/
def failover (env : Environment σ) (o : FailoverOptions) : Scenario σ Work := do
  let assignments ← act (env.egressAssignments o.egress)
  let m ← ExceptT.mk (pure (o.move env.topology assignments))
  let restoreHolder ← save env (.node m.holder.name) egressLabel
  let restoreTarget ← save env (.node m.target.name) egressLabel
  return {
    body := [
      .change (.advertise o.advertisement),
      .check (Mesh.egressRoute m.egress m.holderIp true) Poll.Settings.routePropagation,
      .change (.label (.node m.target.name) egressLabel ""),
      .change (.unlabel (.node m.holder.name) egressLabel),
      .check m.plan Poll.Settings.failover]
    cleanup := [restoreHolder, restoreTarget, .withdraw o.advertisement] }

/-- What the recovery from a restart is checked with. -/
structure RecoveryOptions where
  name : String
  disruption : Disruption

/-- The default network is advertised and a part of the cluster restarted: the full mesh comes, and
it comes again. -/
def recovery (env : Environment σ) (o : RecoveryOptions) : Scenario σ Work := do
  requireSubnets env .default
  let ra := defaultAdvertisement o.name
  let recovered : Plan :=
    { description := s!"full mesh of network {NetworkName.default} after {o.disruption}" }
  return {
    body := [
      .change (.advertise ra),
      .check (Mesh.sessions env.topology) Poll.Settings.neighbor,
      .check (defaultMesh env) Poll.Settings.routePropagation,
      .change (.disrupt o.disruption),
      .check (recovered.extend (defaultMesh env)) Poll.Settings.routePropagation]
    cleanup := [.withdraw ra] }

end Scenario

/-- One of the scenarios, with what it is checked with. -/
inductive ScenarioChoice where
  /-- The default network, advertised under that name and withdrawn again. -/
  | defaultNetwork (name : String)
  | selector (options : Scenario.SelectorOptions)
  | failover (options : Scenario.FailoverOptions)
  | recovery (options : Scenario.RecoveryOptions)

namespace ScenarioChoice

variable {σ : Type}

/-- The work of the scenario, once its options are checked and the labels are saved that it is going
to change. -/
def work (env : Environment σ) : ScenarioChoice → Scenario σ Scenario.Work
  | .defaultNetwork name => Scenario.defaultNetwork env name
  | .selector options => Scenario.selector env options
  | .failover options => Scenario.failover env options
  | .recovery options => Scenario.recovery env options

def scenario (env : Environment σ) (choice : ScenarioChoice) : Scenario σ Unit := do
  (← choice.work env).run env

end ScenarioChoice

end RouteWatch
