import RouteWatch.Scenario.Environment

/-!
# Calls that fail

An environment in which chosen calls fail: the n-th call of a kind does nothing but fail. The calls
that were made are kept beside the world.
-/

namespace RouteWatch.Simulation

/-- The kinds of calls to an environment that may fail. -/
inductive Call where
  | advertise
  | withdraw
  | labels
  | label
  | unlabel
  | egressAssignments
  | disrupt
  deriving DecidableEq

namespace Call

def text : Call → String
  | .advertise => "advertise"
  | .withdraw => "withdraw"
  | .labels => "labels"
  | .label => "label"
  | .unlabel => "unlabel"
  | .egressAssignments => "egress_assignments"
  | .disrupt => "disrupt"

def all : List Call :=
  [.advertise, .withdraw, .labels, .label, .unlabel, .egressAssignments, .disrupt]

/-- The kind in that word. -/
def parse? (s : String) : Option Call :=
  all.find? (·.text == s)

end Call

/-- The call of a kind that fails, counted from 1. -/
structure Fault where
  call : Call
  number : Nat
  deriving DecidableEq

/-- How the call fails. -/
def Fault.error (f : Fault) : ScenarioError :=
  .invalid s!"injected failure of {f.call.text} {f.number}"

/-- The calls that were made. -/
abbrev Calls := List Call

/-- The call is made, and does nothing but fail if it is one of the faults. -/
def Call.make {σ α : Type} (faults : List Fault) (call : Call) (x : Action σ ScenarioError α) :
    Action (σ × Calls) ScenarioError α := do
  let number ← Action.time <| Timed.act fun _ (world, calls) =>
    (calls.count call + 1, (world, call :: calls))
  let fault : Fault := ⟨call, number⟩
  if faults.contains fault then throw fault.error
  ExceptT.mk (Timed.beside Calls x.run)

/-- The environment in which these calls fail. -/
def withFaults {σ : Type} (faults : List Fault) (env : Environment σ) :
    Environment (σ × Calls) where
  topology := env.topology
  routers := env.routers
  statics := env.statics
  converge plan settings := (env.converge plan settings).beside Calls
  advertise ra := Call.advertise.make faults (env.advertise ra)
  withdraw ra := Call.withdraw.make faults (env.withdraw ra)
  labels object := Call.labels.make faults (env.labels object)
  label object key value := Call.label.make faults (env.label object key value)
  unlabel object key := Call.unlabel.make faults (env.unlabel object key)
  egressAssignments name := Call.egressAssignments.make faults (env.egressAssignments name)
  disrupt part := Call.disrupt.make faults (env.disrupt part)

end RouteWatch.Simulation
