import RouteWatch.Report
import RouteWatch.Scenario.Environment

/-!
# The work of a scenario

A scenario works in steps: changes of the cluster, and checks that a plan comes to hold. Each check
is recorded, and the first step that fails ends the work. In the end changes are made that undo
what was done; that one of them fails does not change the result.
-/

namespace RouteWatch

/-- A part of a scenario: it takes time, adds to the report, and may fail. -/
abbrev Scenario (σ α : Type) := ExceptT ScenarioError (StateT Report (Timed σ)) α

namespace Scenario

variable {σ α : Type}

/-- An action as a part of a scenario. -/
def act (x : Action σ ScenarioError α) : Scenario σ α :=
  ExceptT.mk (StateT.lift x.run)

/-- Something that cannot fail as a part of a scenario. -/
def time (x : Timed σ α) : Scenario σ α :=
  ExceptT.lift (StateT.lift x)

/-- The plan converges, which is recorded in any case. -/
def check (env : Environment σ) (plan : Plan) (settings : Poll.Settings) : Scenario σ Unit := do
  let outcome ← time (env.converge plan settings)
  modify (·.record plan settings outcome)
  ExceptT.mk (pure (outcome.ensure plan))

/-- The plan of a check that is made again. -/
def stablePlan (plan : Plan) : Plan :=
  ({ description := s!"{plan.description} (stable)" } : Plan).extend plan

/-- The plan still holds after one more interval. -/
def checkStable (env : Environment σ) (plan : Plan) (settings : Poll.Settings) :
    Scenario σ Unit := do
  time (Timed.wait settings.interval)
  check env (stablePlan plan) { settings with timeout := 0 }

/-- A change of the cluster. -/
inductive Change where
  | advertise (ra : RouteAdvertisement)
  /-- The routes are not advertised any more. -/
  | withdraw (ra : RouteAdvertisement)
  | label (object : ObjectKey) (key value : String)
  | unlabel (object : ObjectKey) (key : String)
  | disrupt (part : Disruption)
  deriving DecidableEq

/-- The change after which the object has the label with that value, or does not have it. -/
def Change.assign (object : ObjectKey) (key : String) : Option String → Change
  | some value => .label object key value
  | none => .unlabel object key

@[simp] theorem Change.advertise_ne_assign (ra : RouteAdvertisement) (object : ObjectKey)
    (key : String) (value : Option String) : advertise ra ≠ assign object key value := by
  cases value <;> nofun

@[simp] theorem Change.withdraw_ne_assign (ra : RouteAdvertisement) (object : ObjectKey)
    (key : String) (value : Option String) : withdraw ra ≠ assign object key value := by
  cases value <;> nofun

def Change.make (env : Environment σ) : Change → Action σ ScenarioError Unit
  | .advertise ra => env.advertise ra
  | .withdraw ra => env.withdraw ra
  | .label object key value => env.label object key value
  | .unlabel object key => env.unlabel object key
  | .disrupt part => env.disrupt part

inductive Step where
  | change (c : Change)
  | check (plan : Plan) (settings : Poll.Settings)
  /-- The plan, which has converged, holds one interval later as well. -/
  | checkStable (plan : Plan) (settings : Poll.Settings)
  deriving DecidableEq

/-- The step is taken in the environment. -/
def Step.take (env : Environment σ) : Step → Scenario σ Unit
  | .change c => act (c.make env)
  | .check plan settings => Scenario.check env plan settings
  | .checkStable plan settings => Scenario.checkStable env plan settings

/-- What a scenario does, and what it undoes in the end. -/
structure Work where
  /-- What is done and checked. -/
  body : List Step
  /-- The changes that undo what the body did. -/
  cleanup : List Change
  /-- A body that succeeds leaves nothing to undo. -/
  onFailureOnly : Bool := false
  deriving DecidableEq

/-- The steps, up to the first one that fails. -/
def takeAll (env : Environment σ) (steps : List Step) : Scenario σ Unit :=
  steps.forM (Step.take env)

/-- All the changes, whether or not they fail. -/
def undo (env : Environment σ) (cleanup : List Change) : Timed σ Unit :=
  cleanup.forM fun c => discard (c.make env).run

/-- Something is left to undo after this result of the body. -/
def Work.leavesCleanup (work : Work) (result : Except ScenarioError Unit) : Bool :=
  !(work.onFailureOnly && result.isOk)

/-- The result of the body, after which the cleanup runs if it is needed. -/
def Work.run (env : Environment σ) (work : Work) : Scenario σ Unit :=
  ExceptT.mk do
    let result ← (takeAll env work.body).run
    if work.leavesCleanup result then StateT.lift (undo env work.cleanup)
    return result

/-- The network has a subnet somewhere. -/
def requireSubnets (env : Environment σ) (network : NetworkName) : Scenario σ Unit :=
  unless Mesh.hasSubnets env.topology network do throw (.noSubnets network)

/-- The change that makes a label what it is now. -/
def save (env : Environment σ) (object : ObjectKey) (key : String) : Scenario σ Change := do
  return .assign object key ((← act (env.labels object)).get? key)

end Scenario

end RouteWatch
