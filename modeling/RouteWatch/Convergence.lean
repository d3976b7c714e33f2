import RouteWatch.Plan
import RouteWatch.Poll

/-!
# Waiting for a plan to hold

A plan has converged once all its expectations hold on samples that were taken in one attempt.
`converge` polls for that; an attempt that cannot take all samples counts as a failed one.
-/

namespace RouteWatch

/-- How far a plan has come. -/
inductive ConvergenceState where
  /-- It is not known yet. -/
  | polling
  /-- All expectations held at one time. -/
  | converged
  | timedOut
  deriving DecidableEq

/-- How it went with a plan. -/
structure Convergence where
  state : ConvergenceState
  attempts : Nat
  /-- The time that they took. -/
  elapsed : Millis
  /-- The expectations that did not hold in the last attempt with all samples. -/
  mismatches : List Mismatch
  /-- Why an attempt failed at last. -/
  lastError : Option String
  deriving DecidableEq

namespace Convergence

/-- All expectations held at one time. -/
def converged (c : Convergence) : Bool :=
  c.state == .converged

/-- Why the plan did not converge, in words. -/
def details (c : Convergence) : String :=
  match c.mismatches, c.lastError with
  | [m], _ => m.text
  | m :: _, _ => s!"{c.mismatches.length} expectations failed, first {m.text}"
  | [], some e => s!"no complete sample: {e}"
  | [], none => "nothing observed"

/-- What the attempts of a poll tell about a plan. -/
def ofHistory {ε : Type} (message : ε → String) (h : Poll.History ε (List Mismatch) Unit) :
    Convergence :=
  match h.value? with
  | some () => ⟨.converged, h.attempts, h.elapsed, [], none⟩
  | none => ⟨.timedOut, h.attempts, h.elapsed, h.lastObservation?.getD [], h.lastError? message⟩

end Convergence

variable {σ ε : Type}

/-- The samples of the probes, in order; the first failure ends it. -/
def capture (sampler : Sampler σ ε) (probes : List Probe) : Action σ ε (List Sample) :=
  probes.mapM fun p => sampler p.target p.query

/-- One attempt to find that the plan holds. -/
def Plan.attempt (sampler : Sampler σ ε) (plan : Plan) :
    Action σ ε (Poll.Attempt (List Mismatch) Unit) := do
  let mismatches := plan.mismatches (← capture sampler plan.probes)
  return if mismatches.isEmpty then .ready () else .pending mismatches

/-- Attempts until the plan holds, or until the time has passed. -/
def converge (sampler : Sampler σ ε) (message : ε → String) (plan : Plan)
    (settings : Poll.Settings) : Timed σ Convergence := do
  return .ofHistory message (← poll settings (plan.attempt sampler))

end RouteWatch
