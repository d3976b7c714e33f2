import RouteWatch.Expectation
import RouteWatch.Sampling
import RouteWatch.Text.Blank

/-!
# Plans

A plan is what has to be true at one time: expectations on samples. Those that share a target and a
query share one sample, and stand together in a probe. Probes are in the order in which they were
first needed, and so are the expectations within a probe, none of which stands there twice.
-/

namespace RouteWatch

/-- A sample to take and what is expected of it. -/
structure Probe where
  target : Target
  query : Query
  /-- What is expected of the sample. -/
  expectations : List Expectation
  deriving DecidableEq

/-- Expectations that have to hold at one time. -/
structure Plan where
  description : String
  /-- The samples to take, in order. -/
  probes : List Probe := []
  deriving DecidableEq

/-- An expectation that did not hold. -/
structure Mismatch where
  target : Target
  command : String
  expectation : Expectation
  sample : String
  deriving DecidableEq

namespace Mismatch

/-- The place and the expectation. -/
def headline (m : Mismatch) : String :=
  s!"on {m.target}: {m.expectation}"

/-- The mismatch with the sample that shows it. -/
def text (m : Mismatch) : String :=
  s!"{m.headline}\n`{m.command}` returned:\n{Text.trimEnd m.sample}"

/-- Mismatches in words: their number, if there are several, and the first one. -/
def summary : List Mismatch → String
  | [] => "no mismatch"
  | [m] => m.text
  | m :: rest => s!"{rest.length + 1} mismatches, first {m.text}"

end Mismatch

namespace Probe

/-- The probe takes this sample. -/
def takes (target : Target) (query : Query) (p : Probe) : Bool :=
  p.target == target && p.query == query

/-- The probe with the expectation, unless it has it already. -/
def add (e : Expectation) (p : Probe) : Probe :=
  if p.expectations.contains e then p else { p with expectations := p.expectations ++ [e] }

/-- The probe with the opposite expectations. -/
def negate (p : Probe) : Probe :=
  { p with expectations := p.expectations.map Expectation.negate }

/-- The expectations that do not hold on the sample. -/
def mismatches (p : Probe) (sample : Sample) : List Mismatch :=
  (p.expectations.filter fun e => !e.holds sample.text).map fun e =>
    ⟨p.target, sample.command, e, sample.text⟩

end Probe

namespace Plan

/-- The probes with the expectation on the sample. -/
def pushInto (target : Target) (query : Query) (e : Expectation) : List Probe → List Probe
  | [] => [⟨target, query, [e]⟩]
  | p :: rest =>
    if p.takes target query then p.add e :: rest else p :: pushInto target query e rest

/-- The plan with the expectation on the sample. -/
def push (plan : Plan) (target : Target) (query : Query) (e : Expectation) : Plan :=
  { plan with probes := pushInto target query e plan.probes }

/-- The plan with the expectations of the probe. -/
def pushAll (plan : Plan) (p : Probe) : Plan :=
  p.expectations.foldl (fun plan e => plan.push p.target p.query e) plan

/-- The plan with all that the other one expects. -/
def extend (plan other : Plan) : Plan :=
  other.probes.foldl pushAll plan

/-- The plan that expects the opposite. -/
def negate (plan : Plan) (description : String) : Plan :=
  ⟨description, plan.probes.map Probe.negate⟩

def size (plan : Plan) : Nat :=
  (plan.probes.flatMap (·.expectations)).length

/-- The number of expectations on samples taken there. -/
def sizeOn (plan : Plan) (target : Target) : Nat :=
  ((plan.probes.filter (·.target == target)).flatMap (·.expectations)).length

/-- The expectations that do not hold on the samples, which are those of the probes in order. -/
def mismatches (plan : Plan) (samples : List Sample) : List Mismatch :=
  (List.zipWith Probe.mismatches plan.probes samples).flatten

end Plan

end RouteWatch
