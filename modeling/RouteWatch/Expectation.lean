import RouteWatch.Match.Neighbor

/-!
# Expectations on samples

A check is a fact that a sample can show: a route or an established session. An expectation says
whether the fact has to be there or must not be there.
-/

namespace RouteWatch

/-- A fact to look for in a sample. -/
inductive Check where
  /-- A route to the subnet by way of the next hop. -/
  | route (view : View) (subnet : Subnet) (nextHop : Ip)
  /-- An established session with the peer. -/
  | neighbor (peer : Ip)
  deriving DecidableEq

namespace Check

/-- The sample shows the fact. -/
def found (sample : String) : Check → Bool
  | .route view subnet nextHop => Match.route view subnet nextHop sample
  | .neighbor peer => Match.neighbor peer sample

def text : Check → String
  | .route view subnet nextHop => s!"route {subnet} via {nextHop} in the {view}"
  | .neighbor peer => s!"established BGP session with {peer}"

instance : ToString Check :=
  ⟨text⟩

end Check

/-- A fact that has to be there, or must not be there. -/
structure Expectation where
  check : Check
  present : Bool
  deriving DecidableEq

namespace Expectation

def negate (e : Expectation) : Expectation :=
  { e with present := !e.present }

/-- Whether a fact was found agrees with whether it had to be. -/
def verdict (found present : Bool) : Bool :=
  found == present

/-- The sample is as expected. -/
def holds (sample : String) (e : Expectation) : Bool :=
  verdict (e.check.found sample) e.present

def text (e : Expectation) : String :=
  if e.present then s!"{e.check} (expected present)" else s!"{e.check} (expected absent)"

instance : ToString Expectation :=
  ⟨text⟩

@[simp] theorem negate_negate (e : Expectation) : e.negate.negate = e := by
  simp [negate]

theorem negate_inj {e e' : Expectation} : e.negate = e'.negate ↔ e = e' :=
  ⟨fun h => by rw [← negate_negate e, h, negate_negate], congrArg negate⟩

theorem holds_negate (sample : String) (e : Expectation) :
    e.negate.holds sample = !e.holds sample := by
  simp only [holds, verdict, negate]
  cases e.check.found sample <;> cases e.present <;> rfl

end Expectation

end RouteWatch
