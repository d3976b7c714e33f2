import RouteWatch.Table
import RouteWatch.Text.Search

/-!
# Names of pod networks

A pod network is the default one or one that a user defined in a namespace. It has two texts: the
one shown to people, with a slash, and the key under which a node's annotation lists its subnets,
with an underscore.
-/

namespace RouteWatch

/-- The name of a pod network. -/
inductive NetworkName where
  | default
  /-- A network of that name in a namespace. -/
  | user (space name : String)
  deriving DecidableEq

namespace NetworkName

instance : Inhabited NetworkName :=
  ⟨.default⟩

/-- The default network comes before the others. -/
def rank : NetworkName → Nat
  | .default => 0
  | .user .. => 1

/-- The namespace; the default network has none. -/
def space : NetworkName → String
  | .default => ""
  | .user space _ => space

/-- The name within the namespace; the default network has none. -/
def name : NetworkName → String
  | .default => ""
  | .user _ name => name

/-- Networks are ordered by namespace and name, after the default one. -/
instance : Ord NetworkName :=
  ⟨compareLex (compareOn rank) (compareLex (compareOn space) (compareOn name))⟩

instance : Std.TransOrd NetworkName :=
  inferInstanceAs (Std.TransCmp (compareLex (compareOn rank)
    (compareLex (compareOn space) (compareOn name))))

instance : Std.LawfulEqOrd NetworkName :=
  lawfulEqCmp_compareLex fun a b hrank hrest => by
    obtain ⟨hspace, hname⟩ := Ordering.then_eq_eq.1 hrest
    rw [compareOn, Std.LawfulEqOrd.compare_eq_iff_eq] at hspace hname
    cases a <;> cases b <;> simp_all [rank, space, name]

/-- The text shown to people. -/
def text : NetworkName → String
  | .default => "default"
  | .user space name => s!"{space}/{name}"

instance : ToString NetworkName :=
  ⟨text⟩

/-- The key in the annotation that lists the subnets of a node. -/
def key : NetworkName → String
  | .default => "default"
  | .user space name => s!"{space}_{name}"

def ofKey? (key : String) : Option NetworkName :=
  if key = "default" then some .default
  else
    match Text.splitOnce '_' key with
    | some (space, name) => if space.isEmpty || name.isEmpty then none else some (.user space name)
    | none => none

def parse? (s : String) : Option NetworkName :=
  if s = "default" then some .default
  else
    match Text.splitOnce '/' s with
    | some (space, name) =>
      if space.isEmpty || name.isEmpty || name.toList.contains '/' then none
      else some (.user space name)
    | none => none

/-- The network that a cluster-wide user-defined network of this name is. -/
def ofClusterWide (name : String) : NetworkName :=
  .user "cluster" s!"udn_{name}"

theorem ofClusterWide_inj {a b : String} : ofClusterWide a = ofClusterWide b ↔ a = b := by
  refine ⟨fun h => ?_, congrArg _⟩
  have hname : "udn_" ++ a = "udn_" ++ b := (NetworkName.user.inj h).2
  simpa using hname

end NetworkName

end RouteWatch
