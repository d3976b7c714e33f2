import RouteWatch.Proofs.Convergence
import RouteWatch.Proofs.Node
import RouteWatch.Proofs.Scenario.Labels
import RouteWatch.Proofs.Scenario.Passes
import RouteWatch.Proofs.Scenario.Returns
import RouteWatch.Simulation.World

/-!
# The simulated cluster as an environment

The simulated cluster answers every call, and every change is made. Its labels are a store that
changes as it is told to, and so are the names that are declared.
-/

namespace RouteWatch.Simulation

open Scenario

/-- The labels of the world, one by one. -/
def World.label (w : World) : Labels :=
  fun object => (w.labelsOf object).get?

/-- The names that are declared after the change. -/
def redeclare : Change → List String → List String
  | .advertise ra, names => names ++ [ra.name]
  | .withdraw ra, names => names.filter (· ≠ ra.name)
  | _, names => names

namespace World

theorem label_setLabel (w : World) (object : ObjectKey) (key value : String) :
    (w.setLabel object key value).label = w.label.set object key (some value) := by
  funext o k
  simp only [label, labelsOf, setLabel, Table.get?_insert, Labels.set,
    Std.LawfulEqOrd.compare_eq_iff_eq]
  by_cases ho : o = object
  · subst ho
    simp [Table.get?_insert]
  · simp [ho]

theorem label_clearLabel (w : World) (object : ObjectKey) (key : String) :
    (w.clearLabel object key).label = w.label.set object key none := by
  funext o k
  simp only [label, labelsOf, clearLabel, Labels.set]
  cases hlabels : w.labels.get? object with
  | none =>
    by_cases ho : o = object
    · subst ho
      have hempty : (∅ : Table String String).get? k = none := rfl
      simp [hlabels, hempty]
    · simp [ho]
  | some labels =>
    simp only [Table.get?_insert, Std.LawfulEqOrd.compare_eq_iff_eq]
    by_cases ho : o = object
    · subst ho
      simp [hlabels, Table.get?_erase]
    · simp [ho]

theorem exists_clearLabel (w : World) (object : ObjectKey) (key : String) :
    ∃ labels, w.clearLabel object key = { w with labels } := by
  rw [clearLabel]
  split
  · exact ⟨_, rfl⟩
  · exact ⟨w.labels, rfl⟩

@[simp] theorem declared_declare (w : World) (now : Millis) (ra : RouteAdvertisement) :
    (w.declare now ra).declared = w.declared ++ [ra.name] := by
  simp [declared, declare]

@[simp] theorem declared_withdraw (w : World) (now : Millis) (name : String) :
    (w.withdraw now name).declared = w.declared.filter (· ≠ name) := by
  simp only [declared, withdraw, List.filter_map, List.map_map]
  induction w.declarations with
  | nil => rfl
  | cons d rest ih =>
    rcases d with ⟨ra, declared, _ | _⟩ <;> by_cases h : ra.name = name <;>
      simp_all [Declaration.delete]

@[simp] theorem declared_clearLabel (w : World) (object : ObjectKey) (key : String) :
    (w.clearLabel object key).declared = w.declared := by
  rw [clearLabel]
  split <;> rfl

end World

namespace Cluster

variable (c : Cluster)

theorem exists_moveEgress (w : World) (now : Millis) (name : String) :
    ∃ egress, c.moveEgress w now name = { w with egress } := by
  rw [moveEgress]
  split
  · split
    · exact ⟨_, rfl⟩
    · exact ⟨w.egress, rfl⟩
  · exact ⟨w.egress, rfl⟩

/-- Besides labels, a label that is taken away changes at most who holds an egress address. -/
theorem exists_unlabel (object : ObjectKey) (key : String) (now : Millis) (w : World) :
    ∃ egress, c.unlabel object key now w = { w.clearLabel object key with egress } := by
  rw [unlabel]
  split
  · exact c.exists_moveEgress (w.clearLabel object key) now object.name
  · exact ⟨(w.clearLabel object key).egress, rfl⟩

theorem label_unlabel (object : ObjectKey) (key : String) (now : Millis) (w : World) :
    (c.unlabel object key now w).label = w.label.set object key none := by
  obtain ⟨egress, hunlabel⟩ := c.exists_unlabel object key now w
  rw [hunlabel]
  exact World.label_clearLabel w object key

theorem declared_unlabel (object : ObjectKey) (key : String) (now : Millis) (w : World) :
    (c.unlabel object key now w).declared = w.declared := by
  obtain ⟨egress, hunlabel⟩ := c.exists_unlabel object key now w
  rw [hunlabel]
  exact World.declared_clearLabel w object key

/-! ## The changes -/

/-- The world after the change. -/
def after (c : Cluster) : Change → Millis → World → World
  | .advertise ra, now, w => (w.log (.advertise ra.name)).declare now ra
  | .withdraw ra, now, w => (w.log (.withdraw ra.name)).withdraw now ra.name
  | .label object key value, _, w => (w.log (.label object key value)).setLabel object key value
  | .unlabel object key, now, w => c.unlabel object key now (w.log (.unlabel object key))
  | .disrupt part, now, w => { w.log (.disrupt part) with outage := some now }

/-- Every change is made, and takes no time. -/
theorem run_make (change : Change) (limit : Option Millis) (now : Millis) (w : World) :
    (change.make c.environment).run.run limit now w = ⟨some (.ok ()), now, c.after change now w⟩ := by
  cases change <;> rfl

theorem label_after (change : Change) (now : Millis) (w : World) :
    (c.after change now w).label = change.relabel w.label := by
  cases change with
  | advertise | withdraw | disrupt => rfl
  | label object key value => exact World.label_setLabel _ object key value
  | unlabel object key => exact c.label_unlabel object key now _

theorem declared_after (change : Change) (now : Millis) (w : World) :
    (c.after change now w).declared = redeclare change w.declared := by
  cases change with
  | advertise ra => exact World.declared_declare _ now ra
  | withdraw ra => exact World.declared_withdraw _ now ra.name
  | label | disrupt => rfl
  | unlabel object key => exact c.declared_unlabel object key now _

section

variable (now : Millis) (w : World) (object : ObjectKey) (key value : String)

@[simp] theorem declarations_advertise (ra : RouteAdvertisement) :
    (c.after (.advertise ra) now w).declarations = w.declarations ++ [⟨ra, now, none⟩] := rfl

@[simp] theorem outage_advertise (ra : RouteAdvertisement) :
    (c.after (.advertise ra) now w).outage = w.outage := rfl

@[simp] theorem declarations_label :
    (c.after (.label object key value) now w).declarations = w.declarations := rfl

@[simp] theorem outage_label :
    (c.after (.label object key value) now w).outage = w.outage := rfl

@[simp] theorem declarations_unlabel :
    (c.after (.unlabel object key) now w).declarations = w.declarations := by
  obtain ⟨egress, hunlabel⟩ := c.exists_unlabel object key now (w.log (.unlabel object key))
  obtain ⟨labels, hclear⟩ := (w.log (.unlabel object key)).exists_clearLabel object key
  rw [after, hunlabel, hclear]
  rfl

@[simp] theorem outage_unlabel :
    (c.after (.unlabel object key) now w).outage = w.outage := by
  obtain ⟨egress, hunlabel⟩ := c.exists_unlabel object key now (w.log (.unlabel object key))
  obtain ⟨labels, hclear⟩ := (w.log (.unlabel object key)).exists_clearLabel object key
  rw [after, hunlabel, hclear]
  rfl

end

/-- The steps go on after a change in the world that it leaves. -/
theorem passes_change_iff {change : Change} {steps : List Step} {report : Report}
    {limit : Option Millis} {now : Millis} {w : World} :
    Passes c.environment (.change change :: steps) ⟨report, limit, now, w⟩ ↔
      Passes c.environment steps ⟨report, limit, now, c.after change now w⟩ :=
  passes_change (c.run_make change limit now w)

/-! ## The calls -/

/-- Samples change nothing but their number. -/
theorem keeps_sampler {I : World → Prop} (h : ∀ w samples, I w → I { w with samples })
    (target : Target) (query : Query) : Timed.Keeps I (c.sampler target query).run :=
  .bind_action (Timed.Keeps.map _ (Timed.Leads.act fun _ w hw => h w _ hw)) fun _ =>
    .bind_action (.pure _) fun _ => .pure _

theorem tracks {β : Type} {view : World → β} {effect : Change → β → β}
    (hchange : ∀ change now w, view (c.after change now w) = effect change (view w))
    (hsamples : ∀ w samples, view { w with samples } = view w) :
    Tracks c.environment effect view where
  change v change := by
    rintro limit now w rfl answer h
    rw [c.run_make]
    exact .inl (hchange change now w)
  converge v plan settings :=
    keeps_converge (c.keeps_sampler fun w samples hw => (hsamples w samples).trans hw) _ plan
      settings
  labels v object := Timed.Keeps.map _ (Timed.Leads.act fun _ _ hw => hw)
  egressAssignments v name := Timed.Keeps.map _ (Timed.Leads.act fun _ _ hw => hw)

theorem keepsLabels : KeepsLabels c.environment World.label where
  toTracks := c.tracks c.label_after fun _ _ => rfl
  reads := by
    rintro v object limit now w rfl labels h
    have h : some (Except.ok (w.labelsOf object)) = some (.ok labels) := h
    cases h
    rfl

theorem tracks_declared : Tracks c.environment redeclare World.declared :=
  c.tracks c.declared_after fun _ _ => rfl

theorem answers : Answers c.environment where
  change change now w := ⟨_, now, _, c.run_make change none now w⟩
  converge plan settings := returns_converge _ _ plan settings
  labels _ := Timed.Returns.map _ (.act _)
  egressAssignments _ := Timed.Returns.map _ (.act _)

end Cluster

/-! ## A cluster of three nodes -/

/-- A node with an address of each family, and with a subnet of each in the default network and in two
others. -/
def dualNode (name : String) (i : UInt8) : Node :=
  (Node.fresh name).after [
    .setAddress (.v4 ⟨192, 0, 2, 11 + i⟩),
    .setAddress (.v6 ⟨0x2001, 0xDB8, 0, 0, 0, 0, 0, 11 + i.toUInt16⟩),
    .assignSubnet .default (.v4 (.sharing 24 ⟨10, 128, i, 0⟩)),
    .assignSubnet .default (.v6 (.sharing 64 ⟨0xFD01, 0, 0, i.toUInt16, 0, 0, 0, 0⟩)),
    .assignSubnet (.ofClusterWide "blue") (.v4 (.sharing 24 ⟨10, 201, i, 0⟩)),
    .assignSubnet (.ofClusterWide "blue") (.v6 (.sharing 64 ⟨0xFD02, 0, 0, i.toUInt16, 0, 0, 0, 0⟩)),
    .assignSubnet (.ofClusterWide "red") (.v4 (.sharing 24 ⟨10, 202, i, 0⟩)),
    .assignSubnet (.ofClusterWide "red") (.v6 (.sharing 64 ⟨0xFD03, 0, 0, i.toUInt16, 0, 0, 0, 0⟩))]

/-- A topology of three such nodes. -/
def dualNodes : Topology where
  stack := .dual
  nodes := [dualNode "worker-0" 0, dualNode "worker-1" 1, dualNode "worker-2" 2]
  nonempty := List.cons_ne_nil _ _
  ascending := by decide +kernel
  addressed := by decide +kernel

end RouteWatch.Simulation
