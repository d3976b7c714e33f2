import RouteWatch.Proofs.Scenario.Labels
import RouteWatch.Simulation.Faults

/-!
# Faults and labels

Calls that do nothing but fail leave the labels alone: an environment that keeps labels still does
so if some of its calls fail.
-/

namespace RouteWatch.Simulation

open Scenario

variable {σ α : Type} {faults : List Fault}

theorem run_call (call : Call) (x : Action σ ScenarioError α) (limit : Option Millis)
    (now : Millis) (w : σ) (calls : Calls) :
    let fault : Fault := ⟨call, calls.count call + 1⟩
    (call.make faults x).run.run limit now (w, calls) =
      if faults.contains fault then ⟨some (.error fault.error), now, (w, call :: calls)⟩
      else (x.run.beside Calls).run limit now (w, call :: calls) := by
  intro fault
  -- the count is taken, and the rest of the call depends on the fault only
  change (ExceptT.run (if faults.contains fault then do
    throw fault.error
    ExceptT.mk (x.run.beside Calls)
  else ExceptT.mk (x.run.beside Calls))).run limit now (w, call :: calls) = _
  split <;> rfl

/-- A call that may be one of the faults leads where the call itself leads, or it fails and has done
nothing. -/
theorem leads_call {I : σ → Prop} {Q : Option (Except ScenarioError α) → σ → Prop} (call : Call)
    {x : Action σ ScenarioError α} (h : Timed.Leads I x.run Q)
    (hfail : ∀ e w, I w → Q (some (.error e)) w) :
    Timed.Leads (fun s => I s.1) (call.make faults x).run fun r s => Q r s.1 := by
  rintro limit now ⟨w, calls⟩ hw
  rw [run_call]
  split
  · exact hfail _ w hw
  · exact h limit now w hw

theorem keepsLabels_withFaults {env : Environment σ} {view : σ → Labels}
    (h : KeepsLabels env view) (faults : List Fault) :
    KeepsLabels (withFaults faults env) fun s => view s.1 where
  change v c := by
    have hcall : ∀ call : Call, Timed.Leads (fun s => view s.1 = v)
        (call.make faults (c.make env)).run fun r s =>
        ∀ answer, r = some answer →
          view s.1 = c.relabel v ∨ (answer.isOk = false ∧ view s.1 = v) :=
      fun call => leads_call call (h.change v c) fun e w hw answer hanswer =>
        .inr ⟨by rw [← Option.some.inj hanswer]; rfl, hw⟩
    cases c <;> exact hcall _
  converge v plan settings := fun limit now s hs => h.converge v plan settings limit now s.1 hs
  labels v object := leads_call .labels (h.labels v object) fun _ _ hw => hw
  egressAssignments v name :=
    leads_call .egressAssignments (h.egressAssignments v name) fun _ _ hw => hw
  reads v object := leads_call .labels (h.reads v object) nofun

end RouteWatch.Simulation
