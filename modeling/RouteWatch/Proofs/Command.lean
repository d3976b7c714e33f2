import RouteWatch.Command
import RouteWatch.Proofs.Time.Action

/-!
# The calls of programs

A log is kept of the programs that are run: that a call is made, and what it leaves if it comes back.
Whatever runs programs can be given ones that are on the log.

* `run_logged`: what a call on the log does;
* `keeps_only`: calls of one kind leave no others on the log;
* `leads_log`: what is said of all that a computation adds holds from any log on.
-/

namespace RouteWatch

/-- Something that happens to a call of a program. -/
inductive CallEvent where
  | sent (i : Invocation)
  /-- The program has ended, or there was none to run. -/
  | answered (i : Invocation) (answer : Except LaunchFault Reply)

/-- The call that is made or comes back. -/
def CallEvent.invocation : CallEvent → Invocation
  | .sent i => i
  | .answered i _ => i

/-- The call that is made. -/
def CallEvent.sent? : CallEvent → Option Invocation
  | .sent i => some i
  | .answered _ _ => none

/-- The event is that the call came back from a program that ended well. -/
def CallEvent.succeeds (i : Invocation) : CallEvent → Bool
  | .answered j (.ok reply) => i == j && reply.status.success
  | _ => false

/-- What happened, in order. -/
abbrev CallLog := List CallEvent

namespace CallLog

variable {log log' : CallLog} {P : Invocation → Prop} {i : Invocation}

/-- The calls that were made. -/
def issued (log : CallLog) : List Invocation :=
  log.filterMap CallEvent.sent?

@[simp] theorem issued_append (log log' : CallLog) :
    issued (log ++ log') = issued log ++ issued log' :=
  List.filterMap_append

theorem mem_issued : i ∈ issued log ↔ .sent i ∈ log := by
  rw [issued, List.mem_filterMap]
  constructor
  · rintro ⟨e, he, hsent⟩
    cases e with
    | sent j =>
      obtain rfl := Option.some.inj hsent
      exact he
    | answered => cases hsent
  · exact fun h => ⟨_, h, rfl⟩

/-- The call came back from a program that ended well. -/
def Succeeded (i : Invocation) (log : CallLog) : Prop :=
  ∃ reply : Reply, .answered i (.ok reply) ∈ log ∧ reply.status.success = true

/-- The later log has more events, and the calls among them are as `P` says. -/
def Adds (log : CallLog) (P : List Invocation → Prop) (later : CallLog) : Prop :=
  ∃ t, later = log ++ t ∧ P (issued t)

theorem Adds.mono {P P' : List Invocation → Prop} (h : Adds log P log')
    (hP : ∀ calls, P calls → P' calls) : Adds log P' log' := by
  obtain ⟨t, ht, hcalls⟩ := h
  exact ⟨t, ht, hP _ hcalls⟩

theorem Adds.trans {P Q R : List Invocation → Prop} {log'' : CallLog} (h : Adds log P log')
    (h' : Adds log' Q log'') (hR : ∀ calls calls', P calls → Q calls' → R (calls ++ calls')) :
    Adds log R log'' := by
  obtain ⟨t, rfl, hcalls⟩ := h
  obtain ⟨t', rfl, hcalls'⟩ := h'
  refine ⟨t ++ t', List.append_assoc _ _ _, ?_⟩
  rw [issued_append]
  exact hR _ _ hcalls hcalls'

instance (i : Invocation) (log : CallLog) : Decidable (Succeeded i log) :=
  decidable_of_iff (log.any (·.succeeds i) = true) <| by
    rw [List.any_eq_true]
    constructor
    · rintro ⟨_ | ⟨j, _ | reply⟩, hmem, hsucceeds⟩
      · cases hsucceeds
      · cases hsucceeds
      · obtain ⟨rfl, hsuccess⟩ : i = j ∧ reply.status.success = true := by
          simpa [CallEvent.succeeds] using hsucceeds
        exact ⟨reply, hmem, hsuccess⟩
    · rintro ⟨reply, hmem, hsuccess⟩
      exact ⟨_, hmem, by simp [CallEvent.succeeds, hsuccess]⟩

theorem Succeeded.adds {P : List Invocation → Prop} (h : Succeeded i log) (hadds : Adds log P log') :
    Succeeded i log' := by
  obtain ⟨t, rfl, -⟩ := hadds
  obtain ⟨reply, hmem, hsuccess⟩ := h
  exact ⟨reply, List.mem_append_left _ hmem, hsuccess⟩

/-- All calls on the log are of that kind. -/
def Only (P : Invocation → Prop) (log : CallLog) : Prop :=
  ∀ e ∈ log, P e.invocation

theorem Only.of_mem_issued (h : Only P log) (hi : i ∈ issued log) : P i :=
  h _ (mem_issued.1 hi)

end CallLog

open CallLog

variable {σ α : Type}

/-- The programs, on a log. -/
def logged (rn : Runner σ) : Runner (σ × CallLog) := fun i => do
  Timed.act fun _ s => ((), (s.1, s.2 ++ [.sent i]))
  let answer ← (rn i).beside CallLog
  Timed.act fun _ s => ((), (s.1, s.2 ++ [.answered i answer]))
  return answer

theorem run_logged (rn : Runner σ) (i : Invocation) (limit : Option Millis) (now : Millis)
    (s : σ × CallLog) :
    (logged rn i).run limit now s =
      match (rn i).run limit now s.1 with
      | ⟨some answer, now, w⟩ => ⟨some answer, now, (w, s.2 ++ [.sent i, .answered i answer])⟩
      | ⟨none, now, w⟩ => ⟨none, now, (w, s.2 ++ [.sent i])⟩ := by
  simp only [logged, Timed.run_bind, Timed.act, Timed.beside]
  rcases (rn i).run limit now s.1 with ⟨_ | answer, now', w⟩ <;> simp

theorem returns_logged {rn : Runner σ} {i : Invocation} (h : Timed.Returns (rn i)) :
    Timed.Returns (logged rn i) := by
  intro now s
  obtain ⟨answer, now', w, hrun⟩ := h now s.1
  rw [run_logged, hrun]
  exact ⟨_, _, _, rfl⟩

/-- What a call leaves on the log. -/
def callEvents (i : Invocation) (answer : Option (Except LaunchFault Reply)) : CallLog :=
  .sent i :: (answer.map fun a => CallEvent.answered i a).toList

theorem adds_of_callEvents {log log' : CallLog} {i : Invocation}
    {answer : Option (Except LaunchFault Reply)} (h : log' = log ++ callEvents i answer) :
    Adds log (· = [i]) log' := by
  refine ⟨_, h, ?_⟩
  cases answer <;> rfl

theorem invocation_of_mem_callEvents {i : Invocation} {answer : Option (Except LaunchFault Reply)}
    {e : CallEvent} (h : e ∈ callEvents i answer) : e.invocation = i := by
  rcases List.mem_cons.1 h with rfl | h
  · rfl
  · obtain ⟨a, -, rfl⟩ := by simpa using h
    rfl

theorem CallLog.Only.call {P : Invocation → Prop} {log : CallLog} {i : Invocation} (h : Only P log)
    (hi : P i) (answer : Option (Except LaunchFault Reply)) :
    Only P (log ++ callEvents i answer) := by
  intro e he
  rcases List.mem_append.1 he with he | he
  · exact h e he
  · exact invocation_of_mem_callEvents he ▸ hi

/-- A call has succeeded before, or it is the last one, which succeeds. -/
theorem succeeded_append_callEvents {log : CallLog} {i j : Invocation}
    {answer : Option (Except LaunchFault Reply)} (h : Succeeded j (log ++ callEvents i answer)) :
    Succeeded j log ∨
      j = i ∧ ∃ reply, answer = some (.ok reply) ∧ reply.status.success = true := by
  obtain ⟨reply, hmem, hsuccess⟩ := h
  rcases List.mem_append.1 hmem with hmem | hmem
  · exact .inl ⟨reply, hmem, hsuccess⟩
  · obtain ⟨hanswer, rfl⟩ : answer = some (.ok reply) ∧ i = j := by
      simpa [callEvents] using hmem
    exact .inr ⟨rfl, reply, hanswer, hsuccess⟩

theorem leads_logged (rn : Runner σ) (i : Invocation) (log : CallLog) :
    Timed.Leads (fun s => s.2 = log) (logged rn i) fun answer s =>
      s.2 = log ++ callEvents i answer := by
  rintro limit now s rfl
  rw [run_logged]
  rcases (rn i).run limit now s.1 with ⟨_ | answer, now', w⟩ <;> rfl

theorem keeps_only {P : Invocation → Prop} {i : Invocation} (h : P i) (rn : Runner σ) :
    Timed.Keeps (fun s => Only P s.2) (logged rn i) := by
  intro limit now s hs
  rw [leads_logged rn i s.2 limit now s rfl]
  exact hs.call h _

theorem keeps_adds {log : CallLog} {P : List Invocation → Prop} {i : Invocation}
    (h : ∀ calls, P calls → P (calls ++ [i])) (rn : Runner σ) :
    Timed.Keeps (fun s => Adds log P s.2) (logged rn i) := by
  intro limit now s hs
  rw [leads_logged rn i s.2 limit now s rfl]
  refine hs.trans (adds_of_callEvents rfl) ?_
  rintro calls _ hcalls rfl
  exact h calls hcalls

/-- What a computation leads to from each log with a property, it leads to from that property. -/
theorem leads_log {x : Timed (σ × CallLog) α} {P : CallLog → Prop}
    {Q : Option α → σ × CallLog → Prop}
    (h : ∀ log, P log → Timed.Leads (fun s => s.2 = log) x Q) : Timed.Leads (fun s => P s.2) x Q :=
  fun limit now s hs => h s.2 hs limit now s rfl

/-- What an action reports from each log on, it reports. -/
theorem Action.Reports.of_log {ε : Type} {x : Action (σ × CallLog) ε α} {Q : α → σ × CallLog → Prop}
    (h : ∀ log, Action.Leads (fun s => s.2 = log) x Q (fun _ => True) fun _ => True) :
    x.Reports Q :=
  leads_log (P := fun _ => True) fun log _ => h log

end RouteWatch
