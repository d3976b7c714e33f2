import RouteWatch.Proofs.Cluster.Calls
import RouteWatch.Proofs.Poll.Bounds
import RouteWatch.Proofs.Text.Words

/-!
# What the drivers of the cluster promise

The cluster may answer anything, and something else each time it is asked. Nevertheless a driver that
reports a success has read it off the last answer: that answer ends the log. A driver that polls has
one way to fail, and fails in it only after its time is over.

* `Prints`: one call and what it prints, as a step from log to log;
* `waits_await`: when a poll comes back, and how it can fail;
* `drivers_verify`: what each driver promises.
-/

namespace RouteWatch

open CallLog

variable {σ α : Type}

namespace Cluster

open RouteWatch.Action

/-- From the first log to the second one, the program is asked this and prints that. -/
def Prints (c : ClusterConfig) (args : List String) (text : String) (log log' : CallLog) : Prop :=
  ∃ reply, printed args reply = .ok text ∧
    log' = log ++ callEvents (invocation c args) (some (.ok reply))

variable (rn : Runner σ) (c : ClusterConfig) (kind : String) (space : Option String) (name : String)

theorem leads_prints (args : List String) (log : CallLog) :
    Leads (fun s => s.2 = log) (run (logged rn) c args) (fun text s => Prints c args text log s.2)
      (fun _ => True) fun _ => True :=
  (leads_runWith rn c args none log).value_only fun _ _ hs => hs

/-! ## Reading a field -/

/-- What is asked to print a field of an object. -/
def fieldArgs (kind : String) (space : Option String) (name path : String) : List String :=
  ["get", kind, name, s!"-ojsonpath={path}"] ++ inNamespace space

/-- A value is what the field says that was printed. -/
theorem leads_read (path : String) (value : String → Except ClusterError α) (log : CallLog) :
    Leads (fun s => s.2 = log) (do Action.ofExcept (value (← field (logged rn) c kind space name path)))
      (fun a s => ∃ text, Prints c (fieldArgs kind space name path) text log s.2 ∧
        value (Text.trim text) = .ok a)
      (fun _ => True) fun _ => True := by
  refine Leads.bind (Q := fun trimmed s => ∃ text,
    Prints c (fieldArgs kind space name path) text log s.2 ∧ Text.trim text = trimmed) ?_
    fun trimmed => ?_
  · exact (leads_prints rn c _ log).bind fun text => .pure fun s hs => ⟨text, hs, rfl⟩
  · refine .ofExcept (fun a s ha hs => ?_) fun _ _ _ _ => trivial
    obtain ⟨text, hprints, rfl⟩ := hs
    exact ⟨text, hprints, ha⟩

/-! ## What is awaited -/

/-- The last thing on the log is a condition of the object that is met for the desired reason. -/
def ConditionMet (c : ClusterConfig) (kind : String) (space : Option String)
    (name desired message : String) (log : CallLog) : Prop :=
  ∃ before text condition,
    Prints c (fieldArgs kind space name "\x7b.status.conditions[0]\x7d") text before log ∧
    Condition.ofJson (Text.trim text) = .ok (some condition) ∧
    condition.status = "True" ∧ desired.toList <:+: condition.reason.toList ∧
    message = condition.message

/-- The last thing on the log is the state of an operator that has nothing to do. -/
def OperatorSettled (c : ClusterConfig) (name : String) (log : CallLog) : Prop :=
  ∃ before text status,
    Prints c (fieldArgs "clusteroperator" none name "\x7b.status.conditions\x7d") text before log ∧
    OperatorStatus.ofJson (Text.trim text) = .ok status ∧
    status.available = true ∧ status.progressing = false ∧ status.degraded = false

/-- The last thing on the log is a list of pods. There are some, and all are ready. -/
def PodsListedReady (c : ClusterConfig) (space labels : String) (log : CallLog) : Prop :=
  ∃ before text,
    Prints c ["get", "pods", "-n", space, "-l", labels, readinessPath] text before log ∧
    Text.words text ≠ [] ∧ ∀ state ∈ Text.words text, state = "True"

theorem reports_awaitCondition (desired : String) :
    (awaitCondition (logged rn) c kind space name desired).Reports fun message s =>
      ConditionMet c kind space name desired message s.2 := by
  refine leads_await (Reports.of_log fun log => ?_) _ _ _
  refine Leads.bind (leads_read rn c kind space name _ Condition.ofJson log) fun found => ?_
  cases found with
  | none => exact .pure fun _ _ => trivial
  | some condition =>
    apply Leads.pure
    intro s hs
    obtain ⟨text, hprints, hread⟩ := hs
    by_cases hmet : condition.isMet desired = true
    · rw [if_pos hmet]
      rw [Condition.isMet, Bool.and_eq_true, beq_iff_eq] at hmet
      obtain ⟨hreason, hstatus⟩ := hmet
      obtain ⟨before, rest, hpiece⟩ := Text.containsOf_iff.1 hreason
      exact ⟨log, text, condition, hprints, hread, hstatus, ⟨before, rest, hpiece.symm⟩, rfl⟩
    · rw [if_neg hmet]
      trivial

theorem reports_awaitOperator :
    (awaitOperator (logged rn) c name).Reports fun _ s => OperatorSettled c name s.2 := by
  refine leads_await (Reports.of_log fun log => ?_) _ _ _
  refine Leads.bind (leads_read rn c "clusteroperator" none name _ OperatorStatus.ofJson log)
    fun status => ?_
  apply Leads.pure
  intro s hs
  obtain ⟨text, hprints, hread⟩ := hs
  by_cases hsettled : status.settled = true
  · rw [if_pos hsettled]
    have hparts : (status.available = true ∧ status.progressing = false) ∧
        status.degraded = false := by
      simpa [OperatorStatus.settled] using hsettled
    exact ⟨log, text, status, hprints, hread, hparts.1.1, hparts.1.2, hparts.2⟩
  · rw [if_neg hsettled]
    trivial

theorem podsReady_iff {states : String} :
    podsReady states = true ↔ Text.words states ≠ [] ∧ ∀ w ∈ Text.words states, w = "True" := by
  simp [podsReady]

theorem reports_awaitPods (space labels : String) :
    (awaitPods (logged rn) c space labels).Reports fun _ s =>
      PodsListedReady c space labels s.2 := by
  refine leads_await (Reports.of_log fun log => ?_) _ _ _
  refine Leads.bind (Q := fun states s => ∃ text, Prints c
    ["get", "pods", "-n", space, "-l", labels, readinessPath] text log s.2 ∧
      Text.words states = Text.words text) ?_ fun states => ?_
  · exact (leads_prints rn c _ log).bind fun text =>
      .pure fun s hs => ⟨text, hs, Text.words_trim text⟩
  · apply Leads.pure
    intro s hs
    obtain ⟨text, hprints, hwords⟩ := hs
    by_cases hready : podsReady states = true
    · rw [if_pos hready]
      rw [podsReady_iff, hwords] at hready
      exact ⟨log, text, hprints, hready⟩
    · rw [if_neg hready]
      split
      · trivial
      · trivial

/-! ## How long it is waited -/

/-- The action comes back, at most an interval after its time is over. It fails only with the timeout
that names what was awaited, and only after that time. -/
def Waits (settings : Poll.Settings) (what : String) (x : Action σ ClusterError α) : Prop :=
  ∀ now w, ∃ r now' w', x.run.run none now w = ⟨some r, now', w'⟩ ∧
    now' ≤ now + settings.timeout + settings.interval ∧
    ∀ e, r = .error e → (∃ last, e = .timeout what last) ∧ now + settings.timeout ≤ now'

theorem waits_await {ο : Type} {settings : Poll.Settings} (hs : 0 < settings.interval)
    (what : String) (describe : ο → String)
    (attempt : Action σ ClusterError (Poll.Attempt ο α)) :
    Waits settings what (await settings what describe attempt) := by
  intro now w
  obtain ⟨ts, now', w', hrun, hlast, htries⟩ := run_poll settings hs attempt now w
  have hend := htries.now_le (Nat.le_add_right _ _) hlast
  cases houtcome : (⟨now, ts⟩ : Poll.History ClusterError ο α).outcome what ClusterError.message with
  | ok polled =>
    refine ⟨.ok polled.value, now', w', ?_, hend, ?_⟩
    · rw [await, Action.time, ExceptT.run_bind_lift, Timed.run_bind, hrun]
      simp only [houtcome]
      rfl
    · rintro e ⟨⟩
  | error t =>
    obtain ⟨hvalue, -⟩ := Poll.History.of_outcome_eq_error houtcome
    obtain ⟨hwhat, -⟩ := Poll.History.told_of_outcome_eq_error houtcome
    refine ⟨.error (.timeout what (t.last describe)), now', w', ?_, hend, ?_⟩
    · rw [await, Action.time, ExceptT.run_bind_lift, Timed.run_bind, hrun]
      simp only [houtcome, hwhat]
      rfl
    · rintro e ⟨⟩
      exact ⟨⟨_, rfl⟩, htries.le_finish (Poll.History.value?_eq_none_iff.1 hvalue) hlast⟩

/-! ## Deleting -/

theorem listing_ne_deletion : listing c kind space ≠ deletion c kind space name := by
  intro h
  have hargs := List.append_cancel_left (congrArg Invocation.args h)
  simp [listingArgs] at hargs

/-- The call asks for the list of objects or for the deletion of the object. -/
def ListsOrDeletes (c : ClusterConfig) (kind : String) (space : Option String) (name : String)
    (i : Invocation) : Prop :=
  i = listing c kind space ∨ i = deletion c kind space name

/-- What is asked for a deletion. The object is only deleted if the first list has it. -/
structure Justified (c : ClusterConfig) (kind : String) (space : Option String) (name : String)
    (t : CallLog) : Prop where
  only : ∀ i ∈ issued t, ListsOrDeletes c kind space name i
  listed : deletion c kind space name ∈ issued t → ∃ text first,
    Prints c (listingArgs kind space) text [] first ∧ first <+: t ∧ name ∈ Text.words text

theorem justified_listing (answer : Option (Except LaunchFault Reply)) :
    Justified c kind space name (callEvents (listing c kind space) answer) := by
  have hissued : issued (callEvents (listing c kind space) answer) = [listing c kind space] := by
    cases answer <;> rfl
  refine ⟨fun i hi => ?_, fun hdeletion => ?_⟩
  · rw [hissued] at hi
    exact .inl (List.mem_singleton.1 hi)
  · rw [hissued] at hdeletion
    exact absurd (List.mem_singleton.1 hdeletion).symm (listing_ne_deletion c kind space name)

/-- What is asked after the first list had the object is justified by it. -/
theorem justified_of_listed {log first log' : CallLog} {text : String}
    (hprints : Prints c (listingArgs kind space) text log first) (hname : name ∈ Text.words text)
    (hadds : Adds first (fun calls => ∀ i ∈ calls, ListsOrDeletes c kind space name i) log') :
    ∃ t, log' = log ++ t ∧ Justified c kind space name t := by
  obtain ⟨reply, hprinted, rfl⟩ := hprints
  obtain ⟨rest, rfl, hrest⟩ := hadds
  refine ⟨callEvents (listing c kind space) (some (.ok reply)) ++ rest, List.append_assoc _ _ _,
    ?_, fun _ => ?_⟩
  · intro i hi
    rw [issued_append, List.mem_append] at hi
    rcases hi with hi | hi
    · exact (justified_listing c kind space name _).only i hi
    · exact hrest i hi
  · exact ⟨text, _, ⟨reply, hprinted, rfl⟩, List.prefix_append _ _, hname⟩

theorem keeps_listsOrDeletes (first : CallLog) {i : Invocation}
    (hi : ListsOrDeletes c kind space name i) :
    Timed.Keeps (fun s => Adds first (fun calls => ∀ i ∈ calls, ListsOrDeletes c kind space name i) s.2)
      (logged rn i) := by
  refine keeps_adds (fun calls hcalls j hj => ?_) rn
  rcases List.mem_append.1 hj with hj | hj
  · exact hcalls j hj
  · exact List.mem_singleton.1 hj ▸ hi

theorem leads_delete_justified (log : CallLog) :
    let justified := fun s : σ × CallLog => ∃ t, s.2 = log ++ t ∧ Justified c kind space name t
    Leads (fun s => s.2 = log) (delete (logged rn) c kind space name) (fun _ => justified)
      justified justified := by
  intro justified
  have hasked : ∀ (s : σ × CallLog) answer,
      s.2 = log ++ callEvents (listing c kind space) answer → justified s := fun _ answer hs =>
    ⟨_, hs, justified_listing c kind space name answer⟩
  refine ((leads_listing rn c kind space log).mono_failure (fun s hs => ?_)
    fun s hs => hasked s none hs).bind fun listed => ?_
  · obtain ⟨answer, -, hs⟩ := hs
    exact hasked s _ hs
  split
  next hlisted =>
    refine leads_log (P := fun first => ∃ reply text,
      printed (listingArgs kind space) reply = .ok text ∧ listed = Text.words text ∧
        first = log ++ callEvents (listing c kind space) (some (.ok reply))) fun first hfirst => ?_
    obtain ⟨reply, text, hprinted, rfl, hfirst⟩ := hfirst
    -- from here on it does not matter what the cluster answers
    let continues := fun s : σ × CallLog =>
      Adds first (fun calls => ∀ i ∈ calls, ListsOrDeletes c kind space name i) s.2
    have hkeeps : ∀ i, ListsOrDeletes c kind space name i →
        Timed.Keeps continues (logged rn i) := fun i => keeps_listsOrDeletes rn c kind space name first
    have hjustified : ∀ s, continues s → justified s := fun s hs =>
      justified_of_listed c kind space name ⟨reply, hprinted, hfirst⟩ (by simpa using hlisted) hs
    refine (Leads.of_keeps (I := continues) ?_).mono (fun s hs => ?_) (fun _ => hjustified)
      hjustified hjustified
    · refine ((keeps_run (hkeeps _ (.inr rfl))).map_action _).bind_action fun _ =>
        ((keeps_run (hkeeps _ (.inl rfl))).bind_action fun _ => .pure _).bind_action
          fun listed => ?_
      split
      · exact .pure _
      · exact .pure _
    · exact ⟨[], by simpa using hs, by simp [issued]⟩
  next hunlisted =>
    apply Leads.pure
    intro s hs
    obtain ⟨reply, text, -, -, hs⟩ := hs
    exact hasked s _ hs

/-- The last thing on the log is a list of objects without the name. -/
def Unlisted (c : ClusterConfig) (kind : String) (space : Option String) (name : String)
    (log : CallLog) : Prop :=
  ∃ before text, Prints c (listingArgs kind space) text before log ∧ name ∉ Text.words text

theorem reports_delete :
    (delete (logged rn) c kind space name).Reports fun _ s => Unlisted c kind space name s.2 := by
  have hnames : (names (logged rn) c kind space).Reports fun listed s =>
      name ∉ listed → Unlisted c kind space name s.2 := by
    refine Reports.of_log fun log => ?_
    refine (leads_listing rn c kind space log).value_only fun listed s hs hname => ?_
    obtain ⟨reply, text, hprinted, rfl, hs⟩ := hs
    exact ⟨log, text, ⟨reply, hprinted, hs⟩, hname⟩
  refine hnames.bind fun listed => ?_
  split
  next =>
    refine (Leads.anywhere _ _).bind fun _ => hnames.bind fun listed => ?_
    split
    next => exact .throw fun _ _ => trivial
    next hgone => exact .pure fun s hs => hs (by simpa using hgone)
  next hgone => exact .pure fun s hs => hs (by simpa using hgone)

/-! ## Labels -/

/-- What is asked to change a label. -/
def labelArgs (kind : String) (space : Option String) (name : String) (change : List String) :
    List String :=
  ["label", kind, name] ++ change ++ inNamespace space

/-- The last two things on the log are that the label was changed and which labels the object has
then. -/
def Relabelled (c : ClusterConfig) (kind : String) (space : Option String) (name : String)
    (change : List String) (map : Table String String) (log : CallLog) : Prop :=
  ∃ before changed done text, Prints c (labelArgs kind space name change) done before changed ∧
    Prints c (fieldArgs kind space name "\x7b.metadata.labels\x7d") text changed log ∧
    labelsOfJson (Text.trim text) = .ok map

theorem reports_change (change : List String) :
    (discard <| run (logged rn) c (labelArgs kind space name change)).Reports fun _ s =>
      ∃ before done, Prints c (labelArgs kind space name change) done before s.2 := by
  apply Reports.of_log
  intro log
  exact (leads_prints rn c _ log).map fun done s hs => ⟨log, done, hs⟩

/-- The labels are read after the change, not before it. -/
theorem leads_labels (change : List String) :
    Leads (fun s => ∃ before done, Prints c (labelArgs kind space name change) done before s.2)
      (labels (logged rn) c kind space name)
      (fun map s => Relabelled c kind space name change map s.2) (fun _ => True) fun _ => True := by
  refine leads_log (P := fun changed => ∃ before done,
    Prints c (labelArgs kind space name change) done before changed) fun changed hchanged => ?_
  obtain ⟨before, done, hdone⟩ := hchanged
  refine (leads_read rn c kind space name _ labelsOfJson changed).mono_value fun map s hs => ?_
  obtain ⟨text, hprints, hread⟩ := hs
  exact ⟨before, changed, done, text, hdone, hprints, hread⟩

theorem reports_label (key value : String) :
    (label (logged rn) c kind space name key value).Reports fun _ s =>
      ∃ map, Relabelled c kind space name [s!"{key}={value}", "--overwrite"] map s.2 ∧
        map.get? key = some value := by
  refine (reports_change rn c kind space name _).bind fun _ =>
    (leads_labels rn c kind space name _).bind fun map => ?_
  split
  next hset => exact .pure fun s hs => ⟨map, hs, hset⟩
  next => exact .throw fun _ _ => trivial

theorem reports_unlabel (key : String) :
    (unlabel (logged rn) c kind space name key).Reports fun _ s =>
      ∃ map, Relabelled c kind space name [s!"{key}-"] map s.2 ∧ map.get? key = none := by
  refine (reports_change rn c kind space name _).bind fun _ =>
    (leads_labels rn c kind space name _).bind fun map => ?_
  split
  next => exact .throw fun _ _ => trivial
  next habsent => exact .pure fun s hs => ⟨map, hs, by simpa [Table.contains] using habsent⟩

/-! ## All drivers -/

/-- What the drivers promise, whatever the cluster answers. -/
structure DriversVerify (rn : Runner σ) (c : ClusterConfig) : Prop where
  /-- The last declaration has succeeded. -/
  declares r : (declare (logged rn) c r).Reports fun _ s => ∃ before reply,
    reply.status.success = true ∧ s.2 = before ++ callEvents (application c r) (some (.ok reply))
  /-- The condition that was read last is met, and its message is returned. -/
  meets kind space name desired :
    (awaitCondition (logged rn) c kind space name desired).Reports fun message s =>
      ConditionMet c kind space name desired message s.2
  /-- The pods that were listed last are all ready, and there are some. -/
  readies space labels :
    (awaitPods (logged rn) c space labels).Reports fun _ s => PodsListedReady c space labels s.2
  /-- The state of the operator that was read last is settled. -/
  settles name :
    (awaitOperator (logged rn) c name).Reports fun _ s => OperatorSettled c name s.2
  /-- The objects that were listed last do not have the name. -/
  deletes kind space name :
    (delete (logged rn) c kind space name).Reports fun _ s => Unlisted c kind space name s.2
  /-- However it ends, the deletion was only called for if the first list has the name. -/
  justifies kind space name log :
    let justified := fun s : σ × CallLog => ∃ t, s.2 = log ++ t ∧ Justified c kind space name t
    Leads (fun s => s.2 = log) (delete (logged rn) c kind space name) (fun _ => justified)
      justified justified
  /-- The labels that were read after the change have the value under the key. -/
  labels kind space name key value :
    (label (logged rn) c kind space name key value).Reports fun _ s => ∃ map,
      Relabelled c kind space name [s!"{key}={value}", "--overwrite"] map s.2 ∧
        map.get? key = some value
  /-- The labels that were read after the change do not have the key. -/
  unlabels kind space name key :
    (unlabel (logged rn) c kind space name key).Reports fun _ s => ∃ map,
      Relabelled c kind space name [s!"{key}-"] map s.2 ∧ map.get? key = none
  /-- Errors only delay what is polled for. -/
  waits_declare r :
    Waits .resourceCreate s!"{r.kind} {r.name} to be declared" (declare rn c r)
  waits_awaitCondition kind space name desired :
    Waits .resourceCondition s!"{kind} {name} to be {desired}"
      (awaitCondition rn c kind space name desired)
  waits_awaitPods space labels :
    Waits .podsReady s!"pods {labels} in {space} to be ready" (awaitPods rn c space labels)
  waits_awaitOperator name :
    Waits .operatorRollout s!"cluster operator {name} to settle" (awaitOperator rn c name)

/-- The drivers report a success only if the last answer says so, and those that poll fail only when
their time is over. -/
theorem drivers_verify (rn : Runner σ) (c : ClusterConfig) : DriversVerify rn c where
  declares r := by
    refine (leads_declare rn c r (P := fun _ => True) fun _ _ _ => trivial).mono_value
      fun _ s hs => ?_
    obtain ⟨before, reply, -, hreply⟩ := hs
    exact ⟨before, reply, hreply⟩
  meets := reports_awaitCondition rn c
  readies := reports_awaitPods rn c
  settles := reports_awaitOperator rn c
  deletes := reports_delete rn c
  justifies := leads_delete_justified rn c
  labels := reports_label rn c
  unlabels := reports_unlabel rn c
  waits_declare _ := waits_await (by decide) _ _ _
  waits_awaitCondition _ _ _ _ := waits_await (by decide) _ _ _
  waits_awaitPods _ _ := waits_await (by decide) _ _ _
  waits_awaitOperator _ := waits_await (by decide) _ _ _

/-- The first listing fails, the second one has a pod that is not ready, and the third one decides. -/
theorem drivers_verify_late_pods :
    let rn : Runner (List Reply) := fun _ =>
      Timed.act fun _ replies => (.ok (replies.headD {}), replies.tail)
    let listed (text : String) : Reply := { stdout := text.toUTF8.toList }
    let e := (awaitPods (logged rn) {} "ns" "app=frr").run.run none 0
      ([{ status := .exited 1 }, listed "True False", listed "True\nTrue"], [])
    e.value? = some (.ok ()) ∧ e.now = 10000 ∧ e.world.2.length = 6 ∧
      PodsListedReady {} "ns" "app=frr" e.world.2 := by
  intro rn listed e
  have hends : e.value?.map Except.isOk = some true ∧ e.now = 10000 ∧ e.world.2.length = 6 := by
    decide +kernel
  have hready := (drivers_verify rn {}).readies "ns" "app=frr"
  rcases hrun : e with ⟨_ | _ | _, now', s⟩
  · simp [hrun] at hends
  · simp [hrun, Except.isOk, Except.toBool] at hends
  · rw [hrun] at hends
    exact ⟨rfl, hends.2.1, hends.2.2, hready.of_run trivial hrun⟩

end Cluster

end RouteWatch
