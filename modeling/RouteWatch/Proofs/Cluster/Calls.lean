import RouteWatch.Cluster.Discovery
import RouteWatch.Cluster.Health
import RouteWatch.Proofs.Command
import RouteWatch.Proofs.Poll

/-!
# The calls to the cluster

Whatever is asked of the cluster, and however long it is waited for, is asked in calls of one program.
What these calls keep is therefore kept by everything that is asked.
-/

namespace RouteWatch

open CallLog Timed

variable {σ α β : Type} {I : σ → Prop} {rn : Runner σ}

namespace Cluster

/-- What is asked of the cluster in words. -/
def verbs : List String :=
  ["get", "patch", "apply", "delete", "label", "exec", "debug"]

/-- The call is one to the cluster. -/
def IsCall (c : ClusterConfig) (i : Invocation) : Prop :=
  ∃ verb ∈ verbs, ∃ args input, i = invocation c (verb :: args) input

variable {c : ClusterConfig}

theorem keeps_runWith {args : List String} {input : Option String}
    (h : Keeps I (rn (invocation c args input))) : Keeps I (runWith rn c args input).run := by
  refine Keeps.bind_action (.map _ h) fun answer => ?_
  cases answer with
  | ok reply => exact .pure _
  | error fault => exact .pure _

theorem keeps_run {args : List String} (h : Keeps I (rn (invocation c args))) :
    Keeps I (run rn c args).run :=
  keeps_runWith h

/-! ## Waiting -/

theorem keeps_await {ο : Type} {settings : Poll.Settings} {what : String} {describe : ο → String}
    {attempt : Action σ ClusterError (Poll.Attempt ο α)} (hattempt : Keeps I attempt.run) :
    Keeps I (await settings what describe attempt).run := by
  refine Keeps.bind_action (.map _ (keeps_poll hattempt settings)) fun history => ?_
  cases history.outcome what ClusterError.message with
  | ok polled => exact .pure _
  | error t => exact .pure _

/-- The call that declares an object. -/
def application (c : ClusterConfig) (r : Resource) : Invocation :=
  invocation c ["apply", "-f", "-"] (some r.manifest.compact)

theorem keeps_declare {r : Resource} (h : Keeps I (rn (application c r))) :
    Keeps I (declare rn c r).run :=
  keeps_await (((keeps_runWith h).map_action _).bind_action fun _ => .pure _)

section

variable (h : ∀ args, Keeps I (rn (invocation c ("get" :: args))))
include h

theorem keeps_field (kind : String) (space : Option String) (name path : String) :
    Keeps I (field rn c kind space name path).run :=
  (keeps_run (h _)).bind_action fun _ => .pure _

theorem keeps_awaitOperator (name : String) : Keeps I (awaitOperator rn c name).run :=
  keeps_await <| Keeps.bind_action
    ((keeps_field h _ _ _ _).bind_action fun _ => .pure _) fun _ => .pure _

theorem keeps_awaitPods (space labels : String) : Keeps I (awaitPods rn c space labels).run :=
  keeps_await <| Keeps.bind_action ((keeps_run (h _)).bind_action fun _ => .pure _) fun _ => .pure _

theorem keeps_awaitFrr : Keeps I (awaitFrr rn c).run :=
  (keeps_awaitPods h _ _).bind_action fun _ => keeps_awaitPods h _ _

/-! ## Discovery -/

theorem keeps_topology : Keeps I (topology rn c).run :=
  Keeps.bind_action ((keeps_field h _ _ _ _).bind_action fun _ => .pure _) fun _ =>
    Keeps.bind_action ((keeps_run (h _)).bind_action fun _ => .pure _) fun _ => .pure _

theorem keeps_advertisesRoutes : Keeps I (advertisesRoutes rn c).run :=
  (keeps_field h _ _ _ _).bind_action fun _ => (keeps_field h _ _ _ _).bind_action fun _ => .pure _

theorem keeps_names (kind : String) (space : Option String) : Keeps I (names rn c kind space).run :=
  (keeps_run (h _)).bind_action fun _ => .pure _

end

theorem keeps_enableAdvertisements (h : ∀ args, Keeps I (rn (invocation c ("patch" :: args)))) :
    Keeps I (enableAdvertisements rn c).run :=
  (keeps_run (h _)).map_action _

/-! ## What the log tells -/

/-- The program prints what its reply says, if the log has one. -/
theorem leads_runWith (rn : Runner σ) (c : ClusterConfig) (args : List String)
    (input : Option String) (log : CallLog) :
    Action.Leads (fun s => s.2 = log) (runWith (logged rn) c args input)
      (fun text s => ∃ reply, printed args reply = .ok text ∧
        s.2 = log ++ callEvents (invocation c args input) (some (.ok reply)))
      (fun s => ∃ answer : Except LaunchFault Reply,
        (∀ reply text, answer = .ok reply → printed args reply ≠ .ok text) ∧
          s.2 = log ++ callEvents (invocation c args input) (some answer))
      (fun s => s.2 = log ++ callEvents (invocation c args input) none) := by
  have hanswer := (leads_logged rn (invocation c args input) log)
  refine Action.Leads.bind (Q := fun answer s =>
    s.2 = log ++ callEvents (invocation c args input) (some answer))
    (.time (hanswer.mono_post fun answer s hs =>
      ⟨fun a ha => ha ▸ hs, fun ha => ha ▸ hs⟩)) fun answer => ?_
  cases answer with
  | ok reply =>
    refine .ofExcept (fun text s hprinted hs => ⟨reply, hprinted, hs⟩) fun e s hprinted hs =>
      ⟨.ok reply, ?_, hs⟩
    rintro _ text ⟨⟩
    rw [hprinted]
    exact nofun
  | error fault => exact .throw fun s hs => ⟨.error fault, nofun, hs⟩

/-- What is awaited is found in the world of the attempt that is ready. -/
theorem leads_await {ο : Type} {P : σ → Prop} {Q : α → σ → Prop}
    {attempt : Action σ ClusterError (Poll.Attempt ο α)}
    (h : Action.Leads P attempt (fun
      | .ready a => Q a
      | .pending _ => P) P P) (settings : Poll.Settings) (what : String) (describe : ο → String) :
    Action.Leads P (await settings what describe attempt) Q P P := by
  have hattempt : Timed.Leads P attempt.run fun r =>
      Poll.Found Q P (Poll.Result.of r).value? :=
    Timed.Leads.mono h (fun _ hw => hw) fun
      | some (.ok (.ready _)) | some (.ok (.pending _)) | some (.error _) | none => fun _ hw => hw
  have hpoll := Poll.leads_poll hattempt settings
  refine Action.Leads.bind (Q := fun history w => Poll.Found Q P history.value? w)
    (.time (hpoll.mono_post fun history w hw => ?_)) fun history => ?_
  · refine ⟨?_, ?_⟩
    · rintro history rfl
      exact hw
    · rintro rfl
      exact hw
  rw [Poll.History.outcome]
  cases history.value? with
  | none => exact .throw fun _ hw => hw
  | some a => exact .pure fun _ hw => hw

/-- An object is declared if the last call for it has succeeded. -/
theorem leads_declare (rn : Runner σ) (c : ClusterConfig) (r : Resource) {P : CallLog → Prop}
    (hP : ∀ log answer, P log → P (log ++ callEvents (application c r) answer)) :
    Action.Leads (fun s => P s.2) (declare (logged rn) c r)
      (fun _ s => ∃ log reply, P log ∧ reply.status.success = true ∧
        s.2 = log ++ callEvents (application c r) (some (.ok reply)))
      (fun s => P s.2) (fun s => P s.2) := by
  refine leads_await ?_ _ _ _
  refine leads_log (P := P) fun log hlog => ?_
  have hcall := leads_runWith rn c ["apply", "-f", "-"] (some r.manifest.compact) log
  refine Action.Leads.bind (Q := fun _ s => ∃ log reply, P log ∧ reply.status.success = true ∧
    s.2 = log ++ callEvents (application c r) (some (.ok reply))) ?_ fun _ => .pure fun _ hs => hs
  refine Action.Leads.map (hcall.mono_failure (fun s hs => ?_) fun s hs => ?_)
    fun text s hs => ?_
  · obtain ⟨answer, -, hs⟩ := hs
    exact hs ▸ hP log (some answer) hlog
  · exact hs ▸ hP log none hlog
  · obtain ⟨reply, hprinted, hs⟩ := hs
    refine ⟨log, reply, hlog, ?_, hs⟩
    rw [printed] at hprinted
    split at hprinted
    next hsuccess => exact hsuccess
    next => cases hprinted

/-! ## Deleting -/

/-- What is asked to list the objects of a kind. -/
def listingArgs (kind : String) (space : Option String) : List String :=
  ["get", kind, namesPath] ++ inNamespace space

/-- The call that lists the objects of a kind. -/
def listing (c : ClusterConfig) (kind : String) (space : Option String) : Invocation :=
  invocation c (listingArgs kind space)

/-- The call that deletes an object. -/
def deletion (c : ClusterConfig) (kind : String) (space : Option String) (name : String) :
    Invocation :=
  invocation c (["delete", kind, name, "--wait=true"] ++ inNamespace space)

/-- The events that the deletion of an object leaves: the objects of its kind are listed first, and if
the object is among them, its deletion is called for. -/
structure Deletes (c : ClusterConfig) (kind : String) (space : Option String) (name : String)
    (t : CallLog) : Prop where
  first : (issued t).head? = some (listing c kind space)
  deletes : ∀ reply text, .answered (listing c kind space) (.ok reply) ∈ t →
    printed (listingArgs kind space) reply = .ok text → name ∈ Text.words text →
    deletion c kind space name ∈ issued t
  only : ∀ i ∈ issued t, IsCall c i

variable {kind : String} {space : Option String} {name : String}

theorem isCall_listing : IsCall c (listing c kind space) :=
  ⟨"get", by decide, _, none, rfl⟩

theorem isCall_deletion : IsCall c (deletion c kind space name) :=
  ⟨"delete", by decide, _, none, rfl⟩

theorem deletes_of_unlisted {answer : Except LaunchFault Reply}
    (hunlisted : ∀ reply text, answer = .ok reply →
      printed (listingArgs kind space) reply = .ok text → name ∉ Text.words text) :
    Deletes c kind space name (callEvents (listing c kind space) (some answer)) := by
  refine ⟨rfl, fun reply text hmem hprinted hname => ?_, fun i hi => ?_⟩
  · have hanswer : answer = .ok reply := by
      simpa [callEvents, eq_comm] using hmem
    exact absurd hname (hunlisted reply text hanswer hprinted)
  · obtain rfl := List.mem_singleton.1 hi
    exact isCall_listing

/-- The calls begin with the listing, and the deletion is among them. -/
structure CallsFor (c : ClusterConfig) (kind : String) (space : Option String) (name : String)
    (calls : List Invocation) : Prop where
  first : calls.head? = some (listing c kind space)
  deletes : deletion c kind space name ∈ calls
  only : ∀ i ∈ calls, IsCall c i

theorem callsFor_deletion :
    CallsFor c kind space name [listing c kind space, deletion c kind space name] :=
  ⟨rfl, by simp, by simp [isCall_listing, isCall_deletion]⟩

theorem CallsFor.concat {calls : List Invocation} {i : Invocation}
    (h : CallsFor c kind space name calls) (hi : IsCall c i) :
    CallsFor c kind space name (calls ++ [i]) := by
  refine ⟨?_, List.mem_append_left _ h.deletes, fun j hj => ?_⟩
  · rw [List.head?_append, h.first]
    rfl
  · rcases List.mem_append.1 hj with hj | hj
    · exact h.only j hj
    · exact List.mem_singleton.1 hj ▸ hi

theorem CallsFor.deletes_of_adds {log log' : CallLog}
    (h : Adds log (CallsFor c kind space name) log') :
    ∃ t, log' = log ++ t ∧ Deletes c kind space name t := by
  obtain ⟨t, ht, hcalls⟩ := h
  exact ⟨t, ht, hcalls.first, fun _ _ _ _ _ => hcalls.deletes, hcalls.only⟩

theorem leads_listing (rn : Runner σ) (c : ClusterConfig) (kind : String) (space : Option String)
    (log : CallLog) :
    Action.Leads (fun s => s.2 = log) (names (logged rn) c kind space)
      (fun listed s => ∃ reply text, printed (listingArgs kind space) reply = .ok text ∧
        listed = Text.words text ∧
        s.2 = log ++ callEvents (listing c kind space) (some (.ok reply)))
      (fun s => ∃ answer : Except LaunchFault Reply,
        (∀ reply text, answer = .ok reply → printed (listingArgs kind space) reply ≠ .ok text) ∧
          s.2 = log ++ callEvents (listing c kind space) (some answer))
      (fun s => s.2 = log ++ callEvents (listing c kind space) none) := by
  refine (leads_runWith rn c (listingArgs kind space) none log).bind fun text => .pure fun s hs => ?_
  obtain ⟨reply, hprinted, hs⟩ := hs
  exact ⟨reply, text, hprinted, rfl, hs⟩

theorem leads_names (rn : Runner σ) (c : ClusterConfig) (kind : String) (space : Option String)
    (name : String) (log : CallLog) :
    Action.Leads (fun s => s.2 = log) (names (logged rn) c kind space)
      (fun listed s => ∃ reply text, printed (listingArgs kind space) reply = .ok text ∧
        listed = Text.words text ∧
        s.2 = log ++ callEvents (listing c kind space) (some (.ok reply)))
      (fun s => ∃ t, s.2 = log ++ t ∧ Deletes c kind space name t) (fun _ => True) := by
  refine (leads_listing rn c kind space log).mono_failure (fun s hs => ?_) fun _ _ => trivial
  obtain ⟨answer, hunprinted, hs⟩ := hs
  exact ⟨_, hs, deletes_of_unlisted fun reply text hreply hprinted =>
    absurd hprinted (hunprinted reply text hreply)⟩

/-- The deletion is called for after the listing, whatever comes of it. -/
theorem leads_deletion (rn : Runner σ) (c : ClusterConfig) (kind : String) (space : Option String)
    (name : String) (log : CallLog) (listed : Except LaunchFault Reply) :
    let begun := fun s : σ × CallLog => Adds log (CallsFor c kind space name) s.2
    Action.Leads (fun s => s.2 = log ++ callEvents (listing c kind space) (some listed))
      (run (logged rn) c (["delete", kind, name, "--wait=true"] ++ inNamespace space))
      (fun _ => begun) begun (fun _ => True) := by
  intro begun
  have hbegun : ∀ (s : σ × CallLog) answer,
      s.2 = (log ++ callEvents (listing c kind space) (some listed)) ++
        callEvents (deletion c kind space name) answer → begun s := by
    intro s answer hs
    refine (adds_of_callEvents rfl).trans (adds_of_callEvents hs) ?_
    rintro _ _ rfl rfl
    exact callsFor_deletion
  refine (leads_runWith rn c _ none _).mono_post (fun _ s hs => ?_)
    (fun s hs => ?_) fun _ _ => trivial
  · obtain ⟨reply, -, hs⟩ := hs
    exact hbegun s _ hs
  · obtain ⟨answer, -, hs⟩ := hs
    exact hbegun s _ hs

theorem leads_delete (rn : Runner σ) (c : ClusterConfig) (kind : String) (space : Option String)
    (name : String) (log : CallLog) :
    let deleted := fun s : σ × CallLog => ∃ t, s.2 = log ++ t ∧ Deletes c kind space name t
    Action.Leads (fun s => s.2 = log) (delete (logged rn) c kind space name)
      (fun _ => deleted) deleted (fun _ => True) := by
  intro deleted
  -- once the deletion was called for, all other calls are as good
  let begun := fun s : σ × CallLog => Adds log (CallsFor c kind space name) s.2
  have hbegun : ∀ s, begun s → deleted s := fun _ => CallsFor.deletes_of_adds
  have hkeeps : ∀ i, IsCall c i → Keeps begun (logged rn i) :=
    fun i hi => keeps_adds (fun _ hcalls => hcalls.concat hi) rn
  refine (leads_names rn c kind space name log).bind fun listed => ?_
  split
  next hlisted =>
    refine Action.Leads.bind (Q := fun _ => begun) (.map (Q := fun _ => begun) ?_ fun _ _ hs => hs)
      fun _ => ?_
    · rintro limit now s ⟨reply, -, -, -, hs⟩
      exact ((leads_deletion rn c kind space name log (.ok reply)).mono_failure hbegun
        fun _ hs => hs) limit now s hs
    · have hagain : Action.Leads begun (names (logged rn) c kind space) (fun _ => begun) deleted
          (fun _ => True) :=
        (Action.Leads.of_keeps (keeps_names (fun _ => hkeeps _ ⟨"get", by decide, _, none, rfl⟩)
          kind space)).mono_failure hbegun fun _ _ => trivial
      refine hagain.bind fun listed => ?_
      split
      · exact .throw hbegun
      · exact .pure hbegun
  next hunlisted =>
    refine .pure fun s hs => ?_
    obtain ⟨reply, text, hprinted, rfl, hs⟩ := hs
    refine ⟨_, hs, deletes_of_unlisted ?_⟩
    rintro _ text' ⟨⟩ hprinted'
    obtain rfl := Except.ok.inj (hprinted'.symm.trans hprinted)
    simpa using hunlisted

theorem keeps_delete (hget : ∀ args, Keeps I (rn (invocation c ("get" :: args))))
    (hdelete : Keeps I (rn (deletion c kind space name))) :
    Keeps I (delete rn c kind space name).run := by
  refine (keeps_names hget kind space).bind_action fun listed => ?_
  split
  · refine ((keeps_run hdelete).map_action _).bind_action fun _ =>
      (keeps_names hget kind space).bind_action fun listed => ?_
    split
    · exact .pure _
    · exact .pure _
  · exact .pure _

theorem returns_delete (hreturns : ∀ i, Returns (rn i)) (c : ClusterConfig) (kind : String)
    (space : Option String) (name : String) : Returns (delete rn c kind space name).run := by
  have hrun : ∀ args, Returns (run rn c args).run := by
    intro args
    refine Returns.bind_action ((hreturns _).map _) fun answer => ?_
    cases answer with
    | ok reply => exact .pure _
    | error fault => exact .pure _
  have hnames : Returns (names rn c kind space).run := (hrun _).bind_action fun _ => .pure _
  refine hnames.bind_action fun listed => ?_
  split
  · refine ((hrun _).map_action _).bind_action fun _ => hnames.bind_action fun listed => ?_
    split
    · exact .pure _
    · exact .pure _
  · exact .pure _

end Cluster

end RouteWatch
