import RouteWatch.Host.Session
import RouteWatch.Proofs.Command

/-!
# The calls to the host

What a session keeps is what the calls that it makes keep. The call of one command tells the log
whether the command succeeded.
-/

namespace RouteWatch.HostSession

open Timed CallLog

variable {σ : Type} {I : σ → Prop} {rn : Runner σ} {host : HostSession}

theorem invocation_inj {args args' : List String} :
    host.invocation args = host.invocation args' ↔ args = args' := by
  simp [invocation]

/-! ## What is kept -/

theorem keeps_call {i : Invocation} (h : Keeps I (rn i)) : Keeps I (call rn i).run := by
  refine Keeps.bind_action (.map _ h) fun answer => ?_
  cases answer with
  | ok reply => exact .pure _
  | error fault => exact .pure _

theorem keeps_succeed {i : Invocation} (h : Keeps I (rn i)) (line : String) :
    Keeps I (succeed rn host line i).run := by
  refine (keeps_call h).bind_action fun reply => ?_
  split
  · exact .pure _
  · exact .pure _

theorem keeps_execText {args : List String} (h : Keeps I (rn (host.invocation args))) :
    Keeps I (host.execText rn args).run :=
  (keeps_succeed h _).bind_action fun _ => .pure _

/-- The call that copies a file with the content to the host. -/
def copying (host : HostSession) (file content remote : String) : Invocation :=
  { program := "scp", args := host.options ++ [file, s!"{host.destination}:{remote}"]
    file := some content }

theorem keeps_upload {file content remote : String}
    (h : Keeps I (rn (host.copying file content remote))) :
    Keeps I (host.upload rn file content remote).run :=
  (keeps_succeed h _).map_action _

/-- The session that is opened with the host. -/
def ofConfig (config : HostConfig) : HostSession :=
  ⟨config.sshName, connectionOptions config⟩

theorem leads_connect (config : HostConfig)
    (h : Keeps I (rn ((ofConfig config).invocation ["echo", probe]))) :
    Action.Leads I (connect rn config) (fun host w => host = ofConfig config ∧ I w) I I := by
  refine Action.Leads.bind (.of_keeps (.map _ (.within _ (keeps_execText h)))) fun echoed => ?_
  cases echoed with
  | none => exact .throw fun _ hw => hw
  | some echoed =>
    refine Action.Leads.bind (.of_keeps (.pure _)) fun echoed => ?_
    dsimp only
    split
    · exact .pure fun _ hw => ⟨rfl, hw⟩
    · exact .throw fun _ hw => hw

/-! ## What the log tells -/

theorem leads_call (rn : Runner σ) (i : Invocation) (log : CallLog) :
    Action.Leads (fun s => s.2 = log) (call (logged rn) i)
      (fun reply s => s.2 = log ++ callEvents i (some (.ok reply)))
      (fun s => ∃ fault, s.2 = log ++ callEvents i (some (.error fault)))
      (fun s => s.2 = log ++ callEvents i none) := by
  have hanswer : Action.Leads (fun s => s.2 = log) (Action.time (ε := HostError) (logged rn i))
      (fun answer s => s.2 = log ++ callEvents i (some answer))
      (fun s => ∃ fault, s.2 = log ++ callEvents i (some (.error fault)))
      (fun s => s.2 = log ++ callEvents i none) := by
    refine .time ((leads_logged rn i log).mono_post fun answer s hs => ?_)
    exact ⟨fun a ha => ha ▸ hs, fun ha => ha ▸ hs⟩
  refine hanswer.bind fun answer => ?_
  cases answer with
  | ok reply => exact .pure fun _ hs => hs
  | error fault => exact .throw fun _ hs => ⟨fault, hs⟩

/-- The call came back, but not from a program that ended well. -/
def Failed (i : Invocation) (log log' : CallLog) : Prop :=
  ∃ answer : Except LaunchFault Reply,
    (∀ reply, answer = .ok reply → reply.status.success = false) ∧
      log' = log ++ callEvents i (some answer)

/-- A call has succeeded if and only if the log says so. -/
theorem leads_succeed (rn : Runner σ) (host : HostSession) (line : String) (i : Invocation)
    (log : CallLog) :
    Action.Leads (fun s => s.2 = log) (host.succeed (logged rn) line i)
      (fun reply s => reply.status.success = true ∧
        s.2 = log ++ callEvents i (some (.ok reply)))
      (fun s => Failed i log s.2) (fun s => s.2 = log ++ callEvents i none) := by
  refine ((leads_call rn i log).mono_failure (fun s hs => ?_)
    fun _ hs => hs).bind fun reply => ?_
  · obtain ⟨fault, hs⟩ := hs
    exact ⟨.error fault, nofun, hs⟩
  dsimp only
  split
  next hsuccess => exact .pure fun s hs => ⟨hsuccess, hs⟩
  next hfailed =>
    refine Action.Leads.throw (fun s hs => ⟨.ok reply, ?_, hs⟩)
    rintro _ ⟨⟩
    simpa using hfailed

theorem leads_exec (rn : Runner σ) (host : HostSession) (args : List String) (log : CallLog) :
    Action.Leads (fun s => s.2 = log) (host.exec (logged rn) args)
      (fun reply s => reply.status.success = true ∧
        s.2 = log ++ callEvents (host.invocation args) (some (.ok reply)))
      (fun s => Failed (host.invocation args) log s.2)
      (fun s => s.2 = log ++ callEvents (host.invocation args) none) :=
  leads_succeed rn host _ _ log

theorem leads_execText (rn : Runner σ) (host : HostSession) (args : List String) (log : CallLog) :
    Action.Leads (fun s => s.2 = log) (host.execText (logged rn) args)
      (fun text s => ∃ reply, reply.status.success = true ∧
        Text.Utf8.decode reply.stdout = .ok text ∧
        s.2 = log ++ callEvents (host.invocation args) (some (.ok reply)))
      (fun _ => True) fun _ => True := by
  refine Action.Leads.bind ((leads_exec rn host args log).value_only fun _ _ hs => hs)
    fun reply => ?_
  refine .ofExcept (fun text s htext hs => ⟨reply, hs.1, ?_, hs.2⟩) fun _ _ _ _ => trivial
  cases hdecode : Text.Utf8.decode reply.stdout with
  | error fault =>
    rw [hdecode] at htext
    cases htext
  | ok text' =>
    rw [hdecode] at htext
    exact congrArg Except.ok (Except.ok.inj htext)

end RouteWatch.HostSession
