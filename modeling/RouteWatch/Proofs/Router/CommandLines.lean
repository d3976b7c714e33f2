import RouteWatch.Proofs.Router.Removal
import RouteWatch.Proofs.Shell.Quote

/-!
# The command lines of the router

What `ssh` is given for a command is joined by blanks, and the shell of the host makes words of it
again. The text for the daemon's shell is quoted, and so it is one word there. The names of the
container and of the staging directory are not, and they are one word each only if they are operands
as they stand, which no check of the configuration asks for.

* `ExternalRouter.daemonShell_argument`: what the daemon's shell is run with;
* `ExternalRouter.removesOwn_iff`: when a removal runs what it is meant to;
* `ExternalRouter.removal_runs_iff`: the same for the routers of a configuration.
-/

namespace RouteWatch

open CallLog

variable {σ : Type}

/-- The call runs the commands on the host, whose shell reads the arguments joined by blanks. -/
def HostSession.Executes (host : HostSession) (i : Invocation) (commands : List (List String)) :
    Prop :=
  ∃ args, i = host.invocation args ∧ Shell.commands? (" ".intercalate args) = some commands

/-- The host is given a line that starts with the text and goes on with the arguments, each a word of
its own wherever the text ends within a command and outside of quotes. -/
def HostSession.PassesOn (host : HostSession) (i : Invocation) (text : String)
    (args : List String) : Prop :=
  ∃ sent rest, i = host.invocation sent ∧ " ".intercalate sent = text ++ rest ∧
    Shell.GoesOn rest args

theorem HostSession.leads_execText_issued (rn : Runner σ) (host : HostSession) (args : List String)
    (log : CallLog) :
    let called := fun s : σ × CallLog => Adds log (· = [host.invocation args]) s.2
    Action.Leads (fun s => s.2 = log) (host.execText (logged rn) args) (fun _ => called) called
      called := by
  intro called
  refine Action.Leads.bind (Q := fun _ => called) ?_ fun reply =>
    .ofExcept (fun _ _ _ hs => hs) fun _ _ _ hs => hs
  refine (leads_exec rn host args log).mono_post (fun _ _ hs => adds_of_callEvents hs.2)
    (fun s hs => ?_) fun _ hs => adds_of_callEvents hs
  obtain ⟨answer, -, hs⟩ := hs
  exact adds_of_callEvents hs

namespace ExternalRouter

variable {r : ExternalRouter}

/-- A command with `sudo` in front of it is read like the command. -/
theorem words?_asRoot {args words : List String}
    (h : Shell.words? (" ".intercalate args) = some words) :
    Shell.words? (" ".intercalate (r.asRoot args)) = some (r.asRoot words) := by
  unfold asRoot
  split
  · have hsudo : Shell.words? "sudo" = some ["sudo"] := by rfl
    exact Shell.words?_intercalate_cons hsudo h
  · exact h

theorem asRoot_append (args more : List String) :
    r.asRoot (args ++ more) = r.asRoot args ++ more := by
  unfold asRoot
  split <;> rfl

theorem asRoot_ne_nil {args : List String} (h : args ≠ []) : r.asRoot args ≠ [] := by
  unfold asRoot
  split
  · exact List.cons_ne_nil _ _
  · exact h

theorem executes_iff {args : List String} {commands : List (List String)} :
    r.host.Executes (r.host.invocation args) commands ↔
      Shell.commands? (" ".intercalate args) = some commands := by
  constructor
  · rintro ⟨args', heq, hread⟩
    rw [HostSession.invocation_inj.1 heq]
    exact hread
  · exact fun hread => ⟨args, rfl, hread⟩

/-! ## The daemon's shell -/

/-- The call in which the daemon's shell is given the text. -/
def shellCall (r : ExternalRouter) (text : String) : Invocation :=
  r.host.invocation (r.runtimeCommand ["exec", r.id, "vtysh", "-c", Shell.quote text])

/-- What stands before the words for the daemon's shell. -/
def shellLead (r : ExternalRouter) : String :=
  " ".intercalate (r.runtimeCommand ["exec", r.id])

theorem runtimeCommand_shell (text : String) :
    r.runtimeCommand ["exec", r.id, "vtysh", "-c", Shell.quote text] =
      r.runtimeCommand ["exec", r.id] ++ ["vtysh", "-c", text].map Shell.quote :=
  asRoot_append [r.runtime, "exec", r.id] _

theorem words?_shellArgs {text : String} (htext : '\x00' ∉ text.toList) :
    Shell.words? (" ".intercalate (["vtysh", "-c", text].map Shell.quote)) =
      some ["vtysh", "-c", text] := by
  apply Shell.words?_quoted_args
  simpa using htext

/-- Whatever stands before it, the text is one word behind it. -/
theorem passesOn_shellCall {text : String} (htext : '\x00' ∉ text.toList) :
    r.host.PassesOn (r.shellCall text) r.shellLead ["vtysh", "-c", text] := by
  have hlead : r.runtimeCommand ["exec", r.id] ≠ [] := asRoot_ne_nil (List.cons_ne_nil _ _)
  have hargs : ["vtysh", "-c", text].map Shell.quote ≠ [] := by simp
  refine ⟨_, _, rfl, ?_, Shell.goesOn_blank (words?_shellArgs htext)⟩
  rw [runtimeCommand_shell, String.intercalate_append_of_ne_nil hlead hargs, String.append_assoc]
  rfl

/-- If what stands before it is a command, the text is the last argument of that command. -/
theorem executes_shellCall {text : String} {words : List String} (htext : '\x00' ∉ text.toList)
    (hwords : Shell.words? r.shellLead = some words) (hcommand : Shell.isCommand words) :
    r.host.Executes (r.shellCall text) [words ++ ["vtysh", "-c", text]] := by
  rw [shellCall, executes_iff, runtimeCommand_shell]
  apply Shell.commands?_of_words?
    (Shell.words?_intercalate_append hwords (words?_shellArgs htext))
  rw [Shell.isCommand_append (Shell.ne_nil_of_isCommand hcommand)]
  exact hcommand

/-- Quoted arguments are read as they were, whatever they are. So the text is the one argument of the
option of the daemon's shell, behind any program that is configured to run containers: it may be
expanded on the host or set variables, if only it leaves the shell within a command and outside of
quotes. The whole command that the host runs is said where the words before the text are known and
are a command, since an expansion has no words that are the same on every host, and a setting of
variables is no command. -/
theorem daemonShell_argument :
    (∀ args : List String, (∀ arg ∈ args, '\x00' ∉ arg.toList) →
      Shell.words? (" ".intercalate (args.map Shell.quote)) = some args) ∧
    ∀ (rn : Runner σ) (r : ExternalRouter) (text : String) (log : CallLog),
      '\x00' ∉ text.toList →
      let called := fun s : σ × CallLog => Adds log (fun calls => ∃ i, calls = [i] ∧
        r.host.PassesOn i r.shellLead ["vtysh", "-c", text] ∧
        ∀ words, Shell.words? r.shellLead = some words → Shell.isCommand words →
          r.host.Executes i [words ++ ["vtysh", "-c", text]]) s.2
      Action.Leads (fun s => s.2 = log) (r.daemonShell (logged rn) text) (fun _ => called) called
        called := by
  refine ⟨fun args h => Shell.words?_quoted_args h, ?_⟩
  intro rn r text log htext called
  have hcalled : ∀ s : σ × CallLog, Adds log (· = [r.shellCall text]) s.2 → called s := by
    refine fun s hs => hs.mono ?_
    rintro _ rfl
    exact ⟨_, rfl, passesOn_shellCall htext, fun _ => executes_shellCall htext⟩
  exact (HostSession.leads_execText_issued rn r.host _ log).mono_post (fun _ => hcalled) hcalled
    hcalled

theorem daemonShell_argument_with_blank :
    Shell.words? (" ".intercalate (["", "it's", "a b"].map Shell.quote)) = some ["", "it's", "a b"] ∧
    ∀ rn : Runner Unit,
      let r := { unstarted ⟨"hv", []⟩ {} {} (.ofConfig {}) "x7" with id := "c0ffee" }
      let called := fun s : Unit × CallLog => Adds [] (fun calls => ∃ i, calls = [i] ∧
        r.host.Executes i [["sudo", "podman", "exec", "c0ffee", "vtysh", "-c", "show bgp"]]) s.2
      Action.Leads (fun s => s.2 = []) (r.daemonShell (logged rn) "show bgp") (fun _ => called)
        called called := by
  obtain ⟨hargs, hshell⟩ := daemonShell_argument (σ := Unit)
  refine ⟨hargs _ (by decide), ?_⟩
  intro rn r called
  have hwords : Shell.words? r.shellLead = some ["sudo", "podman", "exec", "c0ffee"] := by decide
  have hcommand : Shell.isCommand ["sudo", "podman", "exec", "c0ffee"] := by decide
  have hread := hshell rn r "show bgp" [] (by decide)
  refine hread.mono_post (fun _ s hs => hs.mono ?_) (fun s hs => hs.mono ?_) fun s hs => hs.mono ?_
  all_goals
    rintro calls ⟨i, rfl, -, hruns⟩
    exact ⟨i, rfl, hruns _ hwords hcommand⟩

/-! ## Removal -/

/-- The command removes a container, and no other than that of the router. -/
def RemovesContainer (r : ExternalRouter) (command : List String) : Prop :=
  ∃ runtime args, Shell.words? r.runtime = some runtime ∧ runtime ≠ [] ∧
    command = r.asRoot (runtime ++ ["rm", "-f"]) ++ args ∧ Shell.operands args = [r.name]

/-- The command removes files, and none but the staging directory of the router. -/
def RemovesStaging (r : ExternalRouter) (command : List String) : Prop :=
  ∃ args, command = r.asRoot ["rm", "-rf"] ++ args ∧ Shell.operands args = [r.stagingDir]

/-- Each call of a removal runs what it is meant to, and nothing else. -/
structure RemovesOwn (r : ExternalRouter) : Prop where
  container : ∃ c, r.host.Executes (r.host.invocation r.removeContainer) [c] ∧ r.RemovesContainer c
  staging : ∃ d, r.host.Executes (r.host.invocation r.removeStaging) [d] ∧ r.RemovesStaging d
  both : ∃ c d, r.host.Executes (r.host.invocation [r.removalLine]) [c, d] ∧
    r.RemovesContainer c ∧ r.RemovesStaging d

/-- The program that runs containers, as it is configured, is a command. -/
def RunsCommand (r : ExternalRouter) : Prop :=
  ∃ words, Shell.words? r.runtime = some words ∧ words ≠ [] ∧ Shell.isCommand (r.asRoot words)

theorem isCommand_asRoot_append {words : List String} (hne : words ≠ []) (more : List String) :
    Shell.isCommand (r.asRoot (words ++ more)) = Shell.isCommand (r.asRoot words) := by
  rw [asRoot_append, Shell.isCommand_append (asRoot_ne_nil hne)]

/-- The text at the end of a command is its only operand if it is one as it stands. -/
theorem asRoot_operand_iff {args words : List String} (hne : args ≠ [])
    (h : Shell.words? (" ".intercalate args) = some words) (hwords : words ≠ [])
    (last : String) :
    (∃ more, r.host.Executes (r.host.invocation (r.asRoot (args ++ [last])))
        [r.asRoot words ++ more] ∧ Shell.operands more = [last]) ↔
      Shell.isCommand (r.asRoot words) ∧ Shell.IsOperand last := by
  rw [← Shell.commands?_operand_iff (words?_asRoot h) (asRoot_ne_nil hwords)]
  simp only [executes_iff, asRoot_append, String.intercalate_append_of_ne_nil (asRoot_ne_nil hne)
    (List.cons_ne_nil _ _), String.intercalate_singleton]

theorem words?_remove {runtime : List String} (h : Shell.words? r.runtime = some runtime) :
    Shell.words? (" ".intercalate [r.runtime, "rm", "-f"]) = some (runtime ++ ["rm", "-f"]) := by
  have hremove : Shell.words? (" ".intercalate ["rm", "-f"]) = some ["rm", "-f"] := by rfl
  exact Shell.words?_intercalate_cons h hremove

theorem words?_removeAll : Shell.words? (" ".intercalate ["rm", "-rf"]) = some ["rm", "-rf"] := by
  rfl

theorem isCommand_removeAll : Shell.isCommand (r.asRoot ["rm", "-rf"]) := by
  unfold asRoot
  split <;> decide

theorem executes_removeContainer_iff :
    (∃ c, r.host.Executes (r.host.invocation r.removeContainer) [c] ∧ r.RemovesContainer c) ↔
      r.RunsCommand ∧ Shell.IsOperand r.name := by
  have hoperand : ∀ {runtime}, Shell.words? r.runtime = some runtime → runtime ≠ [] →
      ((∃ more, r.host.Executes (r.host.invocation r.removeContainer)
          [r.asRoot (runtime ++ ["rm", "-f"]) ++ more] ∧ Shell.operands more = [r.name]) ↔
        Shell.isCommand (r.asRoot runtime) ∧ Shell.IsOperand r.name) := by
    intro runtime hruntime hne
    rw [← isCommand_asRoot_append hne ["rm", "-f"]]
    exact asRoot_operand_iff (List.cons_ne_nil _ _) (words?_remove hruntime)
      (List.append_ne_nil_of_left_ne_nil hne _) _
  constructor
  · rintro ⟨c, hc, runtime, args, hruntime, hne, rfl, hargs⟩
    obtain ⟨hcommand, hname⟩ := (hoperand hruntime hne).1 ⟨args, hc, hargs⟩
    exact ⟨⟨runtime, hruntime, hne, hcommand⟩, hname⟩
  · rintro ⟨⟨runtime, hruntime, hne, hcommand⟩, hname⟩
    obtain ⟨args, hc, hargs⟩ := (hoperand hruntime hne).2 ⟨hcommand, hname⟩
    exact ⟨_, hc, runtime, args, hruntime, hne, rfl, hargs⟩

theorem executes_removeStaging_iff :
    (∃ d, r.host.Executes (r.host.invocation r.removeStaging) [d] ∧ r.RemovesStaging d) ↔
      Shell.IsOperand r.stagingDir := by
  have hoperand := asRoot_operand_iff (r := r) (List.cons_ne_nil _ _) words?_removeAll
    (List.cons_ne_nil _ _) r.stagingDir
  rw [and_iff_right isCommand_removeAll] at hoperand
  rw [← hoperand]
  constructor
  · rintro ⟨d, hd, args, rfl, hargs⟩
    exact ⟨args, hd, hargs⟩
  · rintro ⟨args, hd, hargs⟩
    exact ⟨_, hd, args, rfl, hargs⟩

/-- The line that removes both runs the two commands one after the other. -/
theorem executes_removalLine (hruntime : r.RunsCommand) (hname : Shell.IsOperand r.name)
    (hdir : Shell.IsOperand r.stagingDir) :
    ∃ c d, r.host.Executes (r.host.invocation [r.removalLine]) [c, d] ∧
      r.RemovesContainer c ∧ r.RemovesStaging d := by
  obtain ⟨runtime, hruntime, hne, hcommand⟩ := hruntime
  have hword : ∀ {word}, Shell.IsOperand word →
      Shell.words? (" ".intercalate [word]) = some [word] := by
    intro word hword
    rw [String.intercalate_singleton]
    exact Shell.words?_of_isLiteral hword.1
  have hfirst := words?_asRoot (r := r)
    (Shell.words?_intercalate_append (words?_remove hruntime) (hword hname))
  have hsecond := words?_asRoot (r := r)
    (Shell.words?_intercalate_append words?_removeAll (hword hdir))
  have hempty : Shell.words? "" = some [] := by rfl
  have hrest := Shell.words?_append_blank hempty hsecond
  have hline : r.removalLine = " ".intercalate r.removeContainer ++ ";" ++
      ("" ++ " " ++ " ".intercalate r.removeStaging) := by
    have hseparator : "; " = ";" ++ " " := by decide
    rw [removalLine, hseparator, String.empty_append]
    simp only [String.append_assoc]
  refine ⟨_, _, executes_iff.2 ?_, ⟨runtime, [r.name], hruntime, hne, rfl, ?_⟩,
    ⟨[r.stagingDir], rfl, ?_⟩⟩
  · rw [String.intercalate_singleton, hline, ← asRoot_append, ← asRoot_append]
    refine Shell.commands?_append_semicolon hfirst ?_ ?_
    · rw [List.append_assoc, isCommand_asRoot_append hne]
      exact hcommand
    · refine Shell.commands?_of_words? hrest ?_
      rw [isCommand_asRoot_append (List.cons_ne_nil _ _)]
      exact isCommand_removeAll
  · exact (Shell.operands_singleton _).2 hname.2
  · exact (Shell.operands_singleton _).2 hdir.2

theorem removesOwn_iff :
    r.RemovesOwn ↔ r.RunsCommand ∧ Shell.IsOperand r.name ∧ Shell.IsOperand r.stagingDir := by
  constructor
  · intro h
    obtain ⟨hruntime, hname⟩ := executes_removeContainer_iff.1 h.container
    exact ⟨hruntime, hname, executes_removeStaging_iff.1 h.staging⟩
  · rintro ⟨hruntime, hname, hdir⟩
    exact ⟨executes_removeContainer_iff.2 ⟨hruntime, hname⟩, executes_removeStaging_iff.2 hdir,
      executes_removalLine hruntime hname hdir⟩

end ExternalRouter

/-- The program that runs containers, as it is configured, is a command. -/
def RouterConfig.RunsCommand (config : RouterConfig) : Prop :=
  ∃ words, Shell.words? config.runtime = some words ∧ words ≠ [] ∧
    (config.elevated ∨ Shell.isCommand words)

namespace ExternalRouter

variable {config : LabConfig} {suffix : String} {r : ExternalRouter}

theorem IsOf.runsCommand_iff (hr : r.IsOf config suffix) :
    r.RunsCommand ↔ config.router.RunsCommand := by
  have hsudo : ∀ words, Shell.isCommand ("sudo" :: words) := by
    intro words
    show Shell.isCommand ["sudo"]
    decide
  unfold ExternalRouter.RunsCommand RouterConfig.RunsCommand asRoot
  rw [hr.runtime.1, hr.runtime.2]
  split
  next h => simp [h, hsudo]
  next h => simp [h]

/-- All calls of a removal are read by the shell of the host. What they run is the removal of the
router's own container and staging directory, each by its name, and nothing else, exactly if both
names are operands as they stand and the program that runs containers is a command. -/
theorem removal_runs_iff (hr : r.IsOf config suffix) :
    (∀ (rn : Runner σ) (log : CallLog),
      let sent := fun s : σ × CallLog => Adds log (fun calls => ∀ i ∈ calls, r.IsRemoval i) s.2
      Timed.Keeps sent (r.deprovision (logged rn)).run ∧ Timed.Keeps sent (r.release (logged rn))) ∧
    (r.RemovesOwn ↔ config.router.RunsCommand ∧
      Shell.IsOperand (config.router.containerPrefix ++ suffix) ∧
      Shell.IsOperand (config.host.stagingPrefix ++ suffix)) := by
  constructor
  · intro rn log sent
    have hsent : ∀ i, r.IsRemoval i → Timed.Keeps sent (logged rn i) := by
      intro i hi
      refine keeps_adds (fun calls hcalls j hj => ?_) rn
      rcases List.mem_append.1 hj with hj | hj
      · exact hcalls j hj
      · rw [List.mem_singleton.1 hj]
        exact hi
    exact ⟨keeps_deprovision hsent, keeps_release hsent⟩
  · rw [removesOwn_iff, hr.runsCommand_iff, hr.name, hr.stagingDir]

theorem removal_runs_usual :
    let config : LabConfig := { host := { sshName := "hv" } }
    let r := unstarted (.ofConfig config.host) config.host config.router (.ofConfig config.router)
      "x7"
    config.validate = .ok () ∧ r.IsOf config "x7" ∧ r.RemovesOwn := by
  intro config r
  have hr : r.IsOf config "x7" := isOf_unstarted config _ "x7"
  have hruntime : Shell.words? "podman" = some ["podman"] := by decide
  have hname : Shell.IsOperand ("frr-" ++ "x7") := by decide
  have hdir : Shell.IsOperand ("/tmp/bgp-test-frr-" ++ "x7") := by decide
  exact ⟨by decide, hr, (removal_runs_iff (σ := Unit) hr).2.2
    ⟨⟨_, hruntime, List.cons_ne_nil _ _, .inl rfl⟩, hname, hdir⟩⟩

/-- With a blank in its name, the staging directory becomes two of which neither is the router's. -/
theorem removal_splits_directory :
    let config : LabConfig := { host := { sshName := "hv", stagingPrefix := "/srv/frr lab-" } }
    let r := unstarted (.ofConfig config.host) config.host config.router (.ofConfig config.router)
      "x7"
    config.validate = .ok () ∧ r.IsOf config "x7" ∧
      r.host.Executes (r.host.invocation r.removeStaging)
        [["sudo", "rm", "-rf", "/srv/frr", "lab-x7"]] ∧
      ¬ r.RemovesOwn := by
  intro config r
  have hsplit : Shell.commands? (" ".intercalate ["sudo", "rm", "-rf", "/srv/frr lab-" ++ "x7"]) =
      some [["sudo", "rm", "-rf", "/srv/frr", "lab-x7"]] := by decide
  have hdir : ¬ Shell.IsOperand ("/srv/frr lab-" ++ "x7") := by decide
  refine ⟨by decide, isOf_unstarted config _ "x7", executes_iff.2 hsplit, ?_⟩
  rw [removesOwn_iff]
  exact fun h => hdir h.2.2

end ExternalRouter

end RouteWatch
