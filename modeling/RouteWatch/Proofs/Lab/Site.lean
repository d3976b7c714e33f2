import Mathlib.Data.List.Defs
import RouteWatch.Proofs.Cluster.Manifests
import RouteWatch.Proofs.Lab.Cleanup

/-!
# What labs do to a site

A site is what labs share: the containers and files of one host, and the objects of one cluster. A
call does something to the site, unless it only asks: a directory is made, a file is copied, a
container is started, something is removed, an object is declared or deleted. What it does is read off
its arguments.

* `Site.after`: a site after deeds;
* `LabConfig.deeds`: what a call does.
-/

namespace RouteWatch

/-! ## Sites -/

/-- A container that runs. -/
structure Container where
  image : String
  /-- The directory of the host that it has for its configuration. -/
  directory : String
  deriving DecidableEq

/-- What there is on a host and in a cluster. -/
structure Site where
  /-- The containers that run, by name. -/
  containers : String → Option Container
  directories : String → Bool
  /-- The content of the files, by path. -/
  files : String → Option String
  objects : ObjectName → Option Json

/-- Something that is done to a site. -/
inductive Deed where
  /-- The directory is there, with those above it. -/
  | makeDirectory (dir : String)
  | copy (path content : String)
  | start (name : String) (container : Container)
  | removeContainer (name : String)
  /-- The directory is gone, with all that was in it. -/
  | removeTree (dir : String)
  /-- The object is as the manifest says, whether or not it was there. -/
  | put (object : ObjectName) (manifest : Json)
  | delete (object : ObjectName)

/-- The path is that of the directory or of something in it. -/
def Within (dir path : String) : Prop :=
  path = dir ∨ dir.toList ++ ['/'] <+: path.toList

instance (dir path : String) : Decidable (Within dir path) :=
  inferInstanceAs (Decidable (_ ∨ _))

/-- The site after the deed. -/
def Deed.change : Deed → Site → Site
  | .makeDirectory dir, s =>
    { s with directories := fun d => decide (Within d dir) || s.directories d }
  | .copy path content, s =>
    { s with files := fun p => if p = path then some content else s.files p }
  | .start name container, s =>
    { s with containers := fun n => if n = name then some container else s.containers n }
  | .removeContainer name, s =>
    { s with containers := fun n => if n = name then none else s.containers n }
  | .removeTree dir, s =>
    { s with
      directories := fun d => !decide (Within dir d) && s.directories d
      files := fun p => if Within dir p then none else s.files p }
  | .put object manifest, s =>
    { s with objects := fun o => if o = object then some manifest else s.objects o }
  | .delete object, s =>
    { s with objects := fun o => if o = object then none else s.objects o }

namespace Site

/-- A site with nothing on it. -/
def empty : Site :=
  ⟨fun _ => none, fun _ => false, fun _ => none, fun _ => none⟩

/-- The site after the deeds. -/
def after (s : Site) (deeds : List Deed) : Site :=
  deeds.foldl (fun s d => d.change s) s

variable {s : Site} {deeds deeds' : List Deed} {Q : Site → Prop}

@[simp] theorem after_append : s.after (deeds ++ deeds') = (s.after deeds).after deeds' :=
  List.foldl_append

/-- What every deed keeps stays. -/
theorem after_keeps (hkeep : ∀ d ∈ deeds, ∀ s, Q s → Q (d.change s)) (hs : Q s) : Q (s.after deeds) := by
  induction deeds generalizing s with
  | nil => exact hs
  | cons d deeds ih =>
    obtain ⟨hd, hdeeds⟩ := List.forall_mem_cons.1 hkeep
    exact ih hdeeds (hd s hs)

/-- What some deed achieves and every deed keeps is so in the end. -/
theorem after_achieves (hkeep : ∀ d ∈ deeds, ∀ s, Q s → Q (d.change s))
    (hachieve : ∃ d ∈ deeds, ∀ s, Q (d.change s)) : Q (s.after deeds) := by
  obtain ⟨d, hd, hachieve⟩ := hachieve
  obtain ⟨before, later, rfl⟩ := List.append_of_mem hd
  rw [after_append]
  exact after_keeps (s := d.change (s.after before)) (fun d hd => hkeep d (by simp [hd])) (hachieve _)

end Site

/-! ## What a call does -/

/-- The arguments that the host gets, if the call is one of its session. -/
def HostSession.args? (host : HostSession) (i : Invocation) : Option (List String) :=
  if i.program = "ssh" then i.args.dropPrefix? (host.options ++ [host.destination]) else none

/-- The path on the host to which the call copies a file. -/
def HostSession.target? (host : HostSession) (i : Invocation) : Option String := do
  let target ← i.args.getLast?
  let path ← target.toList.dropPrefix? (host.destination.toList ++ [':'])
  return String.ofList path

/-- The arguments that the cluster gets. -/
def ClusterConfig.args? (c : ClusterConfig) (i : Invocation) : Option (List String) :=
  if i.program = c.oc then
    i.args.dropPrefix? (c.kubeconfig.elim [] fun file => ["--kubeconfig", file])
  else none

/-- The directory of the host that is given to a container for its configuration. -/
def mounted? (volume : String) : Option String :=
  (volume.toList.dropSuffix? ":/etc/frr".toList).map String.ofList

/-- What a command does on the host. -/
def commandDeeds : List String → List Deed
  | ["mkdir", "-p", dir] => [.makeDirectory dir]
  | ["rm", "-rf", dir] => [.removeTree dir]
  | [_, "rm", "-f", name] => [.removeContainer name]
  | [_, "run", "-d", "--privileged", "--network", "host", "--rm", "--ulimit", "core=-1",
      "--name", name, "--volume", volume, image] =>
    (mounted? volume).elim [] fun dir => [.start name ⟨image, dir⟩]
  | _ => []

/-- What is asked of the cluster does to it. -/
def clusterDeeds : List String → Option String → List Deed
  | ["apply", "-f", "-"], some text =>
    ((do
      let manifest ← Json.parse? text
      return Deed.put (← ObjectName.ofManifest? manifest) manifest) : Option Deed).toList
  | ["delete", kind, name, "--wait=true"], _ => [.delete ⟨kind, name, none⟩]
  | ["delete", kind, name, "--wait=true", "-n", space], _ => [.delete ⟨kind, name, some space⟩]
  | _, _ => []

namespace LabConfig

variable (config : LabConfig)

/-- The router with that suffix. -/
def routerOf (suffix : String) : ExternalRouter where
  host := .ofConfig config.host
  runtime := config.router.runtime
  elevated := config.router.elevated
  name := config.router.containerPrefix ++ suffix
  id := ""
  stagingDir := config.host.stagingPrefix ++ suffix
  spec := .ofConfig config.router
  active := true

/-- The suffix of the router that the command line removes. It stands twice, at the end of both
commands of the line. -/
def removed? (line : String) : Option String :=
  let first := (" ".intercalate (config.routerOf "").removeContainer).toList
  let second := ("; " ++ " ".intercalate (config.routerOf "").removeStaging).toList
  let suffix := (line.toList.drop first.length).take
    ((line.length - first.length - second.length) / 2)
  if line.toList = first ++ suffix ++ second ++ suffix then some (String.ofList suffix) else none

/-- The command without `sudo`, if that is configured. -/
def plainCommand (args : List String) : List String :=
  if config.router.elevated && args.head? == some "sudo" then args.tail else args

/-- What a command or command line does on the host. -/
def hostDeeds : List String → List Deed
  | [line] =>
    (config.removed? line).elim [] fun suffix =>
      [.removeContainer (config.routerOf suffix).name, .removeTree (config.routerOf suffix).stagingDir]
  | args => commandDeeds (config.plainCommand args)

/-- What a call does. -/
def deeds (i : Invocation) : List Deed :=
  match (HostSession.ofConfig config.host).args? i with
  | some args => config.hostDeeds args
  | none =>
    match i.file with
    | some content =>
      ((HostSession.ofConfig config.host).target? i).elim [] fun path => [.copy path content]
    | none => (config.cluster.args? i).elim [] fun args => clusterDeeds args i.input

end LabConfig

/-! ## Calls to the host -/

theorem dropPrefix?_append {α : Type} [BEq α] [LawfulBEq α] (l rest : List α) :
    (l ++ rest).dropPrefix? l = some rest :=
  List.dropPrefix?_eq_some_iff.2 ⟨l, rfl, beq_self_eq_true l⟩

theorem mounted?_mount (dir : String) : mounted? s!"{dir}:/etc/frr" = some dir := by
  have htext : (s!"{dir}:/etc/frr").toList = dir.toList ++ ":/etc/frr".toList := by
    rw [← String.toList_append]
    rfl
  rw [mounted?, htext, List.dropSuffix?_eq_some_iff.2 ⟨_, rfl, beq_self_eq_true _⟩]
  simp

namespace LabConfig

variable {config : LabConfig} {suffix : String}

theorem deeds_invocation (args : List String) :
    config.deeds ((HostSession.ofConfig config.host).invocation args) = config.hostDeeds args := by
  have hargs : (HostSession.ofConfig config.host).args?
      ((HostSession.ofConfig config.host).invocation args) = some args := by
    rw [HostSession.args?, HostSession.invocation, if_pos rfl, List.append_cons, dropPrefix?_append]
  rw [deeds, hargs]

theorem hostDeeds_of_length {args : List String} (h : args.length ≠ 1) :
    config.hostDeeds args = commandDeeds (config.plainCommand args) := by
  rw [hostDeeds.eq_def]
  split
  next => exact absurd rfl h
  next => rfl

theorem plainCommand_asRoot (args : List String) :
    config.plainCommand ((config.routerOf suffix).asRoot args) = args := by
  rw [plainCommand, ExternalRouter.asRoot, routerOf]
  cases config.router.elevated <;> simp

theorem hostDeeds_asRoot {args : List String} (h : 1 < args.length) :
    config.hostDeeds ((config.routerOf suffix).asRoot args) = commandDeeds args := by
  have hlength : ((config.routerOf suffix).asRoot args).length ≠ 1 := by
    rw [ExternalRouter.asRoot]
    split
    · simp only [List.length_cons]
      omega
    · omega
  rw [hostDeeds_of_length hlength, plainCommand_asRoot]

theorem deeds_makeStaging :
    config.deeds (config.makeStaging suffix) =
      [.makeDirectory (config.routerOf suffix).stagingDir] := by
  rw [makeStaging, deeds_invocation, hostDeeds_of_length (by simp), plainCommand]
  simp [commandDeeds, routerOf]

theorem deeds_startContainer (image : String) :
    config.deeds ((HostSession.ofConfig config.host).invocation
        ((config.routerOf suffix).startContainer image)) =
      [.start (config.routerOf suffix).name ⟨image, (config.routerOf suffix).stagingDir⟩] := by
  rw [deeds_invocation, ExternalRouter.startContainer, ExternalRouter.runtimeCommand,
    hostDeeds_asRoot (by simp)]
  simp [commandDeeds, mounted?_mount]

theorem deeds_removeContainer :
    config.deeds ((HostSession.ofConfig config.host).invocation
        (config.routerOf suffix).removeContainer) =
      [.removeContainer (config.routerOf suffix).name] := by
  rw [deeds_invocation, ExternalRouter.removeContainer, ExternalRouter.runtimeCommand,
    hostDeeds_asRoot (by simp)]
  simp [commandDeeds]

theorem deeds_removeStaging :
    config.deeds ((HostSession.ofConfig config.host).invocation
        (config.routerOf suffix).removeStaging) =
      [.removeTree (config.routerOf suffix).stagingDir] := by
  rw [deeds_invocation, ExternalRouter.removeStaging, hostDeeds_asRoot (by simp)]
  rfl

theorem removed?_removalLine :
    config.removed? (config.routerOf suffix).removalLine = some suffix := by
  have hcontainer : " ".intercalate (config.routerOf suffix).removeContainer =
      " ".intercalate (config.routerOf "").removeContainer ++ suffix := by
    by_cases h : config.router.elevated = true
    all_goals simp [routerOf, ExternalRouter.removeContainer, ExternalRouter.runtimeCommand,
      ExternalRouter.asRoot, h, String.intercalate_cons_cons, String.append_assoc]
  have hstaging : " ".intercalate (config.routerOf suffix).removeStaging =
      " ".intercalate (config.routerOf "").removeStaging ++ suffix := by
    by_cases h : config.router.elevated = true
    all_goals simp [routerOf, ExternalRouter.removeStaging, ExternalRouter.asRoot, h,
      String.intercalate_cons_cons, String.append_assoc]
  rw [removed?]
  generalize hfirst : (" ".intercalate (config.routerOf "").removeContainer) = first at hcontainer ⊢
  generalize hsecond : (" ".intercalate (config.routerOf "").removeStaging) = second
    at hstaging ⊢
  have hline : (config.routerOf suffix).removalLine =
      first ++ suffix ++ ("; " ++ second) ++ suffix := by
    rw [ExternalRouter.removalLine, hcontainer, hstaging]
    simp [String.append_assoc]
  generalize "; " ++ second = second at hline ⊢
  have hlength : ((first ++ suffix ++ second ++ suffix).length - first.toList.length -
      second.toList.length) / 2 = suffix.toList.length := by
    simp only [String.length_append, String.length_toList]
    omega
  rw [hline, hlength]
  simp [String.toList_append]

theorem deeds_removalLine :
    config.deeds ((HostSession.ofConfig config.host).invocation
        [(config.routerOf suffix).removalLine]) =
      [.removeContainer (config.routerOf suffix).name,
        .removeTree (config.routerOf suffix).stagingDir] := by
  rw [deeds_invocation, hostDeeds, removed?_removalLine]
  rfl

/-- A call that only asks the host does nothing. -/
theorem deeds_asks {args : List String} (h : HostSession.Asks args) :
    config.deeds ((HostSession.ofConfig config.host).invocation args) = [] := by
  have hlength : args.length ≠ 1 := by
    rintro hone
    obtain ⟨arg, rfl⟩ := List.length_eq_one_iff.1 hone
    simp [HostSession.Asks] at h
  have hplain : HostSession.Asks (config.plainCommand args) := by
    rw [plainCommand]
    split
    next hsudo =>
      obtain ⟨rest, rfl⟩ : ∃ rest, args = "sudo" :: rest := by
        rw [Bool.and_eq_true, beq_iff_eq] at hsudo
        exact List.head?_eq_some_iff.1 hsudo.2
      rcases rest with _ | ⟨a, _ | ⟨b, rest⟩⟩
      · simp [HostSession.Asks] at h
      · simp [HostSession.Asks] at h
      · simpa [HostSession.Asks] using h
    next => exact h
  rw [deeds_invocation, hostDeeds_of_length hlength]
  generalize config.plainCommand args = args at hplain
  rw [commandDeeds.eq_def]
  split
  · simp [HostSession.Asks] at hplain
  · simp [HostSession.Asks] at hplain
  · simp [HostSession.Asks] at hplain
  · -- the last argument but one is the volume
    obtain rfl | rfl | rfl := by simpa [HostSession.Asks] using hplain
    all_goals rfl
  · rfl

theorem deeds_copying (file content remote : String) :
    config.deeds ((HostSession.ofConfig config.host).copying file content remote) =
      [.copy remote content] := by
  have hargs : (HostSession.ofConfig config.host).args?
      ((HostSession.ofConfig config.host).copying file content remote) = none :=
    if_neg (by simp [HostSession.copying])
  have htext : ∀ destination : String, (s!"{destination}:{remote}").toList =
      (destination.toList ++ [':']) ++ remote.toList := by
    intro destination
    simp [toString, String.toList_append]
  have htarget : (HostSession.ofConfig config.host).target?
      ((HostSession.ofConfig config.host).copying file content remote) = some remote := by
    simp only [HostSession.target?, HostSession.copying, List.getLast?_append, List.getLast?_cons_cons,
      List.getLast?_singleton, Option.some_or, Option.bind_eq_bind, Option.bind_some, htext,
      dropPrefix?_append]
    simp
  rw [deeds, hargs]
  dsimp only [HostSession.copying] at htarget ⊢
  rw [htarget]
  rfl

/-! ## Calls to the cluster -/

/-- The call is no call to the host, and copies nothing. -/
theorem deeds_cluster {verb : String} (hverb : verb ∈ Cluster.verbs) (args : List String)
    (input : Option String) :
    config.deeds (Cluster.invocation config.cluster (verb :: args) input) =
      clusterDeeds (verb :: args) input := by
  have hhost : (HostSession.ofConfig config.host).args?
      (Cluster.invocation config.cluster (verb :: args) input) = none := by
    rw [HostSession.args?]
    split
    next =>
      rw [Option.eq_none_iff_forall_ne_some]
      intro rest hrest
      obtain ⟨front, heq, hfront⟩ := List.dropPrefix?_eq_some_iff.1 hrest
      obtain rfl := eq_of_beq hfront
      refine Cluster.IsCall.head?_ne (c := config.cluster) ⟨verb, hverb, args, input, rfl⟩ ?_
      rw [heq]
      rfl
    next => rfl
  have hcluster : config.cluster.args? (Cluster.invocation config.cluster (verb :: args) input) =
      some (verb :: args) := by
    rw [ClusterConfig.args?, Cluster.invocation, if_pos rfl, dropPrefix?_append]
  rw [deeds, hhost]
  dsimp only [Cluster.invocation] at hcluster ⊢
  rw [hcluster]
  rfl

theorem deeds_get (args : List String) :
    config.deeds (Cluster.invocation config.cluster ("get" :: args)) = [] := by
  rw [deeds_cluster (by decide)]
  simp [clusterDeeds]

theorem deeds_patch (args : List String) :
    config.deeds (Cluster.invocation config.cluster ("patch" :: args)) = [] := by
  rw [deeds_cluster (by decide)]
  simp [clusterDeeds]

theorem deeds_application (c : FrrConfiguration) :
    config.deeds (Cluster.application config.cluster c.resource) =
      [.put c.resource.object c.manifest] := by
  have hread : Json.parse? c.resource.manifest.compact = some c.manifest :=
    Json.parse?_compact c.isPlain_manifest
  rw [Cluster.application, deeds_cluster (by decide), clusterDeeds, hread]
  simp [c.ofManifest?_manifest]

theorem deeds_deletion (kind : String) (space : Option String) (name : String) :
    config.deeds (Cluster.deletion config.cluster kind space name) =
      [.delete ⟨kind, name, space⟩] := by
  rw [Cluster.deletion, List.cons_append, deeds_cluster (by decide)]
  cases space <;> simp [Cluster.inNamespace, clusterDeeds]

end LabConfig

end RouteWatch
