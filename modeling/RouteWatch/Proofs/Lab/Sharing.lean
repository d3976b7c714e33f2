import RouteWatch.Proofs.Lab.Creation

/-!
# Labs that share a site

Two labs with one configuration and different suffixes are set up and torn down on one site. Their
calls reach it in any order. What each of them does to its router is done to a container and a
directory of its own, but the peering of both is one object: each of them declares it, and the
teardown of one deletes it for the other.

* `Lab.stands_iff`: what stands of a lab between its setup and its teardown;
* `Lab.teardown_deletes_shared_peering`: the peering of a lab that stands is gone.
-/

namespace RouteWatch

open CallLog Timed

/-! ## Apart -/

/-- The suffix can be read off every path within the directory that ends in it. -/
theorem takeWhile_drop_within {base suffix path : String} (hsuffix : '/' ∉ suffix.toList)
    (h : Within (base ++ suffix) path) :
    (path.toList.drop base.toList.length).takeWhile (· != '/') = suffix.toList := by
  have hname : ∀ c ∈ suffix.toList, (c != '/') = true := fun c hc =>
    bne_iff_ne.2 fun heq => hsuffix (heq ▸ hc)
  rcases h with rfl | ⟨rest, hrest⟩
  · rw [String.toList_append, List.drop_left, List.takeWhile_eq_self_iff.2 hname]
  · rw [← hrest, String.toList_append, List.append_assoc, List.append_assoc, List.drop_left,
      List.takeWhile_append_of_pos hname]
    simp

theorem not_within_of_ne {base suffix suffix' path : String} (hne : suffix ≠ suffix')
    (hsuffix : '/' ∉ suffix.toList) (hsuffix' : '/' ∉ suffix'.toList)
    (h : Within (base ++ suffix) path) : ¬ Within (base ++ suffix') path := fun h' =>
  hne (String.toList_inj.1
    ((takeWhile_drop_within hsuffix h).symm.trans (takeWhile_drop_within hsuffix' h')))

/-- The deed does nothing to what belongs to the router. -/
structure Deed.Spares (r : ExternalRouter) (d : Deed) : Prop where
  container : ∀ s : Site, (d.change s).containers r.name = s.containers r.name
  directory : ∀ s : Site, s.directories r.stagingDir = true →
    (d.change s).directories r.stagingDir = true
  file : ∀ (s : Site) path, Within r.stagingDir path → (d.change s).files path = s.files path

section

variable {config : LabConfig} {suffix suffix' : String}

theorem Deed.spares_put (r : ExternalRouter) (object : ObjectName) (manifest : Json) :
    Deed.Spares r (.put object manifest) :=
  ⟨fun _ => rfl, fun _ h => h, fun _ _ _ => rfl⟩

theorem Deed.spares_delete (r : ExternalRouter) (object : ObjectName) :
    Deed.Spares r (.delete object) :=
  ⟨fun _ => rfl, fun _ h => h, fun _ _ _ => rfl⟩

/-- What concerns one router spares the other. -/
theorem Deed.Concerns.spares {d : Deed} (h : d.Concerns config suffix') (hne : suffix ≠ suffix')
    (hsuffix : '/' ∉ suffix.toList) (hsuffix' : '/' ∉ suffix'.toList) :
    d.Spares (config.routerOf suffix) := by
  have hname : (config.routerOf suffix).name ≠ (config.routerOf suffix').name := by
    intro heq
    have htext := congrArg String.toList heq
    rw [LabConfig.routerOf, LabConfig.routerOf, String.toList_append, String.toList_append] at htext
    exact hne (String.toList_inj.1 (List.append_cancel_left htext))
  have hwithin : ∀ path, Within (config.routerOf suffix).stagingDir path →
      ¬ Within (config.routerOf suffix').stagingDir path :=
    fun _ => not_within_of_ne hne hsuffix hsuffix'
  cases h with
  | makeDirectory =>
    exact ⟨fun _ => rfl, fun s hs => by simp [change, hs], fun _ _ _ => rfl⟩
  | copy h content =>
    refine ⟨fun _ => rfl, fun _ hs => hs, fun s path hpath => if_neg ?_⟩
    rintro rfl
    exact hwithin _ hpath h
  | start container => exact ⟨fun _ => if_neg hname, fun _ hs => hs, fun _ _ _ => rfl⟩
  | removeContainer => exact ⟨fun _ => if_neg hname, fun _ hs => hs, fun _ _ _ => rfl⟩
  | removeTree =>
    exact ⟨fun _ => rfl, fun s hs => by simp [change, hs, hwithin _ (.inl rfl)],
      fun _ _ hpath => if_neg (hwithin _ hpath)⟩

theorem Deed.Concerns.objects_change {d : Deed} (h : d.Concerns config suffix) (s : Site) :
    (d.change s).objects = s.objects := by
  cases h <;> rfl

end

/-- The router stands on the site as it was made: its container runs, and its directory has its two
files and, besides them, what it had before. -/
structure Site.Runs (s : Site) (r : ExternalRouter) (image conf : String) (first : Site) : Prop where
  container : s.containers r.name = some ⟨image, r.stagingDir⟩
  directory : s.directories r.stagingDir = true
  files : ∀ path, Within r.stagingDir path →
    s.files path =
      if path = r.path "frr.conf" then some conf
      else if path = r.path "daemons" then some Router.daemons
      else first.files path

theorem ExternalRouter.IsOf.runs {config : LabConfig} {suffix image conf : String}
    {r : ExternalRouter} {s first : Site} (hr : r.IsOf config suffix)
    (h : s.Runs (config.routerOf suffix) image conf first) : s.Runs r image conf first := by
  obtain ⟨hcontainer, hdirectory, hfiles⟩ := h
  have hname : r.name = (config.routerOf suffix).name := hr.name
  have hdir : r.stagingDir = (config.routerOf suffix).stagingDir := hr.stagingDir
  refine ⟨?_, ?_, ?_⟩
  · rw [hname, hdir, hcontainer]
  · rw [hdir, hdirectory]
  · simpa only [hr.path, hdir] using hfiles

theorem ExternalRouter.path_conf_ne (r : ExternalRouter) : r.path "frr.conf" ≠ r.path "daemons" := by
  intro heq
  have htext := congrArg String.toList heq
  simp [path, toString, String.toList_append] at htext

section

variable {config : LabConfig} {suffix conf : String} {deeds : List Deed}

/-- What the making of the router keeps, and all that spares the router, is kept throughout. -/
theorem LabConfig.keeps_of_creation {Q : Site → Prop}
    (hall : ∀ d ∈ deeds, d ∈ config.creation suffix conf ∨ d.Spares (config.routerOf suffix))
    (hcreation : ∀ d ∈ config.creation suffix conf, ∀ s, Q s → Q (d.change s))
    (hspares : ∀ d : Deed, d.Spares (config.routerOf suffix) → ∀ s, Q s → Q (d.change s)) :
    ∀ d ∈ deeds, ∀ s, Q s → Q (d.change s) := fun d hd =>
  (hall d hd).elim (hcreation d) (hspares d)

namespace Site

variable (hall : ∀ d ∈ deeds, d ∈ config.creation suffix conf ∨ d.Spares (config.routerOf suffix))
  (hmade : ∀ d ∈ config.creation suffix conf, d ∈ deeds) (s : Site)

include hall hmade

theorem container_after : (s.after deeds).containers (config.routerOf suffix).name =
    some ⟨config.router.image, (config.routerOf suffix).stagingDir⟩ := by
  obtain ⟨-, -, -, hstart⟩ := LabConfig.forall_mem_creation.1 hmade
  refine after_achieves (Q := fun s => s.containers _ = some _)
    (LabConfig.keeps_of_creation hall ?_ ?_) ⟨_, hstart, fun _ => if_pos rfl⟩
  · exact LabConfig.forall_mem_creation.2
      ⟨fun _ hs => hs, fun _ hs => hs, fun _ hs => hs, fun _ _ => if_pos rfl⟩
  · exact fun d hd s hs => (hd.container s).trans hs

theorem directory_after :
    (s.after deeds).directories (config.routerOf suffix).stagingDir = true := by
  obtain ⟨hdirectory, -, -, -⟩ := LabConfig.forall_mem_creation.1 hmade
  refine after_achieves (Q := fun s => s.directories _ = true)
    (LabConfig.keeps_of_creation hall ?_ ?_)
    ⟨_, hdirectory, fun _ => by simp [Deed.change, Within]⟩
  · exact LabConfig.forall_mem_creation.2
      ⟨fun _ hs => by simp [Deed.change, hs], fun _ hs => hs, fun _ hs => hs, fun _ hs => hs⟩
  · exact fun d hd => hd.directory

/-- Each of the two files is written by one deed of the making, and all other files by none. -/
theorem file_after {path : String} (hpath : Within (config.routerOf suffix).stagingDir path) :
    (s.after deeds).files path =
      if path = (config.routerOf suffix).path "frr.conf" then some conf
      else if path = (config.routerOf suffix).path "daemons" then some Router.daemons
      else s.files path := by
  obtain ⟨-, hconf, hdaemons, -⟩ := LabConfig.forall_mem_creation.1 hmade
  have hspares : ∀ {content : Option String} (d : Deed), d.Spares (config.routerOf suffix) →
      ∀ s : Site, s.files path = content → (d.change s).files path = content :=
    fun d hd s hs => (hd.file s path hpath).trans hs
  have hne := (config.routerOf suffix).path_conf_ne
  split
  next h =>
    subst h
    refine after_achieves (Q := fun s => s.files _ = some conf)
      (LabConfig.keeps_of_creation hall ?_ hspares) ⟨_, hconf, fun _ => if_pos rfl⟩
    exact LabConfig.forall_mem_creation.2 ⟨fun _ hs => hs, fun _ _ => if_pos rfl,
      fun _ hs => (if_neg hne).trans hs, fun _ hs => hs⟩
  split
  next h =>
    subst h
    refine after_achieves (Q := fun s => s.files _ = some Router.daemons)
      (LabConfig.keeps_of_creation hall ?_ hspares) ⟨_, hdaemons, fun _ => if_pos rfl⟩
    exact LabConfig.forall_mem_creation.2 ⟨fun _ hs => hs,
      fun _ hs => (if_neg hne.symm).trans hs, fun _ _ => if_pos rfl, fun _ hs => hs⟩
  next hconf' hdaemons' =>
    refine after_keeps (Q := fun s' => s'.files path = s.files path)
      (LabConfig.keeps_of_creation hall ?_ hspares) rfl
    exact LabConfig.forall_mem_creation.2 ⟨fun _ hs => hs, fun _ hs => (if_neg hconf').trans hs,
      fun _ hs => (if_neg hdaemons').trans hs, fun _ hs => hs⟩

/-- A router that is made and otherwise spared stands in the end. -/
theorem runs_after : (s.after deeds).Runs (config.routerOf suffix) config.router.image conf s where
  container := container_after hall hmade s
  directory := directory_after hall hmade s
  files _ hpath := file_after hall hmade s hpath

end Site

end

/-! ## The peering -/

section

variable {config : LabConfig} {suffix : String} {manifest : Json} {object : ObjectName}

/-- The deed deletes the object, or declares it otherwise. -/
def Deed.Spoils (object : ObjectName) (manifest : Json) (d : Deed) : Prop :=
  d = .delete object ∨ ∃ other, d = .put object other ∧ other ≠ manifest

theorem Deed.object_change_of_not_spoils {d : Deed} (h : ¬ d.Spoils object manifest) (s : Site)
    (hs : s.objects object = some manifest) : (d.change s).objects object = some manifest := by
  cases d with
  | put object' other =>
    by_cases heq : object = object'
    · subst heq
      have hother : other = manifest := by
        by_contra hne
        exact h (.inr ⟨other, rfl, hne⟩)
      exact (if_pos rfl).trans (congrArg some hother)
    · exact (if_neg heq).trans hs
  | delete object' =>
    have hne : object ≠ object' := by
      rintro rfl
      exact h (.inl rfl)
    exact (if_neg hne).trans hs
  | makeDirectory | copy | start | removeContainer | removeTree => exact hs

/-- Of what a setup does, only its declaration of another manifest spoils the peering. -/
theorem Deed.Spoils.of_doing {d : Deed} {other : Json}
    (h : d.Spoils (Lab.peeringObject config.cluster) manifest)
    (hd : Lab.Doing config suffix other d) :
    d = .put (Lab.peeringObject config.cluster) other ∧ other ≠ manifest := by
  rcases hd with hconcerns | rfl
  · rcases h with rfl | ⟨_, rfl, -⟩
    · cases hconcerns
    · cases hconcerns
  · simpa [Deed.Spoils] using h

/-- Of what a teardown does, only its deletion spoils the peering. -/
theorem Deed.Spoils.of_undoing {d : Deed} (h : d.Spoils object manifest)
    (hd : Lab.Undoing config suffix d) : d = .delete (Lab.peeringObject config.cluster) := by
  rcases hd with hconcerns | rfl
  · rcases h with rfl | ⟨_, rfl, -⟩
    · cases hconcerns
    · cases hconcerns
  · rfl

namespace Site

variable {declaring deleting : List Deed} {other : Json}

/-- What is declared once, and then declared again and again, is what stands. -/
theorem object_after_declaring (h : ∀ d ∈ declaring, Lab.Doing config suffix other d)
    (hmem : .put (Lab.peeringObject config.cluster) other ∈ declaring) (s : Site) :
    (s.after declaring).objects (Lab.peeringObject config.cluster) = some other := by
  refine after_achieves (Q := fun s => s.objects _ = some other) (fun d hd s hs => ?_)
    ⟨_, hmem, fun _ => if_pos rfl⟩
  rcases h d hd with hconcerns | rfl
  · rwa [hconcerns.objects_change]
  · exact if_pos rfl

/-- A deletion does not bring back a peering that is gone. -/
theorem object_change_ne_of_undoing {d : Deed} (h : Lab.Undoing config suffix d) (s : Site)
    (hs : s.objects (Lab.peeringObject config.cluster) ≠ some manifest) :
    (d.change s).objects (Lab.peeringObject config.cluster) ≠ some manifest := by
  rcases h with hconcerns | rfl
  · rwa [hconcerns.objects_change]
  · simp [Deed.change]

/-- The peering stands after one manifest was declared again and again, and the object was then deleted
again and again, if and only if the manifest is the one that stood and nothing was deleted. -/
theorem object_after_iff {s : Site} (hdeclaring : ∀ d ∈ declaring, Lab.Doing config suffix other d)
    (hdeleting : ∀ d ∈ deleting, Lab.Undoing config suffix d)
    (hs : s.objects (Lab.peeringObject config.cluster) = some manifest) :
    (s.after (declaring ++ deleting)).objects (Lab.peeringObject config.cluster) = some manifest ↔
      ∀ d ∈ declaring ++ deleting, ¬ d.Spoils (Lab.peeringObject config.cluster) manifest := by
  have hgone : ∀ d ∈ deleting, ∀ s : Site,
      s.objects (Lab.peeringObject config.cluster) ≠ some manifest →
        (d.change s).objects (Lab.peeringObject config.cluster) ≠ some manifest :=
    fun d hd => object_change_ne_of_undoing (hdeleting d hd)
  constructor
  · intro hafter d hd hspoils
    rw [after_append] at hafter
    rcases List.mem_append.1 hd with hd | hd
    · -- another manifest was declared, and no declaration that follows is of this one
      obtain ⟨rfl, hne⟩ := hspoils.of_doing (hdeclaring d hd)
      refine after_keeps hgone ?_ hafter
      rw [object_after_declaring hdeclaring hd]
      exact fun heq => hne (Option.some.inj heq)
    · obtain rfl := hspoils.of_undoing (hdeleting d hd)
      exact after_achieves (Q := fun s => s.objects _ ≠ some manifest) hgone
        ⟨_, hd, fun _ => by simp [Deed.change]⟩ hafter
  · exact fun h => after_keeps (Q := fun s => s.objects _ = some manifest)
      (fun d hd s => Deed.object_change_of_not_spoils (h d hd) s) hs

end Site

end

/-! ## Two labs -/

namespace Lab

/-- A call of one of two labs. The steps of both are listed in the order in which they reach the
site. -/
structure Step where
  /-- Whether the call is one of the lab that is looked at. -/
  own : Bool
  call : Invocation
  /-- What the call came back with, if it did. -/
  answer : Option (Except LaunchFault Reply)
  /-- Whether what the call asks for has been done. -/
  done : Bool

/-- What the step does to the site. -/
def Step.deeds (config : LabConfig) (st : Step) : List Deed :=
  if st.done then config.deeds st.call else []

/-- The program ended well. -/
def Step.succeeded (st : Step) : Bool :=
  match st.answer with
  | some (.ok reply) => reply.status.success
  | _ => false

/-- What the calls of one of the labs leave on its log. -/
def logOf (own : Bool) (steps : List Step) : CallLog :=
  (steps.filter (·.own == own)).flatMap fun st => callEvents st.call st.answer

/-- Everything that the steps do to the site, in order. -/
def deedsOf (config : LabConfig) (steps : List Step) : List Deed :=
  steps.flatMap (·.deeds config)

@[simp] theorem deedsOf_append (config : LabConfig) (steps steps' : List Step) :
    deedsOf config (steps ++ steps') = deedsOf config steps ++ deedsOf config steps' :=
  List.flatMap_append

@[simp] theorem deedsOf_cons (config : LabConfig) (st : Step) (steps : List Step) :
    deedsOf config (st :: steps) = st.deeds config ++ deedsOf config steps :=
  List.flatMap_cons

/-- A run of the teardown of the lab leaves this on its log. -/
def TearsDown (lab : Lab) (log : CallLog) : Prop :=
  ∃ (σ : Type) (rn : Runner σ) (limit : Option Millis) (now : Millis) (w : σ),
    ((lab.teardown (logged rn)).run.run limit now (w, [])).world.2 = log

/-- A lab with that suffix leaves this on its log as it is set up and, if that succeeds, torn down. -/
inductive Lives (config : LabConfig) (suffix : String) : CallLog → Prop
  | setup {value log} (h : SetsUp config suffix value log) : Lives config suffix log
  | teardown {lab log log'} (h : SetsUp config suffix (some (.ok lab)) log) (h' : TearsDown lab log') :
    Lives config suffix (log ++ log')

/-- Two labs with one configuration share a site. The one that is looked at has been set up by its
last call, and its teardown has not begun. The other one has come as far as it may. Every call that
succeeds has done what it asks for. -/
structure Sharing (config : LabConfig) (suffix suffix' : String) (lab : Lab) (before : List Step)
    (last : Step) (since : List Step) : Prop where
  apart : suffix ≠ suffix' ∧ '/' ∉ suffix.toList ∧ '/' ∉ suffix'.toList
  setup : SetsUp config suffix (some (.ok lab)) (logOf true (before ++ [last]))
  own : last.own = true ∧ ∀ st ∈ since, st.own = false
  other : ∃ log, Lives config suffix' log ∧ logOf false (before ++ last :: since) <+: log
  faithful : ∀ st ∈ before ++ last :: since, st.succeeded = true → st.done = true

variable {config : LabConfig} {suffix suffix' conf : String} {lab : Lab} {log : CallLog}
  {before since : List Step} {last : Step}

/-! ## What their calls do -/

theorem logOf_append (own : Bool) (steps steps' : List Step) :
    logOf own (steps ++ steps') = logOf own steps ++ logOf own steps' := by
  rw [logOf, List.filter_append, List.flatMap_append]
  rfl

theorem issued_logOf (own : Bool) (steps : List Step) :
    issued (logOf own steps) = (steps.filter (·.own == own)).map (·.call) := by
  rw [logOf]
  induction steps.filter (·.own == own) with
  | nil => rfl
  | cons st steps ih =>
    rw [List.flatMap_cons, issued_append, ih]
    cases st.answer <;> rfl

/-- First one manifest is declared, perhaps more than once; then the object is deleted, if at all. -/
theorem Lives.does (h : Lives config suffix log) :
    ∃ manifest log₁ log₂, log = log₁ ++ log₂ ∧ config.Does (Doing config suffix manifest) log₁ ∧
      config.Does (Undoing config suffix) log₂ := by
  cases h with
  | setup h =>
    obtain ⟨manifest, hdoes⟩ := h.does
    exact ⟨manifest, log, [], (List.append_nil _).symm, hdoes, nofun⟩
  | teardown h h' =>
    obtain ⟨manifest, hdoes⟩ := h.does
    obtain ⟨conf, hcreated⟩ := h.created
    obtain ⟨σ, rn, limit, now, w, rfl⟩ := h'
    exact ⟨manifest, _, _, rfl, hdoes, keeps_teardown rn hcreated limit now (w, []) nofun⟩

theorem call_mem_issued {own : Bool} {steps : List Step} {st : Step} (hst : st ∈ steps)
    (hown : st.own = own) : st.call ∈ issued (logOf own steps) := by
  rw [issued_logOf]
  exact List.mem_map_of_mem (List.mem_filter.2 ⟨hst, by simp [hown]⟩)

theorem Step.forall_mem_deeds {st : Step} {P : Deed → Prop} (h : ∀ d ∈ config.deeds st.call, P d) :
    ∀ d ∈ st.deeds config, P d := by
  rw [deeds]
  split
  · exact h
  · exact nofun

/-- What has succeeded has been done in one step. -/
theorem exists_step_of_succeeded {own : Bool} {steps : List Step} {i : Invocation}
    (h : Succeeded i (logOf own steps)) : ∃ st ∈ steps, st.call = i ∧ st.succeeded = true := by
  obtain ⟨reply, hmem, hsuccess⟩ := h
  obtain ⟨st, hst, hmem⟩ := List.mem_flatMap.1 hmem
  obtain ⟨hanswer, rfl⟩ : st.answer = some (.ok reply) ∧ st.call = i := by
    simpa [callEvents] using hmem
  exact ⟨st, (List.mem_filter.1 hst).1, rfl, by simp [Step.succeeded, hanswer, hsuccess]⟩

/-- The last call is the one whose answer comes last. -/
theorem callEvents_right_inj {log' : CallLog} {i j : Invocation}
    {answer : Option (Except LaunchFault Reply)} {a : Except LaunchFault Reply}
    (h : log ++ callEvents i answer = log' ++ callEvents j (some a)) : i = j ∧ answer = some a := by
  have hlast := congrArg List.getLast? h
  cases answer with
  | none => simp [callEvents] at hlast
  | some b =>
    obtain ⟨rfl, rfl⟩ : i = j ∧ b = a := by simpa [callEvents] using hlast
    exact ⟨rfl, rfl⟩

/-- The steps of calls that come from two lists, one after the other, fall into two parts. -/
theorem exists_steps_append {steps : List Step} {first second : List Invocation}
    (h : steps.map (·.call) <+: first ++ second) :
    ∃ s₁ s₂, steps = s₁ ++ s₂ ∧ (∀ st ∈ s₁, st.call ∈ first) ∧ ∀ st ∈ s₂, st.call ∈ second := by
  rcases List.prefix_or_prefix_of_prefix h (List.prefix_append first second) with hshort | hlong
  · exact ⟨steps, [], (List.append_nil _).symm,
      fun st hst => hshort.subset (List.mem_map_of_mem hst), nofun⟩
  · obtain ⟨t, ht⟩ := hlong
    obtain ⟨s₁, s₂, rfl, rfl, rfl⟩ := List.map_eq_append_iff.1 ht.symm
    rw [List.map_append] at h
    have hsecond := (List.prefix_append_right_inj _).1 h
    exact ⟨s₁, s₂, rfl, fun st hst => List.mem_map_of_mem hst,
      fun st hst => hsecond.subset (List.mem_map_of_mem hst)⟩

namespace Sharing

variable (h : Sharing config suffix suffix' lab before last since)
include h

/-- What the other lab does is as that of a lab that is set up and torn down. -/
theorem exists_steps_other :
    ∃ manifest s₁ s₂, (before ++ last :: since).filter (·.own == false) = s₁ ++ s₂ ∧
      (∀ d ∈ deedsOf config s₁, Doing config suffix' manifest d) ∧
      ∀ d ∈ deedsOf config s₂, Undoing config suffix' d := by
  obtain ⟨log, hlives, hprefix⟩ := h.other
  obtain ⟨manifest, log₁, log₂, rfl, hdoing, hundoing⟩ := hlives.does
  have hissued := hprefix.filterMap CallEvent.sent?
  rw [← issued, issued_logOf, ← issued, issued_append] at hissued
  obtain ⟨s₁, s₂, hsteps, h₁, h₂⟩ := exists_steps_append hissued
  refine ⟨manifest, s₁, s₂, hsteps, fun d hd => ?_, fun d hd => ?_⟩
  · obtain ⟨st, hst, hd⟩ := List.mem_flatMap.1 hd
    exact st.forall_mem_deeds (hdoing.of_mem_issued (h₁ st hst)) d hd
  · obtain ⟨st, hst, hd⟩ := List.mem_flatMap.1 hd
    exact st.forall_mem_deeds (hundoing.of_mem_issued (h₂ st hst)) d hd

theorem exists_since_append :
    ∃ manifest declaring deleting, deedsOf config since = declaring ++ deleting ∧
      (∀ d ∈ declaring, Doing config suffix' manifest d) ∧
      ∀ d ∈ deleting, Undoing config suffix' d := by
  obtain ⟨manifest, s₁, s₂, hsteps, h₁, h₂⟩ := h.exists_steps_other
  have hsince : since.filter (·.own == false) = since :=
    List.filter_eq_self.2 fun st hst => by simp [h.own.2 st hst]
  rw [List.filter_append, List.filter_cons_of_neg (by simp [h.own.1]), hsince] at hsteps
  rcases List.append_eq_append_iff.1 hsteps with ⟨t, rfl, rfl⟩ | ⟨t, -, rfl⟩
  · rw [deedsOf_append] at h₁
    exact ⟨manifest, deedsOf config t, deedsOf config s₂, deedsOf_append _ _ _,
      fun d hd => h₁ d (List.mem_append_right _ hd), h₂⟩
  · rw [deedsOf_append] at h₂
    exact ⟨manifest, [], deedsOf config since, rfl, nofun,
      fun d hd => h₂ d (List.mem_append_right _ hd)⟩

/-- What anyone does makes the router, or spares it. -/
theorem spares_of_mem {d : Deed}
    (hcreated : lab.Created config suffix conf (logOf true (before ++ [last])))
    (hd : d ∈ deedsOf config (before ++ last :: since)) :
    d ∈ config.creation suffix conf ∨ d.Spares (config.routerOf suffix) := by
  obtain ⟨hne, hsuffix, hsuffix'⟩ := h.apart
  obtain ⟨st, hst, hd⟩ := List.mem_flatMap.1 hd
  cases hown : st.own with
  | true =>
    have hst : st ∈ before ++ [last] := by
      have hsince : st ∉ since := fun hmem => by simp [h.own.2 st hmem] at hown
      simpa [hsince] using hst
    have hdoes := hcreated.making.only.of_mem_issued (call_mem_issued hst hown)
    rcases st.forall_mem_deeds hdoes d hd with hd | rfl
    · exact .inl hd
    · exact .inr (Deed.spares_put _ _ _)
  | false =>
    obtain ⟨manifest, s₁, s₂, hsteps, h₁, h₂⟩ := h.exists_steps_other
    have hst : st ∈ s₁ ++ s₂ := hsteps ▸ List.mem_filter.2 ⟨hst, by simp [hown]⟩
    right
    rcases List.mem_append.1 hst with hst | hst
    · rcases h₁ d (List.mem_flatMap.2 ⟨st, hst, hd⟩) with hd | rfl
      · exact hd.spares hne hsuffix hsuffix'
      · exact Deed.spares_put _ _ _
    · rcases h₂ d (List.mem_flatMap.2 ⟨st, hst, hd⟩) with hd | rfl
      · exact hd.spares hne hsuffix hsuffix'
      · exact Deed.spares_delete _ _

/-- What has succeeded has been done. -/
theorem mem_deedsOf_of_succeeded {i : Invocation} {d : Deed} (hd : d ∈ config.deeds i)
    (hsucceeded : Succeeded i (logOf true (before ++ [last]))) :
    d ∈ deedsOf config (before ++ last :: since) := by
  obtain ⟨st, hst, rfl, hsuccess⟩ := exists_step_of_succeeded hsucceeded
  have hst : st ∈ before ++ last :: since := by
    rw [List.append_cons]
    exact List.mem_append_left _ hst
  refine List.mem_flatMap.2 ⟨st, hst, ?_⟩
  rwa [Step.deeds, if_pos (h.faithful st hst hsuccess)]

/-- The last call of the setup has declared the peering. -/
theorem deeds_last (hcreated : lab.Created config suffix conf (logOf true (before ++ [last]))) :
    last.deeds config = [.put (peeringObject config.cluster) lab.peering.manifest] := by
  obtain ⟨log, reply, -, hsuccess, hlog⟩ := hcreated.declared
  have hlast : logOf true (before ++ [last]) =
      logOf true before ++ callEvents last.call last.answer := by
    simp [logOf, h.own.1]
  rw [hlast] at hlog
  obtain ⟨hcall, hanswer⟩ := callEvents_right_inj hlog
  have hdone : last.done = true :=
    h.faithful last (by simp) (by simp [Step.succeeded, hanswer, hsuccess])
  rw [Step.deeds, if_pos hdone, hcall, LabConfig.deeds_application, hcreated.peering]
  rfl

end Sharing

/-- Between its setup and its teardown, a lab has its router as it was made, whatever another lab does
on the same site. The peering that it declared stands for as long as no call of the other lab deletes
the object or declares it with another manifest, and no longer. -/
theorem stands_iff (h : Sharing config suffix suffix' lab before last since) (site : Site) :
    let now := site.after (deedsOf config (before ++ last :: since))
    (∃ conf, lab.router.spec.render = .ok conf ∧
      now.Runs lab.router config.router.image conf site) ∧
    (now.objects lab.peering.resource.object = some lab.peering.manifest ↔
      ∀ st ∈ since, ∀ d ∈ st.deeds config,
        ¬ d.Spoils lab.peering.resource.object lab.peering.manifest) := by
  intro now
  obtain ⟨conf, hcreated⟩ := h.setup.created
  refine ⟨⟨conf, ?_, ?_⟩, ?_⟩
  · rw [hcreated.router.asSpecified, hcreated.router.render]
  · have hmade : ∀ d ∈ config.creation suffix conf, d ∈ deedsOf config (before ++ last :: since) := by
      intro d hd
      obtain ⟨i, hi, hsucceeded⟩ := hcreated.making.made d (List.mem_append_left _ hd)
      exact h.mem_deedsOf_of_succeeded hi hsucceeded
    have hruns := Site.runs_after (fun d hd => h.spares_of_mem hcreated hd) hmade site
    exact hcreated.router.isOf.runs hruns
  · obtain ⟨other, declaring, deleting, hsince, hdeclaring, hdeleting⟩ := h.exists_since_append
    have hnow : now =
        ((site.after (deedsOf config before)).after (last.deeds config)).after
          (deedsOf config since) := by
      simp only [now, deedsOf_append, deedsOf_cons, Site.after_append]
    have hdeclared : ((site.after (deedsOf config before)).after (last.deeds config)).objects
        (peeringObject config.cluster) = some lab.peering.manifest := by
      rw [h.deeds_last hcreated]
      exact if_pos rfl
    have hstands := Site.object_after_iff hdeclaring hdeleting hdeclared
    rw [← hsince, ← hnow] at hstands
    rw [hcreated.peering, object_peeringOf, ← hcreated.peering, hstands, deedsOf,
      List.forall_mem_flatMap]

/-! ## Labs on a site that does what it is told -/

/-- The calls of a log that came back, as steps that have been done. -/
def stepsOf (own : Bool) : CallLog → List Step
  | .sent i :: .answered _ a :: log => ⟨own, i, some a, true⟩ :: stepsOf own log
  | _ => []

theorem of_mem_stepsOf {own : Bool} {st : Step} (hst : st ∈ stepsOf own log) :
    st.own = own ∧ st.done = true := by
  fun_induction stepsOf own log with
  | case1 i j a log ih =>
    rcases List.mem_cons.1 hst with rfl | hst
    · exact ⟨rfl, rfl⟩
    · exact ih hst
  | case2 => cases hst

theorem stepsOf_append {own : Bool} {log : CallLog} (h : logOf own (stepsOf own log) = log)
    (rest : CallLog) : stepsOf own (log ++ rest) = stepsOf own log ++ stepsOf own rest := by
  fun_induction stepsOf own log with
  | case1 i j a log ih =>
    obtain ⟨-, hlog⟩ : i = j ∧ logOf own (stepsOf own log) = log := by
      simpa [logOf, callEvents] using h
    rw [List.cons_append, List.cons_append, stepsOf, ih hlog, List.cons_append]
  | case2 log =>
    obtain rfl : [] = log := h
    rfl

/-- A program that comes back leaves a step on the log. -/
theorem keeps_logOf_stepsOf {rn : Runner σ} {i : Invocation} (own : Bool)
    (h : ∀ limit now w, ((rn i).run limit now w).value?.isSome) :
    Keeps (fun s => logOf own (stepsOf own s.2) = s.2) (logged rn i) := by
  intro limit now s hs
  obtain ⟨answer, hanswer⟩ := Option.isSome_iff_exists.1 (h limit now s.1)
  rw [run_logged]
  rcases hrun : (rn i).run limit now s.1 with ⟨value, now', w⟩
  rw [hrun] at hanswer
  obtain rfl : value = some answer := hanswer
  show logOf own (stepsOf own (s.2 ++ _)) = s.2 ++ _
  rw [stepsOf_append hs, logOf_append, hs]
  simp [stepsOf, logOf, callEvents]

theorem isSome_run_executing (config : LabConfig) (i : Invocation) (limit : Option Millis)
    (now : Millis) (w : Unit × Site) :
    ((executing config i).run limit now w).value?.isSome := by
  unfold executing
  rw [Timed.run_bind]
  dsimp only [Timed.act]
  split
  · rfl
  · split
    · rfl
    · split <;> rfl

/-- One lab stands, while the setup of another one fails because no file can be copied any more. -/
theorem stands_iff_beside_failed_setup :
    ∃ (lab : Lab) (before : List Step) (last : Step) (since : List Step),
      Sharing {} "aaaaaaaa" "bbbbbbbb" lab before last since ∧ since ≠ [] ∧
      let now := Site.empty.after (deedsOf {} (before ++ last :: since))
      (∃ conf, lab.router.spec.render = .ok conf ∧
        now.Runs lab.router ({} : LabConfig).router.image conf .empty) ∧
      (now.objects lab.peering.resource.object = some lab.peering.manifest ↔
        ∀ st ∈ since, ∀ d ∈ st.deeds {},
          ¬ d.Spoils lab.peering.resource.object lab.peering.manifest) := by
  have hlogs :
      let own := (setup (logged (executing {})) {} false "aaaaaaaa" "/tmp/a").run.run none 0
        (((), Site.empty), [])
      let other := (setup (logged brokenCopies) {} false "bbbbbbbb" "/tmp/b").run.run none 0 ((), [])
      own.value?.map Except.isOk = some true ∧
        stepsOf true own.world.2 ≠ [] ∧ stepsOf false other.world.2 ≠ [] := by
    decide +kernel
  rcases hown : (setup (logged (executing {})) {} false "aaaaaaaa" "/tmp/a").run.run none 0
    (((), Site.empty), []) with ⟨value, now, w, log⟩
  rcases hother : (setup (logged brokenCopies) {} false "bbbbbbbb" "/tmp/b").run.run none 0 ((), [])
    with ⟨value', now', w', log'⟩
  simp only [hown, hother] at hlogs
  obtain ⟨hok, hsteps, hsteps'⟩ := hlogs
  have hlog : logOf true (stepsOf true log) = log := by
    have hkeeps := keeps_setup (fun i => keeps_logOf_stepsOf true (isSome_run_executing {} i)) {}
      false "aaaaaaaa" "/tmp/a"
    simpa [hown] using hkeeps none 0 (((), Site.empty), []) rfl
  have hlog' : logOf false (stepsOf false log') = log' := by
    have hanswers : ∀ i limit now w, ((brokenCopies i).run limit now w).value?.isSome :=
      fun _ _ _ _ => rfl
    have hkeeps := keeps_setup (fun i => keeps_logOf_stepsOf false (hanswers i)) {} false "bbbbbbbb"
      "/tmp/b"
    simpa [hother] using hkeeps none 0 ((), []) rfl
  obtain ⟨lab, rfl⟩ : ∃ lab, value = some (.ok lab) := by
    rcases value with _ | _ | lab
    · simp at hok
    · simp [Except.isOk, Except.toBool] at hok
    · exact ⟨lab, rfl⟩
  obtain ⟨before, last, hbefore⟩ := (List.eq_nil_or_concat _).resolve_left hsteps
  rw [List.concat_eq_append] at hbefore
  have hown' : ∀ st ∈ before ++ [last], st.own = true ∧ st.done = true := fun st hst =>
    of_mem_stepsOf (hbefore ▸ hst)
  have hothers : logOf false (before ++ last :: stepsOf false log') = log' := by
    rw [List.append_cons, logOf_append, hlog', logOf, List.filter_eq_nil_iff.2, List.flatMap_nil,
      List.nil_append]
    exact fun st hst => by simp [hown' st hst]
  have h : Sharing {} "aaaaaaaa" "bbbbbbbb" lab before last (stepsOf false log') := by
    refine ⟨by decide, ?_, ⟨(hown' last (by simp)).1, fun st hst => (of_mem_stepsOf hst).1⟩,
      ⟨log', .setup ⟨Unit, brokenCopies, false, "/tmp/b", none, 0, now', (), w', hother⟩, ?_⟩, ?_⟩
    · rw [← hbefore, hlog]
      exact ⟨_, executing {}, false, "/tmp/a", none, 0, now, ((), .empty), w, hown⟩
    · exact hothers.symm ▸ List.prefix_rfl
    · rw [List.append_cons]
      exact fun st hst _ => (List.mem_append.1 hst).elim (fun hst => (hown' st hst).2)
        fun hst => (of_mem_stepsOf hst).2
  exact ⟨lab, before, last, _, h, hsteps', stands_iff h .empty⟩

/-- One lab is set up, and then another one is set up and torn down. -/
def visited : Action (Unit × Site) ScenarioError Lab := do
  let lab ← setup (executing {}) {} false "aaaaaaaa" "/tmp/a"
  let other ← setup (executing {}) {} false "bbbbbbbb" "/tmp/b"
  other.teardown (executing {})
  return lab

/-- A peering that is declared stands at once; its text need not be read for that. -/
theorem executing_application (c : FrrConfiguration) :
    executing {} (Cluster.application (LabConfig.cluster {}) c.resource) =
      Timed.act fun _ w => (.ok {}, (w.1, w.2.after [.put c.resource.object c.manifest])) := by
  unfold executing
  rw [LabConfig.deeds_application]
  rfl

/-- A lab was given, and its peering is not there. -/
def lacksPeering (visit : Ending (Unit × Site) (Except ScenarioError Lab)) : Bool :=
  match visit.value? with
  | some (.ok lab) => (visit.world.2.objects lab.peering.resource.object).isNone
  | _ => false

/-- The peering of a lab that stands is gone once another lab has been torn down. -/
theorem teardown_deletes_shared_peering :
    ∃ (lab other : Lab) (t t' t'' : Millis) (w w' w'' : Unit × Site),
      (setup (executing {}) {} false "aaaaaaaa" "/tmp/a").run.run none 0 ((), .empty) =
        ⟨some (.ok lab), t, w⟩ ∧
      (setup (executing {}) {} false "bbbbbbbb" "/tmp/b").run.run none t w =
        ⟨some (.ok other), t', w'⟩ ∧
      (other.teardown (executing {})).run.run none t' w' = ⟨some (.ok ()), t'', w''⟩ ∧
      w''.2.objects lab.peering.resource.object = none := by
  have hvisited : lacksPeering (visited.run.run none 0 ((), .empty)) = true := by
    have hdeclared := executing_application
    unfold Cluster.application at hdeclared
    simp only [visited, setup, declarePeering, Cluster.declare, Cluster.runWith, hdeclared]
    decide +kernel
  rcases hrun : visited.run.run none 0 ((), .empty) with ⟨_ | _ | lab, now, w⟩ <;>
    rw [hrun, lacksPeering] at hvisited
  · cases hvisited
  · cases hvisited
  have hgone : w.2.objects lab.peering.resource.object = none := by simpa using hvisited
  rw [visited] at hrun
  obtain ⟨lab', t, w₁, hlab, hrest⟩ := Action.run_bind_eq_ok hrun
  obtain ⟨other, t', w₂, hother, hrest⟩ := Action.run_bind_eq_ok hrest
  obtain ⟨_, t'', w₃, hdown, hend⟩ := Action.run_bind_eq_ok hrest
  obtain ⟨rfl, rfl, rfl⟩ : lab' = lab ∧ t'' = now ∧ w₃ = w := by
    simpa using hend
  exact ⟨lab', other, t, t', t'', w₁, w₂, w₃, hlab, hother, hdown, hgone⟩

end Lab

end RouteWatch
