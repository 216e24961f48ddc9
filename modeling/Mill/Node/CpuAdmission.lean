import Mathlib.Algebra.Order.BigOperators.Group.Multiset
import Mill.Config.Validate
import Mill.Node.DeployEffects
import Mill.Node.Tasks

/-! The cpu numbers of the allocations. -/

namespace Mill

open Program Transition

def ClusterConfig.NonnegCpu (config : ClusterConfig) : Prop :=
  (∀ name d, config.services.lookup name = some d → 0 ≤ d.resources.cpu) ∧
    ∀ name d, config.tasks.lookup name = some d → 0 ≤ d.resources.cpu

structure FsmState.NonnegCpu (s : FsmState) : Prop where
  config : ∀ config, s.config = some config → config.NonnegCpu
  allocs : ∀ i a, s.allocs.lookup i = some a → 0 ≤ a.resources.cpu

def Command.NonnegCpu : Command → Prop
  | .deploy config => config.NonnegCpu
  | .allocScheduled _ _ _ _ _ resources => 0 ≤ resources.cpu
  | _ => True

lemma FsmState.NonnegCpu.apply {s : FsmState} (hs : s.NonnegCpu) {c : Command}
    (hc : c.NonnegCpu) : (applyCommand s c).1.NonnegCpu := by
  constructor
  · intro config hconfig
    by_cases hdeploy : ∃ new, c = .deploy new
    · obtain ⟨new, rfl⟩ := hdeploy
      cases hconfig
      exact hc
    · rw [config_applyCommand (fun new h => hdeploy ⟨new, h⟩)] at hconfig
      exact hs.config config hconfig
  · intro i a ha
    rw [lookup_allocs_applyCommand] at ha
    rcases allocAfter_eq_some ha with ⟨_, _, _, _, _, _, rfl, rfl⟩ | ⟨b, hb, hab⟩
    · exact hc
    · rw [hab]
      exact hs.allocs i b hb

lemma FsmState.NonnegCpu.cpuUsed_nonneg {s : FsmState} (hs : s.NonnegCpu) (millId : NodeId) :
    0 ≤ s.cpuUsed millId := by
  unfold cpuUsed Finmap.total
  refine Multiset.sum_nonneg fun x hx => ?_
  obtain ⟨a, ha, rfl⟩ := Multiset.mem_map.mp hx
  obtain ⟨i, hi⟩ := Finmap.mem_values.mp ha
  split_ifs
  · exact hs.allocs i a hi
  · exact le_rfl

def FsmState.AvailableWithinTotal (s : FsmState) : Prop :=
  ∀ nodeId r, s.nodeAvailableResources nodeId = some r → r.cpuAvailable ≤ r.cpuTotal

lemma FsmState.NonnegCpu.available {s : FsmState} (hs : s.NonnegCpu) : s.AvailableWithinTotal := by
  intro nodeId r hr
  obtain ⟨node, -, rfl⟩ := Option.map_eq_some_iff.mp hr
  exact sub_le_self _ (hs.cpuUsed_nonneg node.millId)

section

def TaskEffect.NonnegCpu : TaskEffect → Prop
  | .coord (.propose c) => c.NonnegCpu
  | .coord (.spawnRestart _ d) => 0 ≤ d.resources.cpu
  | _ => True

def TaskEffect.Sound : (e : TaskEffect) → e.Answer → Prop
  | .coord (.read .config), config => ∀ c, config = some c → c.NonnegCpu
  | .coord (.read (.serviceDef _)), d => ∀ d', d = some d' → 0 ≤ d'.resources.cpu
  | .coord (.visitServices m), order => m.entries = order
  | .taskDef _, d => ∀ d', d = some d' → 0 ≤ d'.resources.cpu
  | _, _ => True

def cpuSpec : Spec TaskEffect TaskEffect.Answer Unit where
  pre _ e := e.NonnegCpu
  post _ e r _ := e.Sound r

abbrev cpuCoordSpec : Spec Effect Effect.Answer Unit :=
  cpuSpec.along TaskEffect.coord fun _ answer => answer

variable {α : Type} {ctx : DeployCtx} {name : String} {d : ServiceDef}

abbrev Anyhow : Except DeployError α → Unit → Prop := fun _ _ => True

lemma wp_cpu_of_only {p : Action α} {P : Effect → Prop} {F : DeployError → Prop} (hp : p.Only P F)
    (hP : ∀ e, P e → (TaskEffect.coord e).NonnegCpu) : p.wp cpuCoordSpec Anyhow () :=
  wp_of_only (I := fun _ => True) hp trivial
    (fun e _ he _ => ⟨hP e he, fun _ _ _ => trivial⟩) (fun _ _ _ => trivial)
    fun _ _ _ _ => trivial

lemma StartEffect.nonnegCpu {allocId : AllocId} {e : Effect} (he : StartEffect name d allocId e)
    (hd : 0 ≤ d.resources.cpu) : (TaskEffect.coord e).NonnegCpu := by
  cases he with
  | schedule => exact hd
  | running node e he => cases he <;> trivial
  | _ => trivial

lemma ServiceEffect.nonnegCpu {e : Effect} (he : ServiceEffect name d e)
    (hd : 0 ≤ d.resources.cpu) : (TaskEffect.coord e).NonnegCpu := by
  cases he with
  | firstReady => trivial
  | volume vol hvol e he => cases he <;> trivial
  | replica e he =>
    cases he with
    | start allocId e he => exact he.nonnegCpu hd
    | _ => trivial

lemma wp_startAlloc_cpu (hd : 0 ≤ d.resources.cpu) (allocId : AllocId) (replica : Nat) :
    (startAlloc ctx name d allocId replica).wp cpuCoordSpec Anyhow () :=
  wp_cpu_of_only (only_startAlloc ctx replica) fun _ he => he.nonnegCpu hd

lemma wp_runDeploy_cpu {config : ClusterConfig} (hconfig : config.NonnegCpu) :
    (runDeploy ctx config).wp cpuCoordSpec Anyhow () := by
  have hpre := wp_preDeploy_of (S := cpuCoordSpec) (φ := ()) config
    (fun old _ => ∀ c, old = some c → c.NonnegCpu) (fun m order => m.entries = order)
    ⟨trivial, fun old _ hold => by
      obtain ⟨_, rfl, hsound⟩ := hold
      exact hsound⟩
    (fun old e _ he hold => ⟨by cases he <;> trivial, fun _ _ _ => hold⟩)
    (fun m order _ _ hvisit => by
      obtain ⟨_, rfl, hsound⟩ := hvisit
      exact hsound)
  refine wp_bind (wp_mono hpre ?_)
  rintro (x | ⟨old, plan⟩) _ ⟨old', hold, ho⟩
  · trivial
  obtain ⟨newOrder, oldOrder, heq, hnew, -⟩ := ho
  obtain ⟨rfl, rfl⟩ := Prod.mk.inj heq
  refine wp_bind (wp_propose hconfig (fun response _ _ => ?_) fun _ _ _ => trivial)
  have hplan : (applyPlan ctx (diffConfig old config newOrder oldOrder)).wp cpuCoordSpec
      Anyhow () := by
    refine wp_cpu_of_only (P := fun e => (TaskEffect.coord e).NonnegCpu) (only_applyPlan ctx
      (fun _ _ => trivial) (fun _ _ => trivial) fun s hs e he => he.nonnegCpu ?_) fun _ h => h
    have hmem := mem_newOrder_of_mem_plan hs
    rw [← Multiset.mem_coe, ← hnew] at hmem
    exact hconfig.1 s.1 s.2 (Finmap.lookup_eq_some_iff.mpr hmem)
  refine wp_bind (wp_mono hplan ?_)
  rintro (x | failed) _ -
  · trivial
  -- a failed deploy goes back to what it has read
  · dsimp only
    split
    · rename_i old
      exact wp_bind (wp_effect (hold old rfl) fun _ _ _ => trivial)
    · trivial

lemma wp_runRestart_cpu (serviceName : String) :
    (runRestart ctx serviceName).wp cpuCoordSpec Anyhow () := by
  refine wp_bind (wp_effect trivial ?_)
  rintro _ _ ⟨d, rfl, hsound⟩
  cases d with
  | none => trivial
  | some d =>
    exact wp_cpu_of_only (only_rollingUpdate ctx) fun _ he => he.nonnegCpu (hsound d rfl)

lemma wp_stopQuietly_cpu (allocs : List (AllocId × NodeId)) :
    (stopQuietly allocs).wp cpuCoordSpec Anyhow () := by
  have hstop : (stopQuietly allocs).Only (fun e => ∃ node cmd, e = .send node cmd)
      fun _ => True := only_stopQuietly fun a _ => ⟨a.2, .stop a.1, rfl⟩
  refine wp_cpu_of_only hstop ?_
  rintro _ ⟨node, cmd, rfl⟩
  trivial

lemma wp_drainAlloc_cpu (millId : NodeId) (a : AllocId × String × AllocKind) :
    (drainAlloc ctx millId a).wp cpuCoordSpec Anyhow () := by
  unfold drainAlloc
  split_ifs
  · refine wp_bind (wp_effect trivial ?_)
    rintro _ _ ⟨d, rfl, hsound⟩
    cases d with
    | none => exact wp_stopQuietly_cpu _
    | some d =>
      refine wp_bind (wp_bind (wp_effect trivial fun suffix _ _ => ?_))
      refine wp_bind (wp_attempt (wp_mono (wp_startAlloc_cpu (hsound d rfl) _ 0) ?_))
      rintro (x | u) _ -
      · trivial
      · exact wp_stopQuietly_cpu _
  · exact wp_stopQuietly_cpu _

lemma wp_drainNode_cpu (nodeId : Nat) : (drainNode ctx nodeId).wp cpuCoordSpec Anyhow () := by
  refine wp_bind (wp_propose trivial (fun response _ _ => ?_) fun _ _ _ => trivial)
  cases response with
  | error => trivial
  | ok =>
    refine wp_bind (wp_effect trivial fun millId _ _ => ?_)
    refine wp_bind (wp_effect trivial fun vols _ _ => ?_)
    have hvolume (vol : String) : (drainVolume ctx vol).Only
        (fun e => e = .detach vol ∨ e = .propose (.volumeDetached vol)) fun _ => True :=
      only_drainVolume ctx (.inl rfl) (.inr rfl)
    refine wp_bind (wp_foldEach (fun _ _ _ => True) (fun vol _ _ _ _ => ?_) (fun _ _ _ => ?_)
      trivial)
    · refine wp_mono (wp_cpu_of_only (hvolume vol) ?_) ?_
      · rintro _ (rfl | rfl) <;> trivial
      · rintro (x | u) _ - <;> trivial
    · refine wp_bind (wp_effect trivial ?_)
      rintro ⟨allocs, millId⟩ _ -
      refine wp_foldEach (fun _ _ _ => True) (fun a _ _ _ _ => ?_) (fun _ _ _ => trivial) trivial
      refine wp_mono (wp_drainAlloc_cpu millId a) ?_
      rintro (x | u) _ - <;> trivial

lemma wp_checkServiceRestart_cpu (now : Nat) (restartBackoff : RestartBackoff)
    {e : Σ _ : String, ServiceDef} (he : 0 ≤ e.2.resources.cpu) :
    (checkServiceRestart now restartBackoff e).wp cpuCoordSpec Anyhow () := by
  have honly : (checkServiceRestart now restartBackoff e).Only
      (fun x => x = .read (.serviceCounts e.1) ∨ x = .spawnRestart e.1 e.2) fun _ => False := by
    refine .bind (.effect (.inl rfl)) ?_
    rintro ⟨active, nonTerminal⟩
    dsimp only
    split_ifs
    · trivial
    · trivial
    · split
      · trivial
      · split_ifs
        · trivial
        · refine .bind (.foldEach ?_ ()) fun _ => trivial
          intro _ _ _
          exact .effect (.inr rfl)
  refine wp_cpu_of_only honly ?_
  rintro _ (rfl | rfl)
  · trivial
  · exact he

lemma wp_checkServiceRestarts_cpu (now : Nat) (restartBackoff : RestartBackoff) :
    (checkServiceRestarts now restartBackoff).wp cpuCoordSpec Anyhow () := by
  refine wp_bind (wp_effect trivial ?_)
  rintro _ _ ⟨config, rfl, hsound⟩
  dsimp only
  generalize hservices : (config.map ClusterConfig.services).getD ∅ = services
  have hdefs : ∀ name d, services.lookup name = some d → 0 ≤ d.resources.cpu := by
    intro name d hd
    cases config with
    | none =>
      subst hservices
      cases hd
    | some c =>
      subst hservices
      exact (hsound c rfl).1 name d hd
  refine wp_bind (wp_effect trivial ?_)
  rintro _ _ ⟨order, rfl, hvisit⟩
  have horder : services.entries = order := hvisit
  refine wp_foldEach (fun left _ _ => ∀ e ∈ left, 0 ≤ e.2.resources.cpu) ?_
    (fun _ _ _ => trivial) ?_
  · intro e left acc _ hleft
    refine wp_mono (wp_checkServiceRestart_cpu now acc (hleft e List.mem_cons_self)) ?_
    rintro (x | acc) _ -
    · trivial
    · exact fun e' he' => hleft e' (List.mem_cons_of_mem e he')
  · intro e he
    rw [← Multiset.mem_coe, ← horder] at he
    exact hdefs e.1 e.2 (Finmap.lookup_eq_some_iff.mpr he)

lemma wp_watchdog_cpu (ticks : Nat) (restartBackoff : RestartBackoff) :
    (watchdog ticks restartBackoff).wp cpuCoordSpec Anyhow () := by
  induction ticks generalizing restartBackoff with
  | zero => trivial
  | succ ticks ih =>
    refine wp_bind (wp_effect trivial fun now _ _ => ?_)
    refine wp_bind (wp_mono (wp_checkServiceRestarts_cpu now restartBackoff) ?_)
    rintro (x | restartBackoff) _ -
    · trivial
    · exact ih restartBackoff

lemma wp_restartReplica_cpu (hd : 0 ≤ d.resources.cpu) :
    (restartReplica ctx name d).wp cpuCoordSpec Anyhow () :=
  wp_bind (wp_bind (wp_effect trivial fun _ _ _ => wp_startAlloc_cpu hd _ 0))

def SpawnTaskRequest.NonnegCpu (request : SpawnTaskRequest) : Prop :=
  request.task = none → request.image.isSome = true → 0 ≤ request.cpu

lemma wp_taskPlan_cpu (p : Parsers) {request : SpawnTaskRequest} (h : request.NonnegCpu) :
    (taskPlan p request).wp cpuSpec (fun o _ => match o with
      | .ok plan => 0 ≤ plan.resources.cpu
      | .error _ => True) () := by
  unfold taskPlan
  split
  · refine wp_bind (wp_effect trivial fun d _ hsound => ?_)
    cases d with
    | none => trivial
    | some d => exact hsound d rfl
  · rename_i image htask himage
    have hcpu : 0 ≤ request.cpu := h htask (by rw [himage]; rfl)
    split
    · trivial
    · exact wp_bind (wp_effect trivial fun _ _ _ => hcpu)
  · trivial

lemma wp_scheduleTask_cpu (plan : TaskPlan) (hplan : 0 ≤ plan.resources.cpu)
    (allocId : AllocId) : (scheduleTask plan allocId).wp cpuSpec Anyhow () := by
  refine wp_bind (wp_effect trivial fun nodeId _ _ => ?_)
  cases nodeId with
  | none => trivial
  | some =>
    refine wp_bind (wp_effect trivial fun raftNodeId _ _ => ?_)
    cases raftNodeId with
    | none => trivial
    | some =>
      exact wp_bind (wp_lift (wp_propose hplan (fun _ _ _ => trivial) fun _ _ _ => trivial))

def Unproposing (e : TaskEffect) : Prop :=
  (∀ c, e ≠ .coord (.propose c)) ∧ ∀ name d, e ≠ .coord (.spawnRestart name d)

lemma Unproposing.nonnegCpu {e : TaskEffect} (he : Unproposing e) : e.NonnegCpu := by
  unfold TaskEffect.NonnegCpu
  split
  · exact absurd rfl (he.1 _)
  · exact absurd rfl (he.2 _ _)
  · trivial

lemma wp_unproposing {p : TaskAction α} {F : DeployError → Prop} (hp : p.Only Unproposing F) :
    p.wp cpuSpec Anyhow () :=
  wp_of_only (I := fun _ => True) hp trivial
    (fun _ _ he _ => ⟨he.nonnegCpu, fun _ _ _ => trivial⟩) (fun _ _ _ => trivial)
    fun _ _ _ _ => trivial

lemma only_runScheduledTask (plan : TaskPlan) (allocId : AllocId) (nodeId : NodeId) :
    (runScheduledTask ctx plan allocId nodeId).Only Unproposing fun _ => True := by
  have hresolve : (resolveEnv ctx plan.env).Only (fun e => Unproposing (.coord e)) fun _ => True :=
    only_resolveEnv ctx (by simp [Unproposing]) (by simp [Unproposing]) (by simp [Unproposing])
  refine .bind (hresolve.lift fun _ h => h) fun env => ?_
  refine .bind ((only_send (P := fun e => Unproposing (.coord e)) (by simp [Unproposing])
    fun _ => trivial).lift fun _ h => h) fun _ => ?_
  refine .bind (.effect (by simp [Unproposing])) fun status => ?_
  refine .bind (by cases status <;> trivial) fun _ => ?_
  refine .bind ?_ fun _ => .bind (.effect (by simp [Unproposing])) fun _ => trivial
  cases plan.timeout with
  | none => trivial
  | some => exact .effect (by simp [Unproposing])

lemma wp_spawnTask_cpu (p : Parsers) {request : SpawnTaskRequest} (h : request.NonnegCpu) :
    (spawnTask p ctx request).wp cpuSpec Anyhow () := by
  refine wp_bind (wp_mono (wp_taskPlan_cpu p h) ?_)
  rintro (x | plan) _ hplan
  · trivial
  dsimp only
  cases taskTimeout p request plan.timeout with
  | error => trivial
  | ok timeout =>
    have hok : (TaskAction.ofExcept (.ok timeout)).wp cpuSpec
        (Returns fun t _ => t = timeout) () := rfl
    refine wp_bind_returns hok ?_
    rintro timeout _ rfl
    have hnew : (TaskAction.coord (Action.newAllocId plan.name)).Only Unproposing
        fun _ => True := .bind (.effect (by simp [Unproposing])) fun _ => trivial
    refine wp_bind (wp_mono (wp_unproposing hnew) ?_)
    rintro (x | allocId) _ -
    · trivial
    refine wp_bind (wp_mono (wp_scheduleTask_cpu { plan with
      env := literals request.env ∪ plan.env, timeout } hplan allocId) ?_)
    rintro (x | nodeId) _ -
    · trivial
    · exact wp_unproposing (only_runScheduledTask _ allocId nodeId)

lemma wp_killTimer_cpu (allocId : AllocId) (dur : Duration) :
    (killTimer allocId dur).wp cpuSpec Anyhow () := by
  refine wp_unproposing (F := fun _ => True) ?_
  refine .bind (.effect (by simp [Unproposing])) fun start => ?_
  refine .bind (.effect (by simp [Unproposing])) fun _ => ?_
  refine .bind (.attempt (F := fun _ => True) ?_) fun _ => trivial
  refine .bind (.effect (by simp [Unproposing])) fun info => ?_
  split
  · exact (only_send (P := fun e => Unproposing (.coord e)) (by simp [Unproposing])
      fun _ => trivial).lift fun _ h => h
  · trivial
  · trivial

end

inductive PrimaryEvent
  | deploy (raw : RawConfig) (o : Orders) (ho : o.Of raw)
  | spawnTask (request : SpawnTaskRequest)
  | restart (serviceName : String)
  | drain (nodeId : Nat)
  | watchdog (ticks : Nat)
  | commit (c : Command)

def Command.coordinated : Command → Bool
  | .deploy _ => true
  | .allocScheduled .. => true
  | _ => false

abbrev Primary := Machine.State TaskEffect TaskEffect.Answer Empty Unit World Unit

def primary (p : Parsers) (ctx : DeployCtx) :
    Machine TaskEffect TaskEffect.Answer Empty Unit World Choice PrimaryEvent Unit where
  answer := World.answerTask
  starts
    | .coord (.spawnRestart name d) => [((), detached (.coord (restartReplica ctx name d)))]
    | .spawnKillTimer allocId dur => [((), detached (killTimer allocId dur))]
    | _ => []
  outside w
    | .deploy raw o _ =>
      match resolve p o raw with
      | .ok config => some (w, [((), detached (.coord (runDeploy ctx config)))])
      | .error _ => none
    | .spawnTask request => some (w, [((), detached (Mill.spawnTask p ctx request))])
    | .restart serviceName => some (w, [((), detached (.coord (runRestart ctx serviceName)))])
    | .drain nodeId => some (w, [((), detached (.coord (drainNode ctx nodeId)))])
    | .watchdog ticks => some (w, [((), detached (.coord (Mill.watchdog ticks ∅)))])
    | .commit c =>
      if c.coordinated then none else some ({ w with fsm := (applyCommand w.fsm c).1 }, [])
  track _ t _ _ := t

def NonnegRequest : Machine.Event Choice PrimaryEvent → Prop
  | .outside (.spawnTask request) => request.NonnegCpu
  | _ => True

lemma sound_of_answered {w w' : World} (hw : w.fsm.NonnegCpu) {e : TaskEffect} {r : e.Answer}
    (h : World.TaskAnswered w e r w') : e.Sound r := by
  cases h with
  | taskDef template =>
    intro d hd
    obtain ⟨config, hconfig, hlookup⟩ := Option.bind_eq_some_iff.mp hd
    exact (hw.config config hconfig).2 template d hlookup
  | coord e r w' h =>
    cases h with
    | read q =>
      cases q with
      | config => exact hw.config
      | serviceDef name =>
        intro d hd
        obtain ⟨config, hconfig, hlookup⟩ := Option.bind_eq_some_iff.mp hd
        exact (hw.config config hconfig).1 name d hlookup
      | _ => trivial
    | visitServices m order horder => exact horder
    | _ => trivial
  | _ => trivial

lemma nonnegCpu_of_answered {w w' : World} (hw : w.fsm.NonnegCpu) {e : TaskEffect}
    {r : e.Answer} (he : e.NonnegCpu) (h : World.TaskAnswered w e r w') : w'.fsm.NonnegCpu := by
  cases h with
  | coord e r w' h =>
    cases h with
    | applied => exact hw.apply he
    | _ => exact hw
  | _ => exact hw

structure CpuSafe (s : Primary) : Prop where
  world : s.world.fsm.NonnegCpu
  tasks : ∀ tp ∈ s.tasks, tp.2.wp cpuSpec (fun _ _ => True) ()

variable {p : Parsers} {ctx : DeployCtx} {s s' : Primary}

lemma wp_detached {α : Type} {q : TaskAction α} (hq : q.wp cpuSpec Anyhow ()) :
    (detached q).wp cpuSpec (fun _ _ => True) () :=
  wp_bind (wp_attempt (wp_mono hq fun _ _ _ => trivial))

lemma wp_starts {e : TaskEffect} (he : e.NonnegCpu) :
    ∀ tp ∈ (primary p ctx).starts e, tp.2.wp cpuSpec (fun _ _ => True) () := by
  intro tp htp
  simp only [primary] at htp
  split at htp
  · rw [List.mem_singleton.mp htp]
    exact wp_detached (wp_lift (wp_restartReplica_cpu he))
  · rw [List.mem_singleton.mp htp]
    exact wp_detached (wp_killTimer_cpu _ _)
  · cases htp

lemma CpuSafe.spawn (hs : CpuSafe s) {w : World} (hw : w.fsm.NonnegCpu)
    {new : List (Unit × Program TaskEffect TaskEffect.Answer Empty Unit)}
    (hnew : ∀ tp ∈ new, tp.2.wp cpuSpec (fun _ _ => True) ()) : CpuSafe ⟨w, s.tasks ++ new⟩ := by
  refine ⟨hw, fun tp htp => ?_⟩
  rcases List.mem_append.mp htp with htp | htp
  · exact hs.tasks tp htp
  · exact hnew tp htp

lemma CpuSafe.act (hs : CpuSafe s) {i : Nat} {c : Choice}
    (h : (primary p ctx).step s (.act i c) = some s') : CpuSafe s' := by
  obtain ⟨t, e, next, r, w, htask, hans, rfl⟩ := Machine.step_act_eq_some.mp h
  have hanswered := World.taskAnswered_of_answerTask hans
  obtain ⟨hpre, hnext⟩ := hs.tasks _ (List.mem_of_getElem? htask)
  have hset : CpuSafe ⟨w, s.tasks.set i ((primary p ctx).track w t e r, next r)⟩ := by
    refine ⟨nonnegCpu_of_answered hs.world hpre hanswered, fun tp htp => ?_⟩
    rcases List.mem_or_eq_of_mem_set htp with htp | rfl
    · exact hs.tasks tp htp
    · exact hnext r () (sound_of_answered hs.world hanswered)
  exact hset.spawn hset.world (wp_starts hpre)

lemma CpuSafe.outside (hs : CpuSafe s) {v : PrimaryEvent} (hv : NonnegRequest (.outside v))
    (h : (primary p ctx).step s (.outside v) = some s') : CpuSafe s' := by
  obtain ⟨w, new, hout, rfl⟩ := Machine.step_outside_eq_some.mp h
  have hone {q : Program TaskEffect TaskEffect.Answer Empty Unit}
      (hq : q.wp cpuSpec (fun _ _ => True) ()) : ∀ tp ∈ [((), q)],
        tp.2.wp cpuSpec (fun _ _ => True) () := by
    intro tp htp
    rw [List.mem_singleton.mp htp]
    exact hq
  cases v with
  | deploy raw o ho =>
    simp only [primary] at hout
    cases hresolve : resolve p o raw with
    | error =>
      rw [hresolve] at hout
      cases hout
    | ok config =>
      rw [hresolve] at hout
      cases hout
      obtain ⟨hservices, htasks⟩ := cpu_pos_of_resolve ho hresolve
      have hconfig : config.NonnegCpu :=
        ⟨fun name d hd => (hservices name d hd).le, fun name d hd => (htasks name d hd).le⟩
      exact hs.spawn hs.world (hone (wp_detached (wp_lift (wp_runDeploy_cpu hconfig))))
  | spawnTask =>
    cases hout
    exact hs.spawn hs.world (hone (wp_detached (wp_spawnTask_cpu p hv)))
  | restart serviceName =>
    cases hout
    exact hs.spawn hs.world (hone (wp_detached (wp_lift (wp_runRestart_cpu serviceName))))
  | drain nodeId =>
    cases hout
    exact hs.spawn hs.world (hone (wp_detached (wp_lift (wp_drainNode_cpu nodeId))))
  | watchdog ticks =>
    cases hout
    exact hs.spawn hs.world (hone (wp_detached (wp_lift (wp_watchdog_cpu ticks ∅))))
  | commit c =>
    simp only [primary] at hout
    split_ifs at hout with hc
    cases hout
    refine hs.spawn (hs.world.apply ?_) (by simp)
    cases c with
    | deploy => exact absurd rfl hc
    | allocScheduled => exact absurd rfl hc
    | _ => trivial

/-- From an empty cluster, as long as no request asks for a task with a negative number of cpus, no
node ever has more available than it has. -/
theorem available_within_total (p : Parsers) (ctx : DeployCtx) {w : World}
    (hw : w.fsm = default) {events : List (Machine.Event Choice PrimaryEvent)} {s : Primary}
    (hrequests : ∀ e ∈ events, NonnegRequest e)
    (hrun : run (primary p ctx).step ⟨w, []⟩ events = some s) :
    s.world.fsm.AvailableWithinTotal := by
  have hempty : w.fsm.NonnegCpu := by
    rw [hw]
    refine ⟨fun config h => ?_, fun i a h => ?_⟩
    · cases h
    · cases h
  have hstart : CpuSafe ⟨w, []⟩ := ⟨hempty, fun tp h => absurd h List.not_mem_nil⟩
  have hsafe : CpuSafe s := by
    refine run_invariant (P := fun _ e => NonnegRequest e) ?_ hstart
      (guarded_of_forall _ fun e he _ => hrequests e he) hrun
    intro s e s' hs he hstep
    cases e with
    | act => exact hs.act hstep
    | outside => exact hs.outside he hstep
  exact hsafe.world.available

def cpuNode : FsmNode :=
  ⟨1, ⟨"n"⟩, ⟨.v4 1, 4400⟩, ⟨4, 4, 4096, 4096⟩, .ready, none, none, none, none⟩

def cpuParsers : Parsers := ⟨fun _ => .ok 1024, fun _ => .ok 0⟩

def cpuEvents (cpu : ℚ) : List (Machine.Event Choice PrimaryEvent) :=
  [.outside (.commit (.nodeRegister 1 ⟨"n"⟩ ⟨.v4 1, 4400⟩ ⟨4, 4, 4096, 4096⟩ none none none none)),
    .outside (.spawnTask ⟨none, some "job:1", cpu, "1Ki", ∅, none⟩), .act 0 (.text "a"),
    .act 0 (.text "b"), .act 0 (.order [cpuNode] [] []), .act 0 (.order [cpuNode] [] []),
    .act 0 .proceed]

def cpuRun (cpu : ℚ) : Option Primary :=
  run (primary cpuParsers demoCtx).step ⟨⟨default, [], [], 0⟩, []⟩ (cpuEvents cpu)

theorem available_within_total_one : ∃ s, cpuRun 1 = some s ∧
    s.world.fsm.nodeAvailableResources 1 = some ⟨4, 3, 4096, 3072⟩ ∧
    s.world.fsm.AvailableWithinTotal := by
  refine exists_end_and (by decide +kernel) fun s hrun _ => ?_
  have hrequests : ∀ e ∈ cpuEvents 1, NonnegRequest e := by
    simp [cpuEvents, NonnegRequest, SpawnTaskRequest.NonnegCpu]
  exact available_within_total cpuParsers demoCtx rfl hrequests hrun

/-- A task with a negative number of cpus leaves its node with more than it has. -/
theorem negative_cpu_exceeds_total : ∃ s, cpuRun (-1) = some s ∧
    s.world.fsm.nodeAvailableResources 1 = some ⟨4, 5, 4096, 3072⟩ ∧
    ¬ s.world.fsm.AvailableWithinTotal := by
  refine exists_end_and (by decide +kernel) fun s _ hobs h => ?_
  have hgt : ¬ (5 : ℚ) ≤ 4 := by decide
  exact hgt (h 1 _ hobs)

end Mill
