import Mill.Lib.Recording
import Mill.Node.DeployEffects
import Mill.Node.Tasks

/-! What a start that fails leaves behind. -/

namespace Mill

open Program Transition

structure StartLog where
  accepted : Option AllocId
  refused : Bool
deriving DecidableEq

def StartLog.note (g : StartLog) : (e : TaskEffect) → e.Answer → StartLog
  | .coord (.propose (.allocScheduled allocId _ _ _ _ _)), .ok .ok => ⟨some allocId, false⟩
  | .coord (.propose _), .error _ => { g with refused := true }
  | _, _ => g

def startLog (record : Record TaskEffect TaskEffect.Answer) : StartLog :=
  noted StartLog.note ⟨none, false⟩ record

inductive StartCall
  | startAlloc (name : String) (d : ServiceDef) (allocId : AllocId) (replica : Nat)
  | spawnTask (request : SpawnTaskRequest)

def StartCall.program (p : Parsers) (ctx : DeployCtx) : StartCall → TaskAction Unit
  | startAlloc name d allocId replica =>
    TaskAction.coord (Mill.startAlloc ctx name d allocId replica)
  | spawnTask request => do
    let _ ← Mill.spawnTask p ctx request
    pure ()

/-- A step of a task goes well: what its environment refers to is there, the command is delivered
and the wait is not ended by its timeout. -/
def GoesWell (ctx : DeployCtx) (w : World) : TaskEffect → Choice → Prop
  | .coord (.read (.serviceAddress service)), _ =>
    ∃ i a, w.fsm.allocs.lookup i = some a ∧ a.name = service ∧ a.address.isSome = true
  | .coord (.read (.secret name)), _ =>
    ∃ secret plaintext value, w.fsm.secrets.lookup name = some secret ∧
      ctx.decryptSecret secret.encryptedValue secret.nonce = .ok plaintext ∧
      ctx.fromUtf8 plaintext = .ok value
  | .coord (.send _ _), c => ∀ e, c ≠ .undelivered e
  | .coord (.waitForStatus _), c => c ≠ .elapsed
  | _, _ => True

/-- Nothing is asked of the last step of `start_alloc`, and of that of `spawn_task` that it goes
well. -/
def StartCall.Unimpeded (ctx : DeployCtx) (w : World) (e : TaskEffect) (c : Choice) :
    StartCall → Prop
  | .startAlloc .. => True
  | .spawnTask _ => GoesWell ctx w e c

section

def Serves (ctx : DeployCtx) : (e : TaskEffect) → e.Answer → Prop
  | .coord (.read (.serviceAddress _)), r => r.isSome = true
  | .coord (.read (.secret _)), r =>
    ∃ secret plaintext value, r = some secret ∧
      ctx.decryptSecret secret.encryptedValue secret.nonce = .ok plaintext ∧
      ctx.fromUtf8 plaintext = .ok value
  | .coord (.send _ _), r => r = .ok ()
  | .coord (.waitForStatus allocId), r => r ≠ .error (.healthCheckTimeout allocId.val)
  | _, _ => True

lemma ne_timeout_of_settled {allocId : AllocId} {status : AllocStatus}
    {r : Except DeployError Unit} (h : World.settled allocId status = some r) :
    r ≠ .error (.healthCheckTimeout allocId.val) := by
  unfold World.settled at h
  split at h
  all_goals
    cases h
    try exact fun hr => by cases hr

lemma isTerminal_of_settled {allocId : AllocId} {status : AllocStatus} {x : DeployError}
    (h : World.settled allocId status = some (.error x)) : status.isTerminal = true := by
  unfold World.settled at h
  split at h
  all_goals
    cases h
    try rfl

lemma serves_of_goesWell {ctx : DeployCtx} {w w' : World} {e : TaskEffect} {c : Choice}
    {r : e.Answer} (hc : GoesWell ctx w e c) (h : w.answerTask e c = some (r, w')) :
    Serves ctx e r := by
  unfold Serves
  split
  · rename_i service r
    obtain ⟨i, a, hi, hname, haddress⟩ := hc
    have hanswered := World.answered_of_answer h
    cases hanswered with
    | read q v =>
      have hmem : a ∈ v.allocs := by
        rw [← Multiset.mem_coe, ← v.allocs_eq]
        exact Finmap.mem_values.mpr ⟨i, hi⟩
      refine List.findSome?_isSome_iff.mpr ⟨a, ?_, haddress⟩
      exact List.mem_filter.mpr ⟨hmem, beq_iff_eq.mpr hname⟩
  · obtain ⟨secret, plaintext, value, hsecret, hdecrypt, hutf8⟩ := hc
    have hanswered := World.answered_of_answer h
    cases hanswered with
    | read => exact ⟨secret, plaintext, value, hsecret, hdecrypt, hutf8⟩
  · have hdelivered : ∀ e, c ≠ .undelivered e := hc
    cases c with
    | proceed =>
      cases h
      rfl
    | undelivered e => exact absurd rfl (hdelivered e)
    | _ => cases h
  · have hwaited : c ≠ .elapsed := hc
    cases c with
    | proceed =>
      obtain ⟨a, ha, h⟩ := Option.bind_eq_some_iff.mp h
      obtain ⟨result, hsettled, h⟩ := Option.bind_eq_some_iff.mp h
      cases h
      exact ne_timeout_of_settled hsettled
    | elapsed => exact absurd rfl hwaited
    | _ => cases h
  · trivial

lemma fsm_eq_of_not_goesWell {ctx : DeployCtx} {w w' : World} {e : TaskEffect} {c : Choice}
    {r : e.Answer} (hc : ¬ GoesWell ctx w e c) (h : w.answerTask e c = some (r, w')) :
    w'.fsm = w.fsm := by
  have hanswered := World.taskAnswered_of_answerTask h
  unfold GoesWell at hc
  split at hc
  all_goals
    first
    | exact absurd trivial hc
    | cases hanswered with
      | coord _ _ _ hans => exact hans.fsm_eq

/-- The log of a start, whether its last effect was served, and the replicated state after it. -/
structure StartSeen where
  log : StartLog
  served : Prop
  fsm : FsmState

def startSpec (ctx : DeployCtx) : Spec TaskEffect TaskEffect.Answer StartSeen where
  pre _ _ := True
  post φ e r φ' := φ'.log = φ.log.note e r ∧ φ'.served = Serves ctx e r ∧
    ∃ w w', World.TaskAnswered w e r w' ∧ φ'.fsm = w'.fsm

def FsmState.Over (s : FsmState) (allocId : AllocId) : Prop :=
  ∀ a, s.allocs.lookup allocId = some a → a.status.isTerminal = true

/-- A start that fails leaves no reservation, if `free` or if its last effect was served. -/
def Released {α : Type} (free : Prop) : Except DeployError α → StartSeen → Prop
  | .ok _, _ => True
  | .error _, φ => ∀ allocId, φ.log.accepted = some allocId → φ.log.refused = false →
      free ∨ φ.served → φ.fsm.Over allocId

variable {α : Type} {ctx : DeployCtx} {free : Prop} {φ : StartSeen} {allocId : AllocId}

lemma released_of_none (h : φ.log.accepted = none) (o : Except DeployError α) :
    Released free o φ := by
  cases o with
  | ok => trivial
  | error =>
    intro i hi
    rw [h] at hi
    cases hi

def Unscheduling (e : TaskEffect) : Prop :=
  ∀ allocId nodeId name kind address resources,
    e ≠ .coord (.propose (.allocScheduled allocId nodeId name kind address resources))

lemma StartLog.accepted_note {e : TaskEffect} (he : Unscheduling e) (g : StartLog)
    (r : e.Answer) : (g.note e r).accepted = g.accepted := by
  unfold note
  split
  · exact absurd rfl (he _ _ _ _ _ _)
  · rfl
  · rfl

lemma wp_unscheduling {p : TaskAction α} {F : DeployError → Prop} (hp : p.Only Unscheduling F) :
    p.wp (startSpec ctx) (fun _ φ' => φ'.log.accepted = φ.log.accepted) φ := by
  refine wp_of_only (I := fun φ' => φ'.log.accepted = φ.log.accepted) hp rfl ?_ (fun _ _ h => h)
    fun _ _ _ h => h
  intro e φ' he hφ'
  refine ⟨trivial, ?_⟩
  rintro r φ'' ⟨hlog, -, -⟩
  rw [hlog, StartLog.accepted_note he, hφ']

abbrev startCoordSpec (ctx : DeployCtx) : Spec Effect Effect.Answer StartSeen :=
  (startSpec ctx).along TaskEffect.coord fun _ answer => answer

lemma wp_unscheduling_coord {p : Action α} {F : DeployError → Prop}
    (hp : p.Only (fun e => Unscheduling (.coord e)) F) :
    p.wp (startCoordSpec ctx) (fun _ φ' => φ'.log.accepted = φ.log.accepted) φ := by
  refine wp_of_only (I := fun φ' => φ'.log.accepted = φ.log.accepted) hp rfl ?_ (fun _ _ h => h)
    fun _ _ _ h => h
  intro e φ' he hφ'
  refine ⟨trivial, ?_⟩
  rintro r φ'' ⟨_, -, hlog, -, -⟩
  rw [hlog, StartLog.accepted_note he, hφ']

lemma RunEffect.unscheduling {d : ServiceDef} {node : NodeId} {e : Effect}
    (he : RunEffect d allocId node e) : Unscheduling (.coord e) := by
  cases he <;> simp [Unscheduling]

lemma over_allocStatus (s : FsmState) (allocId : AllocId) (reason : String) :
    (applyCommand s (.allocStatus allocId (.failed reason))).1.Over allocId := by
  intro a ha
  rw [lookup_allocs_applyCommand, allocAfter, if_pos rfl, Option.map_eq_some_iff] at ha
  obtain ⟨b, -, rfl⟩ := ha
  rfl

lemma accepted_schedule {g : StartLog} (hg : g.accepted = none) {nodeId : Nat} {name : String}
    {kind : AllocKind} {address : Option SocketAddr} {resources : AllocResources}
    (r : Except String Response) :
    let after := g.note (.coord (.propose (.allocScheduled allocId nodeId name kind address
      resources))) r
    after.accepted = none ∨ after.accepted = some allocId := by
  cases r with
  | error => exact .inl hg
  | ok response =>
    cases response with
    | ok => exact .inr rfl
    | error => exact .inl hg

lemma released_of_marked {φ' : StartSeen}
    (hφ : φ.log.accepted = none ∨ φ.log.accepted = some allocId) {x : DeployError} {reason : String}
    {r : Except String Response} {w w' : World}
    (hlog : φ'.log = φ.log.note (.coord (.propose (.allocStatus allocId (.failed reason)))) r)
    (hanswered : World.TaskAnswered w
      (.coord (.propose (.allocStatus allocId (.failed reason)))) r w')
    (hfsm : φ'.fsm = w'.fsm) : Released (α := Unit) free (.error x) φ' := by
  intro i hi hrefused _
  have hsame : φ'.log.accepted = φ.log.accepted := by
    rw [hlog]
    exact StartLog.accepted_note (by simp [Unscheduling]) _ _
  have hid : i = allocId := by
    rw [hsame] at hi
    rcases hφ with hnone | hsome
    · rw [hnone] at hi
      cases hi
    · rw [hsome, Option.some.injEq] at hi
      exact hi.symm
  subst hid
  cases hanswered with
  | coord e r w' h =>
    cases h with
    | applied =>
      rw [hfsm]
      exact over_allocStatus _ _ _
    | refused =>
      rw [hlog] at hrefused
      cases hrefused

lemma wp_startAlloc_released (hφ : φ.log.accepted = none) (name : String) (d : ServiceDef)
    (replica : Nat) :
    (TaskAction.coord (startAlloc ctx name d allocId replica)).wp (startSpec ctx)
      (Released free) φ := by
  apply wp_lift
  refine wp_bind (wp_effect trivial ?_)
  rintro _ φ₁ ⟨nodeId, rfl, hlog, -⟩
  have hnone : φ₁.log.accepted = none := by
    rw [hlog, StartLog.accepted_note (by simp [Unscheduling]), hφ]
  cases nodeId with
  | none => exact released_of_none hnone _
  | some nodeId =>
    refine wp_bind (wp_effect trivial ?_)
    rintro _ φ₂ ⟨raftNodeId, rfl, hlog, -⟩
    have hnone : φ₂.log.accepted = none := by
      rw [hlog, StartLog.accepted_note (by simp [Unscheduling]), hnone]
    cases raftNodeId with
    | none => exact released_of_none hnone _
    | some =>
      refine wp_bind (wp_propose trivial ?_ ?_)
      · rintro response φ₃ ⟨_, rfl, hlog, -⟩
        have haccepted : φ₃.log.accepted = none ∨ φ₃.log.accepted = some allocId := by
          rw [hlog]
          exact accepted_schedule hnone _
        -- whatever comes of the run, its failure is proposed
        have hrun : (runScheduledAlloc ctx name d allocId nodeId).wp (startCoordSpec ctx)
            (fun _ φ' => φ'.log.accepted = φ₃.log.accepted) φ₃ :=
          wp_unscheduling_coord ((only_runScheduledAlloc ctx nodeId).mono
            (fun _ he => he.unscheduling) fun _ h => h)
        refine wp_bind (wp_attempt (wp_mono hrun ?_))
        intro o φ₄ hsame
        cases o with
        | ok => trivial
        | error =>
          refine wp_bind (wp_effect trivial ?_)
          rintro _ φ₅ ⟨r, rfl, hlog, -, w, w', hanswered, hfsm⟩
          rw [← hsame] at haccepted
          exact released_of_marked haccepted hlog hanswered hfsm
      · rintro message φ₃ ⟨_, rfl, hlog, -⟩
        refine released_of_none ?_ _
        rw [hlog]
        exact hnone

variable {a : Option AllocId}

/-- It goes on with the accepted allocation as it was, or fails at an effect that was not served. -/
def Unserved {α : Type} (a : Option AllocId) : Except DeployError α → StartSeen → Prop
  | .ok _, φ => φ.log.accepted = a
  | .error _, φ => ¬ φ.served

lemma wp_resolveEnvPart_served (hφ : φ.log.accepted = a) (part : EnvPart) :
    (resolveEnvPart ctx part).wp (startCoordSpec ctx) (Unserved a) φ := by
  cases part with
  | literal => exact hφ
  | serviceAddress =>
    refine wp_bind (wp_effect trivial ?_)
    rintro _ φ' ⟨address, rfl, hlog, hserved, -⟩
    cases address with
    | none =>
      intro h
      rw [hserved] at h
      cases h
    | some =>
      change φ'.log.accepted = a
      rw [hlog, StartLog.accepted_note (by simp [Unscheduling]), hφ]
  | secret =>
    refine wp_readSecret trivial ?_
    rintro _ φ' ⟨r, rfl, hlog, hserved, -⟩
    refine ⟨fun _ _ _ _ _ _ => ?_, fun _ hnot h => hnot (hserved.mp h)⟩
    change φ'.log.accepted = a
    rw [hlog, StartLog.accepted_note (by simp [Unscheduling]), hφ]

lemma wp_resolveEnv_served (hφ : φ.log.accepted = a) (env : Finmap fun _ : String => EnvValue) :
    (resolveEnv ctx env).wp (startCoordSpec ctx) (Unserved a) φ := by
  refine wp_bind (wp_effect trivial ?_)
  rintro _ φ' ⟨order, rfl, hlog, -⟩
  have hsame : φ'.log.accepted = a := by
    rw [hlog, StartLog.accepted_note (by simp [Unscheduling]), hφ]
  refine wp_foldEach (fun _ _ (φ : StartSeen) => φ.log.accepted = a) ?_ (fun _ _ h => h) hsame
  intro e left acc φ hφ
  have hvalue : (resolveEnvValue ctx e.2).wp (startCoordSpec ctx) (Unserved a) φ := by
    cases e.2 with
    | literal => exact hφ
    | interpolated =>
      refine wp_foldEach (fun _ _ (φ : StartSeen) => φ.log.accepted = a) ?_ (fun _ _ h => h) hφ
      intro part left acc φ hφ
      refine wp_bind (wp_mono (wp_resolveEnvPart_served hφ part) ?_)
      rintro (x | text) φ' h <;> exact h
  refine wp_bind (wp_mono hvalue ?_)
  rintro (x | value) φ' h <;> exact h

lemma only_taskPlan (p : Parsers) (request : SpawnTaskRequest) :
    (taskPlan p request).Only Unscheduling fun _ => True := by
  unfold taskPlan
  split
  · refine .bind (.effect (by simp [Unscheduling])) fun d => ?_
    cases d <;> trivial
  · split
    · trivial
    · exact .bind (.effect (by simp [Unscheduling])) fun _ => trivial
  · trivial

lemma released_of_waited {φ' : StartSeen}
    (hφ : φ.log.accepted = none ∨ φ.log.accepted = some allocId) {x : DeployError} {w w' : World}
    (hlog : φ'.log = φ.log.note (.coord (.waitForStatus allocId)) (.error x))
    (hserved : φ'.served = Serves ctx (.coord (.waitForStatus allocId)) (.error x))
    (hanswered : World.TaskAnswered w (.coord (.waitForStatus allocId)) (.error x) w')
    (hfsm : φ'.fsm = w'.fsm) : Released (α := SpawnTaskResponse) False (.error x) φ' := by
  have hsame : φ'.log.accepted = φ.log.accepted := by
    rw [hlog]
    exact StartLog.accepted_note (by simp [Unscheduling]) _ _
  rw [← hsame] at hφ
  rcases hφ with hnone | hsome
  · exact released_of_none hnone _
  · intro i hi _ hserves b hb
    rw [hserved] at hserves
    rw [hsome, Option.some.injEq] at hi
    subst hi
    rw [hfsm] at hb
    cases hanswered with
    | coord e r w' h =>
      cases h with
      | waited i alloc r halloc hsettled =>
        cases halloc.symm.trans hb
        exact isTerminal_of_settled hsettled
      | waitedInVain => exact absurd rfl (hserves.resolve_left id)

lemma wp_runScheduledTask_released
    (hφ : φ.log.accepted = none ∨ φ.log.accepted = some allocId) (plan : TaskPlan)
    (nodeId : NodeId) :
    (runScheduledTask ctx plan allocId nodeId).wp (startSpec ctx) (Released False) φ := by
  have hstopped {x : DeployError} {φ' : StartSeen} (h : ¬ φ'.served) :
      Released (α := SpawnTaskResponse) False (.error x) φ' :=
    fun _ _ _ hserved => absurd (hserved.resolve_left id) h
  refine wp_bind (wp_mono (wp_lift (wp_resolveEnv_served rfl plan.env)) ?_)
  rintro (x | env) φ₁ hsame
  · exact hstopped hsame
  dsimp only [Unserved] at hsame ⊢
  generalize NodeCommand.run allocId _ none = cmd
  have hsend : (TaskAction.coord (Action.send nodeId cmd)).wp (startSpec ctx)
      (Unserved φ.log.accepted) φ₁ := by
    apply wp_lift
    refine wp_bind (wp_effect trivial ?_)
    rintro _ φ' ⟨r, rfl, hlog, hserved, -⟩
    cases r with
    | error =>
      intro h
      rw [hserved] at h
      cases h
    | ok =>
      change φ'.log.accepted = φ.log.accepted
      rw [hlog, StartLog.accepted_note (by simp [Unscheduling]), hsame]
  refine wp_bind (wp_mono hsend ?_)
  rintro (x | _) φ₂ hsame
  · exact hstopped hsame
  dsimp only [Unserved] at hsame
  refine wp_bind (wp_effect trivial ?_)
  rintro status φ₃ ⟨hlog, hserved, w, w', hanswered, hfsm⟩
  cases status with
  | error =>
    rw [← hsame] at hφ
    exact released_of_waited hφ hlog hserved hanswered hfsm
  | ok =>
    -- nothing fails from here on
    have hrest : (startKillTimer allocId plan.timeout >>= fun _ =>
        TaskAction.act (.allocAddress allocId) >>= fun address =>
          pure ⟨allocId.val, nodeId.val, "running", address.map ctx.showAddress⟩ :
        TaskAction SpawnTaskResponse).Only Unscheduling fun _ => False := by
      refine .bind ?_ fun _ => .bind (.effect (by simp [Unscheduling])) fun _ => trivial
      cases plan.timeout with
      | none => trivial
      | some => exact .effect (by simp [Unscheduling])
    refine wp_of_only (I := fun _ => True) hrest trivial ?_ ?_ ?_
    · exact fun _ _ _ _ => ⟨trivial, fun _ _ _ => trivial⟩
    · exact fun _ _ _ => trivial
    · exact fun _ _ h _ => h.elim

lemma wp_scheduleTask_released (hφ : φ.log.accepted = none) (plan : TaskPlan) :
    (scheduleTask plan allocId).wp (startSpec ctx) (fun o φ' => match o with
        | .ok _ => φ'.log.accepted = none ∨ φ'.log.accepted = some allocId
        | .error _ => φ'.log.accepted = none) φ := by
  refine wp_bind (wp_effect trivial ?_)
  rintro nodeId φ₁ ⟨hlog, -⟩
  have hnone : φ₁.log.accepted = none := by
    rw [hlog, StartLog.accepted_note (by simp [Unscheduling]), hφ]
  cases nodeId with
  | none => exact hnone
  | some =>
    refine wp_bind (wp_effect trivial ?_)
    rintro raftNodeId φ₂ ⟨hlog, -⟩
    have hnone : φ₂.log.accepted = none := by
      rw [hlog, StartLog.accepted_note (by simp [Unscheduling]), hnone]
    cases raftNodeId with
    | none => exact hnone
    | some =>
      refine wp_bind (wp_lift (wp_propose trivial ?_ ?_))
      · rintro response φ₃ ⟨_, rfl, hlog, -⟩
        have haccepted : φ₃.log.accepted = none ∨ φ₃.log.accepted = some allocId := by
          rw [hlog]
          exact accepted_schedule hnone _
        exact haccepted
      · rintro message φ₃ ⟨_, rfl, hlog, -⟩
        have hnone : φ₃.log.accepted = none := by
          rw [hlog]
          exact hnone
        exact hnone

lemma wp_spawnTask_released (hφ : φ.log.accepted = none) (p : Parsers)
    (request : SpawnTaskRequest) :
    (spawnTask p ctx request).wp (startSpec ctx) (Released False) φ := by
  refine wp_bind (wp_mono (wp_unscheduling (only_taskPlan p request)) ?_)
  intro o φ₁ hsame
  rw [hφ] at hsame
  cases o with
  | error => exact released_of_none hsame _
  | ok plan =>
    dsimp only
    cases taskTimeout p request plan.timeout with
    | error => exact released_of_none hsame _
    | ok timeout =>
      have hok : (TaskAction.ofExcept (.ok timeout)).wp (startSpec ctx)
          (Returns fun t φ => t = timeout ∧ φ.log.accepted = none) φ₁ := ⟨rfl, hsame⟩
      refine wp_bind_returns hok ?_
      rintro timeout φ₁ ⟨rfl, hsame⟩
      have hnew : (TaskAction.coord (Action.newAllocId plan.name)).Only Unscheduling
          fun _ => True :=
        .bind (.effect (by simp [Unscheduling])) fun _ => trivial
      refine wp_bind (wp_mono (wp_unscheduling hnew) ?_)
      intro o φ₂ hsame'
      rw [hsame] at hsame'
      cases o with
      | error => exact released_of_none hsame' _
      | ok =>
        refine wp_bind (wp_mono (wp_scheduleTask_released hsame' _) ?_)
        intro o φ₃ haccepted
        cases o with
        | error => exact released_of_none haccepted _
        | ok nodeId => exact wp_runScheduledTask_released haccepted _ nodeId

end

variable {p : Parsers} {ctx : DeployCtx}

def StartCall.free : StartCall → Prop
  | .startAlloc .. => True
  | .spawnTask _ => False

lemma wp_program_released (call : StartCall) (s : FsmState) :
    (call.program p ctx).wp (startSpec ctx) (Released call.free) ⟨⟨none, false⟩, True, s⟩ := by
  cases call with
  | startAlloc name d allocId replica => exact wp_startAlloc_released rfl name d replica
  | spawnTask request =>
    refine wp_bind (wp_mono (wp_spawnTask_released rfl p request) ?_)
    intro o φ h
    cases o with
    | ok => trivial
    | error => exact h

lemma startSpec_post (ctx : DeployCtx) {u u' : World × Record TaskEffect TaskEffect.Answer}
    {φ : StartSeen} (hφ : φ.log = startLog u.2) {e : TaskEffect} {c : Choice} {r : e.Answer}
    (h : recording World.answerTask u e c = some (r, u')) :
    (startSpec ctx).post φ e r ⟨φ.log.note e r, Serves ctx e r, u'.1.fsm⟩ ∧
      φ.log.note e r = startLog u'.2 := by
  obtain ⟨hans, hrecord⟩ := recording_eq_some.mp h
  refine ⟨⟨rfl, rfl, u.1, u'.1, World.taskAnswered_of_answerTask hans, rfl⟩, ?_⟩
  rw [hrecord, startLog, noted_concat, hφ, startLog]

/-- A start that returns with an error at its last effect, after its allocation was accepted and
with no proposal refused since, leaves no reservation exactly if that effect goes well (or the start
is one of a service) or the allocation was over before. -/
theorem failed_start_releases (p : Parsers) (ctx : DeployCtx) (call : StartCall) {w u w' : World}
    {record record' : Record TaskEffect TaskEffect.Answer} {es : List (Choice ⊕ Command)}
    {e : TaskEffect} {next : e.Answer → TaskAction Unit} {c : Choice} {x : DeployError}
    (hrun : run (stepBeside (recording World.answerTask) (offRecord commits))
      ((w, []), call.program p ctx) es = some ((u, record), .perform e next))
    (hlast : stepBeside (recording World.answerTask) (offRecord commits)
      ((u, record), .perform e next) (.inl c) = some ((w', record'), .fail x))
    {allocId : AllocId} (haccepted : (startLog record').accepted = some allocId)
    (hlater : (startLog record').refused = false) :
    w'.fsm.Over allocId ↔ call.Unimpeded ctx u e c ∨ u.fsm.Over allocId := by
  -- what the log says is all that a step of others leaves alone
  have hleft : ∃ φ, φ.log = startLog record ∧
      (Program.perform e next).wp (startSpec ctx) (Released call.free) φ := by
    refine wp_of_run_observed (T := fun u φ => φ.log = startLog u.2) ?_ ?_
      (wp_program_released call w.fsm) rfl (guarded_of_forall _ fun _ _ _ => trivial) hrun
    · intro u φ e next c r u' hφ _ _ hans
      exact ⟨_, startSpec_post ctx hφ hans⟩
    · intro u φ q v u' hφ _ hout
      obtain ⟨w₁, -, rfl⟩ := Option.map_eq_some_iff.mp hout
      exact hφ
  obtain ⟨φ, hφ, hq⟩ := hleft
  obtain ⟨r, hans, hnext⟩ : ∃ r, recording World.answerTask (u, record) e c =
      some (r, (w', record')) ∧ .fail x = next r := by
    obtain ⟨⟨r, w₁⟩, hans, heq⟩ := Option.map_eq_some_iff.mp hlast
    obtain ⟨rfl, hnext⟩ := Prod.mk.inj heq
    exact ⟨r, hans, hnext.symm⟩
  obtain ⟨hpost, hrecord⟩ := startSpec_post ctx hφ hans
  have hend := hq.2 r _ hpost
  rw [← hnext] at hend
  have hreleased : call.free ∨ Serves ctx e r → w'.fsm.Over allocId :=
    hend allocId (by rw [hrecord]; exact haccepted) (by rw [hrecord]; exact hlater)
  have hanswer := (recording_eq_some.mp hans).1
  by_cases hwell : GoesWell ctx u e c
  · have hover := hreleased (.inr (serves_of_goesWell hwell hanswer))
    refine iff_of_true hover (.inl ?_)
    cases call with
    | startAlloc => trivial
    | spawnTask => exact hwell
  · have hsame : w'.fsm = u.fsm := fsm_eq_of_not_goesWell hwell hanswer
    cases call with
    | startAlloc => exact iff_of_true (hreleased (.inl trivial)) (.inl trivial)
    | spawnTask =>
      rw [hsame]
      exact ⟨.inr, fun h => h.resolve_left hwell⟩

def startNode : FsmNode := .demo 1 "n"

def startWorld : World := ⟨⟨none, Finmap.singleton 1 startNode, ∅, ∅, ∅⟩, [], [], 0⟩

def startImage : SpawnTaskRequest := ⟨none, some "job:1", 1, "1Ki", ∅, none⟩

def startParsers : Parsers := ⟨fun _ => .ok 1024, fun _ => .ok 0⟩

def startRun (es : List (Choice ⊕ Command)) :
    Option ((World × Record TaskEffect TaskEffect.Answer) × TaskAction Unit) :=
  run (stepBeside (recording World.answerTask) (offRecord commits))
    ((startWorld, []), (StartCall.spawnTask startImage).program startParsers demoCtx) es

def startSent (c : Choice) : List (Choice ⊕ Command) :=
  [.inl (.text "a"), .inl (.text "b"), .inl (.order [startNode] [] []),
    .inl (.order [startNode] [] []), .inl .proceed, .inl (.env []), .inl c]

def startWaits : TaskAction Unit → Option AllocId
  | .perform (.coord (.waitForStatus allocId)) _ => some allocId
  | _ => none

/-- The container of the task fails while the caller waits for it. -/
theorem failed_start_releases_task : ∃ u record e next w' record' x,
    startRun (startSent .proceed ++ [.inr (.allocStatus ⟨"task-a-b"⟩ (.failed "exit code 1"))]) =
      some ((u, record), .perform e next) ∧
    stepBeside (recording World.answerTask) (offRecord commits) ((u, record), .perform e next)
      (.inl .proceed) = some ((w', record'), .fail x) ∧
    startLog record' = ⟨some ⟨"task-a-b"⟩, false⟩ ∧ w'.fsm.Over ⟨"task-a-b"⟩ := by
  have hobs : (startRun (startSent .proceed ++
      [.inr (.allocStatus ⟨"task-a-b"⟩ (.failed "exit code 1"))])).bind (fun s =>
        (stepBeside (recording World.answerTask) (offRecord commits) s (.inl .proceed)).map
          fun s' => (startWaits s.2, startLog s'.1.2, s'.2.outcome.map Except.isOk)) =
      some (some ⟨"task-a-b"⟩, ⟨some ⟨"task-a-b"⟩, false⟩, some false) := by
    decide +kernel
  obtain ⟨⟨⟨u, record⟩, q⟩, hrun, hobs⟩ := Option.bind_eq_some_iff.mp hobs
  obtain ⟨⟨⟨w', record'⟩, q'⟩, hlast, hobs⟩ := Option.map_eq_some_iff.mp hobs
  simp only [Prod.mk.injEq] at hobs
  obtain ⟨hwaits, hlog, hended⟩ := hobs
  unfold startWaits at hwaits
  split at hwaits
  · rename_i next
    cases q' with
    | done => cases hended
    | perform => cases hended
    | fail x =>
      refine ⟨u, record, _, next, w', record', x, hrun, hlast, hlog, ?_⟩
      exact (failed_start_releases startParsers demoCtx (.spawnTask startImage) hrun hlast
        (by rw [hlog]) (by rw [hlog])).mpr (.inl nofun)
  · cases hwaits

/-- A task whose Run command is lost stays as it was recorded. -/
theorem failed_task_keeps_reservation : ∃ w' record,
    startRun (startSent (.undelivered .channelClosed)) =
      some ((w', record), .fail (.node .channelClosed)) ∧
    startLog record = ⟨some ⟨"task-a-b"⟩, false⟩ ∧ ¬ w'.fsm.Over ⟨"task-a-b"⟩ := by
  have hobs : (startRun (startSent (.undelivered .channelClosed))).map (fun s => (startLog s.1.2,
      (s.1.1.fsm.allocs.lookup ⟨"task-a-b"⟩).map Alloc.status, s.2.outcome)) =
        some (⟨some ⟨"task-a-b"⟩, false⟩, some .pulling, some (.error (.node .channelClosed))) := by
    decide +kernel
  obtain ⟨⟨⟨w', record⟩, q⟩, hrun, hobs⟩ := Option.map_eq_some_iff.mp hobs
  simp only [Prod.mk.injEq] at hobs
  obtain ⟨hlog, hstatus, hended⟩ := hobs
  cases q with
  | done => cases hended
  | perform => cases hended
  | fail =>
    cases hended
    refine ⟨w', record, hrun, hlog, fun hover => ?_⟩
    obtain ⟨a, ha, hpulling⟩ := Option.map_eq_some_iff.mp hstatus
    have hended := hover a ha
    rw [hpulling] at hended
    cases hended

end Mill
