import Mill.Node.Maintenance

/-! Which effects the coordinators may perform, whatever they are answered. -/

namespace Mill

open Mill.Action Program

inductive RunEffect (d : ServiceDef) (allocId : AllocId) (node : NodeId) : Effect → Prop
  | visitEnv : RunEffect d allocId node (.visitEnv d.env)
  | serviceAddress (service) : RunEffect d allocId node (.read (.serviceAddress service))
  | secret (secretName) : RunEffect d allocId node (.read (.secret secretName))
  | run (env) : RunEffect d allocId node
      (.send node (.run allocId ((Work.service d).containerSpec allocId env) none))
  | waitForStatus : RunEffect d allocId node (.waitForStatus allocId)
  | pollForAddress : RunEffect d allocId node (.pollForAddress allocId)
  | waitHealthy (address) : RunEffect d allocId node (.waitHealthy address d.health)
  | status (status) : RunEffect d allocId node (.propose (.allocStatus allocId status))

inductive StartEffect (name : String) (d : ServiceDef) (allocId : AllocId) : Effect → Prop
  | place : StartEffect name d allocId (.read (.place name d))
  | raftIdFor (millId) : StartEffect name d allocId (.read (.raftIdFor millId))
  | schedule (raftId) : StartEffect name d allocId
      (.propose (.allocScheduled allocId raftId name .service none (.ofResources d.resources)))
  | running (node e) (he : RunEffect d allocId node e) : StartEffect name d allocId e

inductive VolumeEffect (vol : String) : Effect → Prop
  | state : VolumeEffect vol (.read (.volumeState vol))
  | millIdAt (raftId) : VolumeEffect vol (.read (.millIdAt raftId))
  | instanceIdFor (raftId) : VolumeEffect vol (.read (.instanceIdFor raftId))
  | create (size) : VolumeEffect vol (.create vol size)
  | created (cloudId) : VolumeEffect vol (.propose (.volumeCreated vol cloudId))
  | detach : VolumeEffect vol (.detach vol)
  | detached : VolumeEffect vol (.propose (.volumeDetached vol))
  | attach (instanceId) : VolumeEffect vol (.attach vol instanceId)
  | attached (raftId) : VolumeEffect vol (.propose (.volumeAttached vol raftId))

def ServiceDef.persistent (d : ServiceDef) : List String :=
  (d.volumes.filter fun v => !v.ephemeral).map VolumeDef.name

inductive ReplicaEffect (name : String) (d : ServiceDef) : Effect → Prop
  | serviceAllocs : ReplicaEffect name d (.read (.serviceAllocs name))
  | allocNode (allocId) : ReplicaEffect name d (.read (.allocNode allocId))
  | randSuffix : ReplicaEffect name d .randSuffix
  | stop (node allocId) : ReplicaEffect name d (.send node (.stop allocId))
  | start (allocId e) (he : StartEffect name d allocId e) : ReplicaEffect name d e

inductive ServiceEffect (name : String) (d : ServiceDef) : Effect → Prop
  | firstReady : ServiceEffect name d (.read .firstReady)
  | volume (vol) (h : vol ∈ d.persistent) (e) (he : VolumeEffect vol e) : ServiceEffect name d e
  | replica (e) (he : ReplicaEffect name d e) : ServiceEffect name d e

lemma mem_newOrder_of_mem_plan {old : Option ClusterConfig} {new : ClusterConfig}
    {newOrder oldOrder : List (Σ _ : String, ServiceDef)} {e : String × ServiceDef}
    (he : e ∈ (diffConfig old new newOrder oldOrder).added ++
      (diffConfig old new newOrder oldOrder).changed) : ⟨e.1, e.2⟩ ∈ newOrder := by
  rcases List.mem_append.mp he with hmem | hmem
  all_goals
    obtain ⟨s, hs, rfl⟩ := List.mem_map.mp hmem
    exact (List.mem_filter.mp hs).1

variable {P : Effect → Prop} {F : DeployError → Prop}

lemma only_act {e : Effect} (he : P e) : (act e).Only P F := Only.effect he

lemma only_read {q : Query} (hq : P (.read q)) : (read q).Only P F := Only.effect hq

lemma only_ofExcept {α ε : Type} {wrap : ε → DeployError} (hF : ∀ e, F (wrap e))
    (r : Except ε α) : (ofExcept wrap r).Only P F := by
  cases r with
  | ok => trivial
  | error e => exact hF e

lemma only_propose {c : Command} (hc : P (.propose c)) (hF : ∀ m, F (.node (.raft m))) :
    (propose c).Only P F := by
  refine Only.bind (only_act hc) fun r => ?_
  cases r with
  | ok => trivial
  | error message => exact hF message

lemma only_send {node : NodeId} {cmd : NodeCommand} (hs : P (.send node cmd))
    (hF : ∀ e, F (.node e)) : (send node cmd).Only P F := by
  refine Only.bind (only_act hs) fun r => ?_
  cases r with
  | ok => trivial
  | error e => exact hF e

lemma wp_propose {Φ : Type} {S : Spec Effect Effect.Answer Φ} {φ : Φ} {c : Command}
    {Q : Except DeployError Response → Φ → Prop} (hpre : S.pre φ (.propose c))
    (hok : ∀ response φ', S.post φ (.propose c) (.ok response) φ' → Q (.ok response) φ')
    (herror : ∀ message φ', S.post φ (.propose c) (.error message) φ' →
      Q (.error (.node (.raft message))) φ') : (propose c).wp S Q φ := by
  refine wp_bind (wp_effect hpre fun r φ' hr => ?_)
  cases r with
  | ok response => exact hok response φ' hr
  | error message => exact herror message φ' hr

section

variable {name : String} {d : ServiceDef} {allocId : AllocId}

/-- A secret is read: it is there, can be decrypted and is text, or the call fails. -/
lemma wp_readSecret {Φ : Type} {S : Spec Effect Effect.Answer Φ} {φ : Φ} {ctx : DeployCtx}
    {secretName : String} {Q : Except DeployError String → Φ → Prop}
    (hpre : S.pre φ (.read (.secret secretName)))
    (h : ∀ secret φ', S.post φ (.read (.secret secretName)) secret φ' →
      (∀ s plaintext value, secret = some s →
        ctx.decryptSecret s.encryptedValue s.nonce = .ok plaintext →
        ctx.fromUtf8 plaintext = .ok value → Q (.ok value) φ') ∧
      ∀ x, (¬ ∃ s plaintext value, secret = some s ∧
        ctx.decryptSecret s.encryptedValue s.nonce = .ok plaintext ∧
        ctx.fromUtf8 plaintext = .ok value) → Q (.error x) φ') :
    (resolveEnvPart ctx (.secret secretName)).wp S Q φ := by
  refine wp_bind (wp_effect hpre fun secret φ' hpost => ?_)
  obtain ⟨hok, hfail⟩ := h secret φ' hpost
  cases secret with
  | none => exact hfail _ fun ⟨_, _, _, hsome, _⟩ => nomatch hsome
  | some s =>
    refine wp_bind ?_
    cases hdecrypt : ctx.decryptSecret s.encryptedValue s.nonce with
    | error =>
      refine hfail _ ?_
      rintro ⟨_, _, _, hsome, hplain, -⟩
      cases hsome
      cases hdecrypt.symm.trans hplain
    | ok plaintext =>
      dsimp only [Action.ofExcept, Pure.pure, wp]
      cases hvalue : ctx.fromUtf8 plaintext with
      | ok value => exact hok s plaintext value rfl hdecrypt hvalue
      | error =>
        refine hfail _ ?_
        rintro ⟨_, _, _, hsome, hplain, htext⟩
        cases hsome
        cases hdecrypt.symm.trans hplain
        cases hvalue.symm.trans htext

lemma only_resolveEnv (ctx : DeployCtx) {env : Finmap fun _ : String => EnvValue}
    (hvisit : P (.visitEnv env)) (haddress : ∀ service, P (.read (.serviceAddress service)))
    (hsecret : ∀ secretName, P (.read (.secret secretName))) :
    (resolveEnv ctx env).Only P fun _ => True := by
  have hpart : ∀ part, (resolveEnvPart ctx part).Only P fun _ => True := by
    intro part
    cases part with
    | literal => trivial
    | serviceAddress service =>
      refine Only.bind (only_read (haddress service)) fun address => ?_
      cases address <;> trivial
    | secret secretName =>
      refine Only.bind (only_read (hsecret secretName)) fun secret => ?_
      cases secret with
      | none => trivial
      | some =>
        refine Only.bind (only_ofExcept (fun _ => trivial) _) fun plaintext => ?_
        split <;> trivial
  refine Only.bind (only_act hvisit) fun order => Only.foldEach (fun acc e _ => ?_) ∅
  refine Only.bind ?_ fun value => trivial
  cases e.2 with
  | literal => trivial
  | interpolated =>
    refine Only.foldEach (fun acc part _ => ?_) ""
    exact Only.bind (hpart part) fun text => trivial

lemma only_runScheduledAlloc (ctx : DeployCtx) (nodeId : NodeId) :
    (runScheduledAlloc ctx name d allocId nodeId).Only (RunEffect d allocId nodeId)
      fun _ => True := by
  refine Only.bind (only_resolveEnv ctx .visitEnv .serviceAddress .secret) fun env => ?_
  refine Only.bind (only_send (.run env) fun _ => trivial) fun _ => ?_
  refine Only.bind (only_act .waitForStatus) fun status => ?_
  refine Only.bind (only_ofExcept (fun _ => trivial) status) fun _ => ?_
  refine Only.bind (only_act .pollForAddress) fun address => ?_
  cases address with
  | none => trivial
  | some address =>
    refine Only.bind (only_act (.waitHealthy address)) fun healthy => ?_
    cases healthy with
    | false => trivial
    | true =>
      exact Only.bind (only_propose (.status .healthy) fun _ => trivial) fun _ => trivial

lemma only_afterSchedule (ctx : DeployCtx) (nodeId : NodeId) :
    ((runScheduledAlloc ctx name d allocId nodeId).attempt >>= fun
      | .ok () => pure ()
      | .error e => do
        let _ ← act (.propose (.allocStatus allocId (.failed e.toString)))
        .fail e : Action Unit).Only (RunEffect d allocId nodeId) fun _ => True := by
  refine Only.bind (only_runScheduledAlloc ctx nodeId).attempt fun result => ?_
  cases result with
  | ok => trivial
  | error e => exact Only.bind (only_act (.status (.failed e.toString))) fun _ => trivial

lemma only_startAlloc (ctx : DeployCtx) (replica : Nat) :
    (startAlloc ctx name d allocId replica).Only (StartEffect name d allocId) fun _ => True := by
  refine Only.bind (only_read .place) fun nodeId => ?_
  cases nodeId with
  | none => trivial
  | some nodeId =>
    refine Only.bind (only_read (.raftIdFor nodeId)) fun raftId => ?_
    cases raftId with
    | none => trivial
    | some raftId =>
      refine Only.bind (only_propose (.schedule raftId) fun _ => trivial) fun _ => ?_
      exact (only_afterSchedule ctx nodeId).mono (fun e he => .running nodeId e he) fun _ h => h

end

lemma only_attachVolume (ctx : DeployCtx) (vol : String) (raftNodeId : Nat) :
    (attachVolume ctx vol raftNodeId).Only (VolumeEffect vol) fun _ => True := by
  refine Only.bind ?_ fun _ =>
    Only.bind (only_propose (.attached raftNodeId) fun _ => trivial) fun _ => trivial
  unfold attachCloud
  split_ifs
  · refine Only.bind (only_read (.instanceIdFor raftNodeId)) fun instanceId => ?_
    cases instanceId with
    | none => trivial
    | some instanceId =>
      exact Only.bind (only_act (.attach instanceId)) fun r =>
        only_ofExcept (fun _ => trivial) r
  · trivial

lemma only_detachCloud (ctx : DeployCtx) {vol : String} (h : P (.detach vol)) :
    (detachCloud ctx vol).Only P fun _ => True := by
  unfold detachCloud
  split_ifs
  · exact Only.bind (only_act h) fun r => only_ofExcept (fun _ => trivial) r
  · trivial

lemma only_createVolumeIfNeeded (ctx : DeployCtx) (raftNodeId : Nat) {vol : VolumeDef}
    (hvol : vol.ephemeral = false) :
    (createVolumeIfNeeded ctx raftNodeId vol).Only (VolumeEffect vol.name) fun _ => True := by
  have hattach := only_attachVolume ctx vol.name raftNodeId
  unfold createVolumeIfNeeded
  rw [if_neg (by simp [hvol])]
  refine Only.bind (only_read .state) fun state => ?_
  refine Only.bind (only_read (.millIdAt raftNodeId)) fun target => ?_
  rcases state with _ | ⟨_ | node⟩
  · dsimp only
    split_ifs
    · refine Only.bind (only_act (.create _)) fun created => ?_
      refine Only.bind (only_ofExcept (fun _ => trivial) created) fun cloudId => ?_
      exact Only.bind (only_propose (.created cloudId) fun _ => trivial) fun _ => hattach
    · trivial
  · exact hattach
  · dsimp only
    split_ifs
    · trivial
    · refine Only.bind ?_ fun _ =>
        Only.bind (only_propose .detached fun _ => trivial) fun _ => hattach
      exact only_detachCloud ctx .detach

lemma only_createVolumesIfNeeded (ctx : DeployCtx) {d : ServiceDef} (raftNodeId : Nat)
    (h : ∀ vol ∈ d.persistent, ∀ e, VolumeEffect vol e → P e) :
    (createVolumesIfNeeded ctx d raftNodeId).Only P fun _ => True := by
  refine Only.foldEach (fun _ vol hvol => ?_) ()
  cases hephemeral : vol.ephemeral with
  | true =>
    unfold createVolumeIfNeeded
    rw [if_pos hephemeral]
    trivial
  | false =>
    have hmem : vol.name ∈ d.persistent :=
      List.mem_map.mpr ⟨vol, List.mem_filter.mpr ⟨hvol, by simp [hephemeral]⟩, rfl⟩
    exact (only_createVolumeIfNeeded ctx raftNodeId hephemeral).mono (h vol.name hmem) fun _ h => h

section

variable {name : String} {d : ServiceDef}

lemma only_startAlloc_replica (ctx : DeployCtx) (allocId : AllocId) (replica : Nat) :
    (startAlloc ctx name d allocId replica).Only (ReplicaEffect name d) fun _ => True :=
  (only_startAlloc ctx replica).mono (fun e he => .start allocId e he) fun _ h => h

lemma only_stopService (name : String) :
    (stopService name).Only (fun e => e = .read (.serviceAllocs name) ∨
      ∃ node allocId, e = .send node (.stop allocId)) fun x => ∃ e, x = .node e := by
  refine Only.bind (only_read (.inl rfl)) fun allocs => Only.foldEach (fun _ a _ => ?_) ()
  exact only_send (.inr ⟨a.2, a.1, rfl⟩) fun e => ⟨e, rfl⟩

lemma only_deployService (ctx : DeployCtx) :
    (deployService ctx name d).Only (ServiceEffect name d) fun _ => True := by
  refine Only.bind (only_read .firstReady) fun raftNodeId => ?_
  cases raftNodeId with
  | none => trivial
  | some raftNodeId =>
    refine Only.bind (only_createVolumesIfNeeded ctx raftNodeId .volume) fun _ => ?_
    refine Only.foldEach (fun _ replica _ => ?_) ()
    exact (only_startAlloc_replica ctx _ replica).mono (fun e he => .replica e he) fun _ h => h

lemma only_stopQuietly {allocs : List (AllocId × NodeId)}
    (h : ∀ a ∈ allocs, P (.send a.2 (.stop a.1))) : (stopQuietly allocs).Only P F := by
  refine Only.foldEach (fun _ a ha => ?_) ()
  exact Only.bind (only_act (h a ha)) fun _ => trivial

lemma only_startReplica (ctx : DeployCtx) (newAllocs : List (AllocId × NodeId)) (replica : Nat) :
    (startReplica ctx name d newAllocs replica).Only (ReplicaEffect name d) fun _ => True := by
  refine Only.bind (Only.bind (only_act .randSuffix) fun suffix => trivial) fun allocId => ?_
  refine Only.bind (only_startAlloc_replica ctx allocId replica).attempt fun result => ?_
  cases result with
  | ok =>
    refine Only.bind (only_read (.allocNode allocId)) fun nodeId => ?_
    cases nodeId <;> trivial
  | error => exact Only.bind (only_stopQuietly fun a _ => .stop a.2 a.1) fun _ => trivial

lemma only_replaceAllocs (ctx : DeployCtx) : (do
    let oldAllocs ← read (.serviceAllocs name)
    let _ ← Program.foldEach (startReplica ctx name d) (List.range d.replicas) []
    match ← Program.foldEach stopOld oldAllocs none with
    | some e => .fail (.node e)
    | none => pure () : Action Unit).Only (ReplicaEffect name d) fun _ => True := by
  refine Only.bind (only_read .serviceAllocs) fun oldAllocs => ?_
  refine Only.bind (Only.foldEach (fun new replica _ => only_startReplica ctx new replica) [])
    fun _ => ?_
  refine Only.bind (Only.foldEach (fun stopErr a _ => ?_) none) fun stopErr => ?_
  · refine Only.bind (only_act (.stop a.2 a.1)) fun r => ?_
    cases r <;> trivial
  · cases stopErr <;> trivial

lemma only_rollingUpdate (ctx : DeployCtx) :
    (rollingUpdate ctx name d).Only (ServiceEffect name d) fun _ => True := by
  refine Only.bind (only_read .firstReady) fun raftNodeId => ?_
  cases raftNodeId with
  | none => trivial
  | some raftNodeId =>
    refine Only.bind (only_createVolumesIfNeeded ctx raftNodeId .volume) fun _ => ?_
    exact (only_replaceAllocs ctx).mono (fun e he => .replica e he) fun _ h => h

lemma only_applyPlan (ctx : DeployCtx) {plan : DeployPlan}
    (hlist : ∀ name ∈ plan.removed, P (.read (.serviceAllocs name)))
    (hstop : ∀ node allocId, P (.send node (.stop allocId)))
    (hservice : ∀ s ∈ plan.added ++ plan.changed, ∀ e, ServiceEffect s.1 s.2 e → P e) :
    (applyPlan ctx plan).Only P fun x => ∃ e, x = .node e := by
  have hrollout {deployOne : String → ServiceDef → Action Unit}
      (hone : ∀ name d, (deployOne name d).Only (ServiceEffect name d) fun _ => True)
      (failed : Bool) (s : String × ServiceDef) (hs : s ∈ plan.added ++ plan.changed) :
      (rollout deployOne failed s).Only P fun x => ∃ e, x = .node e := by
    refine Only.bind ((hone s.1 s.2).mono (hservice s hs) fun _ h => h).attempt fun result => ?_
    cases result <;> trivial
  refine Only.bind (Only.foldEach (fun _ name hname => ?_) ()) fun _ => ?_
  · refine (only_stopService name).mono ?_ fun _ h => h
    rintro e (rfl | ⟨node, allocId, rfl⟩)
    · exact hlist name hname
    · exact hstop node allocId
  · refine Only.bind (Only.foldEach (fun failed s hs => ?_) false) fun failed => ?_
    · exact hrollout (fun name d => only_deployService ctx) failed s (List.mem_append_left _ hs)
    · refine Only.foldEach (fun failed s hs => ?_) failed
      exact hrollout (fun name d => only_rollingUpdate ctx) failed s (List.mem_append_right _ hs)

end

lemma only_drainVolume (ctx : DeployCtx) {vol : String} (hdetach : P (.detach vol))
    (hdetached : P (.propose (.volumeDetached vol))) : (drainVolume ctx vol).Only P F :=
  Only.bind (only_detachCloud ctx hdetach).attempt fun _ =>
    Only.bind (only_act hdetached) fun _ => trivial

inductive PreDeployEffect : Effect → Prop
  | visitServices (services) : PreDeployEffect (.visitServices services)
  | secretNames : PreDeployEffect (.read .secretNames)
  | readyResources : PreDeployEffect (.read .readyResources)
  | pull (image) : PreDeployEffect (.broadcast (.pull image none))

lemma wp_validate {Φ : Type} {S : Spec Effect Effect.Answer Φ} {φ : Φ}
    {r : Except DeployError Unit} {Q : Except DeployError Unit → Φ → Prop}
    (hr : ∀ x, r = .error x → ∃ m, x = .validationFailed m) (hdone : Q (.ok ()) φ)
    (hfail : ∀ m, Q (.error (.validationFailed m)) φ) : (ofExcept id r).wp S Q φ := by
  cases r with
  | ok => exact hdone
  | error x =>
    obtain ⟨m, rfl⟩ := hr x rfl
    exact hfail m

lemma validationFailed_of_validateSecretRefs {config : ClusterConfig} {known : Finset String}
    {x : DeployError} (h : validateSecretRefs config known = .error x) :
    ∃ m, x = .validationFailed m := by
  simp only [validateSecretRefs] at h
  split_ifs at h
  cases h
  exact ⟨_, rfl⟩

lemma validationFailed_of_validateResourceCapacity {config : ClusterConfig}
    {nodes : List NodeResources} {x : DeployError}
    (h : validateResourceCapacity config nodes = .error x) : ∃ m, x = .validationFailed m := by
  simp only [validateResourceCapacity] at h
  split_ifs at h
  all_goals
    cases h
    exact ⟨_, rfl⟩

lemma wp_preDeploy_of {Φ : Type} {S : Spec Effect Effect.Answer Φ} {φ : Φ} (new : ClusterConfig)
    (R : Option ClusterConfig → Φ → Prop)
    (V : (Finmap fun _ : String => ServiceDef) → List (Σ _ : String, ServiceDef) → Prop)
    (hread : S.pre φ (.read .config) ∧ ∀ old φ', S.post φ (.read .config) old φ' → R old φ')
    (hkeep : ∀ old e φ, PreDeployEffect e → R old φ →
      S.pre φ e ∧ ∀ r φ', S.post φ e r φ' → R old φ')
    (hvisit : ∀ services order φ φ', S.post φ (.visitServices services) order φ' →
      V services order) :
    (preDeploy new).wp S (fun o φ => ∃ old, R old φ ∧ match o with
      | .ok a => ∃ newOrder oldOrder, a = (old, diffConfig old new newOrder oldOrder) ∧
          V new.services newOrder ∧ V ((old.map ClusterConfig.services).getD ∅) oldOrder
      | .error x => ∃ m, x = .validationFailed m) φ := by
  refine wp_bind (wp_effect hread.1 fun old φ₁ h₁ => ?_)
  have hact {e : Effect} (he : PreDeployEffect e) {φ : Φ} (hφ : R old φ)
      {Q : Except DeployError e.Answer → Φ → Prop}
      (hdone : ∀ r φ', S.post φ e r φ' → R old φ' → Q (.ok r) φ') : (act e).wp S Q φ := by
    obtain ⟨hpre, hpost⟩ := hkeep old e φ he hφ
    exact wp_effect hpre fun r φ' hr => hdone r φ' hr (hpost r φ' hr)
  refine wp_bind (hact (.visitServices _) (hread.2 old φ₁ h₁) fun newOrder φ₂ hnew h₂ => ?_)
  refine wp_bind (hact (.visitServices _) h₂ fun oldOrder φ₃ hold h₃ => ?_)
  refine wp_bind (hact .secretNames h₃ fun known φ₄ _ h₄ => ?_)
  refine wp_bind (wp_validate (fun _ => validationFailed_of_validateSecretRefs) ?_
    fun m => ⟨old, h₄, m, rfl⟩)
  refine wp_bind (hact .readyResources h₄ fun capacities φ₅ _ h₅ => ?_)
  refine wp_bind (wp_validate (fun _ => validationFailed_of_validateResourceCapacity) ?_
    fun m => ⟨old, h₅, m, rfl⟩)
  refine wp_bind (wp_foldEach (fun _ _ φ => R old φ) (fun image _ _ φ hφ => ?_)
    (fun _ φ hφ => ?_) h₅)
  · exact wp_bind (hact (.pull image) hφ fun _ _ _ h => h)
  · exact ⟨old, hφ, newOrder, oldOrder, rfl, hvisit _ _ _ _ hnew, hvisit _ _ _ _ hold⟩

end Mill
