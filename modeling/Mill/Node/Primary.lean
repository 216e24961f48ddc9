import Mill.Lib.Program
import Mill.Node.Placement
import Mill.Node.References

/-! What the coordinators of the primary do to the world: they read the replicated
state, propose commands, send commands to nodes, call the volume driver and wait.
Each of these is one atomic step; everything in between is pure. -/

namespace Mill

inductive NodeError
  | raft (message : String)
  | allocNotFound (allocId : String)
  | serviceNotFound (service : String)
  | notATask (allocId : String)
  | raftRejected (message : String)
  | badRequest (message : String)
  | nodeUnreachable (node : String)
  | channelClosed
  | deployFailed (service reason : String)
deriving DecidableEq

inductive StorageError
  | notFound (name : String)
  | alreadyExists (name : String)
  | attached (name : String)
  | api (message : String)
  | http (message : String)
deriving DecidableEq

inductive DeployError
  | schedulingFailed (service : String) (replica : Nat)
  | healthCheckTimeout (service : String)
  | envResolution (message : String)
  | validationFailed (message : String)
  | node (e : NodeError)
  | storage (e : StorageError)
deriving DecidableEq

def NodeError.toString : NodeError → String
  | raft message => message
  | allocNotFound allocId => s!"allocation not found: {allocId}"
  | serviceNotFound service => s!"service not found: {service}"
  | notATask allocId => s!"allocation {allocId} is not a task"
  | raftRejected message => s!"raft rejected: {message}"
  | badRequest message => s!"bad request: {message}"
  | nodeUnreachable node => s!"node unreachable: {node}"
  | channelClosed => "channel closed"
  | deployFailed service reason => s!"deploy failed for {service}: {reason}"

def StorageError.toString : StorageError → String
  | notFound name => s!"volume not found: {name}"
  | alreadyExists name => s!"volume already exists: {name}"
  | attached name => s!"volume is attached: {name}"
  | api message => s!"api error: {message}"
  | http message => message

def DeployError.toString : DeployError → String
  | schedulingFailed service replica =>
    s!"scheduling failed for {service}, replica {replica}: no nodes available"
  | healthCheckTimeout service => s!"health check timeout for {service}"
  | envResolution message => s!"failed to resolve env var: {message}"
  | validationFailed message => s!"deploy validation failed: {message}"
  | node e => e.toString
  | storage e => e.toString

/-- What a `read_state` closure asks of the replicated state. -/
inductive Query
  | config
  | secretNames
  | readyResources
  | firstReady
  | serviceAllocs (name : String)
  | allocNode (allocId : AllocId)
  | place (name : String) (d : ServiceDef)
  | raftIdFor (millId : NodeId)
  | serviceAddress (service : String)
  | secret (name : String)
  | volumeState (name : String)
  | millIdAt (raftId : Nat)
  | instanceIdFor (raftId : Nat)
  | serviceDef (name : String)
  | attachedVolumes (millId : NodeId)
  | nodeAllocs (raftId : Nat)
  | serviceCounts (name : String)
deriving DecidableEq

@[reducible] def Query.Result : Query → Type
  | config => Option ClusterConfig
  | secretNames => Finset String
  | readyResources => List NodeResources
  | firstReady => Option Nat
  | serviceAllocs _ => List (AllocId × NodeId)
  | allocNode _ => Option NodeId
  | place _ _ => Option NodeId
  | raftIdFor _ => Option Nat
  | serviceAddress _ => Option SocketAddr
  | secret _ => Option EncryptedSecret
  | volumeState _ => Option VolumeState
  | millIdAt _ => Option NodeId
  | instanceIdFor _ => Option String
  | serviceDef _ => Option ServiceDef
  | attachedVolumes _ => List String
  | nodeAllocs _ => List (AllocId × String × AllocKind) × NodeId
  | serviceCounts _ => Nat × Nat

structure View (s : FsmState) where
  nodes : List FsmNode
  allocs : List Alloc
  volumes : List (Σ _ : String, FsmVolume)
  nodes_eq : s.nodes.values = nodes
  allocs_eq : s.allocs.values = allocs
  volumes_eq : s.volumes.entries = volumes

def ServiceDef.request (d : ServiceDef) (name : String) : ScheduleRequest :=
  ⟨d.resources, name, .service, d.volumes.head?.map VolumeDef.name⟩

def Query.eval (s : FsmState) (v : View s) : (q : Query) → q.Result
  | config => s.config
  | secretNames => s.secrets.keys
  | readyResources => (v.nodes.filter fun n => n.status == .ready).map FsmNode.resources
  | firstReady => (v.nodes.find? fun n => n.status == .ready).map FsmNode.raftId
  | serviceAllocs name => (v.allocs.filter fun a => a.name == name).map fun a => (a.id, a.node)
  | allocNode allocId => (s.allocs.lookup allocId).map Alloc.node
  | place name d =>
    schedule (d.request name) v.nodes (v.allocs.map fun a => (a.node, a.name, a.kind))
      (v.volumes.map fun vol => (vol.1, vol.2)) s.nodeAvailableResources
  | raftIdFor millId => FsmState.raftIdFor v.nodes millId
  | serviceAddress service => (v.allocs.filter fun a => a.name == service).findSome? Alloc.address
  | secret name => s.secrets.lookup name
  | volumeState name => (s.volumes.lookup name).map FsmVolume.state
  | millIdAt raftId => s.millIdAt raftId
  | instanceIdFor raftId => (s.nodes.lookup raftId).bind FsmNode.instanceId
  | serviceDef name => s.config.bind fun config => config.services.lookup name
  | attachedVolumes millId =>
    (v.volumes.filter fun vol => vol.2.state == .attached millId).map Sigma.fst
  | nodeAllocs raftId =>
    match s.nodes.lookup raftId with
    | some n =>
      ((v.allocs.filter fun a => a.node == n.millId && !a.status.isTerminal).map
        fun a => (a.id, a.name, a.kind), n.millId)
    | none => ([], ⟨""⟩)
  | serviceCounts name =>
    let allocs := v.allocs.filter fun a => a.name == name
    ((allocs.filter fun a => a.status.isActive).length,
      (allocs.filter fun a => !a.status.isTerminal).length)

inductive Effect
  | read (q : Query)
  | propose (c : Command)
  | send (node : NodeId) (cmd : NodeCommand)
  | broadcast (cmd : NodeCommand)
  | create (name : String) (size : ByteSize)
  | destroy (name : String)
  | attach (name instanceId : String)
  | detach (name : String)
  | waitForStatus (allocId : AllocId)
  | pollForAddress (allocId : AllocId)
  | waitHealthy (address : SocketAddr) (health : Option HealthCheck)
  | randSuffix
  | visitServices (services : Finmap fun _ : String => ServiceDef)
  | visitEnv (env : Finmap fun _ : String => EnvValue)
  | tick
  | spawnRestart (name : String) (d : ServiceDef)
deriving DecidableEq

@[reducible] def Effect.Answer : Effect → Type
  | read q => q.Result
  | propose _ => Except String Response
  | send _ _ => Except NodeError Unit
  | broadcast _ => Unit
  | create _ _ => Except StorageError String
  | destroy _ => Except StorageError Unit
  | attach _ _ => Except StorageError Unit
  | detach _ => Except StorageError Unit
  | waitForStatus _ => Except DeployError Unit
  | pollForAddress _ => Option SocketAddr
  | waitHealthy _ _ => Bool
  | randSuffix => String
  | visitServices _ => List (Σ _ : String, ServiceDef)
  | visitEnv _ => List (Σ _ : String, EnvValue)
  | tick => Nat
  | spawnRestart _ _ => Unit

structure World where
  fsm : FsmState
  sent : List (NodeId × NodeCommand)
  cloud : List (String × String)
  clock : Nat

inductive Choice
  | order (nodes : List FsmNode) (allocs : List Alloc) (volumes : List (Σ _ : String, FsmVolume))
  | proceed
  | elapsed
  | raftError (message : String)
  | undelivered (e : NodeError)
  | cloudError (e : StorageError)
  -- a cloud request that is done, but its answer does not come back
  | lostReply (cloudId : String) (e : StorageError)
  | text (value : String)
  | services (order : List (Σ _ : String, ServiceDef))
  | env (order : List (Σ _ : String, EnvValue))
  | time (now : Nat)

namespace World

/-- The statuses at which `wait_for_status` stops waiting. -/
def settled (allocId : AllocId) : AllocStatus → Option (Except DeployError Unit)
  | .running | .healthy | .stopped _ => some (.ok ())
  | .failed reason => some (.error (.node (.deployFailed allocId.val reason)))
  | .pulling | .starting => none

def answer (w : World) : (e : Effect) → Choice → Option (e.Answer × World)
  | .read q, .order nodes allocs volumes =>
    if h : w.fsm.nodes.values = nodes ∧ w.fsm.allocs.values = allocs ∧
        w.fsm.volumes.entries = volumes then
      some (q.eval w.fsm ⟨nodes, allocs, volumes, h.1, h.2.1, h.2.2⟩, w)
    else none
  | .propose c, .proceed =>
    some (.ok (applyCommand w.fsm c).2, { w with fsm := (applyCommand w.fsm c).1 })
  | .propose _, .raftError message => some (.error message, w)
  | .send node cmd, .proceed => some (.ok (), { w with sent := w.sent ++ [(node, cmd)] })
  | .send _ _, .undelivered e => some (.error e, w)
  | .broadcast _, .proceed => some ((), w)
  | .create name _, .text cloudId =>
    some (.ok cloudId, { w with cloud := w.cloud ++ [(name, cloudId)] })
  | .create _ _, .cloudError e => some (.error e, w)
  | .create name _, .lostReply cloudId e =>
    some (.error e, { w with cloud := w.cloud ++ [(name, cloudId)] })
  | .destroy name, .proceed =>
    some (.ok (), { w with cloud := w.cloud.filter fun vol => vol.1 != name })
  | .destroy _, .cloudError e => some (.error e, w)
  | .destroy name, .lostReply _ e =>
    some (.error e, { w with cloud := w.cloud.filter fun vol => vol.1 != name })
  | .attach _ _, .proceed => some (.ok (), w)
  | .attach _ _, .cloudError e => some (.error e, w)
  | .detach _, .proceed => some (.ok (), w)
  | .detach _, .cloudError e => some (.error e, w)
  | .waitForStatus allocId, .proceed => do
    let alloc ← w.fsm.allocs.lookup allocId
    let result ← settled allocId alloc.status
    some (result, w)
  | .waitForStatus allocId, .elapsed => some (.error (.healthCheckTimeout allocId.val), w)
  | .pollForAddress allocId, .proceed => do
    let alloc ← w.fsm.allocs.lookup allocId
    let address ← alloc.address
    some (some address, w)
  | .pollForAddress _, .elapsed => some (none, w)
  | .waitHealthy _ _, .proceed => some (true, w)
  | .waitHealthy _ _, .elapsed => some (false, w)
  | .randSuffix, .text suffix => some (suffix, w)
  | .visitServices m, .services order => if m.entries = order then some (order, w) else none
  | .visitEnv m, .env order => if m.entries = order then some (order, w) else none
  | .tick, .time now => if w.clock ≤ now then some (now, { w with clock := now }) else none
  | .spawnRestart _ _, .proceed => some ((), w)
  | _, _ => none

inductive Answered (w : World) : (e : Effect) → e.Answer → World → Prop
  | read (q : Query) (v : View w.fsm) : Answered w (.read q) (q.eval w.fsm v) w
  | applied (c : Command) : Answered w (.propose c) (.ok (applyCommand w.fsm c).2)
      { w with fsm := (applyCommand w.fsm c).1 }
  | refused (c : Command) (message : String) : Answered w (.propose c) (.error message) w
  | delivered (node : NodeId) (cmd : NodeCommand) : Answered w (.send node cmd) (.ok ())
      { w with sent := w.sent ++ [(node, cmd)] }
  | undelivered (node : NodeId) (cmd : NodeCommand) (e : NodeError) :
      Answered w (.send node cmd) (.error e) w
  | broadcast (cmd : NodeCommand) : Answered w (.broadcast cmd) () w
  | created (name : String) (size : ByteSize) (cloudId : String) :
      Answered w (.create name size) (.ok cloudId) { w with cloud := w.cloud ++ [(name, cloudId)] }
  | notCreated (name : String) (size : ByteSize) (e : StorageError) :
      Answered w (.create name size) (.error e) w
  | createdUnseen (name : String) (size : ByteSize) (cloudId : String) (e : StorageError) :
      Answered w (.create name size) (.error e) { w with cloud := w.cloud ++ [(name, cloudId)] }
  | destroyed (name : String) : Answered w (.destroy name) (.ok ())
      { w with cloud := w.cloud.filter fun vol => vol.1 != name }
  | notDestroyed (name : String) (e : StorageError) : Answered w (.destroy name) (.error e) w
  | destroyedUnseen (name : String) (e : StorageError) : Answered w (.destroy name) (.error e)
      { w with cloud := w.cloud.filter fun vol => vol.1 != name }
  | attach (name instanceId : String) (r : Except StorageError Unit) :
      Answered w (.attach name instanceId) r w
  | detach (name : String) (r : Except StorageError Unit) : Answered w (.detach name) r w
  | waited (allocId : AllocId) (alloc : Alloc) (r : Except DeployError Unit)
      (halloc : w.fsm.allocs.lookup allocId = some alloc)
      (hsettled : settled allocId alloc.status = some r) : Answered w (.waitForStatus allocId) r w
  | waitedInVain (allocId : AllocId) :
      Answered w (.waitForStatus allocId) (.error (.healthCheckTimeout allocId.val)) w
  | polled (allocId : AllocId) (alloc : Alloc) (address : SocketAddr)
      (halloc : w.fsm.allocs.lookup allocId = some alloc)
      (haddress : alloc.address = some address) :
      Answered w (.pollForAddress allocId) (some address) w
  | polledInVain (allocId : AllocId) : Answered w (.pollForAddress allocId) none w
  | waitHealthy (address : SocketAddr) (health : Option HealthCheck) (r : Bool) :
      Answered w (.waitHealthy address health) r w
  | randSuffix (suffix : String) : Answered w .randSuffix suffix w
  | visitServices (m : Finmap fun _ : String => ServiceDef)
      (order : List (Σ _ : String, ServiceDef)) (horder : m.entries = order) :
      Answered w (.visitServices m) order w
  | visitEnv (m : Finmap fun _ : String => EnvValue) (order : List (Σ _ : String, EnvValue))
      (horder : m.entries = order) : Answered w (.visitEnv m) order w
  | tick (now : Nat) (hnow : w.clock ≤ now) : Answered w .tick now { w with clock := now }
  | spawnRestart (name : String) (d : ServiceDef) : Answered w (.spawnRestart name d) () w

lemma answered_of_answer {w w' : World} {e : Effect} {c : Choice} {r : e.Answer}
    (h : w.answer e c = some (r, w')) : Answered w e r w' := by
  unfold answer at h
  split at h
  case h_17 | h_19 =>
    simp only [Option.bind_eq_bind, Option.bind_eq_some_iff, Option.some.injEq, Prod.mk.injEq] at h
    obtain ⟨alloc, halloc, result, hresult, rfl, rfl⟩ := h
    first
      | exact .waited _ alloc result halloc hresult
      | exact .polled _ alloc result halloc hresult
  case h_18 =>
    cases h
    exact .waitedInVain _
  case h_20 =>
    cases h
    exact .polledInVain _
  all_goals
    try split_ifs at h
    cases h <;> constructor <;> assumption

end World

def Effect.applied : (e : Effect) → e.Answer → Option Command
  | .propose c, .ok _ => some c
  | _, _ => none

def Effect.refused : (e : Effect) → e.Answer → Bool
  | .propose _, .error _ => true
  | _, _ => false

def commits (w : World) (c : Command) : Option World :=
  some { w with fsm := (applyCommand w.fsm c).1 }

namespace World

variable {w w' : World} {e : Effect} {r : e.Answer}

lemma Answered.fsm_eq (h : Answered w e r w') :
    w'.fsm = PlacementSystem.applied w.fsm (e.applied r) := by
  cases h <;> rfl

lemma not_refused_of_answer {c : Choice} (h : w.answer e c = some (r, w'))
    (hc : ∀ message, c ≠ .raftError message) : e.refused r = false := by
  unfold Effect.refused
  split
  · unfold answer at h
    cases c with
    | raftError message => exact absurd rfl (hc message)
    | _ => cases h
  · rfl

end World

end Mill
