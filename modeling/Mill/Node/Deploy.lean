import Mathlib.Data.Multiset.Bind
import Mathlib.Data.Multiset.Sort
import Mathlib.Data.String.Basic
import Mill.Node.Primary

/-! The deploy coordinator: `run_deploy`, `run_restart` and what they call. Progress
events are left out, except that `run_deploy` returns the `success` field of its last
one. -/

namespace Mill

abbrev Action := Program Effect Effect.Answer DeployError

namespace Action

def act (e : Effect) : Action e.Answer := Program.effect e

def read (q : Query) : Action q.Result := act (.read q)

def propose (c : Command) : Action Response := do
  match ← act (.propose c) with
  | .ok response => pure response
  | .error message => .fail (.node (.raft message))

def send (node : NodeId) (cmd : NodeCommand) : Action Unit := do
  match ← act (.send node cmd) with
  | .ok () => pure ()
  | .error e => .fail (.node e)

def ofExcept {α ε : Type} (wrap : ε → DeployError) : Except ε α → Action α
  | .ok a => pure a
  | .error e => .fail (wrap e)

def newAllocId (name : String) : Action AllocId := do
  let suffix ← act .randSuffix
  pure ⟨s!"{name}-{suffix}"⟩

end Action

open Mill.Action

/-- Names in the errors are sorted here; the source has them in hash order. -/
def joined (names : Multiset String) : String := ", ".intercalate (names.sort (· ≤ ·))

def collectMissingSecrets (env : Finmap fun _ : String => EnvValue) (known : Finset String)
    (context : String) : Multiset String :=
  env.values.bind fun value =>
    match value with
    | .literal _ => 0
    | .interpolated parts =>
      parts.filterMap fun part =>
        match part with
        | .secret name => if name ∈ known then none else some s!"{context}/{name}"
        | _ => none

def validateSecretRefs (config : ClusterConfig) (known : Finset String) : Except DeployError Unit :=
  let missing :=
    (config.services.entries.bind fun e => collectMissingSecrets e.2.env known e.1) +
      config.tasks.entries.bind fun e => collectMissingSecrets e.2.env known e.1
  if missing = 0 then .ok ()
  else .error (.validationFailed s!"unknown secrets: {joined missing}")

def validateResourceCapacity (config : ClusterConfig) (nodes : List NodeResources) :
    Except DeployError Unit :=
  if nodes.isEmpty then .error (.validationFailed "no ready nodes in cluster")
  else
    let maxCpu := (nodes.map NodeResources.cpuTotal).foldl max 0
    let maxMem := (nodes.map NodeResources.memoryTotal).foldl max 0
    let exceeds (r : Resources) : Bool := maxCpu < r.cpu || maxMem < r.memory
    let oversized :=
      ((config.services.entries.filter fun e => exceeds e.2.resources).map Sigma.fst) +
        (config.tasks.entries.filter fun e => exceeds e.2.resources).map Sigma.fst
    if oversized = 0 then .ok ()
    else .error (.validationFailed s!"resources exceed largest node capacity: {joined oversized}")

structure DeployPlan where
  added : List (String × ServiceDef)
  removed : List String
  changed : List (String × ServiceDef)
  unchanged : List String

def diffConfig (old : Option ClusterConfig) (new : ClusterConfig)
    (newOrder oldOrder : List (Σ _ : String, ServiceDef)) : DeployPlan :=
  let oldDef (name : String) : Option ServiceDef := old.bind fun c => c.services.lookup name
  { added := (newOrder.filter fun e => (oldDef e.1).isNone).map fun e => (e.1, e.2)
    removed := (oldOrder.filter fun e => (new.services.lookup e.1).isNone).map Sigma.fst
    changed :=
      (newOrder.filter fun e => (oldDef e.1).any fun d => d ≠ e.2).map fun e => (e.1, e.2)
    unchanged := (newOrder.filter fun e => (oldDef e.1).any fun d => d = e.2).map Sigma.fst }

/-- What the coordinators hold: whether a volume driver is configured, and the functions
of other crates that resolving the environment calls. -/
structure DeployCtx where
  volumes : Bool
  decryptSecret : List UInt8 → List UInt8 → Except String (List UInt8)
  fromUtf8 : List UInt8 → Except String String
  showAddress : SocketAddr → String

def demoCtx : DeployCtx := ⟨false, fun value _ => .ok value, fun _ => .ok "", fun _ => ""⟩

def demoDef : ServiceDef := ⟨"web", 80, 1, ⟨1, 1024⟩, ∅, none, none, [], []⟩

def resolveEnvPart (ctx : DeployCtx) : EnvPart → Action String
  | .literal text => pure text
  | .serviceAddress service => do
    match ← read (.serviceAddress service) with
    | some address => pure (ctx.showAddress address)
    | none => .fail (.envResolution s!"no address for service '{service}'")
  | .secret name => do
    match ← read (.secret name) with
    | none => .fail (.envResolution s!"secret '{name}' not found")
    | some secret =>
      let plaintext ← ofExcept .envResolution (ctx.decryptSecret secret.encryptedValue secret.nonce)
      match ctx.fromUtf8 plaintext with
      | .ok value => pure value
      | .error e => .fail (.envResolution s!"secret '{name}' not utf8: {e}")

def resolveEnvValue (ctx : DeployCtx) : EnvValue → Action String
  | .literal text => pure text
  | .interpolated parts =>
    Program.foldEach (fun result part => do
      let text ← resolveEnvPart ctx part
      pure (result ++ text)) parts ""

def resolveEnv (ctx : DeployCtx) (env : Finmap fun _ : String => EnvValue) :
    Action (Finmap fun _ : String => String) := do
  let order ← act (.visitEnv env)
  Program.foldEach (fun resolved e => do
    let value ← resolveEnvValue ctx e.2
    pure (resolved.insert e.1 value)) order ∅

def runScheduledAlloc (ctx : DeployCtx) (name : String) (d : ServiceDef) (allocId : AllocId)
    (nodeId : NodeId) : Action Unit := do
  let env ← resolveEnv ctx d.env
  send nodeId (.run allocId ((Work.service d).containerSpec allocId env) none)
  let status ← act (.waitForStatus allocId)
  ofExcept id status
  match ← act (.pollForAddress allocId) with
  | none => .fail (.healthCheckTimeout name)
  | some address =>
    if ← act (.waitHealthy address d.health) then
      let _ ← propose (.allocStatus allocId .healthy)
      pure ()
    else .fail (.healthCheckTimeout name)

def startAlloc (ctx : DeployCtx) (name : String) (d : ServiceDef) (allocId : AllocId)
    (replica : Nat) : Action Unit := do
  match ← read (.place name d) with
  | none => .fail (.schedulingFailed name replica)
  | some nodeId =>
    match ← read (.raftIdFor nodeId) with
    | none => .fail (.schedulingFailed name replica)
    | some raftNodeId =>
      -- the response is not looked at
      let _ ← propose (.allocScheduled allocId raftNodeId name .service none
        (.ofResources d.resources))
      match ← (runScheduledAlloc ctx name d allocId nodeId).attempt with
      | .ok () => pure ()
      | .error e =>
        let _ ← act (.propose (.allocStatus allocId (.failed e.toString)))
        .fail e

/-- `bytesize::ByteSize::gib(10)` -/
def defaultVolumeSize : ByteSize := 10 * 1024 * 1024 * 1024

/-- The driver calls of an attach and a detach; without a driver there are none, and a
node without an instance id is not attached to. -/
def attachCloud (ctx : DeployCtx) (name : String) (raftNodeId : Nat) : Action Unit :=
  if ctx.volumes then do
    match ← read (.instanceIdFor raftNodeId) with
    | some instanceId =>
      let attached ← act (.attach name instanceId)
      ofExcept .storage attached
    | none => pure ()
  else pure ()

def detachCloud (ctx : DeployCtx) (name : String) : Action Unit :=
  if ctx.volumes then do
    let detached ← act (.detach name)
    ofExcept .storage detached
  else pure ()

def attachVolume (ctx : DeployCtx) (name : String) (raftNodeId : Nat) : Action Unit := do
  attachCloud ctx name raftNodeId
  let _ ← propose (.volumeAttached name raftNodeId)
  pure ()

def createVolumeIfNeeded (ctx : DeployCtx) (raftNodeId : Nat) (vol : VolumeDef) : Action Unit := do
  if vol.ephemeral then pure ()
  else
    let state ← read (.volumeState vol.name)
    let targetMillId ← read (.millIdAt raftNodeId)
    match state with
    | none =>
      if ctx.volumes then
        let created ← act (.create vol.name (vol.size.getD defaultVolumeSize))
        let cloudId ← ofExcept .storage created
        let _ ← propose (.volumeCreated vol.name cloudId)
        attachVolume ctx vol.name raftNodeId
      else pure ()
    | some (.attached node) =>
      if some node = targetMillId then pure ()
      else
        detachCloud ctx vol.name
        let _ ← propose (.volumeDetached vol.name)
        attachVolume ctx vol.name raftNodeId
    | some .ready => attachVolume ctx vol.name raftNodeId

def createVolumesIfNeeded (ctx : DeployCtx) (d : ServiceDef) (raftNodeId : Nat) : Action Unit :=
  Program.foldEach (fun _ vol => createVolumeIfNeeded ctx raftNodeId vol) d.volumes ()

def stopService (name : String) : Action Unit := do
  let allocs ← read (.serviceAllocs name)
  Program.foldEach (fun _ a => send a.2 (.stop a.1)) allocs ()

def deployService (ctx : DeployCtx) (name : String) (d : ServiceDef) : Action Unit := do
  match ← read .firstReady with
  | none => .fail (.schedulingFailed name 0)
  | some raftNodeId =>
    createVolumesIfNeeded ctx d raftNodeId
    Program.foldEach (fun _ replica => startAlloc ctx name d ⟨s!"{name}-{replica}"⟩ replica)
      (List.range d.replicas) ()

def stopQuietly (allocs : List (AllocId × NodeId)) : Action Unit :=
  Program.foldEach (fun _ a => do
    let _ ← act (.send a.2 (.stop a.1))
    pure ()) allocs ()

/-- One new replica of a rolling update; `newAllocs` are those started before it. -/
def startReplica (ctx : DeployCtx) (name : String) (d : ServiceDef)
    (newAllocs : List (AllocId × NodeId)) (replica : Nat) :
    Action (List (AllocId × NodeId)) := do
  let allocId ← newAllocId name
  match ← (startAlloc ctx name d allocId replica).attempt with
  | .ok () =>
    match ← read (.allocNode allocId) with
    | some nodeId => pure (newAllocs ++ [(allocId, nodeId)])
    | none => pure newAllocs
  | .error e =>
    stopQuietly newAllocs
    .fail e

def stopOld (stopErr : Option NodeError) (a : AllocId × NodeId) : Action (Option NodeError) := do
  match ← act (.send a.2 (.stop a.1)) with
  | .ok () => pure stopErr
  | .error e => pure (stopErr.or (some e))

def rollingUpdate (ctx : DeployCtx) (name : String) (d : ServiceDef) : Action Unit := do
  match ← read .firstReady with
  | none => .fail (.schedulingFailed name 0)
  | some raftNodeId =>
    createVolumesIfNeeded ctx d raftNodeId
    let oldAllocs ← read (.serviceAllocs name)
    let _ ← Program.foldEach (startReplica ctx name d) (List.range d.replicas) []
    match ← Program.foldEach stopOld oldAllocs none with
    | some e => .fail (.node e)
    | none => pure ()

def eagerPull (plan : DeployPlan) : Action Unit :=
  Program.foldEach (fun _ image => do
    let _ ← act (.broadcast (.pull image none))
    pure ()) ((plan.added ++ plan.changed).map fun e => e.2.image).dedup ()

def rollout (deployOne : String → ServiceDef → Action Unit) (hasFailures : Bool)
    (e : String × ServiceDef) : Action Bool := do
  match ← (deployOne e.1 e.2).attempt with
  | .ok () => pure hasFailures
  | .error _ => pure true

def preDeploy (newConfig : ClusterConfig) : Action (Option ClusterConfig × DeployPlan) := do
  let oldConfig ← read .config
  let newOrder ← act (.visitServices newConfig.services)
  let oldOrder ← act (.visitServices ((oldConfig.map ClusterConfig.services).getD ∅))
  let plan := diffConfig oldConfig newConfig newOrder oldOrder
  let knownSecrets ← read .secretNames
  ofExcept id (validateSecretRefs newConfig knownSecrets)
  let nodeCapacities ← read .readyResources
  ofExcept id (validateResourceCapacity newConfig nodeCapacities)
  eagerPull plan
  pure (oldConfig, plan)

def applyPlan (ctx : DeployCtx) (plan : DeployPlan) : Action Bool := do
  Program.foldEach (fun _ name => stopService name) plan.removed ()
  let hasFailures ← Program.foldEach (rollout (deployService ctx)) plan.added false
  Program.foldEach (rollout (rollingUpdate ctx)) plan.changed hasFailures

/-- The result is the `success` field of the last event. -/
def runDeploy (ctx : DeployCtx) (newConfig : ClusterConfig) : Action Bool := do
  let (oldConfig, plan) ← preDeploy newConfig
  let _ ← propose (.deploy newConfig)
  let hasFailures ← applyPlan ctx plan
  match hasFailures, oldConfig with
  | true, some old =>
    let _ ← act (.propose (.deploy old))
    pure (!hasFailures)
  | _, _ => pure (!hasFailures)

def runRestart (ctx : DeployCtx) (serviceName : String) : Action Unit := do
  match ← read (.serviceDef serviceName) with
  | none => .fail (.node (.serviceNotFound serviceName))
  | some d => rollingUpdate ctx serviceName d

end Mill
