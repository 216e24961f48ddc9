import Mill.Node.Deploy

/-! The other coordinators of the primary that move allocations and volumes: draining a
node, the restart phase of the watchdog, and the deletion of a volume. -/

namespace Mill

open Mill.Action

def drainVolume (ctx : DeployCtx) (volName : String) : Action Unit := do
  let _ ← (detachCloud ctx volName).attempt
  let _ ← act (.propose (.volumeDetached volName))
  pure ()

/-- One allocation of the drained node. A service that is still configured gets a
replacement first; if that fails, the allocation stays. -/
def drainAlloc (ctx : DeployCtx) (millId : NodeId) (a : AllocId × String × AllocKind) :
    Action Unit := do
  if a.2.2 = .service then
    match ← read (.serviceDef a.2.1) with
    | some d =>
      let newId ← newAllocId a.2.1
      match ← (startAlloc ctx a.2.1 d newId 0).attempt with
      | .ok () => stopQuietly [(a.1, millId)]
      | .error _ => pure ()
    | none => stopQuietly [(a.1, millId)]
  else stopQuietly [(a.1, millId)]

def drainNode (ctx : DeployCtx) (nodeId : Nat) : Action Unit := do
  match ← propose (.nodeDrain nodeId) with
  | .error e => .fail (.node (.raftRejected e))
  | .ok =>
    let millId ← read (.millIdAt nodeId)
    let attachedVolumes ← read (.attachedVolumes (millId.getD ⟨""⟩))
    Program.foldEach (fun _ volName => drainVolume ctx volName) attachedVolumes ()
    let (allocs, millId) ← read (.nodeAllocs nodeId)
    Program.foldEach (fun _ a => drainAlloc ctx millId a) allocs ()

structure RestartState where
  attempts : Nat
  lastAttemptAt : Nat
deriving DecidableEq

abbrev RestartBackoff := Finmap fun _ : String => RestartState

def restartBackoffDelays : List Duration :=
  [1000000000, 5000000000, 30000000000, 60000000000]

def restartDelay (attempts : Nat) : Duration :=
  restartBackoffDelays.getD (min attempts (restartBackoffDelays.length - 1)) 0

/-- One service. What is missing is counted from the active allocations only, and each
missing replica gets a task of its own. -/
def checkServiceRestart (now : Nat) (restartBackoff : RestartBackoff)
    (e : Σ _ : String, ServiceDef) : Action RestartBackoff := do
  let (active, nonTerminal) ← read (.serviceCounts e.1)
  if e.2.replicas ≤ active then pure (restartBackoff.erase e.1)
  else if e.2.replicas ≤ nonTerminal then pure restartBackoff
  else
    match restartBackoff.lookup e.1 with
    | none => pure (restartBackoff.insert e.1 ⟨0, now⟩)
    | some state =>
      if now - state.lastAttemptAt < restartDelay state.attempts then pure restartBackoff
      else
        Program.foldEach (fun _ _ => act (.spawnRestart e.1 e.2))
          (List.range (e.2.replicas - active)) ()
        pure (restartBackoff.insert e.1 ⟨state.attempts + 1, now⟩)

def checkServiceRestarts (now : Nat) (restartBackoff : RestartBackoff) : Action RestartBackoff := do
  let config ← read .config
  let services := (config.map ClusterConfig.services).getD ∅
  let order ← act (.visitServices services)
  Program.foldEach (checkServiceRestart now) order
    (restartBackoff.retain fun name _ => decide (name ∈ services))

def watchdog : Nat → RestartBackoff → Action Unit
  | 0, _ => pure ()
  | ticks + 1, restartBackoff => do
    let now ← act .tick
    let restartBackoff ← checkServiceRestarts now restartBackoff
    watchdog ticks restartBackoff

def restartReplica (ctx : DeployCtx) (name : String) (d : ServiceDef) : Action Unit := do
  let allocId ← newAllocId name
  startAlloc ctx name d allocId 0

inductive ApiError
  | notFound (message : String)
  | conflict (message : String)
  | internalServerError (message : String)
deriving DecidableEq

def handle (e : Effect) : Program Effect Effect.Answer ApiError e.Answer := Program.effect e

def destroyCloud (ctx : DeployCtx) (name : String) : Program Effect Effect.Answer ApiError Unit :=
  if ctx.volumes then do
    match ← handle (.destroy name) with
    | .ok () => pure ()
    | .error e => .fail (.internalServerError s!"cloud destroy failed: {e.toString}")
  else pure ()

def deleteVolume (ctx : DeployCtx) (name : String) :
    Program Effect Effect.Answer ApiError Unit := do
  match ← handle (.read (.volumeState name)) with
  | none => .fail (.notFound "volume not found")
  | some (.attached _) => .fail (.conflict "volume is attached")
  | some .ready =>
    destroyCloud ctx name
    match ← handle (.propose (.volumeDestroyed name)) with
    | .ok .ok => pure ()
    | _ => .fail (.internalServerError "raft proposal failed")

end Mill
