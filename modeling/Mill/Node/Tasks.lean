import Mill.Config.Parse
import Mill.Node.Deploy

/-! Tasks: `spawn_task` starts one and, if it has a timeout, a timer that kills it; `kill_task`
has its node stop it. Beside the effects of the other coordinators there are the reads that only
these two make, the timer, and its sleep. -/

namespace Mill

structure SpawnTaskRequest where
  task : Option String
  image : Option String
  cpu : ℚ
  memory : String
  env : Finmap fun _ : String => String
  timeout : Option String

structure SpawnTaskResponse where
  id : String
  node : String
  status : String
  address : Option String
deriving DecidableEq

inductive TaskEffect
  | coord (e : Effect)
  | taskDef (template : String)
  | placeTask (name : String) (resources : Resources)
  | allocInfo (allocId : AllocId)
  | allocAddress (allocId : AllocId)
  | spawnKillTimer (allocId : AllocId) (dur : Duration)
  | now
  | sleepUntil (deadline : Nat)

@[reducible] def TaskEffect.Answer : TaskEffect → Type
  | coord e => e.Answer
  | taskDef _ => Option TaskDef
  | placeTask _ _ => Option NodeId
  | allocInfo _ => Option (Bool × NodeId)
  | allocAddress _ => Option SocketAddr
  | spawnKillTimer _ _ => Unit
  | now => Nat
  | sleepUntil _ => Unit

abbrev TaskAction := Program TaskEffect TaskEffect.Answer DeployError

namespace TaskAction

def act (e : TaskEffect) : TaskAction e.Answer := Program.effect e

def coord {α : Type} (p : Action α) : TaskAction α :=
  p.lift TaskEffect.coord fun _ answer => answer

def ofExcept {α : Type} : Except DeployError α → TaskAction α
  | .ok a => pure a
  | .error e => .fail e

end TaskAction

open TaskAction

section

variable (p : Parsers) (ctx : DeployCtx)

structure TaskPlan where
  name : String
  image : String
  resources : Resources
  env : Finmap fun _ : String => EnvValue
  timeout : Option Duration
  command : Option (List String)

def literals (env : Finmap fun _ : String => String) : Finmap fun _ : String => EnvValue :=
  env.mapVals fun _ value => .literal value

def taskPlan (request : SpawnTaskRequest) : TaskAction TaskPlan :=
  match request.task, request.image with
  | some template, none => do
    match ← act (.taskDef template) with
    | none => .fail (.node (.serviceNotFound template))
    | some d =>
      let timeout := if d.timeout = 0 then none else some d.timeout
      pure ⟨template, d.image, d.resources, d.env, timeout, d.command⟩
  | none, some image =>
    match p.byteSize request.memory with
    | .error e => .fail (.envResolution s!"invalid memory: {e}")
    | .ok memory => do
      let suffix ← act (.coord .randSuffix)
      pure ⟨s!"task-{suffix}", image, ⟨request.cpu, memory⟩, literals request.env, none, none⟩
  | _, _ => .fail (.node (.badRequest "must specify exactly one of 'task' or 'image'"))

def taskTimeout (request : SpawnTaskRequest) (default : Option Duration) :
    Except DeployError (Option Duration) :=
  match request.timeout with
  | none => .ok default
  | some text =>
    match p.duration text with
    | .ok dur => .ok (some dur)
    | .error e => .error (.envResolution s!"invalid timeout: {e}")

def startKillTimer (allocId : AllocId) : Option Duration → TaskAction Unit
  | none => pure ()
  | some dur => act (.spawnKillTimer allocId dur)

def runScheduledTask (plan : TaskPlan) (allocId : AllocId) (nodeId : NodeId) :
    TaskAction SpawnTaskResponse := do
  let env ← coord (resolveEnv ctx plan.env)
  let work := Work.task plan.image plan.command plan.timeout plan.resources
  coord (Action.send nodeId (.run allocId (work.containerSpec allocId env) none))
  let status ← act (.coord (.waitForStatus allocId))
  ofExcept status
  startKillTimer allocId plan.timeout
  let address ← act (.allocAddress allocId)
  pure ⟨allocId.val, nodeId.val, "running", address.map ctx.showAddress⟩

def scheduleTask (plan : TaskPlan) (allocId : AllocId) : TaskAction NodeId := do
  match ← act (.placeTask plan.name plan.resources) with
  | none => .fail (.schedulingFailed plan.name 0)
  | some nodeId =>
    match ← act (.coord (.read (.raftIdFor nodeId))) with
    | none => .fail (.schedulingFailed plan.name 0)
    | some raftNodeId =>
      -- the response is not looked at
      let _ ← coord (Action.propose (.allocScheduled allocId raftNodeId plan.name .task none
        (.ofResources plan.resources)))
      pure nodeId

def spawnTask (request : SpawnTaskRequest) : TaskAction SpawnTaskResponse := do
  let plan ← taskPlan p request
  let timeout ← ofExcept (taskTimeout p request plan.timeout)
  let plan := { plan with env := literals request.env ∪ plan.env, timeout }
  let allocId ← coord (Action.newAllocId plan.name)
  let nodeId ← scheduleTask plan allocId
  runScheduledTask ctx plan allocId nodeId

def killTask (allocIdStr : String) : TaskAction Unit := do
  match ← act (.allocInfo ⟨allocIdStr⟩) with
  | some (true, nodeId) => coord (Action.send nodeId (.stop ⟨allocIdStr⟩))
  | some (false, _) => .fail (.node (.notATask allocIdStr))
  | none => .fail (.node (.allocNotFound allocIdStr))

def killTimer (allocId : AllocId) (dur : Duration) : TaskAction Unit := do
  let start ← act .now
  act (.sleepUntil (start + dur))
  let _ ← (killTask allocId.val).attempt (Y := DeployError)
  pure ()

def detached {α : Type} (p : TaskAction α) : Program TaskEffect TaskEffect.Answer Empty Unit := do
  let _ ← p.attempt
  pure ()

end

namespace World

def answerTask (w : World) : (e : TaskEffect) → Choice → Option (e.Answer × World)
  | .coord e, c => w.answer e c
  | .taskDef template, .proceed =>
    some (w.fsm.config.bind fun config => config.tasks.lookup template, w)
  | .placeTask name resources, .order nodes allocs _ =>
    if w.fsm.nodes.values = nodes ∧ w.fsm.allocs.values = allocs then
      some (schedule ⟨resources, name, .task, none⟩ nodes
        (allocs.map fun a => (a.node, a.name, a.kind)) [] w.fsm.nodeAvailableResources, w)
    else none
  | .allocInfo allocId, .proceed =>
    some ((w.fsm.allocs.lookup allocId).map fun a => (a.kind == .task, a.node), w)
  | .allocAddress allocId, .proceed =>
    some ((w.fsm.allocs.lookup allocId).bind Alloc.address, w)
  | .spawnKillTimer _ _, .proceed => some ((), w)
  | .now, .proceed => some (w.clock, w)
  | .sleepUntil deadline, .proceed => if deadline ≤ w.clock then some ((), w) else none
  | _, _ => none

inductive TaskAnswered (w : World) : (e : TaskEffect) → e.Answer → World → Prop
  | coord (e : Effect) (r : e.Answer) (w' : World) (h : Answered w e r w') :
      TaskAnswered w (.coord e) r w'
  | taskDef (template : String) : TaskAnswered w (.taskDef template)
      (w.fsm.config.bind fun config => config.tasks.lookup template) w
  | placeTask (name : String) (resources : Resources) (nodes : List FsmNode) (allocs : List Alloc)
      (hnodes : w.fsm.nodes.values = nodes) (hallocs : w.fsm.allocs.values = allocs) :
      TaskAnswered w (.placeTask name resources) (schedule ⟨resources, name, .task, none⟩ nodes
        (allocs.map fun a => (a.node, a.name, a.kind)) [] w.fsm.nodeAvailableResources) w
  | allocInfo (allocId : AllocId) : TaskAnswered w (.allocInfo allocId)
      ((w.fsm.allocs.lookup allocId).map fun a => (a.kind == .task, a.node)) w
  | allocAddress (allocId : AllocId) : TaskAnswered w (.allocAddress allocId)
      ((w.fsm.allocs.lookup allocId).bind Alloc.address) w
  | spawnKillTimer (allocId : AllocId) (dur : Duration) :
      TaskAnswered w (.spawnKillTimer allocId dur) () w
  | now : TaskAnswered w .now w.clock w
  | sleepUntil (deadline : Nat) (h : deadline ≤ w.clock) :
      TaskAnswered w (.sleepUntil deadline) () w

lemma taskAnswered_of_answerTask {w w' : World} {e : TaskEffect} {c : Choice} {r : e.Answer}
    (h : w.answerTask e c = some (r, w')) : TaskAnswered w e r w' := by
  unfold answerTask at h
  split at h
  · exact .coord _ _ _ (answered_of_answer h)
  · cases h
    exact .taskDef _
  · split_ifs at h with hread
    cases h
    exact .placeTask _ _ _ _ hread.1 hread.2
  · cases h
    exact .allocInfo _
  · cases h
    exact .allocAddress _
  · cases h
    exact .spawnKillTimer _ _
  · cases h
    exact .now
  · split_ifs at h with hdue
    cases h
    exact .sleepUntil _ hdue
  · cases h

end World

end Mill
