import Mill.Lib.Run
import Mill.Net.Ports
import Mill.Node.Protocol

/-! The secondary of one node: the command loop, the exit waiters of the
containers it started and the heartbeat loop, over a shared allocation map and
port pool. Whatever holds a lock for once, calls the container runtime or sends a
report is a step of its own; what the runtime answers is part of the event. -/

namespace Mill

structure LocalAlloc where
  allocId : AllocId
  spec : ContainerSpec
  status : AllocStatus
  hostPort : Option Nat
deriving DecidableEq

abbrev AllocationMap := Finmap fun _ : AllocId => LocalAlloc

namespace AllocationMap

def insertNew (map : AllocationMap) (alloc : LocalAlloc) : Except AllocId AllocationMap :=
  if (map.lookup alloc.allocId).isSome then .error alloc.allocId
  else .ok (map.insert alloc.allocId alloc)

def remove (map : AllocationMap) (allocId : AllocId) : AllocationMap := map.erase allocId

def hostPort (map : AllocationMap) (allocId : AllocId) : Option Nat :=
  (map.lookup allocId).bind LocalAlloc.hostPort

def allStatuses (map : AllocationMap) : Finmap fun _ : AllocId => AllocStatus :=
  map.mapVals fun _ alloc => alloc.status

def contains (map : AllocationMap) (allocId : AllocId) : Bool := (map.lookup allocId).isSome

def setStatus (map : AllocationMap) (allocId : AllocId) (status : AllocStatus) : AllocationMap :=
  map.modify allocId fun alloc => { alloc with status }

end AllocationMap

/-- Where the command loop stands: first the steps of `run_container`, then those
of `stop_container`, then those of `pull_image`. -/
inductive LoopPc
  | idle
  | check (allocId : AllocId) (spec : ContainerSpec)
  | reportPulling (allocId : AllocId) (spec : ContainerSpec)
  | pull (allocId : AllocId) (spec : ContainerSpec)
  | reportStarting (allocId : AllocId) (spec : ContainerSpec)
  | allocatePort (allocId : AllocId) (spec : ContainerSpec)
  | start (allocId : AllocId) (spec : ContainerSpec) (hostPort : Option Nat)
  | releaseFailed (allocId : AllocId) (reason : String) (hostPort : Option Nat)
  | reportFailed (allocId : AllocId) (reason : String)
  | insert (allocId : AllocId) (spec : ContainerSpec) (hostPort : Option Nat)
  | reportStarted (allocId : AllocId) (hostPort : Option Nat)
  | spawnWaiter (allocId : AllocId) (hostPort : Option Nat)
  | readPort (allocId : AllocId)
  | stop (allocId : AllocId) (hostPort : Option Nat)
  | releaseStopped (allocId : AllocId) (hostPort : Option Nat) (exitCode : Int)
  | removeStopped (allocId : AllocId) (hostPort : Option Nat) (exitCode : Int)
  | reportStopped (allocId : AllocId) (exitCode : Int)
  | pullOnly (image : String)
  | reportPulled (report : NodeReport)
deriving DecidableEq

inductive WaiterPc
  | waiting
  | setStatus (exitCode : Int)
  | release (exitCode : Int)
  | remove (exitCode : Int)
  | report (exitCode : Int)
  | done
deriving DecidableEq

structure Waiter where
  allocId : AllocId
  hostPort : Option Nat
  pc : WaiterPc
deriving DecidableEq

/-- `pendingHeartbeat` is a heartbeat that was put together and not sent yet;
`reports` is the report channel, oldest first. -/
structure Secondary where
  nodeId : NodeId
  meshIp : Option IpAddr
  ports : PortPool
  allocs : AllocationMap
  loop : LoopPc
  waiters : List Waiter
  pendingHeartbeat : Option Heartbeat
  reports : List NodeReport

inductive SecondaryEvent
  | command (cmd : NodeCommand)
  | loop
  | pulled (result : Except String Unit)
  | started (result : Except String Unit)
  /-- `stop` returned and `remove` was called. -/
  | stopped (result : Except String Int)
  | exited (waiter : Nat) (result : Except String Int)
  | waiter (waiter : Nat)
  | tick
  | heartbeat

namespace Secondary

def send (s : Secondary) (report : NodeReport) : Secondary :=
  { s with reports := s.reports ++ [report] }

def release (s : Secondary) : Option Nat → Secondary
  | some port => { s with ports := s.ports.release port }
  | none => s

/-- `run_container` and `stop_container` up to their next await. -/
def loopStep (s : Secondary) : Option Secondary :=
  match s.loop with
  | .check id spec =>
    if s.allocs.contains id then some { s with loop := .idle }
    else some { s with loop := .reportPulling id spec }
  | .reportPulling id spec =>
    some { s.send (.statusUpdate id .pulling) with loop := .pull id spec }
  | .reportStarting id spec =>
    some { s.send (.statusUpdate id .starting) with loop := .allocatePort id spec }
  | .allocatePort id spec =>
    if spec.port.isSome then
      match s.ports.allocate id with
      | some (port, ports) =>
        let env := spec.env.insert "PORT" (toString port)
        some { s with
          ports, loop := .start id { spec with hostPort := some port, env } (some port) }
      -- port exhaustion is logged and not reported
      | none => some { s with loop := .idle }
    else some { s with loop := .start id spec none }
  | .releaseFailed id reason hostPort =>
    some { s.release hostPort with loop := .reportFailed id reason }
  | .reportFailed id reason => some { s.send (.runFailed id reason) with loop := .idle }
  | .insert id spec hostPort =>
    let allocs :=
      match s.allocs.insertNew ⟨id, spec, .running, hostPort⟩ with
      | .ok allocs => allocs
      | .error _ => s.allocs
    some { s with allocs, loop := .reportStarted id hostPort }
  | .reportStarted id hostPort =>
    let address := s.meshIp.bind fun ip => hostPort.map fun port => ⟨ip, port⟩
    some { s.send (.runStarted id hostPort address) with loop := .spawnWaiter id hostPort }
  | .spawnWaiter id hostPort =>
    some { s with waiters := s.waiters ++ [⟨id, hostPort, .waiting⟩], loop := .idle }
  | .readPort id => some { s with loop := .stop id (s.allocs.hostPort id) }
  | .releaseStopped id hostPort exitCode =>
    some { s.release hostPort with loop := .removeStopped id hostPort exitCode }
  | .removeStopped id _ exitCode =>
    some { s with allocs := s.allocs.remove id, loop := .reportStopped id exitCode }
  | .reportStopped id exitCode => some { s.send (.stopped id exitCode) with loop := .idle }
  | .reportPulled report => some { s.send report with loop := .idle }
  | .idle | .pull .. | .start .. | .stop .. | .pullOnly _ => none

def exitStatus (exitCode : Int) : AllocStatus :=
  if exitCode = 0 then .stopped exitCode else .failed s!"exit code {exitCode}"

def waiterStep (s : Secondary) (w : Waiter) : Option (Waiter × Secondary) :=
  match w.pc with
  | .waiting | .done => none
  | .setStatus code =>
    some ({ w with pc := .release code },
      { s with allocs := s.allocs.setStatus w.allocId (exitStatus code) })
  | .release code => some ({ w with pc := .remove code }, s.release w.hostPort)
  | .remove code =>
    some ({ w with pc := .report code }, { s with allocs := s.allocs.remove w.allocId })
  | .report code => some ({ w with pc := .done }, s.send (.stopped w.allocId code))

def step (s : Secondary) : SecondaryEvent → Option Secondary
  | .command cmd =>
    match s.loop, cmd with
    | .idle, .run id spec _ => some { s with loop := .check id spec }
    | .idle, .stop id => some { s with loop := .readPort id }
    | .idle, .pull image _ => some { s with loop := .pullOnly image }
    | _, _ => none
  | .loop => s.loopStep
  | .pulled result =>
    match s.loop, result with
    | .pull id spec, .ok () => some { s with loop := .reportStarting id spec }
    | .pull id _, .error e =>
      some { s with loop := .reportFailed id s!"image pull failed: {e}" }
    | .pullOnly image, .ok () => some { s with loop := .reportPulled (.pullComplete image) }
    | .pullOnly image, .error e => some { s with loop := .reportPulled (.pullFailed image e) }
    | _, _ => none
  | .started result =>
    match s.loop, result with
    | .start id spec hostPort, .ok () => some { s with loop := .insert id spec hostPort }
    | .start id _ hostPort, .error e =>
      some { s with loop := .releaseFailed id s!"container start failed: {e}" hostPort }
    | _, _ => none
  | .stopped result =>
    match s.loop with
    | .stop id hostPort =>
      let exitCode :=
        match result with
        | .ok code => code
        | .error _ => -1
      some { s with loop := .releaseStopped id hostPort exitCode }
    | _ => none
  | .exited i result =>
    match s.waiters[i]? with
    | some w =>
      if w.pc = .waiting then
        let exitCode :=
          match result with
          | .ok code => code
          | .error _ => -1
        some { s with waiters := s.waiters.set i { w with pc := .setStatus exitCode } }
      else none
    | none => none
  | .waiter i =>
    match s.waiters[i]? with
    | some w =>
      (s.waiterStep w).map fun (w, s) => { s with waiters := s.waiters.set i w }
    | none => none
  | .tick =>
    match s.pendingHeartbeat with
    | none => some { s with pendingHeartbeat := some ⟨s.nodeId, s.allocs.allStatuses⟩ }
    | some _ => none
  | .heartbeat =>
    s.pendingHeartbeat.map fun hb =>
      { s.send (.heartbeat hb) with pendingHeartbeat := none }

def init (nodeId : NodeId) (meshIp : Option IpAddr) (ports : PortPool) : Secondary :=
  ⟨nodeId, meshIp, ports, ∅, .idle, [], none, []⟩

inductive Does (s : Secondary) : SecondaryEvent → Secondary → Prop
  | run {id spec auth} (hloop : s.loop = .idle) :
      Does s (.command (.run id spec auth)) { s with loop := .check id spec }
  | stop {id} (hloop : s.loop = .idle) :
      Does s (.command (.stop id)) { s with loop := .readPort id }
  | pull {image auth} (hloop : s.loop = .idle) :
      Does s (.command (.pull image auth)) { s with loop := .pullOnly image }
  | present {id spec} (hloop : s.loop = .check id spec)
      (hin : s.allocs.contains id = true) : Does s .loop { s with loop := .idle }
  | absent {id spec} (hloop : s.loop = .check id spec)
      (hout : s.allocs.lookup id = none) : Does s .loop { s with loop := .reportPulling id spec }
  | reportPulling {id spec} (hloop : s.loop = .reportPulling id spec) :
      Does s .loop { s.send (.statusUpdate id .pulling) with loop := .pull id spec }
  | reportStarting {id spec} (hloop : s.loop = .reportStarting id spec) :
      Does s .loop { s.send (.statusUpdate id .starting) with loop := .allocatePort id spec }
  | claim {id spec spec' port}
      (hloop : s.loop = .allocatePort id spec) (hport : spec.port.isSome = true)
      (halloc : s.ports.allocate id = some (port, s.ports.claim port id)) :
      Does s .loop { s with ports := s.ports.claim port id, loop := .start id spec' (some port) }
  | exhausted {id spec} (hloop : s.loop = .allocatePort id spec)
      (hport : spec.port.isSome = true) (hnone : s.ports.allocate id = none) :
      Does s .loop { s with loop := .idle }
  | portless {id spec} (hloop : s.loop = .allocatePort id spec)
      (hport : spec.port.isSome = false) : Does s .loop { s with loop := .start id spec none }
  | releaseFailed {id reason hostPort} (hloop : s.loop = .releaseFailed id reason hostPort) :
      Does s .loop { s.release hostPort with loop := .reportFailed id reason }
  | reportFailed {id reason} (hloop : s.loop = .reportFailed id reason) :
      Does s .loop { s.send (.runFailed id reason) with loop := .idle }
  | insert {id spec hostPort}
      (hloop : s.loop = .insert id spec hostPort) (hout : s.allocs.lookup id = none) :
      Does s .loop { s with
        allocs := s.allocs.insert id ⟨id, spec, .running, hostPort⟩
        loop := .reportStarted id hostPort }
  | duplicate {id spec hostPort}
      (hloop : s.loop = .insert id spec hostPort) (hin : s.allocs.contains id = true) :
      Does s .loop { s with loop := .reportStarted id hostPort }
  | reportStarted {id hostPort address} (hloop : s.loop = .reportStarted id hostPort) :
      Does s .loop { s.send (.runStarted id hostPort address) with
        loop := .spawnWaiter id hostPort }
  | spawnWaiter {id hostPort} (hloop : s.loop = .spawnWaiter id hostPort) :
      Does s .loop { s with waiters := s.waiters ++ [⟨id, hostPort, .waiting⟩], loop := .idle }
  | readPort {id} (hloop : s.loop = .readPort id) :
      Does s .loop { s with loop := .stop id (s.allocs.hostPort id) }
  | releaseStopped {id hostPort exitCode} (hloop : s.loop = .releaseStopped id hostPort exitCode) :
      Does s .loop { s.release hostPort with loop := .removeStopped id hostPort exitCode }
  | removeStopped {id hostPort exitCode} (hloop : s.loop = .removeStopped id hostPort exitCode) :
      Does s .loop { s with allocs := s.allocs.remove id, loop := .reportStopped id exitCode }
  | reportStopped {id exitCode} (hloop : s.loop = .reportStopped id exitCode) :
      Does s .loop { s.send (.stopped id exitCode) with loop := .idle }
  | reportPulled {r} (hloop : s.loop = .reportPulled r) :
      Does s .loop { s.send r with loop := .idle }
  | pulled {id spec} (hloop : s.loop = .pull id spec) :
      Does s (.pulled (.ok ())) { s with loop := .reportStarting id spec }
  | pullFails {id spec e} (hloop : s.loop = .pull id spec) :
      Does s (.pulled (.error e)) { s with loop := .reportFailed id s!"image pull failed: {e}" }
  | pullCompletes {image} (hloop : s.loop = .pullOnly image) :
      Does s (.pulled (.ok ())) { s with loop := .reportPulled (.pullComplete image) }
  | pullOnlyFails {image e} (hloop : s.loop = .pullOnly image) :
      Does s (.pulled (.error e)) { s with loop := .reportPulled (.pullFailed image e) }
  | started {id spec hostPort} (hloop : s.loop = .start id spec hostPort) :
      Does s (.started (.ok ())) { s with loop := .insert id spec hostPort }
  | startFails {id spec hostPort e} (hloop : s.loop = .start id spec hostPort) :
      Does s (.started (.error e)) { s with
        loop := .releaseFailed id s!"container start failed: {e}" hostPort }
  | stopped {id hostPort result exitCode} (hloop : s.loop = .stop id hostPort) :
      Does s (.stopped result) { s with loop := .releaseStopped id hostPort exitCode }
  | exited {i w exitCode result} (hw : s.waiters[i]? = some w) (hpc : w.pc = .waiting) :
      Does s (.exited i result) { s with
        waiters := s.waiters.set i { w with pc := .setStatus exitCode } }
  | setStatus {i w exitCode} (hw : s.waiters[i]? = some w) (hpc : w.pc = .setStatus exitCode) :
      Does s (.waiter i) { s with
        allocs := s.allocs.setStatus w.allocId (exitStatus exitCode)
        waiters := s.waiters.set i { w with pc := .release exitCode } }
  | release {i w exitCode} (hw : s.waiters[i]? = some w) (hpc : w.pc = .release exitCode) :
      Does s (.waiter i) { s.release w.hostPort with
        waiters := s.waiters.set i { w with pc := .remove exitCode } }
  | remove {i w exitCode} (hw : s.waiters[i]? = some w) (hpc : w.pc = .remove exitCode) :
      Does s (.waiter i) { s with
        allocs := s.allocs.remove w.allocId
        waiters := s.waiters.set i { w with pc := .report exitCode } }
  | report {i w exitCode} (hw : s.waiters[i]? = some w) (hpc : w.pc = .report exitCode) :
      Does s (.waiter i) { s.send (.stopped w.allocId exitCode) with
        waiters := s.waiters.set i { w with pc := .done } }
  | tick (hbeat : s.pendingHeartbeat = none) :
      Does s .tick { s with pendingHeartbeat := some ⟨s.nodeId, s.allocs.allStatuses⟩ }
  | heartbeat {hb} (hbeat : s.pendingHeartbeat = some hb) :
      Does s .heartbeat { s.send (.heartbeat hb) with pendingHeartbeat := none }

lemma release_eq (s : Secondary) (hostPort : Option Nat) :
    s.release hostPort = { s with ports := hostPort.elim s.ports s.ports.release } := by
  cases hostPort <;> rfl

lemma does_of_loopStep {s s' : Secondary} (h : s.loopStep = some s') : s.Does .loop s' := by
  unfold loopStep at h
  split at h
  case h_1 id spec hloop =>
    split_ifs at h with hin <;> cases h
    · exact .present hloop hin
    · exact .absent hloop (by simpa [AllocationMap.contains] using hin)
  case h_4 id spec hloop =>
    split_ifs at h with hport
    · split at h <;> cases h
      · rename_i halloc
        obtain ⟨-, rfl⟩ := PortPool.allocate_eq_some halloc
        exact .claim hloop hport halloc
      · exact .exhausted hloop hport (by assumption)
    · cases h
      exact .portless hloop (by simpa using hport)
  case h_7 id spec hostPort hloop =>
    cases h
    cases hin : s.allocs.lookup id with
    | none =>
      simp only [AllocationMap.insertNew, hin]
      exact .insert hloop hin
    | some =>
      simp only [AllocationMap.insertNew, hin]
      exact .duplicate hloop (by rw [AllocationMap.contains, hin]; rfl)
  all_goals cases h <;> constructor <;> assumption

lemma does_of_step {s s' : Secondary} {e : SecondaryEvent} (h : s.step e = some s') :
    s.Does e s' := by
  unfold step at h
  split at h
  case h_2 => exact does_of_loopStep h
  case h_7 i =>
    split at h
    · rename_i w hw
      obtain ⟨⟨w', t⟩, ht, rfl⟩ := Option.map_eq_some_iff.mp h
      unfold waiterStep at ht
      split at ht <;> cases ht
      · exact .setStatus hw (by assumption)
      · have hdoes := Does.release hw (by assumption)
        rw [release_eq] at hdoes ⊢
        exact hdoes
      · exact .remove hw (by assumption)
      · exact .report hw (by assumption)
    · cases h
  case h_6 i result =>
    split at h
    · split_ifs at h with hpc
      cases h
      exact .exited (by assumption) hpc
    · cases h
  case h_9 =>
    obtain ⟨hb, hbeat, rfl⟩ := Option.map_eq_some_iff.mp h
    exact .heartbeat hbeat
  all_goals split at h <;> cases h <;> constructor <;> assumption

end Secondary

structure RecoveredContainer where
  allocId : AllocId
  kind : AllocKind
  timeout : Option Duration
  command : Option (List String)
  hostPort : Option Nat
  cpu : ℚ
  memory : ByteSize
  image : String
  volumes : List ContainerVolume

namespace Secondary

/-- One expected allocation. `recover` is what the labels of its container say. -/
def rehydrate (running : List AllocId) (recover : AllocId → Except String RecoveredContainer)
    (s : Secondary) (allocId : AllocId) : Secondary :=
  if allocId ∉ running then s.send (.stopped allocId (-1))
  else
    match recover allocId with
    | .error _ => s
    | .ok recovered =>
      let ports :=
        match recovered.hostPort with
        | some port => (s.ports.allocateSpecific allocId port).2
        | none => s.ports
      let s := { s with ports }
      let spec : ContainerSpec :=
        { allocId
          kind := recovered.kind
          timeout := recovered.timeout
          command := recovered.command
          image := recovered.image
          env := ∅
          port := recovered.hostPort.map fun _ => 0
          hostPort := recovered.hostPort
          cpu := recovered.cpu
          memory := recovered.memory
          volumes := recovered.volumes }
      match s.allocs.insertNew ⟨allocId, spec, .running, recovered.hostPort⟩ with
      | .error _ => s
      | .ok allocs =>
        let address := s.meshIp.bind fun ip => recovered.hostPort.map fun port => ⟨ip, port⟩
        let waiters := s.waiters ++ [⟨allocId, recovered.hostPort, .waiting⟩]
        { s with allocs, waiters }.send (.runStarted allocId recovered.hostPort address)

def demoSpec (id : AllocId) : ContainerSpec where
  allocId := id
  kind := .service
  timeout := none
  command := none
  image := "web"
  env := ∅
  port := some 80
  hostPort := none
  cpu := 1
  memory := 1
  volumes := []

end Secondary

end Mill
