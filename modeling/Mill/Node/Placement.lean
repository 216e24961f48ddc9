import Mill.Node.Capacity
import Mill.Node.Protocol

/-! Concurrent `start_alloc` and `spawn_task` runs over one replicated state. -/

namespace Mill

open Transition

inductive Work
  | service (d : ServiceDef)
  | task (image : String) (command : Option (List String)) (timeout : Option Duration)
      (resources : Resources)

namespace Work

def resources : Work → Resources
  | service d => d.resources
  | task _ _ _ resources => resources

def kind : Work → AllocKind
  | service _ => .service
  | task .. => .task

def volume : Work → Option String
  | service d => d.volumes.head?.map VolumeDef.name
  | task .. => none

/-- The container that the node is asked to run; `env` is the resolved environment. -/
def containerSpec (allocId : AllocId) (env : Finmap fun _ : String => String) : Work → ContainerSpec
  | service d =>
    { allocId, kind := .service, timeout := none, command := d.command, image := d.image, env
      port := some d.port
      hostPort := none
      cpu := d.resources.cpu
      memory := d.resources.memory
      volumes := d.volumes.map fun v => ⟨v.name, v.path, v.ephemeral⟩ }
  | task image command timeout resources =>
    { allocId, kind := .task, timeout, command, image, env
      port := none
      hostPort := none
      cpu := resources.cpu
      memory := resources.memory
      volumes := [] }

end Work

inductive PlacementPc
  | scheduling
  | placed (node : NodeId)
  | located (node : NodeId) (raftId : Nat)
  | recorded (node : NodeId)
  | sent
  | started
  | addressed
  | finished
deriving DecidableEq

structure PlacementRun where
  name : String
  allocId : AllocId
  work : Work
  pc : PlacementPc

inductive RunEvent
  | place (nodes : List FsmNode) (allocs : List Alloc) (volumes : List (Σ _ : String, FsmVolume))
  | locate (nodes : List FsmNode)
  | propose
  | sendRun (env : Finmap fun _ : String => String)
  | waitForStatus
  | pollForAddress
  | proposeHealthy
  | proposeFailed (reason : String)
  | giveUp

structure Outcome where
  pc : PlacementPc
  command : Option Command := none
  message : Option (NodeId × NodeCommand) := none

namespace PlacementRun

def request (r : PlacementRun) : ScheduleRequest :=
  ⟨r.work.resources, r.name, r.work.kind, r.work.volume⟩

def place (r : PlacementRun) (fsm : FsmState) (nodes : List FsmNode) (allocs : List Alloc)
    (volumes : List (Σ _ : String, FsmVolume)) : Option NodeId :=
  let volumes :=
    match r.work with
    | .service _ => volumes.map fun v => (v.1, v.2)
    | .task .. => []
  schedule r.request nodes (allocs.map fun a => (a.node, a.name, a.kind)) volumes
    fsm.nodeAvailableResources

/-- `wait_for_status` returns without an error: the allocation runs, or has
stopped by itself. -/
def hasStarted : AllocStatus → Bool
  | .stopped _ => true
  | status => status.isActive

def step (fsm : FsmState) (r : PlacementRun) : RunEvent → Option Outcome
  | .place nodes allocs volumes =>
    if r.pc = .scheduling ∧ fsm.nodes.values = nodes ∧ fsm.allocs.values = allocs ∧
        fsm.volumes.entries = volumes then
      match r.place fsm nodes allocs volumes with
      | some node => some { pc := .placed node }
      | none => some { pc := .finished }
    else none
  | .locate nodes =>
    match r.pc with
    | .placed node =>
      if fsm.nodes.values = nodes then
        match FsmState.raftIdFor nodes node with
        | some raftId => some { pc := .located node raftId }
        | none => some { pc := .finished }
      else none
    | _ => none
  | .propose =>
    match r.pc with
    | .located node raftId =>
      -- the response is not looked at, so a node that is gone by now makes no difference
      some
        { pc := .recorded node
          command := some (.allocScheduled r.allocId raftId r.name r.work.kind none
            (.ofResources r.work.resources)) }
    | _ => none
  | .sendRun env =>
    match r.pc with
    | .recorded node =>
      some
        { pc := .sent
          message := some (node, .run r.allocId (r.work.containerSpec r.allocId env) none) }
    | _ => none
  | .waitForStatus =>
    if r.pc = .sent ∧ (fsm.allocs.lookup r.allocId).any fun a => hasStarted a.status then
      match r.work with
      | .service _ => some { pc := .started }
      | .task .. => some { pc := .finished }
    else none
  | .pollForAddress =>
    if r.pc = .started ∧ (fsm.allocs.lookup r.allocId).any fun a => a.address.isSome then
      some { pc := .addressed }
    else none
  | .proposeHealthy =>
    if r.pc = .addressed then
      some { pc := .finished, command := some (.allocStatus r.allocId .healthy) }
    else none
  | .proposeFailed reason =>
    match r.work, r.pc with
    | .service _, .recorded _ | .service _, .sent | .service _, .started
    | .service _, .addressed =>
      some { pc := .finished, command := some (.allocStatus r.allocId (.failed reason)) }
    | _, _ => none
  | .giveUp => if r.pc = .finished then none else some { pc := .finished }

variable {fsm : FsmState} {r : PlacementRun} {nodes : List FsmNode}

lemma step_propose {o : Outcome} (h : r.step fsm .propose = some o) :
    ∃ node raftId, r.pc = .located node raftId ∧
      o = ⟨.recorded node, some (.allocScheduled r.allocId raftId r.name r.work.kind none
        (.ofResources r.work.resources)), none⟩ := by
  unfold step at h
  dsimp only at h
  split at h
  · rename_i node raftId hpc
    cases h
    exact ⟨node, raftId, hpc, rfl⟩
  · cases h

end PlacementRun

structure PlacementSystem where
  fsm : FsmState
  runs : List PlacementRun
  sent : List (NodeId × NodeCommand)

inductive PlacementEvent
  | start (name : String) (allocId : AllocId) (work : Work)
  | run (i : Nat) (e : RunEvent)
  | commit (c : Command)

def Command.schedules : Command → Bool
  | .allocScheduled .. => true
  | _ => false

namespace PlacementSystem

def command (s : PlacementSystem) : PlacementEvent → Option Command
  | .start .. => none
  | .run i e => do
    let r ← s.runs[i]?
    let o ← r.step s.fsm e
    o.command
  | .commit c => some c

def applied (fsm : FsmState) : Option Command → FsmState
  | some c => (applyCommand fsm c).1
  | none => fsm

def step (s : PlacementSystem) : PlacementEvent → Option PlacementSystem
  | .start name allocId work =>
    some { s with runs := s.runs ++ [⟨name, allocId, work, .scheduling⟩] }
  | .run i e => do
    let r ← s.runs[i]?
    let o ← r.step s.fsm e
    some
      { fsm := applied s.fsm o.command
        runs := s.runs.set i { r with pc := o.pc }
        sent := s.sent ++ o.message.toList }
  | .commit c => if c.schedules then none else some { s with fsm := (applyCommand s.fsm c).1 }

def init (fsm : FsmState) : PlacementSystem := ⟨fsm, [], []⟩

def Admitted (s : PlacementSystem) (e : PlacementEvent) : Prop :=
  ∀ c ∈ s.command e, s.fsm.Admits c

instance (s : PlacementSystem) (e : PlacementEvent) : Decidable (s.Admitted e) :=
  inferInstanceAs (Decidable (∀ c ∈ s.command e, s.fsm.Admits c))

variable {s s' : PlacementSystem}

lemma step_run_eq_some {i : Nat} {e : RunEvent} :
    s.step (.run i e) = some s' ↔ ∃ r o, s.runs[i]? = some r ∧ r.step s.fsm e = some o ∧
      s' = ⟨applied s.fsm o.command, s.runs.set i { r with pc := o.pc },
        s.sent ++ o.message.toList⟩ := by
  simp only [step, Option.bind_eq_bind, Option.bind_eq_some_iff, Option.some.injEq]
  constructor
  · rintro ⟨r, hr, o, ho, rfl⟩
    exact ⟨r, o, hr, ho, rfl⟩
  · rintro ⟨r, o, hr, ho, rfl⟩
    exact ⟨r, hr, o, ho, rfl⟩

lemma step_fsm {e : PlacementEvent} (h : s.step e = some s') :
    s'.fsm = applied s.fsm (s.command e) := by
  cases e with
  | start =>
    cases h
    rfl
  | run =>
    obtain ⟨r, o, hr, ho, rfl⟩ := step_run_eq_some.mp h
    simp only [command, hr, ho, Option.bind_eq_bind, Option.bind_some]
  | commit =>
    rw [step, Option.ite_none_left_eq_some] at h
    cases h.2
    rfl

lemma solvent_step {e : PlacementEvent} (hs : s.fsm.Solvent)
    (hroom : s.Admitted e) (h : s.step e = some s') : s'.fsm.Solvent := by
  rw [step_fsm h]
  cases hc : s.command e with
  | none => exact hs
  | some c => exact FsmState.solvent_applyCommand hs (hroom c hc)

lemma solvent_run {es : List PlacementEvent} (hs : s.fsm.Solvent)
    (hroom : Guarded step Admitted s es) (hr : run step s es = some s') : s'.fsm.Solvent :=
  run_invariant (I := fun s => s.fsm.Solvent) (fun _ _ _ => solvent_step) hs hroom hr

lemma fsm_of_propose {i : Nat} {r : PlacementRun} {node : NodeId}
    {raftId : Nat} (hr : s.runs[i]? = some r) (hpc : r.pc = .located node raftId)
    (h : s.step (.run i .propose) = some s') :
    s'.fsm = (applyCommand s.fsm (.allocScheduled r.allocId raftId r.name r.work.kind none
      (.ofResources r.work.resources))).1 := by
  obtain ⟨r', o, hr', ho, rfl⟩ := step_run_eq_some.mp h
  rw [hr] at hr'
  cases hr'
  obtain ⟨node', raftId', hpc', rfl⟩ := PlacementRun.step_propose ho
  cases hpc.symm.trans hpc'
  rfl

/-- From a state in which no node is overcommitted, no interleaving of runs and
other commands overcommits one, as long as there is room for each allocation when
it is committed, no status revives a terminal allocation and only new nodes
register. For the commit of a new allocation the condition is exact. -/
theorem placement_within_totals (fsm : FsmState) (hfsm : fsm.NotOvercommitted)
    (hcpu : ∀ i a, fsm.allocs.lookup i = some a → 0 ≤ a.resources.cpu) (es : List PlacementEvent)
    (s : PlacementSystem) (hroom : Guarded step Admitted (init fsm) es)
    (hr : run step (init fsm) es = some s) :
    s.fsm.NotOvercommitted ∧
      ∀ i r node raftId n s', s.runs[i]? = some r → r.pc = .located node raftId →
        s.fsm.nodes.lookup raftId = some n → s.fsm.allocs.lookup r.allocId = none →
        s.step (.run i .propose) = some s' →
          (s'.fsm.NotOvercommitted ↔ s.fsm.fits n.millId r.work.resources = true) := by
  have hs : s.fsm.Solvent := solvent_run ⟨hcpu, hfsm⟩ hroom hr
  refine ⟨hs.within, ?_⟩
  intro i r node raftId n s' hrun hpc hn hfresh hstep
  rw [fsm_of_propose hrun hpc hstep]
  exact FsmState.within_allocScheduled_iff hs hn hfresh _ _ _ _

section

variable {fsm : FsmState} {nodes : List FsmNode} {m : NodeId} {raftId : Nat}

/-- A node that placement chooses still has room when the allocation is recorded in the state it
was chosen from, and the other nodes lose nothing by it, unless the allocation replaces a live one
that takes less than nothing. -/
theorem schedule_keeps_capacity (hfsm : fsm.DistinctNodes) (hwithin : fsm.NotOvercommitted)
    {nodes' : List FsmNode} (hnodes : fsm.nodes.values = nodes)
    (hnodes' : fsm.nodes.values = nodes') {request : ScheduleRequest}
    {allocs : List (NodeId × String × AllocKind)} {volumes : List (String × FsmVolume)}
    (hplace : schedule request nodes allocs volumes fsm.nodeAvailableResources = some m)
    (hid : FsmState.raftIdFor nodes' m = some raftId) {allocId : AllocId}
    (hcpu : ∀ a, fsm.allocs.lookup allocId = some a → a.status.isTerminal = false →
      0 ≤ a.resources.cpu)
    (name : String) (kind : AllocKind) (address : Option SocketAddr) :
    (applyCommand fsm (.allocScheduled allocId raftId name kind address
      (.ofResources request.need))).1.NotOvercommitted := by
  obtain ⟨n, hn, hfits⟩ := FsmState.exists_fits_of_schedule hfsm hnodes hnodes' hplace hid
  exact FsmState.within_allocScheduled hwithin hn hcpu name kind address _ hfits

def demoSmall : FsmNode :=
  ⟨1, ⟨"a"⟩, ⟨.v4 0, 0⟩, ⟨1, 1, 8192, 8192⟩, .ready, none, none, none, none⟩

def demoLarge : FsmNode :=
  ⟨2, ⟨"b"⟩, ⟨.v4 0, 0⟩, ⟨4, 4, 8192, 8192⟩, .ready, none, none, none, none⟩

def demoReused (cpu : ℚ) : Alloc :=
  ⟨⟨"web-0"⟩, ⟨"a"⟩, "web", .service, .running, none, ⟨cpu, 1024⟩, none⟩

def demoShared (cpu : ℚ) : FsmState :=
  { (default : FsmState) with
    nodes := (Finmap.singleton 2 demoLarge).insert 1 demoSmall
    allocs := (Finmap.singleton ⟨"web-0"⟩ (demoReused cpu)).insert ⟨"api-0"⟩
      ⟨⟨"api-0"⟩, ⟨"a"⟩, "api", .service, .running, none, ⟨1 - cpu, 1024⟩, none⟩ }

def demoRequest : ScheduleRequest := ⟨⟨1, 1024⟩, "web", .service, none⟩

theorem schedule_keeps_capacity_reused :
    schedule demoRequest [demoSmall, demoLarge] [] [] (demoShared (1 / 2)).nodeAvailableResources =
        some ⟨"b"⟩ ∧
      (applyCommand (demoShared (1 / 2)) (.allocScheduled ⟨"web-0"⟩ 2 "web" .service none
        (.ofResources demoRequest.need))).1.NotOvercommitted := by
  have hnodes : (demoShared (1 / 2)).nodes.values = [demoSmall, demoLarge] := by decide +kernel
  have hplace : schedule demoRequest [demoSmall, demoLarge] [] []
      (demoShared (1 / 2)).nodeAvailableResources = some ⟨"b"⟩ := by decide +kernel
  have hcpu (a : Alloc) (ha : (demoShared (1 / 2)).allocs.lookup ⟨"web-0"⟩ = some a)
      (_ : a.status.isTerminal = false) : 0 ≤ a.resources.cpu := by
    have hlookup : (demoShared (1 / 2)).allocs.lookup ⟨"web-0"⟩ = some (demoReused (1 / 2)) := by
      decide +kernel
    cases hlookup.symm.trans ha
    decide +kernel
  exact ⟨hplace, schedule_keeps_capacity (by decide +kernel) (by decide +kernel) hnodes hnodes
    hplace (by decide +kernel) hcpu "web" .service none⟩

/-- An allocation with a negative cpu share makes room on its node, which is gone when its id is
used again elsewhere. -/
theorem schedule_loses_negative_cpu :
    (demoShared (-5)).DistinctNodes ∧ (demoShared (-5)).NotOvercommitted ∧
      (demoShared (-5)).nodes.values = [demoSmall, demoLarge] ∧
      schedule demoRequest [demoSmall, demoLarge] [] [] (demoShared (-5)).nodeAvailableResources =
        some ⟨"b"⟩ ∧
      FsmState.raftIdFor [demoSmall, demoLarge] ⟨"b"⟩ = some 2 ∧
      ¬ (applyCommand (demoShared (-5)) (.allocScheduled ⟨"web-0"⟩ 2 "web" .service none
        (.ofResources demoRequest.need))).1.NotOvercommitted := by
  refine ⟨by decide +kernel, by decide +kernel, by decide +kernel, by decide +kernel,
    by decide +kernel, by decide +kernel⟩

end

def demoNode : FsmNode := .demo 1 "n"

def demoFsm : FsmState := { (default : FsmState) with nodes := Finmap.singleton 1 demoNode }

def demoWeb : Work := .service ⟨"web", 80, 2, ⟨3, 1024⟩, ∅, none, none, [], []⟩

def demoPlaced (i : Nat) (allocs : List Alloc) : List PlacementEvent :=
  [.run i (.place [demoNode] allocs []), .run i (.locate [demoNode])]

def demoAlloc : Alloc := ⟨⟨"web-0"⟩, ⟨"n"⟩, "web", .service, .pulling, none, ⟨3, 1024⟩, none⟩

def demoSequential : List PlacementEvent :=
  [.start "web" ⟨"web-0"⟩ demoWeb, .start "web" ⟨"web-1"⟩ demoWeb] ++ demoPlaced 0 [] ++
    [.run 0 .propose, .run 1 (.place [demoNode] [demoAlloc] [])]

def demoConcurrent : List PlacementEvent :=
  [.start "web" ⟨"web-0"⟩ demoWeb, .start "web" ⟨"web-1"⟩ demoWeb] ++ demoPlaced 0 [] ++
    demoPlaced 1 [] ++ [.run 0 .propose, .run 1 .propose]

lemma demoFsm_within : demoFsm.NotOvercommitted := by
  intro id n hn
  obtain ⟨rfl, rfl⟩ : id = 1 ∧ n = demoNode := by
    have hmem := Finmap.mem_lookup_iff.mp hn
    simpa [demoFsm, Finmap.singleton] using hmem
  unfold FsmState.WithinTotals
  decide +kernel

theorem placement_within_totals_sequential : ∃ s, run step (init demoFsm) demoSequential = some s ∧
      s.runs.map PlacementRun.pc = [.recorded ⟨"n"⟩, .finished] ∧ s.fsm.NotOvercommitted := by
  exact exists_end_and (by decide +kernel) fun s hs _ =>
    (placement_within_totals demoFsm demoFsm_within (nofun) demoSequential s
      (by decide +kernel) hs).1

/-- Two replicas started at once: both read four free cpus, and together they
reserve six. -/
theorem placement_overcommits :
    demoFsm.NotOvercommitted ∧ 0 < demoWeb.resources.cpu ∧ 0 < demoWeb.resources.memory ∧
      ∃ s, run step (init demoFsm) demoConcurrent = some s ∧
        s.fsm.nodes.lookup 1 = some demoNode ∧ s.fsm.cpuUsed ⟨"n"⟩ = 6 ∧
        ¬ s.fsm.NotOvercommitted := by
  refine ⟨demoFsm_within, by decide +kernel, by decide, exists_end (p := fun s =>
    s.fsm.nodes.lookup 1 = some demoNode ∧ s.fsm.cpuUsed ⟨"n"⟩ = 6) (by decide +kernel) ?_⟩
  rintro s - ⟨hnode, hused⟩
  refine ⟨hnode, hused, fun hwithin => ?_⟩
  have hcpu : s.fsm.cpuUsed ⟨"n"⟩ ≤ 4 := (hwithin 1 demoNode hnode).2
  rw [hused] at hcpu
  exact absurd hcpu (by decide +kernel)

end PlacementSystem

end Mill
