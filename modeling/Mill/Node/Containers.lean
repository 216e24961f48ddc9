import Mill.Node.PortOwnership
import Mill.Node.SecondaryView

/-! The containers that containerd holds for a secondary, beside the allocation map. -/

namespace Mill

open Transition

/-- `containers` are the allocations whose container carries the `mill.managed` label. -/
structure ContainerNode where
  secondary : Secondary
  containers : Finset AllocId

namespace ContainerNode

/-- What an event does to the containers, where every call to containerd succeeds. It refuses to
create a container that exists. -/
def containersAfter (s : ContainerNode) : SecondaryEvent → Option (Finset AllocId)
  | .started (.ok ()) =>
    match s.secondary.loop with
    | .start id _ _ => if id ∈ s.containers then none else some (insert id s.containers)
    | _ => none
  | .stopped (.ok _) =>
    match s.secondary.loop with
    | .stop id _ => some (s.containers.erase id)
    | _ => none
  | .pulled (.error _) | .started (.error _) | .stopped (.error _) | .exited _ (.error _) => none
  | _ => some s.containers

def step (s : ContainerNode) (e : SecondaryEvent) : Option ContainerNode :=
  (s.containersAfter e).bind fun containers =>
    (s.secondary.step e).map fun secondary => ⟨secondary, containers⟩

def init (nodeId : NodeId) (meshIp : Option IpAddr) (ports : PortPool) : ContainerNode :=
  ⟨Secondary.init nodeId meshIp ports, ∅⟩

def Idle (s : ContainerNode) : Prop :=
  s.secondary.loop = .idle ∧ ∀ w ∈ s.secondary.waiters, w.pc = .waiting ∨ w.pc = .done

end ContainerNode

namespace LoopPc

def handling : LoopPc → Option AllocId
  | insert id _ _ | readPort id | stop id _ | releaseStopped id _ _ | removeStopped id _ _ =>
    some id
  | _ => none

/-- `run_container` found no such allocation, and has not inserted it yet. -/
def fresh : LoopPc → Option AllocId
  | reportPulling id _ | pull id _ | reportStarting id _ | allocatePort id _ | start id _ _
  | insert id _ _ => some id
  | _ => none

def created : LoopPc → Option AllocId
  | insert id _ _ => some id
  | _ => none

def stopping : LoopPc → Option AllocId
  | readPort id | stop id _ => some id
  | _ => none

def destroyed : LoopPc → Option AllocId
  | releaseStopped id _ _ | removeStopped id _ _ => some id
  | _ => none

end LoopPc

def WaiterPc.isRemove : WaiterPc → Bool
  | remove _ => true
  | _ => false

namespace ContainerNode

def Removed (s : ContainerNode) : SecondaryEvent → Prop
  | .waiter i => ∀ w ∈ s.secondary.waiters[i]?, w.pc.isRemove = true →
    w.allocId ∈ s.containers → w.allocId ∈ s.secondary.allocs →
      s.secondary.loop.stopping = some w.allocId
  | _ => True

instance (s : ContainerNode) : DecidablePred s.Removed := fun e => by
  unfold Removed
  split <;> infer_instance

instance : DecidablePred Idle := fun s =>
  inferInstanceAs (Decidable (s.secondary.loop = .idle ∧ ∀ w ∈ s.secondary.waiters, _))

lemma handling_of_stopping {loop : LoopPc} {id : AllocId} (h : loop.stopping = some id) :
    loop.handling = some id := by
  cases loop <;> grind [LoopPc.stopping, LoopPc.handling]

structure Tracked (s : ContainerNode) : Prop where
  same : ∀ id, s.secondary.loop.handling ≠ some id → (id ∈ s.containers ↔ id ∈ s.secondary.allocs)
  fresh : ∀ id, s.secondary.loop.fresh = some id → id ∉ s.secondary.allocs
  created : ∀ id, s.secondary.loop.created = some id → id ∈ s.containers
  destroyed : ∀ id, s.secondary.loop.destroyed = some id → id ∉ s.containers

attribute [local grind] LoopPc.handling LoopPc.fresh LoopPc.created LoopPc.destroyed
  Secondary.send AllocationMap.remove
attribute [local grind =] Finmap.mem_insert Finmap.mem_erase AllocationMap.mem_setStatus
  Finmap.lookup_eq_none Secondary.release_eq

lemma Tracked.step {s s' : ContainerNode} {e : SecondaryEvent} (h : s.Tracked)
    (hremoved : s.Removed e) (hstep : s.step e = some s') : s'.Tracked := by
  obtain ⟨containers, hc, hmap⟩ := Option.bind_eq_some_iff.mp hstep
  obtain ⟨t, ht, rfl⟩ := Option.map_eq_some_iff.mp hmap
  obtain ⟨hsame, hfresh, hcreated, hdestroyed⟩ := h
  cases Secondary.does_of_step ht with
  | remove hw =>
    cases hc
    have hstopping := hremoved _ hw
    constructor <;> grind [handling_of_stopping, WaiterPc.isRemove]
  | started => constructor <;> grind [containersAfter]
  | @stopped _ _ result | @exited _ _ _ result =>
    cases result with
    | error => cases hc
    | ok => constructor <;> grind [containersAfter]
  | duplicate hloop hin =>
    exact absurd (Finmap.lookup_isSome.mp hin) (hfresh _ (by rw [hloop]; rfl))
  | _ => cases hc <;> constructor <;> grind

/-- In every run in which an exit waiter takes an allocation out of the map only once its container
is gone or being stopped, the managed containers are those of the map whenever no operation is in
progress. -/
theorem containers_eq_keys {nodeId : NodeId} {meshIp : Option IpAddr} {ports : PortPool}
    {es : List SecondaryEvent} {s : ContainerNode}
    (hremoved : Guarded step Removed (init nodeId meshIp ports) es)
    (hr : run step (init nodeId meshIp ports) es = some s) (hidle : s.Idle) :
    ∀ id, id ∈ s.containers ↔ id ∈ s.secondary.allocs := by
  have hinit : (init nodeId meshIp ports).Tracked := by
    refine ⟨fun id _ => ?_, fun _ hid => ?_, fun _ hid => ?_, fun _ hid => ?_⟩
    · exact iff_of_false (Finset.notMem_empty id) Finmap.notMem_empty
    · cases hid
    · cases hid
    · cases hid
  have htracked : s.Tracked := run_invariant (I := Tracked)
    (fun s e s' h hP hstep => h.step hP hstep) hinit hremoved hr
  intro id
  apply htracked.same
  rw [hidle.1]
  exact (Option.some_ne_none id).symm

def demoNode : ContainerNode := init ⟨"n"⟩ none (.withRange 49152 49153 ∅)

def demoRun (id : AllocId) : List SecondaryEvent :=
  [.command (.run id (Secondary.demoSpec id) none), .loop, .loop, .pulled (.ok ()), .loop, .loop,
    .started (.ok ()), .loop, .loop, .loop]

def demoWaiter (i : Nat) : List SecondaryEvent :=
  [.exited i (.ok 0), .waiter i, .waiter i, .waiter i, .waiter i]

/-- A container that exits on its own stays in containerd for good. -/
theorem exited_container_stays :
    ∃ s, run step demoNode (demoRun ⟨"web-0"⟩ ++ demoWaiter 0) = some s ∧ s.Idle ∧
      s.containers = {⟨"web-0"⟩} ∧ s.secondary.allocs = ∅ := by
  decide +kernel

def demoStop : List SecondaryEvent :=
  demoRun ⟨"web-0"⟩ ++ demoRun ⟨"web-1"⟩ ++
    [.command (.stop ⟨"web-0"⟩), .loop, .stopped (.ok 0), .loop, .loop, .loop] ++ demoWaiter 0

theorem containers_eq_keys_of_stop :
    ∃ s, run step demoNode demoStop = some s ∧ s.containers = {⟨"web-1"⟩} ∧
      ∀ id, id ∈ s.containers ↔ id ∈ s.secondary.allocs := by
  refine exists_end (p := fun s => s.Idle ∧ s.containers = {⟨"web-1"⟩})
    (by decide +kernel) fun s hs ⟨hidle, hcontainers⟩ => ?_
  exact ⟨hcontainers, containers_eq_keys (by decide +kernel) hs hidle⟩

end ContainerNode

end Mill
