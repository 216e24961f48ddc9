import Mill.Lib.List
import Mill.Node.Secondary

/-! Who owns a host port. -/

namespace Mill

open Transition

namespace LoopPc

/-- The allocation that `run_container` is starting, from the check that it is
not there to the insert. -/
def running : LoopPc → Option AllocId
  | reportPulling id _ | pull id _ | reportStarting id _ | allocatePort id _ => some id
  | start id _ _ | insert id _ _ => some id
  | _ => none

def starting : LoopPc → Option (AllocId × Nat)
  | start id _ (some p) | insert id _ (some p) => some (id, p)
  | _ => none

end LoopPc

namespace Secondary

/-- The port that a step gives back to the pool. -/
def releases (s : Secondary) : SecondaryEvent → Option Nat
  | .loop =>
    match s.loop with
    | .releaseFailed _ _ hostPort | .releaseStopped _ hostPort _ => hostPort
    | _ => none
  | .waiter i =>
    match s.waiters[i]? with
    | some ⟨_, hostPort, .release _⟩ => hostPort
    | _ => none
  | _ => none

/-- No port is given back while an entry of the map has it or a container is being started with
it. `stop_container` and the exit waiters give the port of an entry back before they remove it. -/
def Unheld (s : Secondary) (e : SecondaryEvent) : Prop :=
  ∀ p ∈ s.releases e, (s.allocs.any fun _ a => a.hostPort == some p) = false ∧
    ∀ x ∈ s.loop.starting, x.2 ≠ p

instance (s : Secondary) : DecidablePred s.Unheld := fun _ =>
  inferInstanceAs (Decidable (∀ p ∈ (_ : Option Nat), _ ∧ _))

structure PortsOwned (s : Secondary) : Prop where
  held : ∀ id p, s.allocs.hostPort id = some p → s.ports.owner p = some id
  absent : ∀ id, s.loop.running = some id → s.allocs.lookup id = none
  claimed : ∀ x, s.loop.starting = some x → s.ports.owner x.2 = some x.1

section

@[grind =]
lemma hostPort_remove (allocs : AllocationMap) (id id' : AllocId) :
    (allocs.remove id).hostPort id' = if id' = id then none else allocs.hostPort id' := by
  grind [AllocationMap.hostPort, AllocationMap.remove, Finmap.lookup_erase_eq]

variable {allocs : AllocationMap} {id : AllocId}

lemma lookup_remove_eq_none
    (h : allocs.lookup id = none) (id' : AllocId) : (allocs.remove id').lookup id = none := by
  grind [AllocationMap.remove, Finmap.lookup_erase_eq]

@[grind =]
lemma hostPort_setStatus (allocs : AllocationMap) (id id' : AllocId) (status : AllocStatus) :
    (allocs.setStatus id status).hostPort id' = allocs.hostPort id' := by
  cases hl : allocs.lookup id' <;>
    grind [AllocationMap.hostPort, AllocationMap.setStatus, Finmap.lookup_modify]

lemma lookup_setStatus_eq_none (h : allocs.lookup id = none) (id' : AllocId)
    (status : AllocStatus) : (allocs.setStatus id' status).lookup id = none := by
  grind [AllocationMap.setStatus, Finmap.lookup_modify]

lemma hostPort_ne_of_any {p : Nat} (h : (allocs.any fun _ a => a.hostPort == some p) = false)
    (id : AllocId) : allocs.hostPort id ≠ some p := by
  intro hp
  obtain ⟨a, ha, hport⟩ := Option.bind_eq_some_iff.mp hp
  have hne := Finmap.any_eq_false.mp h id a ha
  rw [hport, beq_self_eq_true] at hne
  cases hne

end

variable {s s' : Secondary} {id : AllocId} {p : Nat}

attribute [local grind] LoopPc.running LoopPc.starting send
attribute [local grind =] PortPool.owner_release PortPool.owner_claim Option.mem_def
  lookup_remove_eq_none lookup_setStatus_eq_none

lemma PortsOwned.release (h : PortsOwned s) {e : SecondaryEvent} (hu : Unheld s e) :
    PortsOwned (s.release (s.releases e)) := by
  cases hp : s.releases e with
  | none => exact h
  | some p =>
    obtain ⟨hfree, hstart⟩ := hu p hp
    have hne := hostPort_ne_of_any hfree
    obtain ⟨hheld, habsent, hclaimed⟩ := h
    refine ⟨fun id q hq => ?_, habsent, fun x hx => ?_⟩
    · have hown := hheld id q hq
      grind [Secondary.release]
    · have hown := hclaimed x hx
      have hother := hstart x hx
      grind [Secondary.release]

lemma PortsOwned.insert (h : PortsOwned s) {spec : ContainerSpec}
    {hostPort : Option Nat} (hl : s.loop = .insert id spec hostPort) :
    PortsOwned { s with
      allocs := s.allocs.insert id ⟨id, spec, .running, hostPort⟩
      loop := .reportStarted id hostPort } := by
  refine ⟨fun id' p hp => ?_, nofun, nofun⟩
  have hnew : AllocationMap.hostPort (s.allocs.insert id ⟨id, spec, .running, hostPort⟩) id' =
      if id' = id then hostPort else s.allocs.hostPort id' := by
    grind [AllocationMap.hostPort, Finmap.lookup_insert_eq]
  rw [hnew] at hp
  split_ifs at hp with heq
  · subst heq hp
    exact h.claimed (id', p) (by rw [hl]; rfl)
  · exact h.held id' p hp

lemma portsOwned_step {e : SecondaryEvent} (h : PortsOwned s) (hu : Unheld s e)
    (hs : s.step e = some s') : PortsOwned s' := by
  have hreleased := h.release hu
  obtain ⟨hheld, habsent, hclaimed⟩ := h
  cases does_of_step hs with
  | @claim id spec spec' port hl hport halloc =>
    -- the port has no owner, so no entry has it
    have hfree := (PortPool.allocate_eq_some halloc).1
    refine ⟨?_, ?_, ?_⟩ <;> grind
  | insert hl => exact PortsOwned.insert ⟨hheld, habsent, hclaimed⟩ hl
  | releaseFailed hl | releaseStopped hl =>
    simp only [releases, hl] at hreleased
    exact ⟨hreleased.held, nofun, nofun⟩
  | @release i w exitCode hw hpc =>
    obtain ⟨id, hostPort, pc⟩ := w
    subst hpc
    simp only [releases, hw] at hreleased
    exact ⟨hreleased.held, hreleased.absent, hreleased.claimed⟩
  | @started id spec hostPort hl | @startFails id spec hostPort e hl =>
    rw [hl] at habsent hclaimed
    cases hostPort <;> refine ⟨?_, ?_, ?_⟩ <;> grind
  | setStatus hw hpc =>
    refine ⟨?_, fun id hid => lookup_setStatus_eq_none (habsent id hid) _ _, hclaimed⟩
    grind
  | remove hw =>
    refine ⟨?_, fun id hid => lookup_remove_eq_none (habsent id hid) _, hclaimed⟩
    grind
  | _ => refine ⟨?_, ?_, ?_⟩ <;> grind

/-- As long as no port is given back while it is in use, no two entries of the map hold one port,
and the port of every entry is recorded for it. -/
theorem port_ownership (nodeId : NodeId) (meshIp : Option IpAddr) (ports : PortPool)
    (es : List SecondaryEvent) (s : Secondary)
    (hguard : Guarded step Unheld (init nodeId meshIp ports) es)
    (hrun : run step (init nodeId meshIp ports) es = some s) :
    (∀ id₁ id₂ p, s.allocs.hostPort id₁ = some p → s.allocs.hostPort id₂ = some p → id₁ = id₂) ∧
    ∀ id p, s.allocs.hostPort id = some p → s.ports.owner p = some id := by
  have hinit : PortsOwned (init nodeId meshIp ports) := ⟨fun _ _ => nofun, nofun, nofun⟩
  have h : PortsOwned s :=
    run_invariant (fun _ _ _ h hu hs => portsOwned_step h hu hs) hinit hguard hrun
  refine ⟨fun id₁ id₂ p h₁ h₂ => ?_, h.held⟩
  exact Option.some.inj ((h.held id₁ p h₁).symm.trans (h.held id₂ p h₂))

def demoInit : Secondary := init ⟨"n"⟩ none (.withRange 49152 49153 ∅)

def demoRun (id : AllocId) : List SecondaryEvent :=
  [.command (.run id (demoSpec id) none), .loop, .loop, .pulled (.ok ()), .loop, .loop,
    .started (.ok ()), .loop, .loop, .loop]

def demoStop (id : AllocId) : List SecondaryEvent :=
  [.command (.stop id), .loop, .stopped (.ok 0), .loop, .loop, .loop]

def demoFails (id : AllocId) : List SecondaryEvent :=
  [.command (.run id (demoSpec id) none), .loop, .loop, .pulled (.ok ()), .loop, .loop,
    .started (.error "no memory"), .loop, .loop]

theorem port_ownership_failed : ∃ s, run step demoInit
        (demoRun ⟨"a"⟩ ++ demoFails ⟨"b"⟩ ++ demoRun ⟨"c"⟩) = some s ∧
      s.allocs.hostPort ⟨"a"⟩ = some 49152 ∧ s.ports.owner 49152 = some ⟨"a"⟩ ∧
      s.allocs.hostPort ⟨"c"⟩ = some 49153 ∧ s.ports.owner 49153 = some ⟨"c"⟩ := by
  have howned := fun s hrun => (port_ownership ⟨"n"⟩ none (.withRange 49152 49153 ∅)
    (demoRun ⟨"a"⟩ ++ demoFails ⟨"b"⟩ ++ demoRun ⟨"c"⟩) s (by decide +kernel) hrun).2
  exact ⟨_, rfl, by decide, howned _ rfl ⟨"a"⟩ 49152 (by decide), by decide,
    howned _ rfl ⟨"c"⟩ 49153 (by decide)⟩

/-- The waiter of a stopped container releases the port once more when it is the
port of the next one already, and a third container gets it too. -/
theorem port_shared : ∃ s, run step demoInit (demoRun ⟨"a"⟩ ++ demoStop ⟨"a"⟩ ++ demoRun ⟨"b"⟩ ++
        [.exited 0 (.ok 0), .waiter 0, .waiter 0] ++ demoRun ⟨"c"⟩) = some s ∧
      s.allocs.hostPort ⟨"b"⟩ = some 49152 ∧ s.allocs.hostPort ⟨"c"⟩ = some 49152 ∧
      s.ports.owner 49152 = some ⟨"c"⟩ := by
  refine ⟨_, rfl, ?_, ?_, ?_⟩ <;> decide

end Secondary

end Mill
