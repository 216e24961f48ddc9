import Mill.Lib.List
import Mill.Node.Secondary

/-! The secondary as its allocations see it: which one the command loop is at and how far, which
are in the map, which exit waiters there are, and what was said about them. -/

namespace Mill

inductive LoopPhase
  /-- `run_container` looks whether it is there. -/
  | checking
  | clearing
  | running
  | up
  | failing
  /-- `stop_container` has not taken it out of the map yet. -/
  | stopping
  | stopped
deriving DecidableEq

def LoopPc.phase : LoopPc → Option (AllocId × LoopPhase)
  | .idle | .pullOnly _ | .reportPulled _ => none
  | .check id _ => some (id, .checking)
  | .reportPulling id _ => some (id, .clearing)
  | .pull id _ | .reportStarting id _ | .allocatePort id _ | .start id _ _ | .insert id _ _ =>
    some (id, .running)
  | .reportStarted id _ | .spawnWaiter id _ => some (id, .up)
  | .releaseFailed id _ _ | .reportFailed id _ => some (id, .failing)
  | .readPort id | .stop id _ | .releaseStopped id _ _ | .removeStopped id _ _ =>
    some (id, .stopping)
  | .reportStopped id _ => some (id, .stopped)

structure SecondaryView where
  phase : Option (AllocId × LoopPhase)
  allocs : AllocationMap
  waiters : List Waiter
  beat : Option Heartbeat
  reports : List NodeReport

def Secondary.view (s : Secondary) : SecondaryView :=
  ⟨s.loop.phase, s.allocs, s.waiters, s.pendingHeartbeat, s.reports⟩

def SecondaryView.send (v : SecondaryView) (report : NodeReport) : SecondaryView :=
  { v with reports := v.reports ++ [report] }

def NodeReport.ofImage : NodeReport → Bool
  | .pullComplete _ | .pullFailed _ _ => true
  | _ => false

namespace Secondary

inductive Moves (s : Secondary) : SecondaryEvent → SecondaryView → Prop
  | rest {e : SecondaryEvent} : Moves s e s.view
  | run {id : AllocId} {spec : ContainerSpec} {auth : Option RegistryCredentials}
      (hphase : s.loop.phase = none) :
      Moves s (.command (.run id spec auth)) { s.view with phase := some (id, .checking) }
  | stop {id : AllocId} (hphase : s.loop.phase = none) :
      Moves s (.command (.stop id)) { s.view with phase := some (id, .stopping) }
  | present {id : AllocId} {spec : ContainerSpec} (hloop : s.loop = .check id spec)
      (hin : s.allocs.contains id = true) : Moves s .loop { s.view with phase := none }
  | absent {id : AllocId} {spec : ContainerSpec} (hloop : s.loop = .check id spec)
      (hout : s.allocs.lookup id = none) :
      Moves s .loop { s.view with phase := some (id, .clearing) }
  | announce {id : AllocId} (hphase : s.loop.phase = some (id, .clearing)) :
      Moves s .loop { s.view.send (.statusUpdate id .pulling) with phase := some (id, .running) }
  | starting {id : AllocId} (hphase : s.loop.phase = some (id, .running)) :
      Moves s .loop (s.view.send (.statusUpdate id .starting))
  | exhausted {id : AllocId} {spec : ContainerSpec} (hloop : s.loop = .allocatePort id spec)
      (hport : spec.port.isSome = true) (hnone : s.ports.allocate id = none) :
      Moves s .loop { s.view with phase := none }
  | fail {e : SecondaryEvent} {id : AllocId} (hphase : s.loop.phase = some (id, .running)) :
      Moves s e { s.view with phase := some (id, .failing) }
  | insert {id : AllocId} {l : LocalAlloc} (hphase : s.loop.phase = some (id, .running))
      (hl : l.status = .running) (hout : s.allocs.lookup id = none) :
      Moves s .loop { s.view with phase := some (id, .up), allocs := s.allocs.insert id l }
  | duplicate {id : AllocId} (hphase : s.loop.phase = some (id, .running))
      (hin : s.allocs.contains id = true) : Moves s .loop { s.view with phase := some (id, .up) }
  | started {id : AllocId} {hostPort : Option Nat} {address : Option SocketAddr}
      (hphase : s.loop.phase = some (id, .up)) :
      Moves s .loop (s.view.send (.runStarted id hostPort address))
  | spawn {id : AllocId} {hostPort : Option Nat} (hphase : s.loop.phase = some (id, .up)) :
      Moves s .loop { s.view with
        phase := none, waiters := s.waiters ++ [⟨id, hostPort, .waiting⟩] }
  | runFailed {id : AllocId} {reason : String} (hphase : s.loop.phase = some (id, .failing)) :
      Moves s .loop { s.view.send (.runFailed id reason) with phase := none }
  | remove {id : AllocId} (hphase : s.loop.phase = some (id, .stopping)) :
      Moves s .loop { s.view with phase := some (id, .stopped), allocs := s.allocs.erase id }
  | stopped {id : AllocId} {exitCode : Int} (hphase : s.loop.phase = some (id, .stopped)) :
      Moves s .loop { s.view.send (.stopped id exitCode) with phase := none }
  | pulled {r : NodeReport} (hloop : s.loop = .reportPulled r) : Moves s .loop (s.view.send r)
  | exited {i : Nat} {w : Waiter} {exitCode : Int} {result : Except String Int}
      (hw : s.waiters[i]? = some w) (hpc : w.pc = .waiting) :
      Moves s (.exited i result) { s.view with
        waiters := s.waiters.set i { w with pc := .setStatus exitCode } }
  | exit {i : Nat} {w : Waiter} {exitCode : Int} (hw : s.waiters[i]? = some w)
      (hpc : w.pc = .setStatus exitCode) :
      Moves s (.waiter i) { s.view with
        waiters := s.waiters.set i { w with pc := .release exitCode }
        allocs := s.allocs.setStatus w.allocId (exitStatus exitCode) }
  | release {i : Nat} {w : Waiter} {exitCode : Int} (hw : s.waiters[i]? = some w)
      (hpc : w.pc = .release exitCode) :
      Moves s (.waiter i) { s.view with
        waiters := s.waiters.set i { w with pc := .remove exitCode } }
  | leave {i : Nat} {w : Waiter} {exitCode : Int} (hw : s.waiters[i]? = some w)
      (hpc : w.pc = .remove exitCode) :
      Moves s (.waiter i) { s.view with
        waiters := s.waiters.set i { w with pc := .report exitCode }
        allocs := s.allocs.erase w.allocId }
  | report {i : Nat} {w : Waiter} {exitCode : Int} (hw : s.waiters[i]? = some w)
      (hpc : w.pc = .report exitCode) :
      Moves s (.waiter i) { s.view.send (.stopped w.allocId exitCode) with
        waiters := s.waiters.set i { w with pc := .done } }
  | tick (hbeat : s.pendingHeartbeat = none) :
      Moves s .tick { s.view with beat := some ⟨s.nodeId, s.allocs.allStatuses⟩ }
  | heartbeat {hb : Heartbeat} (hbeat : s.pendingHeartbeat = some hb) :
      Moves s .heartbeat { s.view.send (.heartbeat hb) with beat := none }

variable {s s' : Secondary}

lemma moves_of_step {e : SecondaryEvent} (h : s.step e = some s') : s.Moves e s'.view := by
  obtain ⟨nodeId, meshIp, ports, allocs, loop, waiters, beat, reports⟩ := s
  cases does_of_step h with
  | release hw hpc =>
    rw [release_eq]
    exact .release hw hpc
  | exited hw hpc => exact .exited hw hpc
  | setStatus hw hpc => exact .exit hw hpc
  | remove hw hpc => exact .leave hw hpc
  | report hw hpc => exact .report hw hpc
  | tick hbeat => exact .tick hbeat
  | heartbeat hbeat => exact .heartbeat hbeat
  | run hloop => exact .run (by rw [hloop]; rfl)
  | stop hloop => exact .stop (by rw [hloop]; rfl)
  | present hloop hin => exact .present hloop hin
  | absent hloop hout => exact .absent hloop hout
  | exhausted hloop hport hnone => exact .exhausted hloop hport hnone
  | reportPulling hloop => exact .announce (by rw [hloop]; rfl)
  | reportFailed hloop => exact .runFailed (by rw [hloop]; rfl)
  | insert hloop hout => exact .insert (by rw [hloop]; rfl) rfl hout
  | duplicate hloop hin => exact .duplicate (by rw [hloop]; rfl) hin
  | spawnWaiter hloop => exact .spawn (by rw [hloop]; rfl)
  | removeStopped hloop => exact .remove (by rw [hloop]; rfl)
  | reportStopped hloop => exact .stopped (by rw [hloop]; rfl)
  | pullFails hloop | startFails hloop => exact .fail (by rw [hloop]; rfl)
  | reportStarting hloop =>
    cases hloop
    exact .starting rfl
  | reportStarted hloop =>
    cases hloop
    exact .started rfl
  | reportPulled hloop =>
    cases hloop
    exact .pulled rfl
  | releaseFailed hloop | releaseStopped hloop =>
    cases hloop
    rw [release_eq]
    exact .rest
  | _ hloop =>
    cases hloop
    exact .rest

/-- What `pull_image` reports is about its image. -/
def Proper (s : Secondary) : Prop := ∀ r, s.loop = .reportPulled r → r.ofImage = true

lemma proper_step {e : SecondaryEvent} (hs : s.Proper) (h : s.step e = some s') : s'.Proper := by
  cases does_of_step h <;> grind [Proper, send, release_eq, NodeReport.ofImage]

lemma nodeId_step {e : SecondaryEvent} (h : s.step e = some s') : s'.nodeId = s.nodeId := by
  cases does_of_step h <;> grind [send, release_eq]

end Secondary

def NodeReport.mentions (id : AllocId) : NodeReport → Prop
  | .heartbeat hb => id ∈ hb.allocStatuses
  | .runStarted i _ _ | .stopped i _ | .runFailed i _ | .statusUpdate i _ => i = id
  | .pullComplete _ | .pullFailed _ _ => False

instance (id : AllocId) : DecidablePred (NodeReport.mentions id) := fun e => by
  unfold NodeReport.mentions
  split <;> infer_instance

lemma NodeReport.not_mentions_of_image {r : NodeReport} (hr : r.ofImage = true) (id : AllocId) :
    ¬ r.mentions id := by
  cases r with
  | pullComplete => exact not_false
  | pullFailed => exact not_false
  | _ => cases hr

def NodeCommand.about : NodeCommand → Option AllocId
  | .run id _ _ | .stop id => some id
  | .pull _ _ => none

namespace SecondaryView

/-- The node has still something to do with the allocation, or has said something about it that is
still under way. -/
inductive Knows (v : SecondaryView) (id : AllocId) : Prop
  | entry (h : id ∈ v.allocs)
  | loop (phase : LoopPhase) (h : v.phase = some (id, phase))
  | waiter (w : Waiter) (hw : w ∈ v.waiters) (hid : w.allocId = id) (hpc : w.pc ≠ .done)
  | beat (hb : Heartbeat) (hhb : v.beat = some hb) (h : id ∈ hb.allocStatuses)
  | report (r : NodeReport) (hr : r ∈ v.reports) (h : r.mentions id)

variable {v v' : SecondaryView} {id : AllocId}

lemma knows_iff : v.Knows id ↔ id ∈ v.allocs ∨ v.phase.map Prod.fst = some id ∨
    (∃ w ∈ v.waiters, w.allocId = id ∧ w.pc ≠ .done) ∨ (∃ hb ∈ v.beat, id ∈ hb.allocStatuses) ∨
    ∃ r ∈ v.reports, r.mentions id := by
  constructor
  · rintro (h | ⟨phase, h⟩ | ⟨w, hw, hid, hpc⟩ | ⟨hb, hhb, h⟩ | ⟨r, hr, h⟩) <;> grind
  · rintro (h | h | ⟨w, hw, hid, hpc⟩ | ⟨hb, hhb, h⟩ | ⟨r, hr, h⟩)
    · exact .entry h
    · obtain ⟨⟨i, phase⟩, hphase, rfl⟩ := Option.map_eq_some_iff.mp h
      exact .loop phase hphase
    · exact .waiter w hw hid hpc
    · exact .beat hb hhb h
    · exact .report r hr h

instance (v : SecondaryView) (id : AllocId) : Decidable (v.Knows id) :=
  decidable_of_iff _ knows_iff.symm

lemma Knows.of_subset {reports : List NodeReport} (h : { v with reports }.Knows id)
    (hsub : reports ⊆ v.reports) : v.Knows id := by
  rw [knows_iff] at h ⊢
  grind

end SecondaryView

lemma AllocationMap.mem_setStatus {map : AllocationMap} {id i : AllocId} {status : AllocStatus} :
    id ∈ map.setStatus i status ↔ id ∈ map := by
  rw [Finmap.mem_iff, Finmap.mem_iff, AllocationMap.setStatus, Finmap.lookup_modify]
  split_ifs
  · simp
  · rfl

lemma AllocationMap.mem_allStatuses {map : AllocationMap} {id : AllocId} :
    id ∈ map.allStatuses ↔ id ∈ map := by
  rw [Finmap.mem_iff, Finmap.mem_iff, AllocationMap.allStatuses, Finmap.lookup_mapVals]
  simp

namespace Secondary

variable {s : Secondary} {e : SecondaryEvent} {v : SecondaryView} {id : AllocId}

lemma not_knows_init {nodeId : NodeId} {meshIp : Option IpAddr} {ports : PortPool} :
    ¬ (init nodeId meshIp ports).view.Knows id := by
  rintro (h | ⟨phase, h⟩ | ⟨w, hw, -, -⟩ | ⟨hb, hhb, -⟩ | ⟨r, hr, -⟩)
  · exact absurd h Finmap.notMem_empty
  · cases h
  · cases hw
  · cases hhb
  · cases hr

attribute [local grind] view SecondaryView.send NodeReport.mentions NodeCommand.about
attribute [local grind →] List.mem_or_eq_of_mem_set List.mem_of_getElem?
attribute [local grind =] Finmap.mem_insert Finmap.mem_erase AllocationMap.mem_setStatus
  AllocationMap.mem_allStatuses

lemma Moves.knows (hs : s.Proper) (h : s.Moves e v) (hv : v.Knows id) :
    s.view.Knows id ∨ ∃ cmd, e = .command cmd ∧ cmd.about = some id := by
  rw [SecondaryView.knows_iff] at hv ⊢
  cases h with
  | pulled hloop =>
    have hother := NodeReport.not_mentions_of_image (hs _ hloop) id
    grind
  | @heartbeat hb hbeat =>
    have hmem : hb ∈ s.view.beat := hbeat
    grind
  | absent => grind [LoopPc.phase]
  | _ => grind

end Secondary

end Mill
