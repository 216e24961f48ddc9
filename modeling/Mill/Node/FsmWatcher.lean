import Mill.Lib.Watch
import Mill.Raft.StateMachine

/-! What is derived from the replicated state and kept beside it: DNS records and proxy routes. -/

namespace Mill

open Transition

variable {B T : Type}

inductive StateWrite (B : Type)
  | apply (entries : List Entry)
  | installSnapshot (snapMeta : SnapshotMeta) (data : B)

/-- The section of `apply` or `install_snapshot` that holds the lock. A snapshot that cannot be
decoded is refused before. -/
def StateMachineInner.write (serde : Serde B) (inner : StateMachineInner) :
    StateWrite B → Option StateMachineInner
  | .apply entries =>
    let (inner, _) := StateMachineStore.applyEntries inner entries
    some { inner with version := inner.version + 1 }
  | .installSnapshot m data =>
    match serde.decode data with
    | .ok fsm => some ⟨fsm, m.lastLogId, m.lastMembership, inner.version + 1⟩
    | .error _ => none

/-- The task of `spawn_fsm_watcher`: a value computed from the replicated state. -/
def fsmWatcher (serde : Serde B) (compute : FsmState → T) :
    Watch.Source StateMachineInner Nat (StateWrite B) T where
  write := StateMachineInner.write serde
  notice := StateMachineInner.version
  view inner := compute inner.fsm

/-- However the writes, their notifications and the steps of a watcher interleave, a watcher
that waits while every notification was sent and seen has applied what `compute` makes of the
current state. -/
theorem no_stale_view (serde : Serde B) (compute : FsmState → T) (inner : StateMachineInner)
    (channel : Watch.Channel Nat) (es : List (Watch.Event (StateWrite B)))
    (s : Watch.State StateMachineInner Nat T)
    (hrun : run (Watch.step (fsmWatcher serde compute)) (Watch.init inner channel) es = some s)
    (hwaiting : s.phase = .waiting) (hsent : s.notices = []) (hseen : s.seen = s.channel.version) :
    s.applied = some (compute s.state.fsm) := by
  refine Watch.applied_of_waiting hrun hwaiting ?_
  rintro (hnotices | hlt)
  · exact hnotices hsent
  · exact absurd hseen hlt.ne

def demoInstall : List (Watch.Event (StateWrite Contents)) :=
  let snapshot : FsmState :=
    { (default : FsmState) with secrets := Finmap.singleton "token" ⟨[7], [1]⟩ }
  [.subscribe, .read, .write (.installSnapshot ⟨none, default, "snapshot-0"⟩ (.state snapshot)),
    .applied, .notify 0, .changed, .read, .applied]

theorem no_stale_view_installed :
    ∃ s, run (Watch.step (fsmWatcher Contents.serde fun fsm => fsm.secrets.keys))
        (Watch.init ⟨default, none, default, 0⟩ ⟨0, 0⟩) demoInstall = some s ∧
      s.phase = .waiting ∧ s.notices = [] ∧ s.seen = s.channel.version ∧
      s.applied = some s.state.fsm.secrets.keys ∧ s.applied = some {"token"} := by
  refine exists_end (p := fun s => (s.phase = .waiting ∧ s.notices = [] ∧
    s.seen = s.channel.version) ∧ s.applied = some {"token"}) (by decide +kernel) ?_
  rintro s hs ⟨⟨hphase, hnotices, hseen⟩, happlied⟩
  exact ⟨hphase, hnotices, hseen,
    no_stale_view Contents.serde _ _ _ demoInstall s hs hphase hnotices hseen, happlied⟩

end Mill
