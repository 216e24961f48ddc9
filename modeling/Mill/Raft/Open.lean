import Mill.Raft.LogStore
import Mill.Raft.StateMachine

/-! Opening a node from its raft directory. -/

namespace Mill

structure MillRaft (B : Type) where
  logStore : LogStore
  sm : StateMachineStore B

/-- `MillRaft::open` up to the start of the Raft library. -/
def MillRaft.openDir {B : Type} (serde : Serde B) (d : RaftDir B) :
    Except SnapshotError (MillRaft B) := do
  let vote ← Disk.readVote serde d
  let logStore := LogStore.withPersistence vote
  match ← Disk.readSnapshot serde d with
  | some (data, m) =>
    let fsm ← serde.decode data
    return ⟨logStore, .fromSnapshot fsm m data⟩
  | none => return ⟨logStore, .withPersistence⟩

namespace MillRaft

variable {B : Type} {serde : Serde B} {d d' : RaftDir B}

lemma openDir_eq_ok {r : MillRaft B} (h : openDir serde d = .ok r) :
    ∃ vote, Disk.readVote serde d = .ok vote ∧ r.logStore = .withPersistence vote ∧
      ((Disk.readSnapshot serde d = .ok none ∧ r.sm = .withPersistence) ∨
        ∃ data m fsm, Disk.readSnapshot serde d = .ok (some (data, m)) ∧
          serde.decode data = .ok fsm ∧ r.sm = .fromSnapshot fsm m data) := by
  unfold openDir at h
  cases hv : Disk.readVote serde d with
  | error =>
    rw [hv] at h
    cases h
  | ok vote =>
    rw [hv] at h
    rcases hs : Disk.readSnapshot serde d with e | _ | ⟨data, m⟩
    · rw [hs] at h
      cases h
    · rw [hs] at h
      cases h
      exact ⟨vote, rfl, rfl, .inl ⟨rfl, rfl⟩⟩
    · rw [hs] at h
      cases hd : serde.decode data with
      | error =>
        simp only [bind, Except.bind, hd] at h
        cases h
      | ok fsm =>
        simp only [bind, Except.bind, hd] at h
        cases h
        exact ⟨vote, rfl, rfl, .inr ⟨data, m, fsm, rfl, hd, rfl⟩⟩

lemma openDir_of_snapshot {vote : Option Vote} {data : B} {m : SnapshotMeta} {fsm : FsmState}
    (hvote : Disk.readVote serde d = .ok vote)
    (hsnap : Disk.readSnapshot serde d = .ok (some (data, m)))
    (hdata : serde.decode data = .ok fsm) :
    openDir serde d = .ok ⟨.withPersistence vote, .fromSnapshot fsm m data⟩ := by
  unfold openDir
  rw [hvote, hsnap]
  simp only [bind, Except.bind, hdata]
  rfl

lemma openDir_of_no_snapshot {vote : Option Vote}
    (hvote : Disk.readVote serde d = .ok vote) (hsnap : Disk.readSnapshot serde d = .ok none) :
    openDir serde d = .ok ⟨.withPersistence vote, .withPersistence⟩ := by
  unfold openDir
  rw [hvote, hsnap]
  rfl

lemma openDir_of_readVote {r : MillRaft B} {vote : Option Vote} (h : openDir serde d = .ok r)
    (hsnap : Disk.readSnapshot serde d' = Disk.readSnapshot serde d)
    (hvote : Disk.readVote serde d' = .ok vote) :
    openDir serde d' = .ok ⟨.withPersistence vote, r.sm⟩ := by
  obtain ⟨-, -, -, ⟨hs, hsm⟩ | ⟨data, m, fsm, hs, hdata, hsm⟩⟩ := openDir_eq_ok h
  · rw [hsm]
    exact openDir_of_no_snapshot hvote (hsnap.trans hs)
  · rw [hsm]
    exact openDir_of_snapshot hvote (hsnap.trans hs) hdata

end MillRaft

end Mill
