import Mill.Raft.Apply
import Mill.Raft.Disk

/-! The state machine store and its snapshots. `Replica` is what the store is
for: the replicated state as a function of the log, whatever the batches in
which the log was applied and the snapshots it went through. -/

namespace Mill

open FileSystem

structure Replica where
  fsm : FsmState
  lastApplied : Option LogId
  lastMembership : StoredMembership

namespace Replica

def empty : Replica := ⟨default, none, default⟩

def step (r : Replica) (e : Entry) : Replica where
  fsm :=
    match e.payload with
    | .normal cmd => (applyCommand r.fsm cmd).1
    | _ => r.fsm
  lastApplied := some e.logId
  lastMembership :=
    match e.payload with
    | .membership m => ⟨some e.logId, m⟩
    | _ => r.lastMembership

def replay (r : Replica) (log : List Entry) : Replica := log.foldl step r

lemma replay_append (r : Replica) (as bs : List Entry) :
    r.replay (as ++ bs) = (r.replay as).replay bs := List.foldl_append

end Replica

structure StateMachineInner where
  fsm : FsmState
  lastApplied : Option LogId
  lastMembership : StoredMembership
  version : Nat

def StateMachineInner.replica (inner : StateMachineInner) : Replica :=
  ⟨inner.fsm, inner.lastApplied, inner.lastMembership⟩

structure Snapshot (B : Type) where
  snapMeta : SnapshotMeta
  data : B
deriving DecidableEq

/-- A store with a raft directory. `changeTx` is the last version sent to the
subscribers. -/
structure StateMachineStore (B : Type) where
  state : StateMachineInner
  currentSnapshot : Option (Snapshot B)
  changeTx : Nat

structure SnapshotBuilder where
  fsmSnapshot : FsmState
  lastApplied : Option LogId
  lastMembership : StoredMembership

namespace StateMachineStore

variable {B : Type}

def withPersistence : StateMachineStore B := ⟨⟨default, none, default, 0⟩, none, 0⟩

def fromSnapshot (fsm : FsmState) (m : SnapshotMeta) (data : B) : StateMachineStore B where
  state := ⟨fsm, m.lastLogId, m.lastMembership, 0⟩
  currentSnapshot := some ⟨m, data⟩
  changeTx := 0

def getMembership (e : Entry) : Option Membership :=
  match e.payload with
  | .membership m => some m
  | _ => none

def applyEntry (inner : StateMachineInner) (e : Entry) : StateMachineInner × Response :=
  let inner := { inner with lastApplied := some e.logId }
  let inner :=
    match getMembership e with
    | some m => { inner with lastMembership := ⟨some e.logId, m⟩ }
    | none => inner
  match e.payload with
  | .normal cmd =>
    let (fsm, resp) := applyCommand inner.fsm cmd
    ({ inner with fsm }, resp)
  | .blank | .membership _ => (inner, .ok)

def applyEntries : StateMachineInner → List Entry → StateMachineInner × List Response
  | inner, [] => (inner, [])
  | inner, e :: es =>
    let (inner, resp) := applyEntry inner e
    let (inner, resps) := applyEntries inner es
    (inner, resp :: resps)

def apply (st : StateMachineStore B) (es : List Entry) : StateMachineStore B × List Response :=
  let (inner, responses) := applyEntries st.state es
  let version := inner.version + 1
  ({ st with state := { inner with version }, changeTx := version }, responses)

def applyBatches (st : StateMachineStore B) (batches : List (List Entry)) : StateMachineStore B :=
  batches.foldl (fun st es => (st.apply es).1) st

def getSnapshotBuilder (st : StateMachineStore B) : SnapshotBuilder :=
  ⟨st.state.fsm, st.state.lastApplied, st.state.lastMembership⟩

def getCurrentSnapshot (st : StateMachineStore B) : Option (Snapshot B) := st.currentSnapshot

/-- `install_snapshot`: the state and the slot are replaced, then the pair is
written to disk; a failure to write is only logged. -/
def installSnapshot (serde : Serde B) (io : Io B) (m : SnapshotMeta) (data : B)
    (st : StateMachineStore B) (d : RaftDir B) :
    Except SnapshotError (StateMachineStore B × RaftDir B) :=
  match serde.decode data with
  | .error e => .error e
  | .ok fsm =>
    let version := st.state.version + 1
    .ok ({ state := ⟨fsm, m.lastLogId, m.lastMembership, version⟩
           currentSnapshot := some ⟨m, data⟩
           changeTx := version }, attempt io (Disk.writeSnapshot serde data m) d)

end StateMachineStore

namespace SnapshotBuilder

variable {B : Type}

def replica (b : SnapshotBuilder) : Replica := ⟨b.fsmSnapshot, b.lastApplied, b.lastMembership⟩

def snapMeta (b : SnapshotBuilder) : SnapshotMeta where
  lastLogId := b.lastApplied
  lastMembership := b.lastMembership
  snapshotId :=
    let index := (b.lastApplied.map LogId.index).getD 0
    s!"snapshot-{index}"

/-- `build_snapshot`: the pair is written to disk, then put into the slot of the
store, which may have moved on since the builder was made. -/
def buildSnapshot (serde : Serde B) (io : Io B) (b : SnapshotBuilder) (st : StateMachineStore B)
    (d : RaftDir B) : Except SnapshotError (Snapshot B × StateMachineStore B × RaftDir B) :=
  match serde.encode b.fsmSnapshot with
  | .error e => .error e
  | .ok data =>
    let snap : Snapshot B := ⟨b.snapMeta, data⟩
    .ok (snap, { st with currentSnapshot := some snap },
      attempt io (Disk.writeSnapshot serde data b.snapMeta) d)

end SnapshotBuilder

namespace StateMachineStore

variable {B : Type}

lemma applyEntry_replica (inner : StateMachineInner) (e : Entry) :
    (applyEntry inner e).1.replica = inner.replica.step e := by
  obtain ⟨logId, payload⟩ := e
  cases payload <;> rfl

lemma applyEntries_replica (inner : StateMachineInner) (es : List Entry) :
    (applyEntries inner es).1.replica = inner.replica.replay es := by
  induction es generalizing inner with
  | nil => rfl
  | cons e es ih =>
    have hstep := ih (applyEntry inner e).1
    rw [applyEntry_replica] at hstep
    exact hstep

lemma apply_replica (st : StateMachineStore B) (es : List Entry) :
    (st.apply es).1.state.replica = st.state.replica.replay es :=
  applyEntries_replica st.state es

lemma applyBatches_replica (st : StateMachineStore B) (batches : List (List Entry)) :
    (st.applyBatches batches).state.replica = st.state.replica.replay batches.flatten := by
  induction batches generalizing st with
  | nil => rfl
  | cons es batches ih =>
    rw [List.flatten_cons, Replica.replay_append, ← apply_replica]
    exact ih (st.apply es).1

lemma withPersistence_replica :
    (withPersistence : StateMachineStore B).state.replica = Replica.empty := rfl

lemma decode_buildSnapshot {serde : Serde B} {io : Io B} {b : SnapshotBuilder}
    {st st' : StateMachineStore B} {d d' : RaftDir B} {snap : Snapshot B}
    (h : b.buildSnapshot serde io st d = .ok (snap, st', d')) :
    serde.decode snap.data = .ok b.fsmSnapshot ∧ snap.snapMeta = b.snapMeta := by
  unfold SnapshotBuilder.buildSnapshot at h
  cases henc : serde.encode b.fsmSnapshot with
  | error =>
    rw [henc] at h
    cases h
  | ok =>
    rw [henc] at h
    simp only [Except.ok.injEq, Prod.mk.injEq] at h
    obtain ⟨rfl, -, -⟩ := h
    exact ⟨serde.decode_encode _ _ henc, rfl⟩

lemma installSnapshot_replica {serde : Serde B} (io : Io B) {b : SnapshotBuilder}
    {snap : Snapshot B} (hdata : serde.decode snap.data = .ok b.fsmSnapshot)
    (hmeta : snap.snapMeta = b.snapMeta) (st : StateMachineStore B) (d : RaftDir B) :
    ∃ st' d', installSnapshot serde io snap.snapMeta snap.data st d = .ok (st', d') ∧
      st'.state.replica = b.replica := by
  unfold installSnapshot
  rw [hdata, hmeta]
  exact ⟨_, _, rfl, rfl⟩

lemma fromSnapshot_replica (b : SnapshotBuilder) (data : B) :
    (fromSnapshot b.fsmSnapshot b.snapMeta data).state.replica = b.replica := rfl

/-- A builder made after a prefix of the log, whatever is applied to its store
before it finishes, gives a snapshot with which any store, and a restarted one,
needs only the rest of the log to agree with one that applied all of it. -/
theorem snapshot_suffix_eq_replay (serde : Serde B)
    (preBatches more sufBatches logBatches : List (List Entry))
    (hlog : logBatches.flatten = preBatches.flatten ++ sufBatches.flatten)
    (io : Io B) (d : RaftDir B) (snap : Snapshot B) (st' : StateMachineStore B) (d' : RaftDir B)
    (hbuild : (getSnapshotBuilder ((withPersistence : StateMachineStore B).applyBatches
        preBatches)).buildSnapshot serde io
          ((withPersistence.applyBatches preBatches).applyBatches more) d = .ok (snap, st', d'))
    (ioTarget : Io B) (target : StateMachineStore B) (dTarget : RaftDir B) :
    (∃ installed dInstalled, installSnapshot serde ioTarget snap.snapMeta snap.data target dTarget =
        .ok (installed, dInstalled) ∧
      (installed.applyBatches sufBatches).state.replica =
        ((withPersistence : StateMachineStore B).applyBatches logBatches).state.replica) ∧
    ∃ fsm, serde.decode snap.data = .ok fsm ∧
      ((fromSnapshot fsm snap.snapMeta snap.data).applyBatches sufBatches).state.replica =
        ((withPersistence : StateMachineStore B).applyBatches logBatches).state.replica := by
  set b := getSnapshotBuilder ((withPersistence : StateMachineStore B).applyBatches preBatches)
    with hb
  have hreplica : b.replica = Replica.empty.replay preBatches.flatten :=
    applyBatches_replica withPersistence preBatches
  have hfull : ((withPersistence : StateMachineStore B).applyBatches logBatches).state.replica =
      b.replica.replay sufBatches.flatten := by
    rw [applyBatches_replica, hlog, Replica.replay_append, withPersistence_replica, hreplica]
  obtain ⟨hdata, hmeta⟩ := decode_buildSnapshot hbuild
  obtain ⟨installed, dInstalled, hinst, hrep⟩ :=
    installSnapshot_replica ioTarget hdata hmeta target dTarget
  refine ⟨⟨installed, dInstalled, hinst, ?_⟩, b.fsmSnapshot, hdata, ?_⟩
  · rw [applyBatches_replica, hrep, hfull]
  · rw [applyBatches_replica, hmeta, fromSnapshot_replica, hfull]

def demoEntry (index : Nat) (payload : EntryPayload) : Entry := ⟨⟨⟨1, 1⟩, index⟩, payload⟩

theorem snapshot_suffix_eq_replay_demo :
    let e₁ := demoEntry 1 (.membership ⟨[{1, 2}], ∅⟩)
    let e₂ := demoEntry 2 (.normal (.secretSet "token" [7] [1]))
    let e₃ := demoEntry 3 .blank
    let store : StateMachineStore Contents := withPersistence.applyBatches [[e₁]]
    let snap : Snapshot Contents := ⟨store.getSnapshotBuilder.snapMeta, .state default⟩
    (∃ st' d', store.getSnapshotBuilder.buildSnapshot Contents.serde ⟨6, none⟩
      (store.applyBatches [[e₂]]) (RaftDir.empty Contents) = .ok (snap, st', d')) ∧
    ∃ fsm, Contents.serde.decode snap.data = .ok fsm ∧
      ((fromSnapshot fsm snap.snapMeta snap.data).applyBatches [[e₂], [e₃]]).state.replica =
        ((withPersistence : StateMachineStore Contents).applyBatches
          [[e₁, e₂, e₃]]).state.replica := by
  intro e₁ e₂ e₃ store snap
  refine ⟨⟨_, _, rfl⟩, ?_⟩
  exact (snapshot_suffix_eq_replay Contents.serde [[e₁]] [[e₂]] [[e₂], [e₃]] [[e₁, e₂, e₃]] rfl
    ⟨6, none⟩ (RaftDir.empty Contents) snap _ _ rfl ⟨6, none⟩ withPersistence
    (RaftDir.empty Contents)).2

/-- The stores that have come to the first `k` entries of the log, each in batches of its own and
through snapshots of any of them. -/
inductive Applied (serde : Serde B) (log : List Entry) : Nat → StateMachineStore B → Prop
  | withPersistence : Applied serde log 0 withPersistence
  | apply {k st} (n : Nat) (h : Applied serde log k st) :
      Applied serde log (k + n) (st.apply ((log.drop k).take n)).1
  | buildSnapshot {k st st' b io d d' snap} (h : Applied serde log k st)
      (hbuild : SnapshotBuilder.buildSnapshot serde io b st d = .ok (snap, st', d')) :
      Applied serde log k st'
  | installSnapshot {k source built built' st st' io io' d d' e e' snap}
      (hsource : Applied serde log k source)
      (hbuild : source.getSnapshotBuilder.buildSnapshot serde io built d = .ok (snap, built', d'))
      (hinstall : installSnapshot serde io' snap.snapMeta snap.data st e = .ok (st', e')) :
      Applied serde log k st'
  | fromSnapshot {k source built built' io d d' snap fsm} (hsource : Applied serde log k source)
      (hbuild : source.getSnapshotBuilder.buildSnapshot serde io built d = .ok (snap, built', d'))
      (hread : serde.decode snap.data = .ok fsm) :
      Applied serde log k (fromSnapshot fsm snap.snapMeta snap.data)

/-- Replicas agree: what a store holds is a function of how far in the log it has come. -/
theorem replica_of_applied {serde : Serde B} {log : List Entry} {k : Nat} {st : StateMachineStore B}
    (h : Applied serde log k st) : st.state.replica = Replica.empty.replay (log.take k) := by
  induction h with
  | withPersistence => rfl
  | apply n _ ih => rw [apply_replica, ih, List.take_add, Replica.replay_append]
  | buildSnapshot _ hbuild ih =>
    unfold SnapshotBuilder.buildSnapshot at hbuild
    split at hbuild <;> cases hbuild
    exact ih
  | @installSnapshot _ _ _ _ st _ _ io' _ _ e _ _ _ hbuild hinstall ih =>
    obtain ⟨hdata, hmeta⟩ := decode_buildSnapshot hbuild
    obtain ⟨_, _, hst, hreplica⟩ := installSnapshot_replica io' hdata hmeta st e
    cases hinstall.symm.trans hst
    exact hreplica.trans ih
  | fromSnapshot _ hbuild hread ih =>
    obtain ⟨hdata, hmeta⟩ := decode_buildSnapshot hbuild
    cases hread.symm.trans hdata
    rw [hmeta, fromSnapshot_replica]
    exact ih

theorem replica_of_applied_restarted : let e := demoEntry 1 .blank
    let store : StateMachineStore Contents := (withPersistence.apply [e]).1
    let snapMeta := store.getSnapshotBuilder.snapMeta
    (fromSnapshot default snapMeta (Contents.state default)).state.replica =
      Replica.empty.replay [e] := by
  intro e store snapMeta
  have hbuild : store.getSnapshotBuilder.buildSnapshot Contents.serde ⟨6, none⟩ store
      (RaftDir.empty _) = .ok (⟨_, Contents.state default⟩, _, _) := rfl
  have hstore : Applied Contents.serde [e] 1 store := .apply 1 .withPersistence
  exact replica_of_applied (.fromSnapshot hstore hbuild rfl)

end StateMachineStore

end Mill
