import Mill.Raft.Effect
import Mill.Raft.StateMachine

/-! Every entry of the replicated state is stored under its own key, on every node and through
every snapshot. -/

namespace Mill

open FileSystem

namespace StateMachineStore

variable {B : Type}

/-- The stores that the nodes of a cluster can hold. A snapshot is built from any of them, put
into the slot of any, and installed on any or read by a restarted node. -/
inductive Reachable (serde : Serde B) : StateMachineStore B → Prop
  | withPersistence : Reachable serde withPersistence
  | apply {st} (es : List Entry) (h : Reachable serde st) : Reachable serde (st.apply es).1
  | buildSnapshot {source st st' io d d' snap} (hsource : Reachable serde source)
      (h : Reachable serde st)
      (hbuild : source.getSnapshotBuilder.buildSnapshot serde io st d = .ok (snap, st', d')) :
      Reachable serde st'
  | installSnapshot {source built built' st st' io io' d d' e e' snap}
      (hsource : Reachable serde source)
      (hbuild : source.getSnapshotBuilder.buildSnapshot serde io built d = .ok (snap, built', d'))
      (h : Reachable serde st)
      (hinstall : installSnapshot serde io' snap.snapMeta snap.data st e = .ok (st', e')) :
      Reachable serde st'
  | fromSnapshot {source built built' io d d' snap fsm} (hsource : Reachable serde source)
      (hbuild : source.getSnapshotBuilder.buildSnapshot serde io built d = .ok (snap, built', d'))
      (hread : serde.decode snap.data = .ok fsm) :
      Reachable serde (fromSnapshot fsm snap.snapMeta snap.data)

lemma fsm_replay_invariant {P : FsmState → Prop} (hstep : ∀ s c, P s → P (applyCommand s c).1)
    {r : Replica} (hr : P r.fsm) (es : List Entry) : P (r.replay es).fsm := by
  induction es generalizing r with
  | nil => exact hr
  | cons e es ih =>
    apply ih
    obtain ⟨logId, payload⟩ := e
    cases payload with
    | normal cmd => exact hstep r.fsm cmd hr
    | blank => exact hr
    | membership => exact hr

variable {serde : Serde B} {st : StateMachineStore B}

lemma Reachable.invariant {P : FsmState → Prop} (hinit : P default)
    (hstep : ∀ s c, P s → P (applyCommand s c).1) (h : Reachable serde st) : P st.state.fsm := by
  induction h with
  | withPersistence => exact hinit
  | @apply st es _ ih =>
    have hreplay : P (st.state.replica.replay es).fsm := fsm_replay_invariant hstep ih es
    rw [← apply_replica] at hreplay
    exact hreplay
  | buildSnapshot _ _ hbuild _ ih =>
    -- the snapshot goes into the slot; the state stays
    unfold SnapshotBuilder.buildSnapshot at hbuild
    split at hbuild
    · cases hbuild
    · cases hbuild
      exact ih
  | @installSnapshot source _ _ st st' _ io' _ _ e e' snap _ hbuild _ hinstall ih _ =>
    obtain ⟨hdata, hmeta⟩ := decode_buildSnapshot hbuild
    obtain ⟨st'', e'', hst, hreplica⟩ := installSnapshot_replica io' hdata hmeta st e
    have hsame : st' = st'' := by
      rw [hinstall] at hst
      cases hst
      rfl
    have hfsm : st''.state.fsm = source.state.fsm := congrArg Replica.fsm hreplica
    rw [hsame, hfsm]
    exact ih
  | fromSnapshot _ hbuild hread ih =>
    have hdata := (decode_buildSnapshot hbuild).1
    rw [hread] at hdata
    cases hdata
    exact ih

lemma Reachable.nodesKeyed (h : Reachable serde st) : st.state.fsm.NodesKeyed := by
  refine h.invariant ?_ fun s c hs => nodesKeyed_applyCommand hs c
  intro k n hn
  cases hn

lemma Reachable.keyedById (h : Reachable serde st) : KeyedById st.state.fsm := by
  refine h.invariant ?_ fun s c hs => keyedById_applyCommand hs c
  intro i a ha
  cases ha

/-- In every state that a store of the cluster can hold, nodes and allocations are stored under
their own ids; and where `raft_id_for` finds a raft id for a node, in whatever order it visits
them, scheduling an allocation there puts it on that node and attaching a volume there attaches
it to that node. -/
theorem keyed_and_placed_on (h : Reachable serde st) :
    (∀ k n, st.state.fsm.nodes.lookup k = some n → n.raftId = k) ∧
    (∀ i a, st.state.fsm.allocs.lookup i = some a → a.id = i) ∧
    ∀ (nodes : List FsmNode), st.state.fsm.nodes.values = nodes → ∀ m r,
      FsmState.raftIdFor nodes m = some r →
      (∀ allocId name kind address resources,
        applyCommand st.state.fsm (.allocScheduled allocId r name kind address resources) =
          ({ st.state.fsm with
              allocs := st.state.fsm.allocs.insert allocId
                (FsmState.makeAlloc allocId m name kind address resources) }, .ok)) ∧
      ∀ name vol, st.state.fsm.volumes.lookup name = some vol →
        applyCommand st.state.fsm (.volumeAttached name r) = ({ st.state.fsm with
              volumes := st.state.fsm.volumes.insert name { vol with state := .attached m } },
            .ok) := by
  refine ⟨h.nodesKeyed, h.keyedById, ?_⟩
  intro nodes hnodes m r hr
  obtain ⟨n, hn, rfl⟩ := lookup_of_raftIdFor h.nodesKeyed hnodes hr
  refine ⟨?_, ?_⟩
  · intro allocId name kind address resources
    simp only [applyCommand, hn]
    rfl
  · intro name vol hvol
    simp only [applyCommand, hn, hvol]

def demoRegistered : Entry := demoEntry 1 (.normal (.demoRegister 1 "a"))

def demoSource : StateMachineStore Contents := (withPersistence.apply [demoRegistered]).1

def demoRestarted : StateMachineStore Contents :=
  fromSnapshot demoSource.state.fsm demoSource.getSnapshotBuilder.snapMeta
    (.state demoSource.state.fsm)

lemma reachable_demoRestarted : Reachable Contents.serde demoRestarted := by
  have hsource : Reachable Contents.serde demoSource := .apply [demoRegistered] .withPersistence
  have hbuild : demoSource.getSnapshotBuilder.buildSnapshot Contents.serde ⟨6, none⟩
      withPersistence (RaftDir.empty Contents) =
      .ok (⟨demoSource.getSnapshotBuilder.snapMeta, .state demoSource.state.fsm⟩, _, _) := rfl
  exact .fromSnapshot hsource hbuild rfl

theorem keyed_and_placed_on_demo : Reachable Contents.serde demoRestarted ∧
    ∃ n, demoRestarted.state.fsm.nodes.values = ([n] : List FsmNode) ∧
      FsmState.raftIdFor [n] ⟨"a"⟩ = some 1 ∧
      (applyCommand demoRestarted.state.fsm
        (.allocScheduled ⟨"web-0"⟩ 1 "web" .service none ⟨1, 64⟩)).2 = .ok := by
  have hplaced := (keyed_and_placed_on reachable_demoRestarted).2.2 _ rfl ⟨"a"⟩ 1 rfl
  refine ⟨reachable_demoRestarted, _, rfl, rfl, ?_⟩
  rw [hplaced.1]

end StateMachineStore

end Mill
