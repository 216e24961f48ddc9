import Mill.Node.Members

/-! Whether the copies of the membership agree. -/

namespace Mill

open List Option Transition

section

lemma nextRaftId_of_range {ids : List Nat} {m : Nat} (h : ∀ k, k ∈ ids ↔ 1 ≤ k ∧ k ≤ m) :
    nextRaftId ids = m + 1 := by
  have hmax : ids.max?.getD 0 = m := by
    rcases Nat.eq_zero_or_pos m with rfl | hm
    · have hnil : ids = [] := by
        refine eq_nil_iff_forall_not_mem.mpr fun k hk => ?_
        have hbounds := (h k).mp hk
        omega
      rw [hnil]
      rfl
    · have hlast : ids.max? = some m :=
        List.max?_eq_some_iff.mpr ⟨(h m).mpr ⟨hm, Nat.le_refl m⟩, fun k hk => ((h k).mp hk).2⟩
      rw [hlast, getD_some]
  rw [nextRaftId, hmax]

variable {s : FsmState} {c : Command} {k : Nat}

lemma lookup_nodes_kept {n : FsmNode} (hc : c.member = none) (hremoves : c.removes = false)
    (hn : s.nodes.lookup k = some n) : ∃ n', (applyCommand s c).1.nodes.lookup k = some n' ∧
      n' = { n with status := n'.status } := by
  rw [lookup_nodes_applyCommand]
  rcases nodeAfter_eq (s := s) (c := c) (k := k) (by rintro _ _ _ _ _ _ _ rfl; cases hc) with
    ⟨f, hf⟩ | ⟨rfl, -⟩
  · exact ⟨_, by rw [hf, hn, map_some], rfl⟩
  · cases hremoves

lemma mem_nodes_kept (hc : c.member = none) (hremoves : c.removes = false) :
    k ∈ (applyCommand s c).1.nodes ↔ k ∈ s.nodes := by
  refine mem_nodes_applyCommand (by rintro _ _ _ _ _ _ _ rfl; cases hc) ?_
  rintro rfl
  cases hremoves

lemma notMem_nodes_removed {id : Nat} (h : (applyCommand s (.nodeRemove id)).2 = .ok) :
    id ∉ (applyCommand s (.nodeRemove id)).1.nodes := by
  unfold applyCommand at h ⊢
  dsimp only at h ⊢
  split at h
  · cases h
  · split_ifs at h with hbusy
    rw [if_neg hbusy]
    exact Finmap.notMem_erase_self

def JoinRequest.node (body : JoinRequest) : FsmNode where
  raftId := body.raftId
  millId := body.nodeId
  address := ⟨body.tunnelIp, 4400⟩
  resources := body.resources
  status := .ready
  wireguardPubkey := some body.publicKey
  instanceId := body.instanceId
  rpcAddress := body.rpcAddress
  advertiseAddr := some body.advertiseAddr

lemma lookup_nodes_register (s : FsmState) (body : JoinRequest) (k : Nat) :
    (applyCommand s body.register).1.nodes.lookup k =
      if k = body.raftId then some body.node else s.nodes.lookup k := by
  rw [lookup_nodes_applyCommand]
  rfl

end

/-- How much of the log the node has applied that answers `get_join_info`. -/
def MeshEvent.readsAt : MeshEvent → Option Nat
  | .join _ (.nodes applied _ :: _) => some applied
  | _ => none

def MeshEvent.removes : MeshEvent → Bool
  | .remove .. => true
  | _ => false

namespace MeshWorld

/-- The voters are the nodes of the replicated state, the leader has forgotten the nodes that were
removed and have not come back, and no raft id was given out twice. -/
structure Agreement (w : MeshWorld) : Prop where
  voters : ∀ k, k ∈ w.voters ↔ k ∈ w.fsm.nodes
  forgotten : ∀ n ∈ w.removed, ∀ d, w.daemons[w.leader]? = some d →
    (n.raftId ∉ w.fsm.nodes → n.raftId ∉ d.network) ∧
    ∀ key, n.wireguardPubkey = some key →
      (∀ k m, w.fsm.nodes.lookup k = some m → m.wireguardPubkey ≠ some key) →
      key ∉ d.wireguard.peers
  fresh : w.members.Nodup

def Informed (w : MeshWorld) (e : MeshEvent) : Prop :=
  ∀ t ∈ e.readsAt, w.fsm.nodes.keys ⊆ (w.nodesAt t).keys

instance (w : MeshWorld) (e : MeshEvent) : Decidable (w.Informed e) :=
  inferInstanceAs (Decidable (∀ t ∈ e.readsAt, _))

lemma informed_of_none {w : MeshWorld} {e : MeshEvent} (h : e.readsAt = none) : w.Informed e := by
  intro t ht
  rw [h] at ht
  cases ht

def OnlyJoins (w : MeshWorld) (e : MeshEvent) : Prop := e.removes = false ∧ w.Informed e

instance (w : MeshWorld) (e : MeshEvent) : Decidable (w.OnlyJoins e) :=
  inferInstanceAs (Decidable (_ ∧ _))

/-- The members have the raft ids from 1 on, in the order in which they came, and so it was at all
earlier times; no more than the status of a node ever changes. -/
structure Settled (w : MeshWorld) : Prop where
  leader : w.leader < w.daemons.length
  daemons : w.daemons.map (fun d => d.identity.raftId) = w.members
  members : w.members = List.range' 1 w.members.length
  nodes : ∀ k, k ∈ w.fsm.nodes ↔ k ∈ w.members
  past : ∀ t, ∃ m, ∀ k, k ∈ w.nodesAt t ↔ 1 ≤ k ∧ k ≤ m
  kept : ∀ t k n, (w.nodesAt t).lookup k = some n →
    ∃ n', w.fsm.nodes.lookup k = some n' ∧ n' = { n with status := n'.status }
  voters : ∀ k, k ∈ w.voters ↔ k ∈ w.members
  removed : w.removed = []

variable {parseIp : String → Option IpAddr} {w w' : MeshWorld} {c : Command}

lemma Settled.agreement (h : w.Settled) : w.Agreement where
  voters k := (h.voters k).trans (h.nodes k).symm
  forgotten n hn := by
    rw [h.removed] at hn
    cases hn
  fresh := by
    rw [h.members]
    exact nodup_range'

lemma Settled.mem_members (h : w.Settled) {k : Nat} :
    k ∈ w.members ↔ 1 ≤ k ∧ k ≤ w.members.length := by
  rw [h.members, List.mem_range'_1, length_range']
  omega

lemma nodesAt_concat {w' : MeshWorld} (hlog : w'.log = w.log ++ [c]) (t : Nat) :
    w'.nodesAt t = w.nodesAt t ∨ w'.nodesAt t = w'.fsm.nodes := by
  unfold nodesAt fsm
  rcases Nat.lt_or_ge w.log.length t with ht | ht
  · right
    rw [take_of_length_le]
    rw [hlog, length_append, length_singleton]
    exact ht
  · left
    rw [hlog, take_append_of_le_length ht]

lemma fsm_concat {w' : MeshWorld} (hlog : w'.log = w.log ++ [c]) :
    w'.fsm = (applyCommand w.fsm c).1 := by
  unfold fsm
  rw [hlog]
  exact applyAll_append ..

lemma fsm_commit : (w.commit c).fsm = (applyCommand w.fsm c).1 := fsm_concat rfl

section

variable {j : Joiner} {info : JoinInfoResponse} {publicKey : String} {ids : List Nat}

lemma fsm_joined : (w.joined parseIp j info publicKey ids).fsm =
    (applyCommand w.fsm (j.request info publicKey).register).1 := fsm_concat rfl

lemma members_joined : (w.joined parseIp j info publicKey ids).members =
    w.members ++ [info.nextRaftId] := rfl

lemma voters_joined : (w.joined parseIp j info publicKey ids).voters =
    w.voters ∪ (ids ++ [info.nextRaftId]).toFinset := rfl

lemma daemons_joined (h : w.leader < w.daemons.length) :
    (w.joined parseIp j info publicKey ids).daemons = w.daemons.modify w.leader (fun d => (d.addPeer
        ((j.request info publicKey).peer parseIp)).setPeer info.nextRaftId ⟨info.tunnelIp, 4401⟩) ++
        [.join parseIp info] := by
  change ((w.daemons ++ [_]).modify w.leader _).modify w.leader _ = _
  rw [modify_modify_eq, List.modify_append_of_lt h]
  rfl

lemma map_daemons_joined {β : Type} {g : MeshDaemon → β} (h : w.leader < w.daemons.length)
    (hg : ∀ d peer id address, g ((d.addPeer peer).setPeer id address) = g d) :
    (w.joined parseIp j info publicKey ids).daemons.map g =
      w.daemons.map g ++ [g (.join parseIp info)] := by
  rw [daemons_joined h, map_append, List.map_modify_of_fixed]
  · rfl
  · intro d
    exact hg ..

end

namespace Settled

lemma commit (h : w.Settled) (hc : c.member = none) (hremoves : c.removes = false) :
    (w.commit c).Settled := by
  have hlog : (w.commit c).log = w.log ++ [c] := rfl
  have hnodes (k : Nat) : k ∈ (w.commit c).fsm.nodes ↔ k ∈ w.members := by
    rw [fsm_commit, mem_nodes_kept hc hremoves, h.nodes]
  refine ⟨h.leader, h.daemons, h.members, hnodes, fun t => ?_, fun t k n hn => ?_, h.voters,
    h.removed⟩
  · rcases nodesAt_concat hlog t with hat | hat
    · rw [hat]
      exact h.past t
    · rw [hat]
      exact ⟨w.members.length, fun k => (hnodes k).trans h.mem_members⟩
  · rcases nodesAt_concat hlog t with hat | hat
    · rw [hat] at hn
      obtain ⟨n₁, hn₁, heq₁⟩ := h.kept t k n hn
      obtain ⟨n₂, hn₂, heq₂⟩ := lookup_nodes_kept hc hremoves hn₁
      rw [fsm_commit]
      refine ⟨n₂, hn₂, ?_⟩
      rw [heq₂, heq₁]
    · rw [hat] at hn
      exact ⟨n, hn, rfl⟩

lemma nextRaftId_eq (h : w.Settled) {t : Nat} {nodes : List (Σ _ : Nat, FsmNode)}
    (hnodes : (w.nodesAt t).entries = nodes) : ∃ m ≤ w.members.length,
      nextRaftId (nodes.map Sigma.fst) = m + 1 ∧ ∀ k, k ∈ w.nodesAt t ↔ 1 ≤ k ∧ k ≤ m := by
  obtain ⟨m, hm⟩ := h.past t
  refine ⟨m, ?_, nextRaftId_of_range fun k => ?_, hm⟩
  · by_contra hlt
    obtain ⟨n, hn⟩ := Finmap.mem_iff.mp ((hm m).mpr ⟨by omega, Nat.le_refl m⟩)
    obtain ⟨n', hn', -⟩ := h.kept t m n hn
    have hmember := (h.nodes m).mp (Finmap.mem_iff.mpr ⟨n', hn'⟩)
    exact hlt (h.mem_members.mp hmember).2
  · rw [← hm k]
    exact Finmap.mem_of_entries hnodes

lemma informed_iff (h : w.Settled) {t : Nat} {nodes : List (Σ _ : Nat, FsmNode)}
    (hnodes : (w.nodesAt t).entries = nodes) : w.fsm.nodes.keys ⊆ (w.nodesAt t).keys ↔
      nextRaftId (nodes.map Sigma.fst) = w.members.length + 1 := by
  obtain ⟨m, hle, hnext, hm⟩ := h.nextRaftId_eq hnodes
  rw [hnext, Finset.subset_iff]
  simp only [Finmap.mem_keys, h.nodes, h.mem_members, hm]
  constructor
  · intro hall
    by_contra hne
    have := hall (x := w.members.length)
    omega
  · intro heq k hk
    omega

lemma joined (h : w.Settled) {t : Nat} {j : Joiner} {info : JoinInfoResponse}
    {publicKey : String} {ids : List Nat} (hids : (w.nodesAt t).entries.map Sigma.fst = ids)
    (hnext : info.nextRaftId = w.members.length + 1) :
    (w.joined parseIp j info publicKey ids).Settled := by
  let w' := w.joined parseIp j info publicKey ids
  have hlog : w'.log = w.log ++ [(j.request info publicKey).register] := rfl
  have hlookup (k : Nat) : w'.fsm.nodes.lookup k = if k = info.nextRaftId then
      some (j.request info publicKey).node else w.fsm.nodes.lookup k := by
    rw [fsm_joined]
    exact lookup_nodes_register ..
  have hlength : w'.members.length = w.members.length + 1 := by
    rw [members_joined, length_append, length_singleton]
  have hmembers : w'.members = List.range' 1 w'.members.length := by
    rw [hlength, List.range'_1_concat, ← h.members, members_joined, hnext, Nat.add_comm]
  have hnodes (k : Nat) : k ∈ w'.fsm.nodes ↔ k ∈ w'.members := by
    rw [Finmap.mem_iff, hlookup, members_joined, mem_append, mem_singleton, ← h.nodes,
      Finmap.mem_iff]
    split_ifs with hk
    · simp [hk]
    · simp [hk]
  have hrange (k : Nat) : k ∈ w'.fsm.nodes ↔ 1 ≤ k ∧ k ≤ w'.members.length := by
    rw [hnodes, hmembers, List.mem_range'_1, length_range']
    omega
  -- the new raft id was not there before
  have hfresh {k : Nat} (hk : k ∈ w.fsm.nodes) : k ≠ info.nextRaftId := by
    have hle := (h.mem_members.mp ((h.nodes k).mp hk)).2
    omega
  refine ⟨?_, ?_, hmembers, hnodes, fun t => ?_, fun t k n hn => ?_, fun k => ?_, h.removed⟩
  · rw [daemons_joined h.leader, length_append, length_modify]
    exact Nat.lt_add_right 1 h.leader
  · rw [map_daemons_joined h.leader fun _ _ _ _ => rfl, h.daemons]
    rfl
  · rcases nodesAt_concat hlog t with hat | hat
    · rw [hat]
      exact h.past t
    · rw [hat]
      exact ⟨_, hrange⟩
  · rcases nodesAt_concat hlog t with hat | hat
    · rw [hat] at hn
      obtain ⟨n₁, hn₁, heq⟩ := h.kept t k n hn
      have hk : k ≠ info.nextRaftId := hfresh (Finmap.mem_iff.mpr ⟨n₁, hn₁⟩)
      exact ⟨n₁, by rw [hlookup, if_neg hk, hn₁], heq⟩
    · rw [hat] at hn
      exact ⟨n, hn, rfl⟩
  · rw [voters_joined, members_joined, Finset.mem_union, h.voters, List.mem_toFinset,
      mem_append, mem_append]
    constructor
    · rintro (hold | hid | hnew)
      · exact .inl hold
      · obtain ⟨n, hn⟩ := Finmap.mem_iff.mp ((Finmap.mem_of_map_fst hids).mp hid)
        obtain ⟨n', hn', -⟩ := h.kept t k n hn
        exact .inl ((h.nodes k).mp (Finmap.mem_iff.mpr ⟨n', hn'⟩))
      · exact .inr hnew
    · rintro (hold | hnew)
      · exact .inl hold
      · exact .inr (.inr hnew)

lemma restart (h : w.Settled) {i : Nat} {d d' : MeshDaemon} (hd : w.daemons[i]? = some d)
    (hd' : MeshDaemon.startFromExisting parseIp d.identity = some d') :
    { w with daemons := w.daemons.set i d' }.Settled := by
  obtain ⟨_, -, rfl⟩ := map_eq_some_iff.mp hd'
  refine ⟨?_, ?_, h.members, h.nodes, h.past, h.kept, h.voters, h.removed⟩
  · rw [length_set]
    exact h.leader
  · rw [← h.daemons, map_set]
    exact List.set_of_getElem? (by rw [List.getElem?_map, hd]; rfl)

end Settled

lemma settled_step {e : MeshEvent} (h : w.Settled) (he : w.OnlyJoins e)
    (hstep : w.step parseIp e = some w') : w'.Settled := by
  obtain ⟨hremoves, hinformed⟩ := he
  cases e with
  | join =>
    obtain ⟨t, nodes, rest, tunnelIp, publicKey, t', ids, rfl, hnodes, -, hids, rfl⟩ :=
      step_join hstep
    exact h.joined hids ((h.informed_iff hnodes).mp (hinformed t rfl))
  | remove => cases hremoves
  | commit =>
    obtain ⟨hc, hremoves, rfl⟩ := step_commit hstep
    exact h.commit hc hremoves
  | elect =>
    obtain ⟨hleader, rfl⟩ := step_elect hstep
    exact ⟨hleader, h.daemons, h.members, h.nodes, h.past, h.kept, h.voters, h.removed⟩
  | restart =>
    obtain ⟨d, d', hd, hd', rfl⟩ := step_restart hstep
    exact h.restart hd hd'

/-- After any other step the copies disagree: the voter stays when its node is removed, and a
joining node that is not told of all members gets the raft id of one of them. -/
lemma onlyJoins_of_agreement {e : MeshEvent} (h : w.Settled)
    (hstep : w.step parseIp e = some w') (hw' : w'.Agreement) : w.OnlyJoins e := by
  cases e with
  | join =>
    obtain ⟨t, nodes, rest, tunnelIp, publicKey, t', ids, rfl, hnodes, -, -, rfl⟩ :=
      step_join hstep
    refine ⟨rfl, fun t₁ ht₁ => ?_⟩
    cases ht₁
    obtain ⟨m, hle, hnext, -⟩ := h.nextRaftId_eq hnodes
    rw [h.informed_iff hnodes, hnext]
    by_contra hne
    have hmember : m + 1 ∈ w.members := h.mem_members.mpr ⟨by omega, by omega⟩
    have hfresh := hw'.fresh
    rw [members_joined, nodup_append] at hfresh
    refine hfresh.2.2 (m + 1) hmember (m + 1) ?_ rfl
    rw [mem_singleton]
    exact hnext.symm
  | remove =>
    obtain ⟨raftId, node, hnode, hok, rfl⟩ := step_remove hstep
    have hvoter : raftId ∈ w.voters :=
      (h.voters raftId).mpr ((h.nodes raftId).mp (Finmap.mem_iff.mpr ⟨node, hnode⟩))
    have hin := (hw'.voters raftId).mp hvoter
    change raftId ∈ (w.commit (.nodeRemove raftId)).fsm.nodes at hin
    rw [fsm_commit] at hin
    exact absurd hin (notMem_nodes_removed hok)
  | commit c | elect leader | restart i => exact ⟨rfl, informed_of_none rfl⟩

def firstRequest (j : Joiner) (publicKey : String) : JoinRequest where
  nodeId := j.nodeId
  raftId := 1
  advertiseAddr := j.advertiseAddr
  tunnelIp := firstTunnelIp
  publicKey := publicKey
  resources := j.resources
  instanceId := j.instanceId
  rpcAddress := some ⟨firstTunnelIp, rpcPort⟩

lemma formed_eq (parseIp : String → Option IpAddr) (j : Joiner) (publicKey : String) :
    formed parseIp j publicKey = some
      { log := [(firstRequest j publicKey).register]
        voters := {1}
        daemons := [.withPeers parseIp ⟨1, wireguardSubnet, []⟩ firstTunnelIp (apiPort + 1)]
        leader := 0
        members := [1]
        removed := [] } := by
  unfold formed MeshDaemon.init
  rw [parseSubnetFirstIp_wireguardSubnet]
  rfl

lemma settled_formed {j : Joiner} {publicKey : String}
    (h : formed parseIp j publicKey = some w) : w.Settled := by
  rw [formed_eq, Option.some.injEq] at h
  let w₀ : MeshWorld := ⟨[], ∅, [], 0, [], []⟩
  have hlog : w.log = w₀.log ++ [(firstRequest j publicKey).register] := by
    rw [← h]
    rfl
  have hnodes (k : Nat) : k ∈ w.fsm.nodes ↔ k = 1 := by
    rw [fsm_concat hlog, Finmap.mem_iff, lookup_nodes_register]
    change (∃ n, (if k = 1 then _ else (∅ : Finmap fun _ : Nat => FsmNode).lookup k) = some n) ↔ _
    split_ifs with hk
    · simp [hk]
    · simp [hk]
  -- before the registration there was no node
  have hempty (t : Nat) : w₀.nodesAt t = ∅ := by
    rw [nodesAt, take_nil]
    rfl
  have hpast (t : Nat) : w.nodesAt t = ∅ ∨ w.nodesAt t = w.fsm.nodes := by
    have hat := nodesAt_concat hlog t
    rwa [hempty] at hat
  constructor
  case past =>
    intro t
    rcases hpast t with hat | hat
    · refine ⟨0, fun k => ?_⟩
      rw [hat]
      simp only [Finmap.notMem_empty, false_iff]
      omega
    · refine ⟨1, fun k => ?_⟩
      rw [hat, hnodes]
      omega
  case kept =>
    intro t k n hn
    rcases hpast t with hat | hat
    · rw [hat, Finmap.lookup_empty] at hn
      cases hn
    · rw [hat] at hn
      exact ⟨n, hn, rfl⟩
  all_goals subst h
  case nodes =>
    intro k
    rw [hnodes, mem_singleton]
  case voters =>
    intro k
    rw [Finset.mem_singleton, mem_singleton]
  case leader => exact Nat.zero_lt_one
  all_goals rfl

/-- The copies of the membership agree throughout exactly if no node is removed and every joining
node is told of all members. -/
theorem membership_agreement {j : Joiner} {publicKey : String} {es : List MeshEvent}
    (hformed : formed parseIp j publicKey = some w) (hrun : run (step parseIp) w es = some w') :
    Guarded (step parseIp) OnlyJoins w es ↔
      ∀ as t, as <+: es → run (step parseIp) w as = some t → t.Agreement := by
  have hw : w.Settled := settled_formed hformed
  refine guarded_iff_forall_reached_of (S := Settled) (Q := fun _ => True) ?_ ?_ hw hw.agreement
    (fun _ _ => trivial) hrun
  · intro w e w' hw _ he hstep
    exact settled_step hw he hstep
  · intro w e w' hw _ hstep
    exact ⟨onlyJoins_of_agreement hw hstep, fun he => (settled_step hw he hstep).agreement⟩

def demoParse (text : String) : Option IpAddr := (parseIpv4 text.toList).map .v4

def demoA : FsmNode := Joins.demoMember 1 "a" "192.0.2.1"

def demoB : FsmNode := Joins.demoMember 2 "b" "192.0.2.2"

def demoJoin (name address : String) (applied : Nat) (nodes : List FsmNode) : MeshEvent :=
  .join (.demo name address) [.nodes applied (nodes.map fun n => ⟨n.raftId, n⟩),
    .publicKey name, .proceed, .proceed, .proceed, .ids applied (nodes.map fun n => n.raftId),
    .proceed, .proceed]

def demoFormed : Option MeshWorld := formed demoParse (.demo "a" "192.0.2.1") "a"

def demoTwoJoins : List MeshEvent :=
  [demoJoin "b" "192.0.2.2" 1 [demoA], demoJoin "c" "192.0.2.3" 2 [demoA, demoB]]

def demoRemoved : List MeshEvent :=
  [demoJoin "b" "192.0.2.2" 1 [demoA], .remove ⟨"b"⟩ 2 [demoA, demoB]]

theorem membership_agreement_two_joins : ∃ w w', demoFormed = some w ∧
    run (step demoParse) w demoTwoJoins = some w' ∧ w'.members = [1, 2, 3] ∧ w'.Agreement := by
  have hw : demoFormed.bind (fun w => (run (step demoParse) w demoTwoJoins).map fun w' =>
      (w'.members, decide (Guarded (step demoParse) OnlyJoins w demoTwoJoins))) =
      some ([1, 2, 3], true) := by
    decide +kernel
  obtain ⟨w, hformed, h⟩ := bind_eq_some_iff.mp hw
  obtain ⟨w', hrun, heq⟩ := map_eq_some_iff.mp h
  rw [Prod.mk.injEq, decide_eq_true_eq] at heq
  exact ⟨w, w', hformed, hrun, heq.1,
    (membership_agreement hformed hrun).mp heq.2 demoTwoJoins w' prefix_rfl hrun⟩

/-- When a node was removed it is still a voter, and still a peer of the leader in both maps; and
the next node that joins gets its raft id. -/
theorem removed_node_stays : ∃ w w₁ w₂ d, demoFormed = some w ∧
    run (step demoParse) w demoRemoved = some w₁ ∧ w₁.daemons[w₁.leader]? = some d ∧
    2 ∈ w₁.voters ∧ 2 ∉ w₁.fsm.nodes ∧ 2 ∈ d.network ∧ "b" ∈ d.wireguard.peers ∧
    step demoParse w₁ (demoJoin "c" "192.0.2.3" 3 [demoA]) = some w₂ ∧ w₂.members = [1, 2, 2] ∧
    ¬ w₁.Agreement ∧ ¬ w₂.Agreement := by
  have hw : demoFormed.bind (fun w => (run (step demoParse) w demoRemoved).bind fun w₁ =>
      (w₁.daemons[w₁.leader]?).bind fun d =>
        (step demoParse w₁ (demoJoin "c" "192.0.2.3" 3 [demoA])).map fun w₂ =>
          (decide (2 ∈ w₁.voters ∧ 2 ∉ w₁.fsm.nodes ∧ 2 ∈ d.network ∧ "b" ∈ d.wireguard.peers),
            w₂.members)) = some (true, [1, 2, 2]) := by
    decide +kernel
  obtain ⟨w, hformed, hw⟩ := bind_eq_some_iff.mp hw
  obtain ⟨w₁, hrun, hw⟩ := bind_eq_some_iff.mp hw
  obtain ⟨d, hd, hw⟩ := bind_eq_some_iff.mp hw
  obtain ⟨w₂, hstep, heq⟩ := map_eq_some_iff.mp hw
  rw [Prod.mk.injEq, decide_eq_true_eq] at heq
  obtain ⟨⟨hvoter, hgone, hnetwork, hpeer⟩, hmembers⟩ := heq
  refine ⟨w, w₁, w₂, d, hformed, hrun, hd, hvoter, hgone, hnetwork, hpeer, hstep, hmembers,
    fun hagree => hgone ((hagree.voters 2).mp hvoter), fun hagree => ?_⟩
  have hnodup := hagree.fresh
  rw [hmembers] at hnodup
  exact absurd hnodup (by decide)

end MeshWorld

end Mill
