import Mill.Node.MeshDaemon

/-! The members of a cluster. There are four copies of who they are: the voters of Raft, the nodes
of the replicated state, and the Raft peer map and the WireGuard peers of every daemon. A join
changes them on the leader and on the joining node, a removal changes the replicated state only,
and a restart goes back to what the node was told when it joined. -/

namespace Mill

open Option Program

structure MeshWorld where
  log : List Command
  voters : Finset Nat
  daemons : List MeshDaemon
  leader : Nat
  members : List Nat
  removed : List FsmNode

namespace MeshWorld

def fsm (w : MeshWorld) : FsmState := applyAll default w.log

def nodesAt (w : MeshWorld) (applied : Nat) : Finmap fun _ : Nat => FsmNode :=
  (applyAll default (w.log.take applied)).nodes

def commit (w : MeshWorld) (c : Command) : MeshWorld := { w with log := w.log ++ [c] }

def atLeader (w : MeshWorld) (f : MeshDaemon → MeshDaemon) : MeshWorld :=
  { w with daemons := w.daemons.modify w.leader f }

def enter (w : MeshWorld) (d : MeshDaemon) : MeshWorld := { w with daemons := w.daemons ++ [d] }

/-- `AddVoterIds` adds to the voters that there are. -/
def promote (w : MeshWorld) (ids : List Nat) : MeshWorld :=
  { w with voters := w.voters ∪ ids.toFinset }

def register (w : MeshWorld) (c : Command) (raftId : Nat) : MeshWorld :=
  { w.commit c with members := w.members ++ [raftId] }

end MeshWorld

section

variable (parseIp : String → Option IpAddr)

def meshCtx : JoinCtx := ⟨true, true, parseIp⟩

/-- How the effects of a join go that is carried through. The node that answers is the leader, but
it may have applied less than the whole log. -/
def MeshWorld.answer (w : MeshWorld) : (e : JoinEffect) → JoinChoice → Option (e.Answer × MeshWorld)
  | .joinInfo, .nodes applied order =>
    if (w.nodesAt applied).entries = order then some (order, w) else none
  | .prepare info, .publicKey key => some (.ok key, w.enter (.join parseIp info))
  | .addPeer peer, .proceed => some (.ok (), w.atLeader fun d => d.addPeer peer)
  | .setPeer id address, .proceed => some ((), w.atLeader fun d => d.setPeer id address)
  | .addLearner _ _, .proceed => some (.ok (), w)
  | .memberIds, .ids applied order =>
    if (w.nodesAt applied).entries.map Sigma.fst = order then some (order, w) else none
  | .changeMembership ids, .proceed => some (.ok (), w.promote ids)
  | .propose c, .proceed =>
    c.member.map fun m => (.ok (applyCommand w.fsm c).2, w.register c m.raftId)
  | _, _ => none

def joinInfo (nodes : List (Σ _ : Nat, FsmNode)) (tunnelIp : IpAddr) : JoinInfoResponse :=
  { subnet := "10.99.0.0/16", prefixLen := 16, apiPort := 4400, tunnelIp,
    nextRaftId := nextRaftId (nodes.map Sigma.fst), peers := nodes.map fun e => e.2.joinPeer }

def JoinRequest.peer (body : JoinRequest) : PeerInfo :=
  ⟨body.nodeId, body.publicKey,
    (parseIp body.advertiseAddr).map fun ip => ⟨ip, wireguardPort⟩, body.tunnelIp⟩

def MeshWorld.posted (w : MeshWorld) (body : JoinRequest) (ids : List Nat) : MeshWorld :=
  (((w.atLeader fun d => d.addPeer (body.peer parseIp)).atLeader
    fun d => d.setPeer body.raftId ⟨body.tunnelIp, 4401⟩).promote
      (ids ++ [body.raftId])).register body.register body.raftId

def MeshWorld.joined (w : MeshWorld) (j : Joiner) (info : JoinInfoResponse) (publicKey : String)
    (ids : List Nat) : MeshWorld :=
  (w.enter (.join parseIp info)).posted parseIp (j.request info publicKey) ids

end

inductive MeshEvent
  | join (j : Joiner) (answers : List JoinChoice)
  | remove (id : NodeId) (applied : Nat) (nodes : List FsmNode)
  | commit (c : Command)
  | elect (leader : Nat)
  | restart (daemon : Nat)

def Command.removes : Command → Bool
  | .nodeRemove _ => true
  | _ => false

namespace MeshWorld

variable (parseIp : String → Option IpAddr)

/-- The handler of a removal and `remove_node`, where they succeed. -/
def remove (w : MeshWorld) (id : NodeId) (applied : Nat) (nodes : List FsmNode) :
    Option MeshWorld := do
  guard ((w.nodesAt applied).values = nodes)
  let raftId ← FsmState.raftIdFor nodes id
  let node ← w.fsm.nodes.lookup raftId
  match (applyCommand w.fsm (.nodeRemove raftId)).2 with
  | .ok => some { w.commit (.nodeRemove raftId) with removed := w.removed ++ [node] }
  | .error _ => none

def step (w : MeshWorld) : MeshEvent → Option MeshWorld
  | .join j answers => do
    let (w', p) ← Transition.run (stepAlone (answer parseIp)) (w, Mill.join (meshCtx parseIp) j)
      answers
    match p with
    | .done () => some w'
    | _ => none
  | .remove id applied nodes => w.remove id applied nodes
  | .commit c =>
    if c.member = none ∧ c.removes = false then some (w.commit c) else none
  | .elect leader => if leader < w.daemons.length then some { w with leader } else none
  | .restart i => do
    let d ← w.daemons[i]?
    let d' ← MeshDaemon.startFromExisting parseIp d.identity
    some { w with daemons := w.daemons.set i d' }

def formed (j : Joiner) (publicKey : String) : Option MeshWorld :=
  (MeshDaemon.init parseIp).map fun d =>
    let address := d.wireguard.tunnelIp
    { log := [.nodeRegister 1 j.nodeId ⟨address, apiPort⟩ j.resources (some publicKey) j.instanceId
        (some ⟨address, rpcPort⟩) (some j.advertiseAddr)]
      voters := {1}
      daemons := [d]
      leader := 0
      members := [1]
      removed := [] }

end MeshWorld

variable {parseIp : String → Option IpAddr} {w w' : MeshWorld}

namespace MeshWorld

variable {c : JoinChoice} {r : Except String Unit}

lemma answer_joinInfo {nodes : List (Σ _ : Nat, FsmNode)}
    (h : w.answer parseIp .joinInfo c = some (nodes, w')) : w' = w ∧ ∃ applied,
      c = .nodes applied nodes ∧ (w.nodesAt applied).entries = nodes := by
  cases c with
  | nodes applied =>
    simp only [answer, ite_none_right_eq_some, Option.some.injEq, Prod.mk.injEq] at h
    obtain ⟨horder, rfl, rfl⟩ := h
    exact ⟨rfl, applied, rfl, horder⟩
  | _ => cases h

lemma answer_prepare {info : JoinInfoResponse} {r : Except String String}
    (h : w.answer parseIp (.prepare info) c = some (r, w')) :
    w' = w.enter (.join parseIp info) ∧ ∃ key, r = .ok key := by
  cases c with
  | publicKey key =>
    cases h
    exact ⟨rfl, key, rfl⟩
  | _ => cases h

lemma answer_addPeer {peer : PeerInfo} (h : w.answer parseIp (.addPeer peer) c = some (r, w')) :
    w' = w.atLeader (fun d => d.addPeer peer) ∧ r = .ok () := by
  cases c with
  | proceed =>
    cases h
    exact ⟨rfl, rfl⟩
  | _ => cases h

lemma answer_setPeer {id : Nat} {address : SocketAddr} {r : Unit}
    (h : w.answer parseIp (.setPeer id address) c = some (r, w')) :
    w' = w.atLeader fun d => d.setPeer id address := by
  cases c with
  | proceed =>
    cases h
    rfl
  | _ => cases h

lemma answer_addLearner {id : Nat} {address : SocketAddr}
    (h : w.answer parseIp (.addLearner id address) c = some (r, w')) : w' = w ∧ r = .ok () := by
  cases c with
  | proceed =>
    cases h
    exact ⟨rfl, rfl⟩
  | _ => cases h

lemma answer_memberIds {ids : List Nat} (h : w.answer parseIp .memberIds c = some (ids, w')) :
    w' = w ∧ ∃ applied, (w.nodesAt applied).entries.map Sigma.fst = ids := by
  cases c with
  | ids applied =>
    simp only [answer, ite_none_right_eq_some, Option.some.injEq, Prod.mk.injEq] at h
    obtain ⟨horder, rfl, rfl⟩ := h
    exact ⟨rfl, applied, horder⟩
  | _ => cases h

lemma answer_changeMembership {ids : List Nat}
    (h : w.answer parseIp (.changeMembership ids) c = some (r, w')) :
    w' = w.promote ids ∧ r = .ok () := by
  cases c with
  | proceed =>
    cases h
    exact ⟨rfl, rfl⟩
  | _ => cases h

lemma answer_propose {body : JoinRequest} {r : Except String Response}
    (h : w.answer parseIp (.propose body.register) c = some (r, w')) :
    w' = w.register body.register body.raftId := by
  cases c with
  | proceed =>
    cases h
    rfl
  | _ => cases h

def joinSpec (parseIp : String → Option IpAddr) : Spec JoinEffect JoinEffect.Answer MeshWorld where
  pre _ _ := True
  post w e r w' := ∃ c, w.answer parseIp e c = some (r, w')

lemma wp_postJoin (w : MeshWorld) (body : JoinRequest) :
    (postJoin (meshCtx parseIp) body).wp (joinSpec parseIp)
      (fun _ w' => ∃ (applied : Nat) (ids : List Nat),
        (w.nodesAt applied).entries.map Sigma.fst = ids ∧ w' = w.posted parseIp body ids) w := by
  refine ⟨trivial, ?_⟩
  rintro r w₁ ⟨c, hpeer⟩
  obtain ⟨rfl, rfl⟩ := answer_addPeer hpeer
  refine ⟨trivial, ?_⟩
  rintro r w₂ ⟨c, hset⟩
  obtain rfl := answer_setPeer hset
  refine ⟨trivial, ?_⟩
  rintro r w₃ ⟨c, hlearner⟩
  obtain ⟨rfl, rfl⟩ := answer_addLearner hlearner
  refine ⟨trivial, ?_⟩
  rintro ids w₄ ⟨c, hids⟩
  obtain ⟨rfl, applied, hids⟩ := answer_memberIds hids
  refine ⟨trivial, ?_⟩
  rintro r w₅ ⟨c, hvoters⟩
  obtain ⟨rfl, rfl⟩ := answer_changeMembership hvoters
  refine ⟨trivial, ?_⟩
  rintro r w₆ ⟨c, hpropose⟩
  obtain rfl := answer_propose hpropose
  have hdone : ∃ (applied : Nat) (ids : List Nat), (w.nodesAt applied).entries.map Sigma.fst = ids ∧
        MeshWorld.register _ body.register body.raftId = w.posted parseIp body ids :=
    ⟨applied, ids, hids, rfl⟩
  rcases r with e | (_ | message)
  · exact hdone
  · exact hdone
  · exact hdone

lemma wp_join (parseIp : String → Option IpAddr) (w : MeshWorld) (j : Joiner) : ∃ next,
    Mill.join (meshCtx parseIp) j = .perform .joinInfo next ∧
      ∀ nodes : List (Σ _ : Nat, FsmNode), (next nodes).wp (joinSpec parseIp) (fun o w' => ∀ a,
        o = .ok a → ∃ (tunnelIp : IpAddr) (publicKey : String) (t : Nat) (ids : List Nat),
          allocateTunnelIp (nodes.map fun e => e.2.address.ip) = some tunnelIp ∧
          (w.nodesAt t).entries.map Sigma.fst = ids ∧
          w' = w.joined parseIp j (joinInfo nodes tunnelIp) publicKey ids) w := by
  refine ⟨_, rfl, fun nodes => ?_⟩
  have hips : (nodes.map fun e => e.2.joinPeer).map (fun p => p.tunnelIp) =
      nodes.map fun e => e.2.address.ip := by
    rw [List.map_map]
    rfl
  refine wp_bind ?_
  dsimp only [Program.bind]
  rw [hips]
  split
  · intro a ha
    cases ha
  · rename_i tunnelIp hip
    refine ⟨trivial, ?_⟩
    rintro r w₁ ⟨c, hprepare⟩
    obtain ⟨rfl, publicKey, rfl⟩ := answer_prepare hprepare
    refine wp_mono (wp_postJoin _ _) ?_
    rintro o w₂ ⟨t, ids, hids, rfl⟩ a -
    exact ⟨tunnelIp, publicKey, t, ids, hip, hids, rfl⟩

lemma step_join {j : Joiner} {answers : List JoinChoice}
    (h : w.step parseIp (.join j answers) = some w') :
    ∃ (t : Nat) (nodes : List (Σ _ : Nat, FsmNode)) (rest : List JoinChoice) (tunnelIp : IpAddr)
      (publicKey : String) (t' : Nat) (ids : List Nat), answers = .nodes t nodes :: rest ∧
      (w.nodesAt t).entries = nodes ∧
      allocateTunnelIp (nodes.map fun e => e.2.address.ip) = some tunnelIp ∧
      (w.nodesAt t').entries.map Sigma.fst = ids ∧
      w' = w.joined parseIp j (joinInfo nodes tunnelIp) publicKey ids := by
  obtain ⟨next, hjoin, hnext⟩ := wp_join parseIp w j
  obtain ⟨⟨w₁, p⟩, hrun, hdone⟩ := bind_eq_some_iff.mp h
  rw [hjoin] at hrun
  cases answers with
  | nil =>
    cases hrun
    cases hdone
  | cons c rest =>
    obtain ⟨⟨w₂, p₂⟩, hread, hrest⟩ := Transition.run_cons_eq_some.mp hrun
    obtain ⟨⟨nodes, w₃⟩, hinfo, heq⟩ := map_eq_some_iff.mp hread
    obtain ⟨rfl, rfl⟩ := Prod.mk.inj heq
    obtain ⟨rfl, t, rfl, hnodes⟩ := answer_joinInfo hinfo
    have hend := wp_of_run (P := fun _ => True) (hnext nodes)
      (fun w e c r w' _ hans => ⟨c, hans⟩) (fun _ _ => trivial) hrest
    cases p with
    | done a =>
      cases hdone
      obtain ⟨tunnelIp, publicKey, t', ids, hip, hids, rfl⟩ := hend a rfl
      exact ⟨t, nodes, rest, tunnelIp, publicKey, t', ids, rfl, hnodes, hip, hids, rfl⟩
    | fail => cases hdone
    | perform => cases hdone

lemma step_remove {id : NodeId} {applied : Nat} {nodes : List FsmNode}
    (h : w.step parseIp (.remove id applied nodes) = some w') :
    ∃ raftId node, w.fsm.nodes.lookup raftId = some node ∧
      (applyCommand w.fsm (.nodeRemove raftId)).2 = .ok ∧
      w' = { w.commit (.nodeRemove raftId) with removed := w.removed ++ [node] } := by
  obtain ⟨-, -, h⟩ := bind_eq_some_iff.mp h
  obtain ⟨raftId, -, h⟩ := bind_eq_some_iff.mp h
  obtain ⟨node, hnode, h⟩ := bind_eq_some_iff.mp h
  split at h
  · rename_i hok
    cases h
    exact ⟨raftId, node, hnode, hok, rfl⟩
  · cases h

lemma step_commit {c : Command} (h : w.step parseIp (.commit c) = some w') :
    c.member = none ∧ c.removes = false ∧ w' = w.commit c := by
  simp only [step, ite_none_right_eq_some, Option.some.injEq] at h
  obtain ⟨⟨hc, hremoves⟩, rfl⟩ := h
  exact ⟨hc, hremoves, rfl⟩

lemma step_elect {leader : Nat} (h : w.step parseIp (.elect leader) = some w') :
    leader < w.daemons.length ∧ w' = { w with leader } := by
  simp only [step, ite_none_right_eq_some, Option.some.injEq] at h
  exact ⟨h.1, h.2.symm⟩

lemma step_restart {i : Nat} (h : w.step parseIp (.restart i) = some w') :
    ∃ d d', w.daemons[i]? = some d ∧ MeshDaemon.startFromExisting parseIp d.identity = some d' ∧
      w' = { w with daemons := w.daemons.set i d' } := by
  obtain ⟨d, hd, h⟩ := bind_eq_some_iff.mp h
  obtain ⟨d', hd', h⟩ := bind_eq_some_iff.mp h
  cases h
  exact ⟨d, d', hd, hd', rfl⟩

end MeshWorld

end Mill
