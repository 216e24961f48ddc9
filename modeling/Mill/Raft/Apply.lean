import Mill.Raft.Command

/-! The transition function of the replicated state machine, and what one
command can do to one allocation. -/

namespace Mill

namespace Alloc

def heartbeat (a : Alloc) (status : AllocStatus) : Alloc :=
  if a.status = .healthy ∧ status = .running then a else { a with status }

def run (a : Alloc) (address : Option SocketAddr) (startedAt : Option SystemTime) : Alloc :=
  if a.status.isPending then { a with status := .running, address, startedAt } else a

/-- What the statuses of one heartbeat make of the allocation with id `i`. -/
def report (allocStatuses : Finmap fun _ : AllocId => AllocStatus) (i : AllocId) (a : Alloc) :
    Alloc :=
  match allocStatuses.lookup i with
  | some status => a.heartbeat status
  | none => a

end Alloc

open FsmState in
def applyCommand (s : FsmState) : Command → FsmState × Response
  | .deploy config => ({ s with config := some config }, .ok)
  | .nodeRegister id millId address resources wireguardPubkey instanceId rpcAddress advertiseAddr =>
    let node : FsmNode :=
      { raftId := id, millId, address, resources, status := .ready, wireguardPubkey, instanceId,
        rpcAddress, advertiseAddr }
    ({ s with nodes := s.nodes.insert id node }, .ok)
  | .nodeHeartbeat id allocStatuses =>
    match s.nodes.lookup id with
    | none => (s, .error s!"unknown node {id}")
    | some node =>
      let alive := if node.status = .down then { node with status := .ready } else node
      ({ s with
          nodes := s.nodes.insert id alive
          allocs := s.allocs.mapVals (Alloc.report allocStatuses) }, .ok)
  | .nodeDown id =>
    match s.nodes.lookup id with
    | none => (s, .error s!"unknown node {id}")
    | some node => ({ s with nodes := s.nodes.insert id { node with status := .down } }, .ok)
  | .allocScheduled allocId nodeId name kind address resources =>
    match s.nodes.lookup nodeId with
    | none => (s, .error s!"unknown node {nodeId}")
    | some node =>
      let alloc := makeAlloc allocId node.millId name kind address resources
      ({ s with allocs := s.allocs.insert alloc.id alloc }, .ok)
  | .allocStatus allocId status =>
    match s.allocs.lookup allocId with
    | none => (s, .error s!"unknown alloc {allocId.val}")
    | some alloc => ({ s with allocs := s.allocs.insert allocId { alloc with status } }, .ok)
  | .allocRunning allocId address startedAt =>
    match s.allocs.lookup allocId with
    | none => (s, .error s!"unknown alloc {allocId.val}")
    | some alloc =>
      ({ s with allocs := s.allocs.insert allocId (alloc.run address startedAt) }, .ok)
  | .secretSet name encryptedValue nonce =>
    ({ s with secrets := s.secrets.insert name ⟨encryptedValue, nonce⟩ }, .ok)
  | .secretDelete name =>
    match s.secrets.lookup name with
    | none => (s, .error s!"unknown secret {name}")
    | some _ => ({ s with secrets := s.secrets.erase name }, .ok)
  | .volumeCreated name cloudId =>
    ({ s with volumes := s.volumes.insert name ⟨cloudId, .ready⟩ }, .ok)
  | .volumeAttached name node =>
    match s.nodes.lookup node with
    | none => (s, .error s!"unknown node {node}")
    | some n =>
      match s.volumes.lookup name with
      | none => (s, .error s!"unknown volume {name}")
      | some vol =>
        ({ s with volumes := s.volumes.insert name { vol with state := .attached n.millId } }, .ok)
  | .volumeDetached name =>
    match s.volumes.lookup name with
    | none => (s, .error s!"unknown volume {name}")
    | some vol => ({ s with volumes := s.volumes.insert name { vol with state := .ready } }, .ok)
  | .volumeDestroyed name => ({ s with volumes := s.volumes.erase name }, .ok)
  | .nodeDrain id =>
    match s.nodes.lookup id with
    | none => (s, .error s!"unknown node {id}")
    | some node => ({ s with nodes := s.nodes.insert id { node with status := .draining } }, .ok)
  | .nodeRemove id =>
    match s.nodes.lookup id with
    | none => (s, .error s!"unknown node {id}")
    | some node =>
      if s.allocs.any fun _ a => a.node == node.millId && !a.status.isTerminal then
        (s, .error s!"node {id} still has active allocations")
      else
        ({ s with
            allocs := s.allocs.retain fun _ a => a.node != node.millId
            nodes := s.nodes.erase id }, .ok)

/-- The loop of the source over the statuses of a heartbeat, in any order in
which the hash map may be visited. -/
lemma heartbeat_loop {allocStatuses : Finmap fun _ : AllocId => AllocStatus}
    {order : List (Σ _ : AllocId, AllocStatus)} (h : allocStatuses.entries = order)
    (allocs : Finmap fun _ : AllocId => Alloc) :
    order.foldl (fun m e => m.modify e.1 (·.heartbeat e.2)) allocs =
      allocs.mapVals (Alloc.report allocStatuses) := by
  rw [Finmap.foldl_modify (fun status a => Alloc.heartbeat a status)
    (Finmap.nodupKeys_of_entries h)]
  congr 1
  funext i a
  rw [Alloc.report, Finmap.lookup_of_entries h]
  cases order.dlookup i <;> rfl

def applyAll (s : FsmState) (cmds : List Command) : FsmState :=
  cmds.foldl (fun s c => (applyCommand s c).1) s

@[simp] lemma applyAll_cons (s : FsmState) (c : Command) (cs : List Command) :
    applyAll s (c :: cs) = applyAll (applyCommand s c).1 cs := rfl

lemma applyAll_append (s : FsmState) (as bs : List Command) :
    applyAll s (as ++ bs) = applyAll (applyAll s as) bs := List.foldl_append

def FsmNode.demo (id : Nat) (name : String) : FsmNode where
  raftId := id
  millId := ⟨name⟩
  address := ⟨.v4 (0x0A630000 + BitVec.ofNat 32 id), 4400⟩
  resources := ⟨4, 4, 8192, 8192⟩
  status := .ready
  wireguardPubkey := none
  instanceId := none
  rpcAddress := none
  advertiseAddr := none

/-- The command that registers the demo node. -/
def Command.demoRegister (id : Nat) (name : String) : Command :=
  let n := FsmNode.demo id name
  .nodeRegister id n.millId n.address n.resources none none none none

end Mill
