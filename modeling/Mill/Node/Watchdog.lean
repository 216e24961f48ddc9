import Mill.Node.Maintenance

/-! The watchdog of the primary. Each tick marks silent nodes down and fails their
allocations, puts back the WireGuard peers of nodes that have recovered, and restarts
services. Every read of the replicated state, every proposal and every call of the mesh
is a step of its own, between which other tasks may act. -/

namespace Mill

structure PeerInfo where
  nodeId : NodeId
  publicKey : String
  endpoint : Option SocketAddr
  tunnelIp : IpAddr
deriving DecidableEq

abbrev Instants := Finmap fun _ : Nat => Nat

abbrev Statuses := Finmap fun _ : Nat => NodeStatus

abbrev HeartbeatTracker := Instants

namespace HeartbeatTracker

def record (tracker : HeartbeatTracker) (raftId now : Nat) : HeartbeatTracker :=
  tracker.insert raftId now

def lastSeen (tracker : HeartbeatTracker) (raftId : Nat) : Option Nat := tracker.lookup raftId

def remove (tracker : HeartbeatTracker) (raftId : Nat) : HeartbeatTracker := tracker.erase raftId

lemma lastSeen_record (tracker : HeartbeatTracker) (raftId now k : Nat) :
    (tracker.record raftId now).lastSeen k = if k = raftId then some now else tracker.lastSeen k :=
  Finmap.lookup_insert_eq tracker raftId k now

lemma lastSeen_remove (tracker : HeartbeatTracker) (raftId k : Nat) :
    (tracker.remove raftId).lastSeen k = if k = raftId then none else tracker.lastSeen k :=
  Finmap.lookup_erase_eq tracker raftId k

end HeartbeatTracker

inductive WatchdogEffect
  | coord (e : Effect)
  | now
  | nodes
  | visitDiscovered (discovered : Instants)
  | lastSeen (raftId : Nat)
  | untrack (raftId : Nat)
  | pubkey (raftId : Nat)
  | removePeer (publicKey : String)
  | nodeAllocs (millId : NodeId)
  | recovered (prevStatuses : Statuses)
  | addPeer (peer : PeerInfo)
  | statuses

@[reducible] def WatchdogEffect.Answer : WatchdogEffect → Type
  | coord e => e.Answer
  | now => Nat
  | nodes => List (Nat × NodeId × NodeStatus)
  | visitDiscovered _ => List (Σ _ : Nat, Nat)
  | lastSeen _ => Option Nat
  | untrack _ => Unit
  | pubkey _ => Option String
  | removePeer _ => Except String Unit
  | nodeAllocs _ => List (AllocId × AllocKind × String)
  | recovered _ => List PeerInfo
  | addPeer _ => Except String Unit
  | statuses => List (Nat × NodeStatus)

abbrev WatchdogAction := Program WatchdogEffect WatchdogEffect.Answer DeployError

def watch (e : WatchdogEffect) : WatchdogAction e.Answer := Program.effect e

def markNodeAllocFailed (restartBackoff : RestartBackoff) (a : AllocId × AllocKind × String) :
    WatchdogAction RestartBackoff := do
  -- a refused proposal is only logged
  let _ ← watch (.coord (.propose (.allocStatus a.1 (.failed "node down"))))
  if a.2.1 = .service then pure (restartBackoff.erase a.2.2) else pure restartBackoff

def markNodeAllocsFailed (millId : NodeId) (restartBackoff : RestartBackoff) :
    WatchdogAction RestartBackoff := do
  let allocs ← watch (.nodeAllocs millId)
  Program.foldEach markNodeAllocFailed allocs restartBackoff

def removeMeshPeer (wireguard : Bool) (wgPubkey : Option String) : WatchdogAction Unit :=
  match wireguard, wgPubkey with
  | true, some pubkey => do
    let _ ← watch (.removePeer pubkey)
    pure ()
  | _, _ => pure ()

def checkHeartbeat (wireguard : Bool) (heartbeatTimeout now : Nat) (nodeDiscovered : Instants)
    (restartBackoff : RestartBackoff) (n : Nat × NodeId × NodeStatus) :
    WatchdogAction RestartBackoff :=
  if n.2.2 = .ready then do
    let lastSeen ← watch (.lastSeen n.1)
    let discoveredAt := (nodeDiscovered.lookup n.1).getD now
    let effective := lastSeen.getD discoveredAt
    if now - effective < heartbeatTimeout then pure restartBackoff
    else
      let wgPubkey ← watch (.pubkey n.1)
      match ← watch (.coord (.propose (.nodeDown n.1))) with
      | .error _ => pure restartBackoff
      | .ok _ =>
        removeMeshPeer wireguard wgPubkey
        markNodeAllocsFailed n.2.1 restartBackoff
  else pure restartBackoff

def discover (now : Nat) (nodes : List (Nat × NodeId × NodeStatus)) (nodeDiscovered : Instants) :
    Instants :=
  nodes.foldl (fun m n => if n.1 ∈ m then m else m.insert n.1 now) nodeDiscovered

/-- The nodes as they are after the time `now` of the tick has been read. -/
def checkHeartbeatsAt (wireguard : Bool) (heartbeatTimeout : Nat) (nodeDiscovered : Instants)
    (restartBackoff : RestartBackoff) (now : Nat) :
    WatchdogAction (Instants × RestartBackoff) := do
  let nodes ← watch .nodes
  let current := nodes.map fun n => n.1
  let discovered := discover now nodes nodeDiscovered
  let order ← watch (.visitDiscovered discovered)
  Program.foldEach (fun _ raftId => watch (.untrack raftId))
    ((order.map Sigma.fst).filter fun raftId => decide (raftId ∉ current)) ()
  let discovered := discovered.retain fun raftId _ => decide (raftId ∈ current)
  let restartBackoff ← Program.foldEach
    (checkHeartbeat wireguard heartbeatTimeout now discovered) nodes restartBackoff
  pure (discovered, restartBackoff)

def checkHeartbeats (wireguard : Bool) (heartbeatTimeout : Nat) (nodeDiscovered : Instants)
    (restartBackoff : RestartBackoff) : WatchdogAction (Instants × RestartBackoff) := do
  let now ← watch .now
  checkHeartbeatsAt wireguard heartbeatTimeout nodeDiscovered restartBackoff now

def snapshotStatuses : WatchdogAction Statuses := do
  let nodes ← watch .statuses
  pure (nodes.foldl (fun m n => m.insert n.1 n.2) ∅)

def reconcileWireguardPeers (wireguard : Bool) (prevStatuses : Statuses) :
    WatchdogAction Statuses :=
  if wireguard then do
    let recovered ← watch (.recovered prevStatuses)
    Program.foldEach (fun _ peer => do
      let _ ← watch (.addPeer peer)
      pure ()) recovered ()
    snapshotStatuses
  else snapshotStatuses

structure WatchdogState where
  nodeDiscovered : Instants
  restartBackoff : RestartBackoff
  prevStatuses : Statuses

instance : Inhabited WatchdogState := ⟨⟨∅, ∅, ∅⟩⟩

def afterHeartbeats (wireguard : Bool) (prevStatuses : Statuses) (r : Instants × RestartBackoff) :
    WatchdogAction WatchdogState := do
  let prevStatuses ← reconcileWireguardPeers wireguard prevStatuses
  let now ← watch .now
  let restartBackoff ←
    (checkServiceRestarts now r.2).lift WatchdogEffect.coord fun _ answer => answer
  pure ⟨r.1, restartBackoff, prevStatuses⟩

def watchdogTick (wireguard : Bool) (heartbeatTimeout : Nat) (st : WatchdogState) :
    WatchdogAction WatchdogState := do
  let r ← checkHeartbeats wireguard heartbeatTimeout st.nodeDiscovered st.restartBackoff
  afterHeartbeats wireguard st.prevStatuses r

def spawnWatchdog (wireguard : Bool) (heartbeatTimeout : Nat) :
    Nat → WatchdogState → WatchdogAction Unit
  | 0, _ => pure ()
  | ticks + 1, st => do
    let _ ← watch (.coord .tick)
    let st ← watchdogTick wireguard heartbeatTimeout st
    spawnWatchdog wireguard heartbeatTimeout ticks st

lemma lookup_discover (now : Nat) (nodes : List (Nat × NodeId × NodeStatus))
    (nodeDiscovered : Instants) (raftId : Nat) :
    ((discover now nodes nodeDiscovered).lookup raftId).getD now =
      (nodeDiscovered.lookup raftId).getD now := by
  unfold discover
  induction nodes generalizing nodeDiscovered with
  | nil => rfl
  | cons n nodes ih =>
    rw [List.foldl_cons, ih]
    split_ifs with hmem
    · rfl
    · rw [Finmap.lookup_insert_eq]
      split_ifs with hk
      · have hnone : nodeDiscovered.lookup raftId = none := by
          rw [hk]
          exact Finmap.lookup_eq_none.mpr hmem
        rw [hnone, Option.getD_some, Option.getD_none]
      · rfl

lemma mem_discover {now : Nat} {nodes : List (Nat × NodeId × NodeStatus)}
    {nodeDiscovered : Instants} {raftId : Nat}
    (h : raftId ∈ nodeDiscovered ∨ raftId ∈ nodes.map fun n => n.1) :
    raftId ∈ discover now nodes nodeDiscovered := by
  unfold discover
  induction nodes generalizing nodeDiscovered with
  | nil => exact h.resolve_right List.not_mem_nil
  | cons n nodes ih =>
    rw [List.foldl_cons]
    apply ih
    rw [List.map_cons, List.mem_cons] at h
    split_ifs with hmem
    · rcases h with h | rfl | h
      · exact .inl h
      · exact .inl hmem
      · exact .inr h
    · rw [Finmap.mem_insert]
      tauto

inductive RestartEffect : Effect → Prop
  | config : RestartEffect (.read .config)
  | visitServices (services : Finmap fun _ : String => ServiceDef) :
      RestartEffect (.visitServices services)
  | serviceCounts (name : String) : RestartEffect (.read (.serviceCounts name))
  | spawnRestart (name : String) (d : ServiceDef) : RestartEffect (.spawnRestart name d)

lemma only_checkServiceRestart (now : Nat) (restartBackoff : RestartBackoff)
    (e : Σ _ : String, ServiceDef) :
    (checkServiceRestart now restartBackoff e).Only RestartEffect fun _ => False := by
  refine .bind (.effect (.serviceCounts e.1)) ?_
  rintro ⟨active, nonTerminal⟩
  dsimp only
  split_ifs
  · trivial
  · trivial
  · split
    · trivial
    · split_ifs
      · trivial
      · refine .bind (.foldEach ?_ ()) fun _ => trivial
        intro _ _ _
        exact .effect (.spawnRestart e.1 e.2)

lemma only_checkServiceRestarts (now : Nat) (restartBackoff : RestartBackoff) :
    (checkServiceRestarts now restartBackoff).Only RestartEffect fun _ => False := by
  refine .bind (.effect .config) fun config => ?_
  refine .bind (.effect (.visitServices _)) fun order => ?_
  exact .foldEach (fun restartBackoff e _ => only_checkServiceRestart now restartBackoff e) _

section

variable {P : WatchdogEffect → Prop}

lemma only_markNodeAllocsFailed (hallocs : ∀ millId, P (.nodeAllocs millId))
    (hstatus : ∀ id status, P (.coord (.propose (.allocStatus id status)))) (millId : NodeId)
    (restartBackoff : RestartBackoff) :
    (markNodeAllocsFailed millId restartBackoff).Only P fun _ => False := by
  refine .bind (.effect (hallocs millId)) fun allocs => .foldEach (fun acc a _ => ?_) _
  refine .bind (.effect (hstatus a.1 _)) fun _ => ?_
  split_ifs <;> trivial

lemma only_removeMeshPeer (hremove : ∀ pubkey, P (.removePeer pubkey)) (wireguard : Bool)
    (wgPubkey : Option String) : (removeMeshPeer wireguard wgPubkey).Only P fun _ => False := by
  unfold removeMeshPeer
  split
  · exact .bind (.effect (hremove _)) fun _ => trivial
  · trivial

lemma only_reconcileWireguardPeers (hrecovered : ∀ prev, P (.recovered prev))
    (hadd : ∀ peer, P (.addPeer peer)) (hstatuses : P .statuses) (wireguard : Bool)
    (prevStatuses : Statuses) :
    (reconcileWireguardPeers wireguard prevStatuses).Only P fun _ => False := by
  have hsnapshot : snapshotStatuses.Only P fun _ => False :=
    .bind (.effect hstatuses) fun _ => trivial
  unfold reconcileWireguardPeers
  split_ifs
  · refine .bind (.effect (hrecovered _)) fun recovered => ?_
    refine .bind (.foldEach (fun _ peer _ => ?_) ()) fun _ => hsnapshot
    exact .bind (.effect (hadd peer)) fun _ => trivial
  · exact hsnapshot

end

/-- What the watchdog acts on: beside the world of the coordinators, the tracker that the
report processor fills, and the peers of the mesh interface by public key. -/
structure WatchdogWorld extends World where
  tracker : HeartbeatTracker
  peers : Finmap fun _ : String => PeerInfo

inductive WatchdogChoice
  | coord (c : Choice)
  | time (now : Nat)
  | nodes (order : List FsmNode)
  | allocs (order : List Alloc)
  | discovered (order : List (Σ _ : Nat, Nat))
  | proceed
  | meshError (message : String)

def FsmNode.recoveredPeer (prevStatuses : Statuses) (n : FsmNode) : Option PeerInfo :=
  if prevStatuses.lookup n.raftId = some .down ∧ n.status = .ready then
    n.wireguardPubkey.map fun pubkey => ⟨n.millId, pubkey, none, n.address.ip⟩
  else none

namespace WatchdogWorld

def answer (w : WatchdogWorld) :
    (e : WatchdogEffect) → WatchdogChoice → Option (e.Answer × WatchdogWorld)
  | .coord e, .coord c => (w.toWorld.answer e c).map fun a => (a.1, { w with toWorld := a.2 })
  | .now, .time now => if w.clock ≤ now then some (now, { w with clock := now }) else none
  | .nodes, .nodes order =>
    if w.fsm.nodes.values = order then
      some (order.map fun n => (n.raftId, n.millId, n.status), w)
    else none
  | .visitDiscovered m, .discovered order => if m.entries = order then some (order, w) else none
  | .lastSeen raftId, .proceed => some (w.tracker.lastSeen raftId, w)
  | .untrack raftId, .proceed => some ((), { w with tracker := w.tracker.remove raftId })
  | .pubkey raftId, .proceed => some ((w.fsm.nodes.lookup raftId).bind FsmNode.wireguardPubkey, w)
  | .removePeer publicKey, .proceed => some (.ok (), { w with peers := w.peers.erase publicKey })
  | .removePeer _, .meshError message => some (.error message, w)
  | .nodeAllocs millId, .allocs order =>
    if w.fsm.allocs.values = order then
      some ((order.filter fun a => a.node == millId && !a.status.isTerminal).map
        fun a => (a.id, a.kind, a.name), w)
    else none
  | .recovered prevStatuses, .nodes order =>
    if w.fsm.nodes.values = order then
      some (order.filterMap (FsmNode.recoveredPeer prevStatuses), w)
    else none
  | .addPeer peer, .proceed =>
    some (.ok (), { w with peers := w.peers.insert peer.publicKey peer })
  | .addPeer _, .meshError message => some (.error message, w)
  | .statuses, .nodes order =>
    if w.fsm.nodes.values = order then some (order.map fun n => (n.raftId, n.status), w) else none
  | _, _ => none

inductive Answered (w : WatchdogWorld) : (e : WatchdogEffect) → e.Answer → WatchdogWorld → Prop
  | coord (e : Effect) (r : e.Answer) (w' : World) (h : World.Answered w.toWorld e r w') :
      Answered w (.coord e) r { w with toWorld := w' }
  | now (t : Nat) (ht : w.clock ≤ t) : Answered w .now t { w with clock := t }
  | nodes (order : List FsmNode) (h : w.fsm.nodes.values = order) :
      Answered w .nodes (order.map fun n => (n.raftId, n.millId, n.status)) w
  | visitDiscovered (m : Instants) (order : List (Σ _ : Nat, Nat)) (h : m.entries = order) :
      Answered w (.visitDiscovered m) order w
  | lastSeen (raftId : Nat) : Answered w (.lastSeen raftId) (w.tracker.lastSeen raftId) w
  | untrack (raftId : Nat) :
      Answered w (.untrack raftId) () { w with tracker := w.tracker.remove raftId }
  | pubkey (raftId : Nat) : Answered w (.pubkey raftId)
      ((w.fsm.nodes.lookup raftId).bind FsmNode.wireguardPubkey) w
  | removed (publicKey : String) :
      Answered w (.removePeer publicKey) (.ok ()) { w with peers := w.peers.erase publicKey }
  | notRemoved (publicKey message : String) : Answered w (.removePeer publicKey) (.error message) w
  | nodeAllocs (millId : NodeId) (order : List Alloc) (h : w.fsm.allocs.values = order) :
      Answered w (.nodeAllocs millId)
        ((order.filter fun a => a.node == millId && !a.status.isTerminal).map
          fun a => (a.id, a.kind, a.name)) w
  | recovered (prevStatuses : Statuses) (order : List FsmNode) (h : w.fsm.nodes.values = order) :
      Answered w (.recovered prevStatuses) (order.filterMap (FsmNode.recoveredPeer prevStatuses)) w
  | added (peer : PeerInfo) : Answered w (.addPeer peer) (.ok ())
      { w with peers := w.peers.insert peer.publicKey peer }
  | notAdded (peer : PeerInfo) (message : String) : Answered w (.addPeer peer) (.error message) w
  | statuses (order : List FsmNode) (h : w.fsm.nodes.values = order) :
      Answered w .statuses (order.map fun n => (n.raftId, n.status)) w

lemma answered_of_answer {w w' : WatchdogWorld} {e : WatchdogEffect} {c : WatchdogChoice}
    {r : e.Answer} (h : w.answer e c = some (r, w')) : Answered w e r w' := by
  unfold answer at h
  split at h
  case h_1 =>
    obtain ⟨a, ha, heq⟩ := Option.map_eq_some_iff.mp h
    cases heq
    exact .coord _ _ _ (World.answered_of_answer ha)
  all_goals
    try split_ifs at h
    cases h <;> constructor <;> assumption

end WatchdogWorld

def WatchdogEffect.applied : (e : WatchdogEffect) → e.Answer → Option Command
  | .coord e, r => e.applied r
  | _, _ => none

lemma WatchdogWorld.Answered.fsm_eq {w w' : WatchdogWorld} {e : WatchdogEffect} {r : e.Answer}
    (h : Answered w e r w') : w'.fsm = PlacementSystem.applied w.fsm (e.applied r) := by
  cases h with
  | coord e r w' h => exact h.fsm_eq
  | _ => rfl

lemma WatchdogWorld.Answered.clock_le {w w' : WatchdogWorld} {e : WatchdogEffect} {r : e.Answer}
    (h : Answered w e r w') : w.clock ≤ w'.clock := by
  cases h with
  | coord e r w' h =>
    cases h with
    | tick now hnow => exact hnow
    | _ => exact le_rfl
  | now t ht => exact ht
  | _ => exact le_rfl

lemma RestartEffect.applied {e : Effect} (he : RestartEffect e) (r : e.Answer) :
    e.applied r = none := by
  cases he <;> rfl

end Mill
