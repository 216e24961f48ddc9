import Mathlib.Order.Bounds.Basic
import Mill.Node.Watchdog

/-! How nodes join. -/

namespace Mill

open List Option Program Transition

inductive Endpoint
  | advertised (host : String) (port : Nat)
  | address (a : SocketAddr)
deriving DecidableEq

structure JoinPeerInfo where
  raftId : Nat
  endpoint : Endpoint
  tunnelIp : IpAddr
  publicKey : String

structure JoinInfoResponse where
  subnet : String
  prefixLen : Nat
  apiPort : Nat
  tunnelIp : IpAddr
  nextRaftId : Nat
  peers : List JoinPeerInfo

structure JoinRequest where
  nodeId : NodeId
  raftId : Nat
  advertiseAddr : String
  tunnelIp : IpAddr
  publicKey : String
  resources : NodeResources
  instanceId : Option String
  rpcAddress : Option SocketAddr

inductive JoinError
  | refused (e : ApiError)
  | node (message : String)

inductive JoinEffect
  /-- The one read of `get_join_info`, at some node of the cluster. -/
  | joinInfo
  | prepare (info : JoinInfoResponse)
  | addPeer (peer : PeerInfo)
  | setPeer (raftId : Nat) (address : SocketAddr)
  | addLearner (raftId : Nat) (address : SocketAddr)
  | memberIds
  | changeMembership (memberIds : List Nat)
  | propose (c : Command)

@[reducible] def JoinEffect.Answer : JoinEffect → Type
  | joinInfo => List (Σ _ : Nat, FsmNode)
  | prepare _ => Except String String
  | addPeer _ => Except String Unit
  | setPeer _ _ => Unit
  | addLearner _ _ => Except String Unit
  | memberIds => List Nat
  | changeMembership _ => Except String Unit
  | propose _ => Except String Response

abbrev JoinAction := Program JoinEffect JoinEffect.Answer JoinError

def joining (e : JoinEffect) : JoinAction e.Answer := Program.effect e

def internalError (message : String) : JoinAction Unit :=
  .fail (.refused (.internalServerError message))

def wireguardPort : Nat := 51820

def allocateTunnelIp (used : List IpAddr) : Option IpAddr :=
  ((List.range' 1 65533).map fun i => IpAddr.v4 (0x0A630000 + BitVec.ofNat 32 i)).find?
    fun a => !used.contains a

def nextRaftId (ids : List Nat) : Nat := ids.max?.getD 0 + 1

def FsmNode.joinPeer (n : FsmNode) : JoinPeerInfo where
  raftId := n.raftId
  endpoint := (n.advertiseAddr.map fun a => Endpoint.advertised a wireguardPort).getD
    (.address n.address)
  tunnelIp := n.address.ip
  publicKey := n.wireguardPubkey.getD ""

def getJoinInfo : JoinAction JoinInfoResponse := do
  let nodes ← joining .joinInfo
  let peers := nodes.map fun e => e.2.joinPeer
  match allocateTunnelIp (peers.map fun p => p.tunnelIp) with
  | none => .fail (.refused (.internalServerError "no tunnel IPs available"))
  | some tunnelIp =>
    pure { subnet := "10.99.0.0/16", prefixLen := 16, apiPort := 4400, tunnelIp,
           nextRaftId := nextRaftId (nodes.map Sigma.fst), peers }

structure JoinCtx where
  wireguard : Bool
  raftNetwork : Bool
  parseIp : String → Option IpAddr

def addJoiningPeer (ctx : JoinCtx) (body : JoinRequest) : JoinAction Unit :=
  if ctx.wireguard then do
    let endpoint := (ctx.parseIp body.advertiseAddr).map fun ip => SocketAddr.mk ip wireguardPort
    match ← joining (.addPeer ⟨body.nodeId, body.publicKey, endpoint, body.tunnelIp⟩) with
    | .error e => internalError s!"wireguard add_peer: {e}"
    | .ok () => pure ()
  else pure ()

def setJoiningPeer (ctx : JoinCtx) (body : JoinRequest) : JoinAction Unit :=
  if ctx.raftNetwork then joining (.setPeer body.raftId ⟨body.tunnelIp, 4401⟩) else pure ()

def JoinRequest.register (body : JoinRequest) : Command :=
  .nodeRegister body.raftId body.nodeId ⟨body.tunnelIp, 4400⟩ body.resources (some body.publicKey)
    body.instanceId body.rpcAddress (some body.advertiseAddr)

def postJoin (ctx : JoinCtx) (body : JoinRequest) : JoinAction Unit := do
  addJoiningPeer ctx body
  setJoiningPeer ctx body
  match ← joining (.addLearner body.raftId ⟨body.tunnelIp, 4401⟩) with
  | .error e => internalError s!"add_learner: {e}"
  | .ok () =>
    let ids ← joining .memberIds
    match ← joining (.changeMembership (ids ++ [body.raftId])) with
    | .error e => internalError s!"change_membership: {e}"
    | .ok () =>
      match ← joining (.propose body.register) with
      | .ok .ok => pure ()
      | _ => internalError "raft proposal failed"

structure Joiner where
  nodeId : NodeId
  advertiseAddr : String
  resources : NodeResources
  instanceId : Option String

def Joiner.demo (name advertiseAddr : String) : Joiner :=
  ⟨⟨name⟩, advertiseAddr, ⟨4, 4, 8192, 8192⟩, none⟩

def rpcPort : Nat := 4402

def Joiner.request (j : Joiner) (info : JoinInfoResponse) (publicKey : String) : JoinRequest where
  nodeId := j.nodeId
  raftId := info.nextRaftId
  advertiseAddr := j.advertiseAddr
  tunnelIp := info.tunnelIp
  publicKey := publicKey
  resources := j.resources
  instanceId := j.instanceId
  rpcAddress := some ⟨info.tunnelIp, rpcPort⟩

def join (ctx : JoinCtx) (j : Joiner) : JoinAction Unit := do
  let info ← getJoinInfo
  match ← joining (.prepare info) with
  | .error e => .fail (.node e)
  | .ok publicKey => postJoin ctx (j.request info publicKey)

structure Member where
  raftId : Nat
  tunnelIp : IpAddr
deriving DecidableEq

def givenMember (nodes : List (Σ _ : Nat, FsmNode)) : Option Member :=
  (allocateTunnelIp (nodes.map fun e => e.2.address.ip)).map
    fun ip => ⟨nextRaftId (nodes.map Sigma.fst), ip⟩

def givenAfter (given : Option Member) : (e : JoinEffect) → e.Answer → Option Member
  | .joinInfo, nodes => givenMember nodes
  | .propose _, _ => none
  | _, _ => given

def Command.member : Command → Option Member
  | .nodeRegister id _ address _ _ _ _ _ => some ⟨id, address.ip⟩
  | _ => none

def joinSpec : Spec JoinEffect JoinEffect.Answer (Option Member) where
  pre given e := ∀ c, e = .propose c → ∃ m, given = some m ∧ c.member = some m
  post given e r given' := given' = givenAfter given e r

lemma wp_joining {e : JoinEffect} {given : Option Member}
    {Q : Except JoinError e.Answer → Option Member → Prop} (he : ∀ c, e ≠ .propose c)
    (hdone : ∀ r, Q (.ok r) (givenAfter given e r)) : (joining e).wp joinSpec Q given := by
  refine wp_effect (fun c hc => absurd hc (he c)) ?_
  rintro r _ rfl
  exact hdone r

lemma wp_addJoiningPeer (ctx : JoinCtx) (body : JoinRequest) (given : Option Member) :
    (addJoiningPeer ctx body).wp joinSpec (fun _ given' => given' = given) given := by
  unfold addJoiningPeer
  split
  · refine wp_bind (wp_joining (by simp) ?_)
    rintro (e | _)
    · rfl
    · rfl
  · rfl

lemma wp_setJoiningPeer (ctx : JoinCtx) (body : JoinRequest) (given : Option Member) :
    (setJoiningPeer ctx body).wp joinSpec (fun _ given' => given' = given) given := by
  unfold setJoiningPeer
  split
  · exact wp_joining (by simp) fun _ => rfl
  · rfl

lemma wp_postJoin (ctx : JoinCtx) (body : JoinRequest) :
    (postJoin ctx body).wp joinSpec (fun _ _ => True) (some ⟨body.raftId, body.tunnelIp⟩) := by
  refine wp_bind (wp_mono (wp_addJoiningPeer ctx body _) ?_)
  rintro (e | _) _ rfl
  · trivial
  refine wp_bind (wp_mono (wp_setJoiningPeer ctx body _) ?_)
  rintro (e | _) _ rfl
  · trivial
  refine wp_bind (wp_joining (by simp) ?_)
  rintro (e | _)
  · trivial
  refine wp_bind (wp_joining (by simp) fun ids => ?_)
  refine wp_bind (wp_joining (by simp) ?_)
  rintro (e | _)
  · trivial
  -- the proposal: the request still carries what was given
  refine wp_bind (wp_effect ?_ ?_)
  · rintro c hc
    cases hc
    exact ⟨_, rfl, rfl⟩
  · rintro ((e | (_ | message))) given _
    · trivial
    · trivial
    · trivial

lemma wp_join (ctx : JoinCtx) (j : Joiner) (given : Option Member) :
    (join ctx j).wp joinSpec (fun _ _ => True) given := by
  refine wp_bind (wp_bind (wp_joining (by simp) fun nodes => ?_))
  have hpeers : (nodes.map fun e => e.2.joinPeer).map (fun p => p.tunnelIp) =
      nodes.map fun e => e.2.address.ip := by
    rw [List.map_map]
    rfl
  dsimp only
  rw [hpeers]
  split
  · trivial
  · rename_i tunnelIp hip
    have hgiven : givenAfter given .joinInfo nodes =
        some ⟨nextRaftId (nodes.map Sigma.fst), tunnelIp⟩ := by
      rw [givenAfter, givenMember, hip, map_some]
    rw [hgiven]
    refine wp_bind (wp_joining (by simp) ?_)
    rintro (e | publicKey)
    · trivial
    · exact wp_postJoin ctx (j.request _ publicKey)

def FsmState.ipAt (s : FsmState) (k : Nat) : Option IpAddr :=
  (s.nodes.lookup k).map fun n => n.address.ip

structure JoinWorld where
  log : List Command
  existing : Finmap fun _ : Nat => IpAddr
  joined : List Member
  overwritten : List FsmNode

namespace JoinWorld

def fsm (w : JoinWorld) : FsmState := applyAll default w.log

def start (cmds : List Command) : JoinWorld :=
  ⟨cmds, (applyAll default cmds).nodes.mapVals fun _ n => n.address.ip, [], []⟩

def commit (w : JoinWorld) (c : Command) : JoinWorld :=
  let after := (applyCommand w.fsm c).1
  { w with
    log := w.log ++ [c]
    existing := w.existing.retain fun k _ => decide (k ∈ after.nodes)
    joined := w.joined.filter fun m => decide (m.raftId ∈ after.nodes) }

def register (w : JoinWorld) (c : Command) (m : Member) : JoinWorld :=
  { w with
    log := w.log ++ [c]
    joined := w.joined ++ [m]
    overwritten := (w.fsm.nodes.lookup m.raftId).toList ++ w.overwritten }

end JoinWorld

inductive JoinChoice
  | nodes (applied : Nat) (order : List (Σ _ : Nat, FsmNode))
  | ids (applied : Nat) (order : List Nat)
  | publicKey (key : String)
  | proceed
  | unanswered (message : String)
  | error (message : String)

namespace JoinWorld

def answer (w : JoinWorld) : (e : JoinEffect) → JoinChoice → Option (e.Answer × JoinWorld)
  | .joinInfo, .nodes applied order =>
    if (applyAll default (w.log.take applied)).nodes.entries = order then some (order, w) else none
  | .prepare _, .publicKey key => some (.ok key, w)
  | .prepare _, .error message => some (.error message, w)
  | .addPeer _, .proceed => some (.ok (), w)
  | .addPeer _, .error message => some (.error message, w)
  | .setPeer _ _, .proceed => some ((), w)
  | .addLearner _ _, .proceed => some (.ok (), w)
  | .addLearner _ _, .error message => some (.error message, w)
  | .memberIds, .ids applied order =>
    if (applyAll default (w.log.take applied)).nodes.entries.map Sigma.fst = order then
      some (order, w)
    else none
  | .changeMembership _, .proceed => some (.ok (), w)
  | .changeMembership _, .error message => some (.error message, w)
  | .propose c, .proceed =>
    c.member.map fun m => (.ok (applyCommand w.fsm c).2, w.register c m)
  | .propose c, .unanswered message => c.member.map fun m => (.error message, w.register c m)
  | .propose _, .error message => some (.error message, w)
  | _, _ => none

def Unused (w : JoinWorld) (m : Member) : Prop :=
  w.fsm.ipAt m.raftId = none ∧ ∀ k, w.fsm.ipAt k ≠ some m.tunnelIp

/-- The nodes that have joined differ from each other and from those that were there before in
raft id and tunnel address, and no entry was overwritten. -/
structure Apart (w : JoinWorld) : Prop where
  joined : w.joined.Pairwise fun m m' => m.raftId ≠ m'.raftId ∧ m.tunnelIp ≠ m'.tunnelIp
  existing : ∀ m ∈ w.joined, ∀ k ip, w.existing.lookup k = some ip → k ≠ m.raftId ∧ ip ≠ m.tunnelIp
  overwritten : w.overwritten = []

structure Recorded (w : JoinWorld) : Prop where
  existing : ∀ k ip, w.existing.lookup k = some ip → w.fsm.ipAt k = some ip
  joined : ∀ m ∈ w.joined, w.fsm.ipAt m.raftId = some m.tunnelIp

variable {w w' : JoinWorld} {c : JoinChoice}

lemma answer_joinInfo {r : List (Σ _ : Nat, FsmNode)}
    (h : w.answer .joinInfo c = some (r, w')) : w' = w ∧ ∃ applied, c = .nodes applied r ∧
      (applyAll default (w.log.take applied)).nodes.entries = r := by
  cases c <;> grind [answer]

lemma answer_propose {d : Command}
    {r : Except String Response} (h : w.answer (.propose d) c = some (r, w')) :
    w' = w ∨ ∃ m, d.member = some m ∧ w' = w.register d m := by
  cases hd : d.member <;> cases c <;> grind [answer]

lemma answer_quiet {e : JoinEffect} {r : e.Answer}
    (hpropose : ∀ d, e ≠ .propose d) (h : w.answer e c = some (r, w')) : w' = w := by
  cases e <;> cases c <;> grind [answer]

end JoinWorld

/-- What happens beside the joining nodes: another one starts to join, or some command that is
not a registration is committed. -/
inductive JoinEvent
  | join (ctx : JoinCtx) (j : Joiner)
  | commit (c : Command)

abbrev Joins := Machine.State JoinEffect JoinEffect.Answer JoinError Unit JoinWorld (Option Member)

def joins : Machine JoinEffect JoinEffect.Answer JoinError Unit JoinWorld JoinChoice JoinEvent
    (Option Member) where
  answer := JoinWorld.answer
  starts _ := []
  outside w
    | .join ctx j => some (w, [(none, join ctx j)])
    | .commit c => if c.member = none then some (w.commit c, []) else none
  track _ given e r := givenAfter given e r

namespace Joins

def init (cmds : List Command) : Joins := ⟨.start cmds, []⟩

def pending (s : Joins) (i : Nat) : Option Member :=
  match s.tasks[i]? with
  | some (given, .perform _ _) => given
  | _ => none

/-- `get_join_info` is answered by a node that has applied the whole log, and at a time when no
other joining node is between its `get_join_info` and its registration. -/
def OneByOne (s : Joins) : Machine.Event JoinChoice JoinEvent → Prop
  | .act i (.nodes applied _) => applied = s.world.log.length ∧
      ∀ j ∈ List.range s.tasks.length, j ≠ i → s.pending j = none
  | _ => True

instance (s : Joins) : ∀ e, Decidable (s.OneByOne e) := fun e => by
  unfold OneByOne
  split <;> infer_instance

end Joins

section

variable {s : FsmState} {c : Command}

lemma ipAt_of_applyCommand {k : Nat} {ip : IpAddr} (hc : c.member = none)
    (h : (applyCommand s c).1.ipAt k = some ip) : s.ipAt k = some ip := by
  obtain ⟨n, hn, rfl⟩ := map_eq_some_iff.mp h
  rw [lookup_nodes_applyCommand] at hn
  obtain ⟨n₀, hn₀, heq⟩ := node_of_nodeAfter (by rintro _ _ _ _ _ _ _ rfl; cases hc) hn
  rw [FsmState.ipAt, hn₀, map_some, heq]

lemma ipAt_register {m : Member} (hm : c.member = some m) (k : Nat) :
    (applyCommand s c).1.ipAt k = if k = m.raftId then some m.tunnelIp else s.ipAt k := by
  rw [FsmState.ipAt, lookup_nodes_applyCommand]
  cases c <;> grind [Command.member, nodeAfter, FsmState.ipAt]

namespace JoinWorld

variable {w : JoinWorld} {m : Member}

lemma fsm_commit (w : JoinWorld) (c : Command) : (w.commit c).fsm = (applyCommand w.fsm c).1 :=
  applyAll_append ..

lemma fsm_register (w : JoinWorld) (c : Command) (m : Member) :
    (w.register c m).fsm = (applyCommand w.fsm c).1 := applyAll_append ..

lemma Unused.commit (h : w.Unused m) (hc : c.member = none) : (w.commit c).Unused m := by
  have hback := fun k ip => @ipAt_of_applyCommand w.fsm c k ip hc
  cases hip : (w.commit c).fsm.ipAt m.raftId <;> grind [Unused, fsm_commit]

lemma ipAt_commit {k : Nat} {ip : IpAddr} (hc : c.member = none) (hold : w.fsm.ipAt k = some ip)
    (hk : k ∈ (applyCommand w.fsm c).1.nodes) : (w.commit c).fsm.ipAt k = some ip := by
  obtain ⟨n, hn⟩ := Finmap.mem_iff.mp hk
  have hafter : (applyCommand w.fsm c).1.ipAt k = some n.address.ip := by
    rw [FsmState.ipAt, hn, map_some]
  have hbefore := ipAt_of_applyCommand hc hafter
  rw [fsm_commit, hafter, ← hbefore, hold]

lemma Recorded.commit (h : w.Recorded) (hc : c.member = none) : (w.commit c).Recorded := by
  have hcommit := fun k ip => @ipAt_commit c w k ip hc
  obtain ⟨hexisting, hjoined⟩ := h
  constructor <;> grind [JoinWorld.commit, Finmap.lookup_retain_eq_some]

lemma Apart.commit (h : w.Apart) (c : Command) : (w.commit c).Apart where
  joined := h.joined.sublist filter_sublist
  existing := by
    intro m hm k ip hk
    exact h.existing m (mem_filter.mp hm).1 k ip (Finmap.lookup_retain_eq_some.mp hk).1
  overwritten := h.overwritten

lemma Unused.ne {k : Nat} {ip : IpAddr} (h : w.Unused m)
    (hk : w.fsm.ipAt k = some ip) : k ≠ m.raftId ∧ ip ≠ m.tunnelIp := by
  grind [Unused]

lemma Recorded.register (h : w.Recorded) (hm : c.member = some m)
    (hunused : w.Unused m) : (w.register c m).Recorded := by
  have hne := fun k ip => @Unused.ne w m k ip hunused
  obtain ⟨hexisting, hjoined⟩ := h
  constructor <;> grind [JoinWorld.register, fsm_register, ipAt_register hm]

lemma Apart.register (h : w.Apart) (hrecorded : w.Recorded)
    (hunused : w.Unused m) : (w.register c m).Apart := by
  have hne := fun k ip => @Unused.ne w m k ip hunused
  have hnone : w.fsm.nodes.lookup m.raftId = none := map_eq_none_iff.mp hunused.1
  obtain ⟨hexisting, hjoined⟩ := hrecorded
  obtain ⟨hpairwise, hapart, hover⟩ := h
  constructor <;> grind [JoinWorld.register]

lemma unused_givenMember {nodes : List (Σ _ : Nat, FsmNode)}
    (hnodes : w.fsm.nodes.entries = nodes) (hm : givenMember nodes = some m) : w.Unused m := by
  obtain ⟨ip, hip, rfl⟩ := map_eq_some_iff.mp hm
  have hentry {k : Nat} {n : FsmNode} (hk : w.fsm.nodes.lookup k = some n) :
      ⟨k, n⟩ ∈ nodes := (Finmap.mem_iff_of_entries hnodes).mpr hk
  constructor
  · by_contra hsome
    obtain ⟨n, hn⟩ := ne_none_iff_exists'.mp fun hnone =>
      hsome (map_eq_none_iff.mpr hnone)
    have hmem := List.mem_map_of_mem (f := Sigma.fst) (hentry hn)
    have hle := List.le_max?_getD_of_mem (k := 0) hmem
    dsimp only [nextRaftId] at hle
    omega
  · intro k hk
    obtain ⟨n, hn, rfl⟩ := map_eq_some_iff.mp hk
    have hmem := List.mem_map_of_mem (f := fun e => e.2.address.ip) (hentry hn)
    have hfree := List.find?_some hip
    simp only [contains_eq_mem, Bool.not_eq_true', decide_eq_false_iff_not] at hfree
    exact hfree hmem

end JoinWorld

end

section

variable {s s' : Joins} {w : JoinWorld} {i : Nat}

/-- Every joining node follows its program, at most one is between `get_join_info` and its
registration, and what that one was given is not in use. -/
structure Orderly (s : Joins) : Prop where
  tasks : ∀ tp ∈ s.tasks, tp.2.wp joinSpec (fun _ _ => True) tp.1
  alone : ∀ i j m m', s.pending i = some m → s.pending j = some m' → i = j
  fresh : ∀ i m, s.pending i = some m → s.world.Unused m
  recorded : s.world.Recorded
  apart : s.world.Apart

lemma Joins.pending_of_ne {j : Nat} {tp : Option Member × JoinAction Unit}
    (h : j ≠ i) : Joins.pending ⟨w, s.tasks.set i tp⟩ j = s.pending j := by
  unfold Joins.pending
  rw [List.getElem?_set_ne h.symm]

lemma Joins.pending_self {given : Option Member} {p : JoinAction Unit} {m : Member}
    (h : Joins.pending ⟨w, s.tasks.set i (given, p)⟩ i = some m) : given = some m := by
  grind [Joins.pending]

lemma Joins.lt_of_pending {m : Member} (h : s.pending i = some m) : i < s.tasks.length := by
  grind [Joins.pending]

lemma Orderly.act (hs : Orderly s) {given : Option Member} {p : JoinAction Unit}
    (hp : p.wp joinSpec (fun _ _ => True) given)
    (hself : ∀ m, given = some m → w.Unused m ∧ ∀ j, j ≠ i → s.pending j = none)
    (hothers : ∀ j m, j ≠ i → s.pending j = some m → w.Unused m) (hrecorded : w.Recorded)
    (hapart : w.Apart) : Orderly ⟨w, s.tasks.set i (given, p)⟩ := by
  have hself' := @Joins.pending_self s w i given p
  have hother := fun j => @Joins.pending_of_ne s w i j (given, p)
  obtain ⟨htasks, halone, hfresh, _, _⟩ := hs
  exact ⟨List.forall_mem_set htasks hp, by grind, by grind, hrecorded, hapart⟩

lemma orderly_act (hs : Orderly s) {c : JoinChoice}
    (hP : s.OneByOne (.act i c)) (hstep : joins.step s (.act i c) = some s') : Orderly s' := by
  obtain ⟨given, e, next, r, w, hi, hans, rfl⟩ := Machine.step_act_eq_some.mp hstep
  have hwp := hs.tasks _ (mem_of_getElem? hi)
  have hnext : (next r).wp joinSpec (fun _ _ => True) (givenAfter given e r) := hwp.2 r _ rfl
  have hpending : s.pending i = given := by
    rw [Joins.pending, hi]
  have hothers {j : Nat} (hj : j ≠ i) {m : Member} (hm : given = some m) : s.pending j = none := by
    by_contra hsome
    obtain ⟨m', hm'⟩ := ne_none_iff_exists'.mp hsome
    exact hj (hs.alone j i m' m hm' (hpending.trans hm))
  change Orderly ⟨w, s.tasks.set i (givenAfter given e r, next r) ++ []⟩
  rw [append_nil]
  by_cases hinfo : e = .joinInfo
  · subst hinfo
    obtain ⟨rfl, applied, rfl, hnodes⟩ := JoinWorld.answer_joinInfo hans
    obtain ⟨rfl, halone⟩ := hP
    rw [take_length] at hnodes
    refine hs.act hnext (fun m hm => ⟨JoinWorld.unused_givenMember hnodes hm, fun j hj => ?_⟩)
      (fun j m _ hj => hs.fresh j m hj) hs.recorded hs.apart
    by_contra hsome
    obtain ⟨m', hm'⟩ := ne_none_iff_exists'.mp hsome
    exact hsome (halone j (mem_range.mpr (Joins.lt_of_pending hm')) hj)
  by_cases hpropose : ∃ d, e = .propose d
  · obtain ⟨d, rfl⟩ := hpropose
    obtain ⟨m, hgiven, hmember⟩ := hwp.1 d rfl
    have hunused : s.world.Unused m := hs.fresh i m (hpending.trans hgiven)
    have hnone : ∀ j m', j ≠ i → s.pending j = some m' → w.Unused m' := by
      intro j m' hj hm'
      rw [hothers hj hgiven] at hm'
      cases hm'
    rcases JoinWorld.answer_propose hans with rfl | ⟨m', hmember', rfl⟩
    · exact hs.act hnext (fun m hm => nomatch hm) hnone hs.recorded hs.apart
    · rw [hmember] at hmember'
      cases hmember'
      exact hs.act hnext (fun m hm => nomatch hm) hnone (hs.recorded.register hmember hunused)
        (hs.apart.register hs.recorded hunused)
  · have hquiet : ∀ d, e ≠ .propose d := fun d hd => hpropose ⟨d, hd⟩
    have hworld := JoinWorld.answer_quiet hquiet hans
    subst hworld
    have hsame : givenAfter given e r = given := by
      cases e with
      | joinInfo => exact absurd rfl hinfo
      | propose d => exact absurd rfl (hquiet d)
      | _ => rfl
    rw [hsame] at hnext ⊢
    refine hs.act hnext (fun m hm => ⟨hs.fresh i m (hpending.trans hm), fun j hj => ?_⟩)
      (fun j m _ hj => hs.fresh j m hj) hs.recorded hs.apart
    exact hothers hj hm

lemma orderly_join (hs : Orderly s) (ctx : JoinCtx) (j : Joiner) :
    Orderly ⟨s.world, s.tasks ++ [(none, join ctx j)]⟩ := by
  -- the new node has been given nothing yet
  have hold {i : Nat} {m : Member}
      (h : Joins.pending ⟨s.world, s.tasks ++ [(none, join ctx j)]⟩ i = some m) :
      s.pending i = some m := by
    grind [Joins.pending]
  refine ⟨?_, fun i k m m' hi hk => hs.alone i k m m' (hold hi) (hold hk),
    fun i m hi => hs.fresh i m (hold hi), hs.recorded, hs.apart⟩
  have htasks := hs.tasks
  have hnew := wp_join ctx j none
  grind

lemma orderly_outside (hs : Orderly s) {v : JoinEvent}
    (hstep : joins.step s (.outside v) = some s') : Orderly s' := by
  obtain ⟨w, new, hout, rfl⟩ := Machine.step_outside_eq_some.mp hstep
  cases v with
  | join ctx j =>
    cases hout
    exact orderly_join hs ctx j
  | commit c =>
    simp only [joins, ite_none_right_eq_some, Option.some.injEq, Prod.mk.injEq] at hout
    obtain ⟨hc, rfl, rfl⟩ := hout
    rw [append_nil]
    exact ⟨hs.tasks, hs.alone, fun i m hi => (hs.fresh i m hi).commit hc, hs.recorded.commit hc,
      hs.apart.commit c⟩

lemma orderly_init (cmds : List Command) : Orderly (Joins.init cmds) where
  tasks tp htp := by cases htp
  alone i j m m' hi := by cases hi
  fresh i m hi := by cases hi
  recorded := by
    constructor
    · intro k ip hk
      have hlookup := Finmap.lookup_mapVals (fun _ (n : FsmNode) => n.address.ip)
        (applyAll default cmds).nodes k
      exact hlookup.symm.trans hk
    · intro m hm
      cases hm
  apart := by
    refine ⟨List.Pairwise.nil, ?_, rfl⟩
    intro m hm
    cases hm

/-- However the joins interleave, if `get_join_info` is answered from the current state and to
one joining node at a time, all nodes that have joined are apart. -/
theorem joined_nodes_apart {cmds : List Command} {es : List (Machine.Event JoinChoice JoinEvent)}
    (hone : Guarded joins.step Joins.OneByOne (Joins.init cmds) es)
    (hrun : run joins.step (Joins.init cmds) es = some s) : s.world.Apart := by
  have hinv := run_invariant (I := Orderly) ?_ (orderly_init cmds) hone hrun
  · exact hinv.apart
  · rintro s (⟨i, c⟩ | v) s' hs hP hstep
    · exact orderly_act hs hP hstep
    · exact orderly_outside hs hstep

end

namespace Joins

def demoCtx : JoinCtx := ⟨false, false, fun _ => none⟩

def demoInit : List Command :=
  [.nodeRegister 1 ⟨"a"⟩ ⟨.v4 0x0A630001, 4400⟩ ⟨4, 4, 8192, 8192⟩ (some "a") none none none]

def demoInitial : FsmNode := { FsmNode.demo 1 "a" with wireguardPubkey := some "a" }

def demoMember (id : Nat) (name address : String) : FsmNode :=
  { FsmNode.demo id name with
    wireguardPubkey := some name
    rpcAddress := some ⟨.v4 (0x0A630000 + BitVec.ofNat 32 id), 4402⟩
    advertiseAddr := some address }

def demoClaims (i : Nat) (name : String) (applied : Nat) (ids : List Nat) :
    List (Machine.Event JoinChoice JoinEvent) :=
  [.publicKey name, .proceed, .ids applied ids, .proceed, .proceed].map (.act i)

def demoStarts : List (Machine.Event JoinChoice JoinEvent) :=
  [.outside (.join demoCtx (.demo "b" "b")), .outside (.join demoCtx (.demo "c" "c"))]

def demoOneByOne : List (Machine.Event JoinChoice JoinEvent) :=
  demoStarts ++ [.act 0 (.nodes 1 [⟨1, demoInitial⟩])] ++ demoClaims 0 "b" 1 [1] ++
    [.act 1 (.nodes 2 [⟨1, demoInitial⟩, ⟨2, demoMember 2 "b" "b"⟩])] ++ demoClaims 1 "c" 2 [1, 2]

def demoTogether : List (Machine.Event JoinChoice JoinEvent) :=
  demoStarts ++ [.act 0 (.nodes 1 [⟨1, demoInitial⟩]), .act 1 (.nodes 1 [⟨1, demoInitial⟩])] ++
    demoClaims 0 "b" 1 [1] ++ demoClaims 1 "c" 2 [1, 2]

theorem joined_nodes_apart_oneByOne :
    ∃ s : Joins, run joins.step (Joins.init demoInit) demoOneByOne = some s ∧
      s.world.joined = [⟨2, .v4 0x0A630002⟩, ⟨3, .v4 0x0A630003⟩] ∧ s.world.Apart := by
  exact exists_end_and (by decide +kernel) fun s hs _ =>
    joined_nodes_apart (by decide +kernel) hs

/-- Two nodes that ask at the same time are given the same raft id and address, and the second
one overwrites the entry of the first. -/
theorem joined_nodes_collide :
    ∃ s : Joins, run joins.step (Joins.init demoInit) demoTogether = some s ∧
      s.tasks.all (fun tp => tp.2.outcome.isSome) = true ∧
      s.world.joined = [⟨2, .v4 0x0A630002⟩, ⟨2, .v4 0x0A630002⟩] ∧
      s.world.overwritten = [demoMember 2 "b" "b"] ∧ ¬ s.world.Apart := by
  refine exists_end (p := fun s => s.tasks.all (fun tp => tp.2.outcome.isSome) = true ∧
    s.world.joined = [⟨2, .v4 0x0A630002⟩, ⟨2, .v4 0x0A630002⟩] ∧
    s.world.overwritten = [demoMember 2 "b" "b"]) (by decide +kernel) ?_
  rintro s - ⟨hended, hjoined, hover⟩
  refine ⟨hended, hjoined, hover, fun hapart => ?_⟩
  have hempty := hapart.overwritten
  rw [hover] at hempty
  cases hempty

end Joins

def hostAddress (i : Nat) : IpAddr := .v4 (0x0A630000 + BitVec.ofNat 32 i)

/-- The least host address of `10.99.0.0/16` that is not used, or none if all 65534 are. -/
def LeastHost (used : List IpAddr) : Option IpAddr → Prop
  | some ip => ∃ i, ip = hostAddress i ∧ IsLeast {i | i ∈ Set.Icc 1 65534 ∧ hostAddress i ∉ used} i
  | none => ∀ i ∈ Set.Icc 1 65534, hostAddress i ∈ used

variable {used : List IpAddr}

lemma hostAddress_inj {i j : Nat} (hi : i < 2 ^ 32) (hj : j < 2 ^ 32)
    (h : hostAddress i = hostAddress j) : i = j := by
  injection h with h
  have hbits : (BitVec.ofNat 32 i).toNat = (BitVec.ofNat 32 j).toNat :=
    congrArg BitVec.toNat (add_left_cancel h)
  rwa [BitVec.toNat_ofNat, BitVec.toNat_ofNat, Nat.mod_eq_of_lt hi, Nat.mod_eq_of_lt hj] at hbits

lemma allocateTunnelIp_eq : allocateTunnelIp used =
    ((List.range' 1 65533).find? fun i => !used.contains (hostAddress i)).map hostAddress :=
  List.find?_map ..

/-- The last host address is never given out. -/
theorem allocates_least_host_iff (used : List IpAddr) : LeastHost used (allocateTunnelIp used) ↔
      hostAddress 65534 ∈ used ∨ ∃ i ∈ Set.Icc 1 65533, hostAddress i ∉ used := by
  rw [allocateTunnelIp_eq]
  cases hfind : (List.range' 1 65533).find? fun i => !used.contains (hostAddress i) with
  | none =>
    have hall : ∀ i ∈ Set.Icc 1 65533, hostAddress i ∈ used := by
      intro i hi
      have hused := List.find?_eq_none.mp hfind i (List.mem_range'_1.mpr (by grind))
      simpa using hused
    constructor
    · exact fun h => .inl (h 65534 ⟨by omega, le_rfl⟩)
    · rintro (hlast | ⟨i, hi, hfree⟩) j hj
      · rcases hj.2.lt_or_eq with hlt | rfl
        · exact hall j ⟨hj.1, Nat.le_of_lt_succ hlt⟩
        · exact hlast
      · exact absurd (hall i hi) hfree
  | some i =>
    obtain ⟨hfree, hmem, hbefore⟩ := List.find?_range'_eq_some.mp hfind
    rw [Bool.not_eq_true', ← Bool.not_eq_true, contains_iff_mem] at hfree
    obtain ⟨hpos, hlt⟩ := List.mem_range'_1.mp hmem
    refine iff_of_true ⟨i, rfl, ⟨⟨hpos, by omega⟩, hfree⟩, ?_⟩ (.inr ⟨i, ⟨hpos, by omega⟩, hfree⟩)
    rintro j ⟨⟨hj, -⟩, hnot⟩
    by_contra hji
    have hin := hbefore j hj (Nat.lt_of_not_le hji)
    rw [Bool.not_not, contains_iff_mem] at hin
    exact hnot hin

/-- Only `10.99.255.254` is left, and the allocation fails. -/
theorem last_host_never_allocated :
    let used := (List.range' 1 65533).map hostAddress
    allocateTunnelIp used = none ∧ hostAddress 65534 ∉ used := by
  intro used
  constructor
  · rw [allocateTunnelIp_eq, map_eq_none_iff, List.find?_eq_none]
    intro i hi
    have hused : hostAddress i ∈ used := List.mem_map_of_mem hi
    simpa using hused
  · rintro hin
    obtain ⟨i, hi, heq⟩ := List.mem_map.mp hin
    have hlt := (List.mem_range'_1.mp hi).2
    have hlast := hostAddress_inj (by omega) (by omega) heq
    omega

end Mill
