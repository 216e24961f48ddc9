import Mill.Raft.Apply

/-! What one command does to one allocation, to one node, to one volume, to one secret and
to the config. -/

namespace Mill

open FsmState Finmap

section

/-- The allocation under id `i` after the command, read off the command. -/
def allocAfter (s : FsmState) (i : AllocId) : Command → Option Alloc
  | .nodeHeartbeat id allocStatuses =>
    if id ∈ s.nodes then (s.allocs.lookup i).map (Alloc.report allocStatuses i)
    else s.allocs.lookup i
  | .allocScheduled allocId nodeId name kind address resources =>
    match s.nodes.lookup nodeId with
    | some node =>
      if i = allocId then some (makeAlloc allocId node.millId name kind address resources)
      else s.allocs.lookup i
    | none => s.allocs.lookup i
  | .allocStatus allocId status =>
    if i = allocId then (s.allocs.lookup i).map fun a => { a with status }
    else s.allocs.lookup i
  | .allocRunning allocId address startedAt =>
    if i = allocId then (s.allocs.lookup i).map fun a => a.run address startedAt
    else s.allocs.lookup i
  | .nodeRemove id =>
    match s.nodes.lookup id with
    | some node =>
      if s.allocs.any fun _ a => a.node == node.millId && !a.status.isTerminal then
        s.allocs.lookup i
      else (s.allocs.lookup i).filter fun a => a.node != node.millId
    | none => s.allocs.lookup i
  | _ => s.allocs.lookup i

lemma lookup_allocs_applyCommand (s : FsmState) (c : Command) (i : AllocId) :
    (applyCommand s c).1.allocs.lookup i = allocAfter s i c := by
  cases c with
  | nodeHeartbeat id =>
    cases hn : s.nodes.lookup id with
    | none =>
      have hid : id ∉ s.nodes := Finmap.lookup_eq_none.mp hn
      simp only [applyCommand, hn, allocAfter, if_neg hid]
    | some =>
      have hid : id ∈ s.nodes := Finmap.mem_of_lookup_eq_some hn
      simp only [applyCommand, hn, allocAfter, if_pos hid, Finmap.lookup_mapVals]
  | allocScheduled allocId nodeId =>
    cases hn : s.nodes.lookup nodeId with
    | none => simp only [applyCommand, hn, allocAfter]
    | some => simp only [applyCommand, hn, allocAfter, makeAlloc, Finmap.lookup_insert_eq]
  | allocStatus allocId status =>
    cases ha : s.allocs.lookup allocId with
    | none => simpa only [applyCommand, ha, allocAfter] using lookup_eq_map_of_none ha i
    | some a =>
      simpa only [applyCommand, ha, allocAfter] using
        lookup_insert_map (f := fun a => { a with status }) ha i
  | allocRunning allocId address startedAt =>
    cases ha : s.allocs.lookup allocId with
    | none => simpa only [applyCommand, ha, allocAfter] using lookup_eq_map_of_none ha i
    | some a =>
      simpa only [applyCommand, ha, allocAfter] using
        lookup_insert_map (f := fun a => a.run address startedAt) ha i
  | nodeRemove id =>
    cases hn : s.nodes.lookup id with
    | none => simp only [applyCommand, hn, allocAfter]
    | some =>
      simp only [applyCommand, hn, allocAfter]
      split_ifs
      · rfl
      · exact Finmap.lookup_retain _ _ _
  | nodeDown id | nodeDrain id | secretDelete name | volumeDetached name =>
    simp only [applyCommand, allocAfter]; split <;> rfl
  | volumeAttached =>
    simp only [applyCommand, allocAfter]
    split
    · rfl
    · split <;> rfl
  | _ => rfl

lemma report_eq (statuses : Finmap fun _ : AllocId => AllocStatus) (i : AllocId) (a : Alloc) :
    a.report statuses i = { a with status := (a.report statuses i).status } := by
  unfold Alloc.report Alloc.heartbeat
  split
  · split_ifs <;> rfl
  · rfl

variable {i : AllocId} {s : FsmState} {c : Command}

lemma report_of_lookup_none {statuses : Finmap fun _ : AllocId => AllocStatus}
    (h : statuses.lookup i = none) : Alloc.report statuses i = fun a => a := by
  funext a
  rw [Alloc.report, h]

lemma run_eq (a : Alloc) (address : Option SocketAddr) (startedAt : Option SystemTime) :
    a.run address startedAt =
      { a with
        status := (a.run address startedAt).status
        address := (a.run address startedAt).address
        startedAt := (a.run address startedAt).startedAt } := by
  unfold Alloc.run
  split_ifs <;> rfl

lemma map_allocAfter {β : Type*} {f : Alloc → β} (hf : ∀ (a : Alloc) status address startedAt,
      f { a with status, address, startedAt } = f a) (i : AllocId)
    (hscheduled : ∀ nodeId name kind address resources,
      c ≠ .allocScheduled i nodeId name kind address resources)
    (hremove : ∀ id, c ≠ .nodeRemove id) :
    (allocAfter s i c).map f = (s.allocs.lookup i).map f := by
  have hmap {g : Alloc → Alloc} (hg : ∀ a, f (g a) = f a) :
      ((s.allocs.lookup i).map g).map f = (s.allocs.lookup i).map f := by
    rw [Option.map_map]
    exact congrArg (Option.map · _) (funext hg)
  cases c with
  | nodeHeartbeat =>
    rw [allocAfter]
    split_ifs
    · exact hmap fun a => by rw [report_eq]; exact hf a _ a.address a.startedAt
    · rfl
  | allocScheduled allocId nodeId name kind address resources =>
    have hne : i ≠ allocId := fun he => hscheduled nodeId name kind address resources (he ▸ rfl)
    simp only [allocAfter, if_neg hne]
    split <;> rfl
  | allocStatus allocId status =>
    rw [allocAfter]
    split_ifs
    · exact hmap fun a => hf a status a.address a.startedAt
    · rfl
  | allocRunning =>
    rw [allocAfter]
    split_ifs
    · exact hmap fun a => by rw [run_eq]; exact hf a _ _ _
    · rfl
  | nodeRemove id => exact absurd rfl (hremove id)
  | _ => rfl

lemma alloc_of_allocAfter {a : Alloc} (hc : ∀ nodeId name kind address resources,
      c ≠ .allocScheduled i nodeId name kind address resources)
    (h : allocAfter s i c = some a) :
    ∃ b, s.allocs.lookup i = some b ∧
      a = { b with status := a.status, address := a.address, startedAt := a.startedAt } := by
  by_cases hremove : ∃ id, c = .nodeRemove id
  · obtain ⟨id, rfl⟩ := hremove
    simp only [allocAfter] at h
    split at h
    · split_ifs at h
      · exact ⟨a, h, rfl⟩
      · exact ⟨a, (Option.filter_eq_some_iff.mp h).1, rfl⟩
    · exact ⟨a, h, rfl⟩
  · have hsame := map_allocAfter (s := s)
      (f := fun a : Alloc => (a.id, a.node, a.name, a.kind, a.resources)) (fun _ _ _ _ => rfl) i hc
      fun id hid => hremove ⟨id, hid⟩
    rw [h, Option.map_some] at hsame
    obtain ⟨b, hb, heq⟩ := Option.map_eq_some_iff.mp hsame.symm
    refine ⟨b, hb, ?_⟩
    cases a
    cases b
    simp_all

lemma mem_allocs_applyCommand (hremove : ∀ id, c ≠ .nodeRemove id) (hi : i ∈ s.allocs) :
    i ∈ (applyCommand s c).1.allocs := by
  obtain ⟨a, ha⟩ := Finmap.mem_iff.mp hi
  rw [Finmap.mem_iff, lookup_allocs_applyCommand]
  by_cases hscheduled : ∃ nodeId name kind address resources,
      c = .allocScheduled i nodeId name kind address resources
  · obtain ⟨nodeId, name, kind, address, resources, rfl⟩ := hscheduled
    simp only [allocAfter, if_pos]
    split
    · exact ⟨_, rfl⟩
    · exact ⟨a, ha⟩
  · simp only [not_exists] at hscheduled
    have hsome := map_allocAfter (s := s) (f := fun _ => ()) (fun _ _ _ _ => rfl) i hscheduled
      hremove
    rw [ha] at hsome
    obtain ⟨b, hb, -⟩ := Option.map_eq_some_iff.mp hsome
    exact ⟨b, hb⟩

lemma allocAfter_eq_some {a : Alloc} (h : allocAfter s i c = some a) :
    (∃ nodeId millId name kind address resources,
      c = .allocScheduled i nodeId name kind address resources ∧
        a = makeAlloc i millId name kind address resources) ∨
    ∃ b, s.allocs.lookup i = some b ∧
      a = { b with status := a.status, address := a.address, startedAt := a.startedAt } := by
  by_cases hc : ∃ nodeId name kind address resources,
      c = .allocScheduled i nodeId name kind address resources
  · obtain ⟨nodeId, name, kind, address, resources, rfl⟩ := hc
    simp only [allocAfter, if_pos] at h
    split at h
    · rename_i n _
      cases h
      exact .inl ⟨nodeId, n.millId, name, kind, address, resources, rfl, rfl⟩
    · exact .inr ⟨a, h, rfl⟩
  · simp only [not_exists] at hc
    exact .inr (alloc_of_allocAfter hc h)

def KeyedById (s : FsmState) : Prop := ∀ i a, s.allocs.lookup i = some a → a.id = i

lemma keyedById_applyCommand (h : KeyedById s) (c : Command) : KeyedById (applyCommand s c).1 := by
  intro i a ha
  rw [lookup_allocs_applyCommand] at ha
  rcases allocAfter_eq_some ha with ⟨_, _, _, _, _, _, _, rfl⟩ | ⟨b, hb, hab⟩
  · rfl
  · rw [hab]
    exact h i b hb

lemma applyAll_invariant {P : FsmState → Prop} (hstep : ∀ s c, P s → P (applyCommand s c).1)
    (hs : P s) (cmds : List Command) : P (applyAll s cmds) := by
  induction cmds generalizing s with
  | nil => exact hs
  | cons c cmds ih => exact ih (hstep s c hs)

lemma keyedById_applyAll (cmds : List Command) : KeyedById (applyAll default cmds) := by
  refine applyAll_invariant (P := KeyedById) (fun s c h => keyedById_applyCommand h c)
    (fun i a ha => ?_) cmds
  cases ha

end

section

/-- The node under raft id `k` after the command, read off the command. -/
def nodeAfter (s : FsmState) (k : Nat) : Command → Option FsmNode
  | .nodeRegister id millId address resources wireguardPubkey instanceId rpcAddress advertiseAddr =>
    if k = id then
      some { raftId := id, millId, address, resources, status := .ready, wireguardPubkey,
             instanceId, rpcAddress, advertiseAddr }
    else s.nodes.lookup k
  | .nodeHeartbeat id _ =>
    if k = id then
      (s.nodes.lookup k).map fun n => if n.status = .down then { n with status := .ready } else n
    else s.nodes.lookup k
  | .nodeDown id =>
    if k = id then (s.nodes.lookup k).map fun n => { n with status := .down }
    else s.nodes.lookup k
  | .nodeDrain id =>
    if k = id then (s.nodes.lookup k).map fun n => { n with status := .draining }
    else s.nodes.lookup k
  | .nodeRemove id =>
    match s.nodes.lookup id with
    | some node =>
      if s.allocs.any fun _ a => a.node == node.millId && !a.status.isTerminal then
        s.nodes.lookup k
      else if k = id then none
      else s.nodes.lookup k
    | none => s.nodes.lookup k
  | _ => s.nodes.lookup k

lemma lookup_nodes_applyCommand (s : FsmState) (c : Command) (k : Nat) :
    (applyCommand s c).1.nodes.lookup k = nodeAfter s k c := by
  cases c with
  | nodeRegister =>
    simp only [applyCommand, nodeAfter, Finmap.lookup_insert_eq]
  | nodeHeartbeat id =>
    cases hn : s.nodes.lookup id with
    | none => simpa only [applyCommand, hn, nodeAfter] using lookup_eq_map_of_none hn k
    | some =>
      simpa only [applyCommand, hn, nodeAfter] using lookup_insert_map
        (f := fun n : FsmNode => if n.status = .down then { n with status := .ready } else n) hn k
  | nodeDown id =>
    cases hn : s.nodes.lookup id with
    | none => simpa only [applyCommand, hn, nodeAfter] using lookup_eq_map_of_none hn k
    | some =>
      simpa only [applyCommand, hn, nodeAfter] using
        lookup_insert_map (f := fun n : FsmNode => { n with status := .down }) hn k
  | nodeDrain id =>
    cases hn : s.nodes.lookup id with
    | none => simpa only [applyCommand, hn, nodeAfter] using lookup_eq_map_of_none hn k
    | some =>
      simpa only [applyCommand, hn, nodeAfter] using
        lookup_insert_map (f := fun n : FsmNode => { n with status := .draining }) hn k
  | nodeRemove id =>
    cases hn : s.nodes.lookup id with
    | none => simp only [applyCommand, hn, nodeAfter]
    | some =>
      simp only [applyCommand, hn, nodeAfter]
      split_ifs with hactive hk
      · rfl
      · rw [hk]
        exact Finmap.lookup_erase id s.nodes
      · exact Finmap.lookup_erase_ne hk
  | allocScheduled =>
    simp only [applyCommand, nodeAfter]; split <;> rfl
  | allocStatus allocId status | allocRunning allocId address startedAt | secretDelete name
  | volumeDetached => simp only [applyCommand, nodeAfter]; split <;> rfl
  | volumeAttached =>
    simp only [applyCommand, nodeAfter]
    split
    · rfl
    · split <;> rfl
  | _ => rfl

variable {s : FsmState} {c : Command} {k : Nat}

lemma nodeAfter_eq (hc : ∀ millId address resources pubkey instanceId rpcAddress advertiseAddr,
      c ≠ .nodeRegister k millId address resources pubkey instanceId rpcAddress advertiseAddr) :
    (∃ f : NodeStatus → NodeStatus, nodeAfter s k c =
      (s.nodes.lookup k).map fun n => { n with status := f n.status }) ∨
    c = .nodeRemove k ∧ nodeAfter s k c = none := by
  have hsame : ∃ f : NodeStatus → NodeStatus, s.nodes.lookup k =
      (s.nodes.lookup k).map fun n => { n with status := f n.status } :=
    ⟨id, Option.map_id'.symm⟩
  have hmap {id : Nat} (f : NodeStatus → NodeStatus) : ∃ g : NodeStatus → NodeStatus,
      (if k = id then (s.nodes.lookup k).map fun n => { n with status := f n.status }
        else s.nodes.lookup k) =
      (s.nodes.lookup k).map fun n => { n with status := g n.status } := by
    split_ifs
    · exact ⟨f, rfl⟩
    · exact hsame
  cases c with
  | nodeRegister id millId address resources pubkey instanceId rpcAddress advertiseAddr =>
    have hk : k ≠ id := fun hk => hc millId address resources pubkey instanceId rpcAddress
      advertiseAddr (hk ▸ rfl)
    rw [nodeAfter, if_neg hk]
    exact .inl hsame
  | nodeHeartbeat =>
    have hf : (fun n : FsmNode => if n.status = .down then { n with status := .ready } else n) =
        fun n => { n with status := if n.status = .down then .ready else n.status } := by
      funext n
      split_ifs <;> rfl
    rw [nodeAfter, hf]
    exact .inl (hmap fun status => if status = .down then .ready else status)
  | nodeDown => exact .inl (hmap fun _ => .down)
  | nodeDrain => exact .inl (hmap fun _ => .draining)
  | nodeRemove =>
    simp only [nodeAfter]
    split
    · split_ifs with hbusy hk
      · exact .inl hsame
      · exact .inr ⟨hk ▸ rfl, rfl⟩
      · exact .inl hsame
    · exact .inl hsame
  | _ => exact .inl hsame

lemma node_of_nodeAfter {n : FsmNode}
    (hc : ∀ millId address resources pubkey instanceId rpcAddress advertiseAddr,
      c ≠ .nodeRegister k millId address resources pubkey instanceId rpcAddress advertiseAddr)
    (h : nodeAfter s k c = some n) :
    ∃ m, s.nodes.lookup k = some m ∧ n = { m with status := n.status } := by
  rcases nodeAfter_eq (s := s) hc with ⟨f, hf⟩ | ⟨-, hnone⟩
  · obtain ⟨m, hm, rfl⟩ := Option.map_eq_some_iff.mp (hf.symm.trans h)
    exact ⟨m, hm, rfl⟩
  · cases hnone.symm.trans h

lemma mem_nodes_applyCommand
    (hc : ∀ millId address resources pubkey instanceId rpcAddress advertiseAddr,
      c ≠ .nodeRegister k millId address resources pubkey instanceId rpcAddress advertiseAddr)
    (hremove : c ≠ .nodeRemove k) : k ∈ (applyCommand s c).1.nodes ↔ k ∈ s.nodes := by
  obtain ⟨f, hf⟩ := (nodeAfter_eq hc (s := s)).resolve_right fun h => hremove h.1
  rw [Finmap.mem_iff, Finmap.mem_iff, lookup_nodes_applyCommand, hf]
  simp

def FsmState.NodesKeyed (s : FsmState) : Prop := ∀ id n, s.nodes.lookup id = some n → n.raftId = id

lemma nodesKeyed_applyCommand (h : s.NodesKeyed) (c : Command) :
    (applyCommand s c).1.NodesKeyed := by
  intro k n hn
  rw [lookup_nodes_applyCommand] at hn
  by_cases hc : ∃ millId address resources pubkey instanceId rpcAddress advertiseAddr,
      c = .nodeRegister k millId address resources pubkey instanceId rpcAddress advertiseAddr
  · obtain ⟨millId, address, resources, pubkey, instanceId, rpcAddress, advertiseAddr, rfl⟩ := hc
    simp only [nodeAfter, if_true] at hn
    cases hn
    rfl
  · simp only [not_exists] at hc
    obtain ⟨m, hm, hnm⟩ := node_of_nodeAfter hc hn
    rw [hnm]
    exact h k m hm

lemma nodesKeyed_applyAll (cmds : List Command) : (applyAll default cmds).NodesKeyed := by
  refine applyAll_invariant (P := FsmState.NodesKeyed) (fun s c h => nodesKeyed_applyCommand h c)
    (fun k n hn => ?_) cmds
  cases hn

lemma lookup_of_raftIdFor {nodes : List FsmNode} {m : NodeId} {raftId : Nat}
    (hkeyed : s.NodesKeyed) (hnodes : s.nodes.values = nodes)
    (h : FsmState.raftIdFor nodes m = some raftId) :
    ∃ n, s.nodes.lookup raftId = some n ∧ n.millId = m := by
  obtain ⟨n, hn, hid⟩ := Option.map_eq_some_iff.mp h
  have hmem : n ∈ s.nodes.values := by
    rw [hnodes]
    exact List.mem_of_find?_eq_some hn
  obtain ⟨id, hlookup⟩ := Finmap.mem_values.mp hmem
  have hsame : id = raftId := (hkeyed id n hlookup).symm.trans hid
  rw [hsame] at hlookup
  exact ⟨n, hlookup, by simpa using List.find?_some hn⟩

end

def volumeAfter (s : FsmState) (v : String) : Command → Option FsmVolume
  | .volumeCreated name cloudId => if v = name then some ⟨cloudId, .ready⟩ else s.volumes.lookup v
  | .volumeAttached name node =>
    match s.nodes.lookup node with
    | some n =>
      if v = name then (s.volumes.lookup v).map fun vol => { vol with state := .attached n.millId }
      else s.volumes.lookup v
    | none => s.volumes.lookup v
  | .volumeDetached name =>
    if v = name then (s.volumes.lookup v).map fun vol => { vol with state := .ready }
    else s.volumes.lookup v
  | .volumeDestroyed name => if v = name then none else s.volumes.lookup v
  | _ => s.volumes.lookup v

lemma lookup_volumes_applyCommand (s : FsmState) (c : Command) (v : String) :
    (applyCommand s c).1.volumes.lookup v = volumeAfter s v c := by
  cases c with
  | volumeCreated => simp only [applyCommand, volumeAfter, Finmap.lookup_insert_eq]
  | volumeAttached name node =>
    cases hn : s.nodes.lookup node with
    | none => simp only [applyCommand, hn, volumeAfter]
    | some n =>
      cases hv : s.volumes.lookup name with
      | none => simpa only [applyCommand, hn, hv, volumeAfter] using lookup_eq_map_of_none hv v
      | some vol =>
        simpa only [applyCommand, hn, hv, volumeAfter] using
          lookup_insert_map (f := fun vol : FsmVolume => { vol with state := .attached n.millId })
            hv v
  | volumeDetached name =>
    cases hv : s.volumes.lookup name with
    | none => simpa only [applyCommand, hv, volumeAfter] using lookup_eq_map_of_none hv v
    | some vol =>
      simpa only [applyCommand, hv, volumeAfter] using
        lookup_insert_map (f := fun vol : FsmVolume => { vol with state := .ready }) hv v
  | volumeDestroyed => simp only [applyCommand, volumeAfter, Finmap.lookup_erase_eq]
  | nodeHeartbeat id allocStatuses | nodeDown id | nodeDrain id | allocStatus allocId status
  | secretDelete => simp only [applyCommand, volumeAfter]; split <;> rfl
  | nodeRemove =>
    simp only [applyCommand, volumeAfter]
    split
    · rfl
    · split_ifs <;> rfl
  | allocScheduled allocId nodeId name kind address resources
  | allocRunning =>
    simp only [applyCommand, volumeAfter]; split <;> rfl
  | _ => rfl

def secretAfter (s : FsmState) (n : String) : Command → Option EncryptedSecret
  | .secretSet name encryptedValue nonce =>
    if n = name then some ⟨encryptedValue, nonce⟩ else s.secrets.lookup n
  | .secretDelete name => if n = name then none else s.secrets.lookup n
  | _ => s.secrets.lookup n

lemma lookup_secrets_applyCommand (s : FsmState) (c : Command) (n : String) :
    (applyCommand s c).1.secrets.lookup n = secretAfter s n c := by
  cases c with
  | secretSet =>
    simp only [applyCommand, secretAfter, Finmap.lookup_insert_eq]
  | secretDelete name =>
    cases hs : s.secrets.lookup name with
    | none =>
      simp only [applyCommand, hs, secretAfter]
      split_ifs with hn
      · rw [hn, hs]
      · rfl
    | some => simp only [applyCommand, hs, secretAfter, Finmap.lookup_erase_eq]
  | nodeRemove =>
    simp only [applyCommand, secretAfter]
    split
    · rfl
    · split_ifs <;> rfl
  | volumeAttached =>
    simp only [applyCommand, secretAfter]
    split
    · rfl
    · split <;> rfl
  | nodeHeartbeat id statuses | nodeDown id | nodeDrain id | allocScheduled | allocStatus
  | allocRunning | volumeDetached name => simp only [applyCommand, secretAfter]; split <;> rfl
  | _ => rfl

lemma config_applyCommand {s : FsmState} {c : Command} (hc : ∀ config, c ≠ .deploy config) :
    (applyCommand s c).1.config = s.config := by
  cases c with
  | deploy config => exact absurd rfl (hc config)
  | nodeRemove =>
    simp only [applyCommand]
    split
    · rfl
    · split_ifs <;> rfl
  | volumeAttached =>
    simp only [applyCommand]
    split
    · rfl
    · split <;> rfl
  | nodeHeartbeat id statuses | nodeDown id | nodeDrain id | allocScheduled | allocStatus
  | allocRunning | secretDelete name | volumeDetached name =>
    simp only [applyCommand]; split <;> rfl
  | _ => rfl

end Mill
