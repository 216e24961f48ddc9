import Mill.Node.TunnelAddresses

/-! Which members can reach which. -/

namespace Mill

open List Option Transition

def MeshEvent.joins : MeshEvent → Bool
  | .join .. => true
  | _ => false

namespace MeshWorld

def Reaches (w : MeshWorld) (d : MeshDaemon) (k : Nat) : Prop :=
  ∃ n key p, w.fsm.nodes.lookup k = some n ∧ n.wireguardPubkey = some key ∧
    d.network.lookup k = some ⟨n.address.ip, 4401⟩ ∧ d.wireguard.peers.lookup key = some p ∧
    p.tunnelIp = n.address.ip

def Connected (w : MeshWorld) : Prop :=
  ∀ (i j : Nat) (d d' : MeshDaemon), i ≠ j → w.daemons[i]? = some d → w.daemons[j]? = some d' →
    w.Reaches d d'.identity.raftId

/-- A node joins when there is one member only and is told of it, and a daemon starts again only if
its `node.json` lists all other members. -/
def Introduced (w : MeshWorld) (e : MeshEvent) : Prop :=
  w.Informed e ∧ (e.joins = true → w.daemons.length = 1) ∧
    ∀ i ∈ e.restarts, ∀ d ∈ w.daemons[i]?, w.fsm.nodes.keys ⊆
      insert d.identity.raftId (d.identity.peers.map fun p => p.raftId).toFinset

instance (w : MeshWorld) (e : MeshEvent) : Decidable (w.Introduced e) :=
  inferInstanceAs (Decidable (_ ∧ (e.joins = true → _) ∧ ∀ i ∈ e.restarts, ∀ d ∈ w.daemons[i]?, _))

def Truthful (w : MeshWorld) (identity : NodeIdentity) : Prop :=
  ∀ p ∈ identity.peers, p.raftId ≠ identity.raftId ∧ ∃ n, w.fsm.nodes.lookup p.raftId = some n ∧
    n.address.ip = p.tunnelIp ∧ n.wireguardPubkey = some p.publicKey

structure Meshed (w : MeshWorld) : Prop where
  settled : w.Settled
  few : w.members.length ≤ 2
  connected : w.Connected
  files : ∀ d ∈ w.daemons, w.Truthful d.identity
  known : ∀ d ∈ w.daemons, ∀ k, k ∈ d.network → k ∈ w.members
  keyed : ∀ k n, w.fsm.nodes.lookup k = some n → ∃ key, n.wireguardPubkey = some key

variable {parseIp : String → Option IpAddr} {w w' : MeshWorld} {d : MeshDaemon} {k : Nat}
  {tunnelIp : IpAddr} {j : Joiner} {publicKey : String}

lemma Truthful.mem_members {identity : NodeIdentity} {raftPort : Nat} (h : w.Truthful identity)
    (hs : w.Settled) (hk : k ∈ (MeshDaemon.withPeers parseIp identity tunnelIp raftPort).network) :
    k ∈ w.members := by
  rw [MeshDaemon.mem_network_withPeers] at hk
  obtain ⟨p, hp, rfl⟩ := List.mem_map.mp hk
  obtain ⟨-, n, hn, -⟩ := h p hp
  exact (hs.nodes _).mp (Finmap.mem_iff.mpr ⟨n, hn⟩)

def Grows (w w' : MeshWorld) : Prop :=
  ∀ k n, w.fsm.nodes.lookup k = some n →
    ∃ n', w'.fsm.nodes.lookup k = some n' ∧ n' = { n with status := n'.status }

lemma Grows.reaches (h : w.Grows w') (hd : w.Reaches d k) : w'.Reaches d k := by
  obtain ⟨n, key, p, hn, hkey, hnetwork, hpeer, hip⟩ := hd
  obtain ⟨n', hn', heq⟩ := h k n hn
  have haddress : n'.address = n.address := by rw [heq]
  have hpubkey : n'.wireguardPubkey = n.wireguardPubkey := by rw [heq]
  exact ⟨n', key, p, hn', hpubkey.trans hkey, by rw [haddress, hnetwork], hpeer,
    by rw [haddress, hip]⟩

lemma Grows.truthful (h : w.Grows w') {identity : NodeIdentity} (hfile : w.Truthful identity) :
    w'.Truthful identity := by
  intro p hp
  obtain ⟨hne, n, hn, hip, hkey⟩ := hfile p hp
  obtain ⟨n', hn', heq⟩ := h p.raftId n hn
  have haddress : n'.address = n.address := by rw [heq]
  have hpubkey : n'.wireguardPubkey = n.wireguardPubkey := by rw [heq]
  exact ⟨hne, n', hn', by rw [haddress, hip], hpubkey.trans hkey⟩

lemma reaches_withPeers (h : w.Settled) (hfew : w.members.length ≤ 2) {identity : NodeIdentity}
    (hfile : w.Truthful identity) (hown : identity.raftId ∈ w.members)
    (hk : k ∈ identity.peers.map fun p => p.raftId) :
    w.Reaches (.withPeers parseIp identity tunnelIp (apiPort + 1)) k := by
  obtain ⟨p, hp, rfl, hnetwork⟩ := MeshDaemon.exists_network_withPeers parseIp tunnelIp
    (apiPort + 1) hk
  obtain ⟨hne, n, hn, hip, hkey⟩ := hfile p hp
  obtain ⟨q, hq, hpublic, hpeer⟩ := MeshDaemon.exists_peer_withPeers parseIp tunnelIp
    (apiPort + 1) (List.mem_map_of_mem (f := fun p : PeerEntry => p.publicKey) hp)
  obtain ⟨hne', n', hn', hip', -⟩ := hfile q hq
  -- there is only one other member that the two entries can be about
  have hsame : q.raftId = p.raftId := by
    have hbounds {r : PeerEntry} {m : FsmNode} (hm : w.fsm.nodes.lookup r.raftId = some m) :
        1 ≤ r.raftId ∧ r.raftId ≤ w.members.length :=
      h.mem_members.mp ((h.nodes _).mp (Finmap.mem_iff.mpr ⟨m, hm⟩))
    have hp' := hbounds hn
    have hq' := hbounds hn'
    have hown' := h.mem_members.mp hown
    omega
  rw [hsame, hn, Option.some.injEq] at hn'
  subst hn'
  refine ⟨n, p.publicKey, _, hn, hkey, ?_, hpeer, hip'.symm⟩
  rw [hnetwork, hip]
  rfl

lemma grows_commit {c : Command} (hc : c.member = none) (hremoves : c.removes = false) :
    w.Grows (w.commit c) := by
  intro k n hn
  rw [fsm_commit]
  exact lookup_nodes_kept hc hremoves hn

section

variable {j : Joiner} {info : JoinInfoResponse} {publicKey : String} {ids : List Nat}

lemma lookup_joined (k : Nat) : (w.joined parseIp j info publicKey ids).fsm.nodes.lookup k =
    if k = info.nextRaftId then some (j.request info publicKey).node
    else w.fsm.nodes.lookup k := by
  rw [fsm_joined]
  exact lookup_nodes_register ..

lemma Settled.grows_joined (h : w.Settled) (hnext : info.nextRaftId = w.members.length + 1) :
    w.Grows (w.joined parseIp j info publicKey ids) := by
  intro k n hn
  have hle := (h.mem_members.mp ((h.nodes k).mp (Finmap.mem_iff.mpr ⟨n, hn⟩))).2
  have hk : k ≠ info.nextRaftId := by omega
  exact ⟨n, by rw [lookup_joined, if_neg hk, hn], rfl⟩

lemma mem_peers_join (parseIp : String → Option IpAddr) {t : Nat}
    {nodes : List (Σ _ : Nat, FsmNode)} {tunnelIp : IpAddr}
    (hnodes : (w.nodesAt t).entries = nodes) : (k ∈ (MeshDaemon.join parseIp
      (joinInfo nodes tunnelIp)).identity.peers.map fun p => p.raftId) ↔ k ∈ w.nodesAt t := by
  have hraftIds : ((MeshDaemon.join parseIp
      (joinInfo nodes tunnelIp)).identity.peers.map fun p => p.raftId) = nodes.map Sigma.fst := by
    change (((nodes.map fun e => e.2.joinPeer).map JoinPeerInfo.entry).map fun p => p.raftId) = _
    rw [List.map_map, List.map_map]
    refine map_congr_left fun e he => ?_
    refine nodesKeyed_applyAll (w.log.take t) e.1 e.2 ?_
    refine mem_def.mp (Finmap.mem_lookup_iff.mpr ?_)
    change e ∈ (w.nodesAt t).entries
    rw [hnodes]
    exact he
  rw [hraftIds]
  exact Finmap.mem_of_entries hnodes

lemma Meshed.truthful_join (h : w.Meshed) {t : Nat} {nodes : List (Σ _ : Nat, FsmNode)}
    {tunnelIp : IpAddr} (hnodes : (w.nodesAt t).entries = nodes)
    (hnext : nextRaftId (nodes.map Sigma.fst) = w.members.length + 1) :
    w.Truthful (MeshDaemon.join parseIp (joinInfo nodes tunnelIp)).identity := by
  intro p hp
  obtain ⟨q, hq, rfl⟩ := List.mem_map.mp hp
  obtain ⟨⟨k, m⟩, hm, rfl⟩ := List.mem_map.mp hq
  have hlookup : (w.nodesAt t).lookup k = some m := by
    refine mem_def.mp (Finmap.mem_lookup_iff.mpr ?_)
    rw [hnodes]
    exact hm
  have hid : m.raftId = k := nodesKeyed_applyAll _ k m hlookup
  obtain ⟨n, hn, heq⟩ := h.settled.kept t k m hlookup
  obtain ⟨key, hkey⟩ := h.keyed k n hn
  have hpubkey : m.wireguardPubkey = some key := by
    rw [← hkey, heq]
  have hpublic : m.joinPeer.entry.publicKey = key := by
    change m.wireguardPubkey.getD "" = key
    rw [hpubkey, getD_some]
  have hle := (h.settled.mem_members.mp ((h.settled.nodes k).mp (Finmap.mem_iff.mpr ⟨n, hn⟩))).2
  refine ⟨?_, n, ?_, ?_, ?_⟩
  · change m.raftId ≠ nextRaftId (nodes.map Sigma.fst)
    omega
  · change w.fsm.nodes.lookup m.raftId = some n
    rw [hid, hn]
  · rw [heq]
    rfl
  · rw [hpublic, hkey]

end

namespace Meshed

lemma commit (h : w.Meshed) {c : Command} (hc : c.member = none) (hremoves : c.removes = false) :
    (w.commit c).Meshed where
  settled := h.settled.commit hc hremoves
  few := h.few
  connected i j d d' hij hi hj :=
    (grows_commit hc hremoves).reaches (h.connected i j d d' hij hi hj)
  files d hd := (grows_commit hc hremoves).truthful (h.files d hd)
  known := h.known
  keyed k n' hn' := by
    have hk : k ∈ w.fsm.nodes := by
      rw [← mem_nodes_kept hc hremoves, ← fsm_commit]
      exact Finmap.mem_iff.mpr ⟨n', hn'⟩
    obtain ⟨n, hn⟩ := Finmap.mem_iff.mp hk
    obtain ⟨n₁, hn₁, heq⟩ := grows_commit hc hremoves k n hn
    cases hn'.symm.trans hn₁
    obtain ⟨key, hkey⟩ := h.keyed k n hn
    exact ⟨key, by rw [heq, ← hkey]⟩

lemma raftId_mem (h : w.Meshed) (hd : d ∈ w.daemons) : d.identity.raftId ∈ w.members := by
  rw [← h.settled.daemons]
  exact List.mem_map_of_mem (f := fun d : MeshDaemon => d.identity.raftId) hd

lemma raftId_ne (h : w.Meshed) {i j : Nat} {d d' : MeshDaemon} (hij : i ≠ j)
    (hi : w.daemons[i]? = some d) (hj : w.daemons[j]? = some d') :
    d.identity.raftId ≠ d'.identity.raftId := by
  intro heq
  have hids := h.settled.nodup_daemons
  have hi' : (w.daemons.map fun d => d.identity.raftId)[i]? = some d.identity.raftId := by
    rw [List.getElem?_map, hi, map_some]
  have hj' : (w.daemons.map fun d => d.identity.raftId)[j]? = some d.identity.raftId := by
    rw [List.getElem?_map, hj, map_some, heq]
  have hlt := (List.getElem?_eq_some_iff.mp hi').1
  exact hij ((List.getElem?_inj hlt hids).mp (hi'.trans hj'.symm))

lemma restart (h : w.Meshed) {i : Nat} {d d' : MeshDaemon} (hd : w.daemons[i]? = some d)
    (hd' : MeshDaemon.startFromExisting parseIp d.identity = some d')
    (hlisted : w.fsm.nodes.keys ⊆
      insert d.identity.raftId (d.identity.peers.map fun p => p.raftId).toFinset) :
    { w with daemons := w.daemons.set i d' }.Meshed := by
  have hmem : d ∈ w.daemons := mem_of_getElem? hd
  have hsettled := h.settled.restart hd hd'
  obtain ⟨⟨tunnelIp, _⟩, -, rfl⟩ := map_eq_some_iff.mp hd'
  refine ⟨hsettled, h.few, ?_, List.forall_mem_set h.files (h.files d hmem),
    List.forall_mem_set h.known fun k hk => ?_, h.keyed⟩
  · intro i₁ j₁ d₁ d₂ hij hi hj
    obtain ⟨d₃, hd₃, hident⟩ : ∃ d₃, w.daemons[j₁]? = some d₃ ∧ d₂.identity = d₃.identity := by
      rcases List.of_getElem?_set hj with ⟨rfl, rfl⟩ | ⟨-, hj⟩
      · exact ⟨d, hd, rfl⟩
      · exact ⟨d₂, hj, rfl⟩
    rw [hident]
    rcases List.of_getElem?_set hi with ⟨rfl, rfl⟩ | ⟨-, hi⟩
    · have hmember := (h.settled.nodes _).mpr (h.raftId_mem (mem_of_getElem? hd₃))
      have hlisted₃ := hlisted (Finmap.mem_keys.mpr hmember)
      rw [Finset.mem_insert, List.mem_toFinset] at hlisted₃
      have hne := h.raftId_ne hij hd hd₃
      exact reaches_withPeers hsettled h.few (h.files d hmem) (h.raftId_mem hmem)
        (hlisted₃.resolve_left hne.symm)
    · exact h.connected i₁ j₁ d₁ d₃ hij hi hd₃
  · exact (h.files d hmem).mem_members h.settled hk

lemma joined (h : w.Meshed) {t t' : Nat} {j : Joiner} {nodes : List (Σ _ : Nat, FsmNode)}
    {tunnelIp : IpAddr} {publicKey : String} {ids : List Nat}
    (hnodes : (w.nodesAt t).entries = nodes) (hall : w.fsm.nodes.keys ⊆ (w.nodesAt t).keys)
    (hids : (w.nodesAt t').entries.map Sigma.fst = ids) (halone : w.daemons.length = 1) :
    (w.joined parseIp j (joinInfo nodes tunnelIp) publicKey ids).Meshed := by
  let info := joinInfo nodes tunnelIp
  let w' := w.joined parseIp j info publicKey ids
  have hnext : info.nextRaftId = w.members.length + 1 := (h.settled.informed_iff hnodes).mp hall
  have hsettled : w'.Settled := h.settled.joined hids hnext
  have hgrows : w.Grows w' := h.settled.grows_joined hnext
  have hfile : w'.Truthful (MeshDaemon.join parseIp info).identity :=
    hgrows.truthful (h.truthful_join hnodes hnext)
  have hone : w.members.length = 1 := by
    rw [← h.settled.daemons, length_map, halone]
  have hfew : w'.members.length ≤ 2 := by
    rw [members_joined, length_append, hone, length_singleton]
  -- the leader is the only daemon that was there
  obtain ⟨d₀, hd₀⟩ := length_eq_one_iff.mp halone
  have hleader : w.leader = 0 := by
    have hlt := h.settled.leader
    omega
  have hdaemons : w'.daemons = [(d₀.addPeer ((j.request info publicKey).peer parseIp)).setPeer
      info.nextRaftId ⟨info.tunnelIp, 4401⟩, .join parseIp info] := by
    rw [daemons_joined h.settled.leader, hleader, hd₀]
    rfl
  have hmem : d₀ ∈ w.daemons := hd₀ ▸ mem_singleton_self d₀
  have hnew : w'.fsm.nodes.lookup info.nextRaftId = some (j.request info publicKey).node := by
    rw [lookup_joined, if_pos rfl]
  refine ⟨hsettled, hfew, ?_, ?_, ?_, ?_⟩
  · intro i₁ j₁ d₁ d₂ hij hi hj
    rw [hdaemons] at hi hj
    rcases List.of_getElem?_pair hi with ⟨rfl, rfl⟩ | ⟨rfl, rfl⟩
    · rcases List.of_getElem?_pair hj with ⟨rfl, rfl⟩ | ⟨rfl, rfl⟩
      · exact absurd rfl hij
      · exact ⟨_, publicKey, _, hnew, rfl, Finmap.lookup_insert _, Finmap.lookup_insert _, rfl⟩
    · rcases List.of_getElem?_pair hj with ⟨rfl, rfl⟩ | ⟨rfl, rfl⟩
      · have hown : info.nextRaftId ∈ w'.members := by
          rw [members_joined]
          exact mem_append_right _ (mem_singleton_self _)
        have hread := hall (Finmap.mem_keys.mpr ((h.settled.nodes _).mpr (h.raftId_mem hmem)))
        exact reaches_withPeers hsettled hfew hfile hown
          ((mem_peers_join parseIp hnodes).mpr (Finmap.mem_keys.mp hread))
      · exact absurd rfl hij
  · rw [hdaemons]
    intro d hd
    rcases mem_pair.mp hd with rfl | rfl
    · exact hgrows.truthful (h.files d₀ hmem)
    · exact hfile
  · rw [hdaemons]
    intro d hd k hk
    rcases mem_pair.mp hd with rfl | rfl
    · rw [members_joined, mem_append, mem_singleton]
      rcases Finmap.mem_insert.mp hk with rfl | hold
      · exact .inr rfl
      · exact .inl (h.known d₀ hmem k hold)
    · exact hfile.mem_members hsettled hk
  · intro k n hn
    rw [lookup_joined] at hn
    split_ifs at hn
    · cases hn
      exact ⟨publicKey, rfl⟩
    · exact h.keyed k n hn

end Meshed

lemma meshed_step {e : MeshEvent} (h : w.Meshed) (hremoves : e.removes = false)
    (he : w.Introduced e) (hstep : w.step parseIp e = some w') : w'.Meshed := by
  cases e with
  | join =>
    obtain ⟨t, nodes, rest, tunnelIp, publicKey, t', ids, rfl, hnodes, -, hids, rfl⟩ :=
      step_join hstep
    exact h.joined hnodes (he.1 t rfl) hids (he.2.1 rfl)
  | remove => cases hremoves
  | commit =>
    obtain ⟨hc, hremoves, rfl⟩ := step_commit hstep
    exact h.commit hc hremoves
  | elect =>
    have hsettled := settled_step h.settled ⟨hremoves, he.1⟩ hstep
    obtain ⟨-, rfl⟩ := step_elect hstep
    exact ⟨hsettled, h.few, h.connected, h.files, h.known, h.keyed⟩
  | restart i =>
    obtain ⟨d, d', hd, hd', rfl⟩ := step_restart hstep
    exact h.restart hd hd' (he.2.2 i rfl d hd)

lemma Reaches.mem_network (h : w.Reaches d k) : k ∈ d.network := by
  obtain ⟨n, key, p, -, -, hnetwork, -, -⟩ := h
  exact Finmap.mem_iff.mpr ⟨_, hnetwork⟩

lemma getElem?_daemons_joined {info : JoinInfoResponse}
    {ids : List Nat} {i : Nat} (h : w.leader < w.daemons.length) (hd : w.daemons[i]? = some d) :
    ∃ d', (w.joined parseIp j info publicKey ids).daemons[i]? = some d' ∧
      d'.identity = d.identity ∧ (i ≠ w.leader → d' = d) := by
  rw [daemons_joined h]
  refine ⟨_, List.getElem?_append_of_some (List.getElem?_modify_of_some hd _), ?_,
    fun hne => if_neg hne.symm⟩
  split_ifs
  · rfl
  · rfl

lemma introduced_of_connected_joined {nodes : List (Σ _ : Nat, FsmNode)} {ids : List Nat}
    {t : Nat} (h : w.Meshed) (hnodes : (w.nodesAt t).entries = nodes)
    (hw' : (w.joined parseIp j (joinInfo nodes tunnelIp) publicKey ids).Connected) :
    w.fsm.nodes.keys ⊆ (w.nodesAt t).keys ∧ w.daemons.length = 1 := by
  let info := joinInfo nodes tunnelIp
  have hlast : (w.joined parseIp j info publicKey ids).daemons[w.daemons.length]? =
      some (.join parseIp info) := by
    rw [daemons_joined h.settled.leader, List.getElem?_append_right (by rw [length_modify]),
      length_modify, Nat.sub_self]
    rfl
  obtain ⟨m, hle, hnext, hm⟩ := h.settled.nextRaftId_eq hnodes
  have hall : w.fsm.nodes.keys ⊆ (w.nodesAt t).keys := by
    rw [h.settled.informed_iff hnodes, hnext]
    by_contra hne
    have hmember : m + 1 ∈ w.daemons.map fun d => d.identity.raftId := by
      rw [h.settled.daemons]
      exact h.settled.mem_members.mpr ⟨by omega, by omega⟩
    obtain ⟨d, hd, hid⟩ := List.mem_map.mp hmember
    obtain ⟨i, hi⟩ := mem_iff_getElem?.mp hd
    obtain ⟨d', hd', hident, -⟩ := getElem?_daemons_joined h.settled.leader hi
    have hlt := (List.getElem?_eq_some_iff.mp hi).1
    have hreach := hw' _ i _ d' (by omega) hlast hd'
    rw [hident, hid] at hreach
    have hread := (mem_peers_join parseIp hnodes).mp
      ((MeshDaemon.mem_network_withPeers ..).mp hreach.mem_network)
    have hbound := ((hm _).mp hread).2
    omega
  refine ⟨hall, ?_⟩
  by_contra hlength
  -- a daemon that does not lead is not told of the new one
  have hlt := h.settled.leader
  obtain ⟨i, hi, hne⟩ : ∃ i < w.daemons.length, i ≠ w.leader := by
    rcases Nat.eq_zero_or_pos w.leader with hzero | hpos
    · exact ⟨1, by omega, by omega⟩
    · exact ⟨0, by omega, by omega⟩
  have hd := List.getElem?_eq_getElem hi
  obtain ⟨d', hd', -, hsame⟩ := getElem?_daemons_joined h.settled.leader hd
  have hreach := hw' i _ d' _ (by omega) hd' hlast
  rw [hsame hne] at hreach
  have hmember := h.known _ (mem_of_getElem? hd) _ hreach.mem_network
  have hbound := (h.settled.mem_members.mp hmember).2
  have hnew : info.nextRaftId = w.members.length + 1 := (h.settled.informed_iff hnodes).mp hall
  change info.nextRaftId ≤ w.members.length at hbound
  omega

lemma introduced_of_connected {e : MeshEvent} (h : w.Meshed) (hremoves : e.removes = false)
    (hstep : w.step parseIp e = some w') (hw' : w'.Connected) : w.Introduced e := by
  cases e with
  | join =>
    obtain ⟨t, nodes, rest, tunnelIp, publicKey, t', ids, rfl, hnodes, -, -, rfl⟩ :=
      step_join hstep
    obtain ⟨hall, halone⟩ := introduced_of_connected_joined h hnodes hw'
    refine ⟨fun t₁ ht₁ => ?_, fun _ => halone, fun i hi => by cases hi⟩
    cases ht₁
    exact hall
  | remove => cases hremoves
  | commit c | elect leader =>
    exact ⟨informed_of_none rfl, fun hj => (by cases hj), fun i hi => by cases hi⟩
  | restart i =>
    obtain ⟨d, d', hd, hd', rfl⟩ := step_restart hstep
    refine ⟨informed_of_none rfl, fun hj => (by cases hj), fun i' hi' d₁ hd₁ k hk => ?_⟩
    cases hi'
    cases hd.symm.trans hd₁
    rw [Finset.mem_insert, List.mem_toFinset]
    by_cases hown : k = d.identity.raftId
    · exact .inl hown
    · -- some other daemon has this raft id
      have hmember : k ∈ w.daemons.map fun d => d.identity.raftId := by
        rw [h.settled.daemons, ← h.settled.nodes]
        exact Finmap.mem_keys.mp hk
      obtain ⟨d₂, hd₂, rfl⟩ := List.mem_map.mp hmember
      obtain ⟨j, hj⟩ := mem_iff_getElem?.mp hd₂
      have hij : i ≠ j := by
        rintro rfl
        cases hd.symm.trans hj
        exact hown rfl
      have hset : (w.daemons.set i d')[j]? = some d₂ := by
        rw [List.getElem?_set_ne hij, hj]
      have hreach := hw' i j d' d₂ hij (List.getElem?_set_of_some hd) hset
      obtain ⟨⟨tunnelIp, _⟩, -, rfl⟩ := map_eq_some_iff.mp hd'
      exact .inr ((MeshDaemon.mem_network_withPeers ..).mp hreach.mem_network)

lemma meshed_formed (h : formed parseIp j publicKey = some w) : w.Meshed := by
  have hsettled := settled_formed h
  rw [formed_eq, Option.some.injEq] at h
  subst h
  refine ⟨hsettled, Nat.le_succ 1, ?_, ?_, ?_, ?_⟩
  · intro i j d d' hij hi hj
    have hi' := (List.getElem?_eq_some_iff.mp hi).1
    have hj' := (List.getElem?_eq_some_iff.mp hj).1
    rw [length_singleton] at hi' hj'
    omega
  · intro d hd p hp
    rw [mem_singleton.mp hd] at hp
    cases hp
  · intro d hd k hk
    rw [mem_singleton.mp hd, MeshDaemon.mem_network_withPeers] at hk
    cases hk
  · intro k n hn
    have hlookup := lookup_nodes_register default (firstRequest j publicKey) k
    rw [show (applyCommand default (firstRequest j publicKey).register).1.nodes.lookup k = some n
      from hn] at hlookup
    split_ifs at hlookup
    · cases hlookup
      exact ⟨publicKey, rfl⟩
    · cases hlookup

/-- In a cluster that nobody leaves, every member reaches every other one throughout exactly if a
node joins only when there is one member, which it is told of, and a daemon starts again only if
its `node.json` lists all other members. -/
theorem members_connected {j : Joiner} {publicKey : String} {es : List MeshEvent}
    (hformed : formed parseIp j publicKey = some w) (hstay : ∀ e ∈ es, e.removes = false)
    (hrun : run (step parseIp) w es = some w') :
    Guarded (step parseIp) Introduced w es ↔
      ∀ as t, as <+: es → run (step parseIp) w as = some t → t.Connected := by
  have hw : w.Meshed := meshed_formed hformed
  refine guarded_iff_forall_reached_of (S := Meshed) ?_ ?_ hw hw.connected hstay hrun
  · intro w e w' hw hstays he hstep
    exact meshed_step hw hstays he hstep
  · intro w e w' hw hstays hstep
    exact ⟨introduced_of_connected hw hstays hstep,
      fun he => (meshed_step hw hstays he hstep).connected⟩

theorem members_connected_pair : ∃ w w', demoFormed = some w ∧
    run (step demoParse) w demoSecondRestarts = some w' ∧ w'.members = [1, 2] ∧ w'.Connected := by
  have hw : demoFormed.bind (fun w => (run (step demoParse) w demoSecondRestarts).map fun w' =>
      (w'.members, decide (Guarded (step demoParse) Introduced w demoSecondRestarts))) =
      some ([1, 2], true) := by
    decide +kernel
  obtain ⟨w, hformed, h⟩ := bind_eq_some_iff.mp hw
  obtain ⟨w', hrun, heq⟩ := map_eq_some_iff.mp h
  rw [Prod.mk.injEq, decide_eq_true_eq] at heq
  have hstay : ∀ e ∈ demoSecondRestarts, e.removes = false := by decide
  exact ⟨w, w', hformed, hrun, heq.1,
    (members_connected hformed hstay hrun).mp heq.2 demoSecondRestarts w' prefix_rfl hrun⟩

def demoKnows (w : MeshWorld) (i j : Nat) (key : String) : Option (Nat × Bool × Bool) := do
  let d ← w.daemons[i]?
  let d' ← w.daemons[j]?
  some (d'.identity.raftId, decide (d'.identity.raftId ∈ d.network),
    decide (key ∈ d.wireguard.peers))

lemma not_connected_of_demoKnows {i j : Nat} {key : String} {b : Bool} (hij : i ≠ j)
    (h : demoKnows w i j key = some (k, false, b)) : ¬ w.Connected := by
  intro hw
  obtain ⟨d, hd, h⟩ := bind_eq_some_iff.mp h
  obtain ⟨d', hd', h⟩ := bind_eq_some_iff.mp h
  simp only [Option.some.injEq, Prod.mk.injEq, decide_eq_false_iff_not] at h
  exact h.2.1 (hw i j d d' hij hd hd').mem_network

/-- The second member is not told of the third, and when the first daemon starts again it knows
nobody. -/
theorem members_not_told : ∃ w w₁ w₂, demoFormed = some w ∧
    run (step demoParse) w demoTwoJoins = some w₁ ∧
    demoKnows w₁ 1 2 "c" = some (3, false, false) ∧ ¬ w₁.Connected ∧
    run (step demoParse) w demoFirstRestarts = some w₂ ∧
    demoKnows w₂ 0 1 "b" = some (2, false, false) ∧ ¬ w₂.Connected := by
  have hw : demoFormed.bind (fun w => (run (step demoParse) w demoTwoJoins).bind fun w₁ =>
      (run (step demoParse) w demoFirstRestarts).map fun w₂ =>
        (demoKnows w₁ 1 2 "c", demoKnows w₂ 0 1 "b")) =
      some (some (3, false, false), some (2, false, false)) := by
    decide +kernel
  obtain ⟨w, hformed, hw⟩ := bind_eq_some_iff.mp hw
  obtain ⟨w₁, hrun₁, hw⟩ := bind_eq_some_iff.mp hw
  obtain ⟨w₂, hrun₂, heq⟩ := map_eq_some_iff.mp hw
  obtain ⟨h₁, h₂⟩ := Prod.mk.inj heq
  exact ⟨w, w₁, w₂, hformed, hrun₁, h₁, not_connected_of_demoKnows (by decide) h₁, hrun₂, h₂,
    not_connected_of_demoKnows (by decide) h₂⟩

end MeshWorld

end Mill
