import Mill.Node.MemberAgreement

/-! The tunnel addresses of the members. -/

namespace Mill

open List Option Transition

def MeshEvent.restarts : MeshEvent → Option Nat
  | .restart i => some i
  | _ => none

namespace MeshWorld

structure TunnelsKept (w : MeshWorld) : Prop where
  registered : ∀ d ∈ w.daemons, w.fsm.ipAt d.identity.raftId = some d.wireguard.tunnelIp
  distinct : (w.daemons.map fun d => d.wireguard.tunnelIp).Nodup

/-- A joining node is told of all members, and a daemon starts again only if it is registered under
the first address. -/
def FirstRestarts (w : MeshWorld) (e : MeshEvent) : Prop :=
  w.Informed e ∧ ∀ i ∈ e.restarts, ∀ d ∈ w.daemons[i]?,
    w.fsm.ipAt d.identity.raftId = some firstTunnelIp

instance (w : MeshWorld) (e : MeshEvent) : Decidable (w.FirstRestarts e) :=
  inferInstanceAs (Decidable (_ ∧ ∀ i ∈ e.restarts, ∀ d ∈ w.daemons[i]?, _))

structure Addressed (w : MeshWorld) : Prop where
  settled : w.Settled
  registered : ∀ d ∈ w.daemons, w.fsm.ipAt d.identity.raftId = some d.wireguard.tunnelIp
  apart : ∀ k k' ip, w.fsm.ipAt k = some ip → w.fsm.ipAt k' = some ip → k = k'
  subnet : ∀ d ∈ w.daemons, d.identity.wireguardSubnet = wireguardSubnet

variable {parseIp : String → Option IpAddr} {w w' : MeshWorld} {c : Command} {k : Nat}

lemma Settled.nodup_daemons (h : w.Settled) : (w.daemons.map fun d => d.identity.raftId).Nodup := by
  rw [h.daemons]
  exact h.agreement.fresh

lemma Addressed.tunnelsKept (h : w.Addressed) : w.TunnelsKept where
  registered := h.registered
  distinct := by
    have hids := h.settled.nodup_daemons
    refine List.Nodup.map_on (fun d hd d' hd' hip => ?_) hids.of_map
    have hip' := h.registered d' hd'
    rw [← hip] at hip'
    exact inj_on_of_nodup_map hids hd hd' (h.apart _ _ _ (h.registered d hd) hip')

lemma ipAt_commit (hc : c.member = none) (hremoves : c.removes = false) :
    (w.commit c).fsm.ipAt k = w.fsm.ipAt k := by
  rw [fsm_commit]
  cases hk : w.fsm.nodes.lookup k with
  | none =>
    have hnone : (applyCommand w.fsm c).1.nodes.lookup k = none := by
      rw [Finmap.lookup_eq_none, mem_nodes_kept hc hremoves, ← Finmap.lookup_eq_none, hk]
    rw [FsmState.ipAt, FsmState.ipAt, hk, hnone]
  | some =>
    obtain ⟨n', hn', heq⟩ := lookup_nodes_kept hc hremoves hk
    rw [FsmState.ipAt, FsmState.ipAt, hk, hn', heq]
    rfl

lemma ipAt_joined {j : Joiner} {info : JoinInfoResponse} {publicKey : String} {ids : List Nat} :
    (w.joined parseIp j info publicKey ids).fsm.ipAt k =
      if k = info.nextRaftId then some info.tunnelIp else w.fsm.ipAt k := by
  rw [fsm_joined]
  exact ipAt_register (m := ⟨info.nextRaftId, info.tunnelIp⟩) rfl k

lemma Settled.ipAt_ne (h : w.Settled) {t : Nat} {nodes : List (Σ _ : Nat, FsmNode)}
    {tunnelIp : IpAddr} (hnodes : (w.nodesAt t).entries = nodes)
    (hall : w.fsm.nodes.keys ⊆ (w.nodesAt t).keys)
    (hip : allocateTunnelIp (nodes.map fun e => e.2.address.ip) = some tunnelIp) (k : Nat) :
    w.fsm.ipAt k ≠ some tunnelIp := by
  intro hk
  obtain ⟨n, hn, hip'⟩ := map_eq_some_iff.mp hk
  have hread : k ∈ w.nodesAt t :=
    Finmap.mem_keys.mp (hall (Finmap.mem_keys.mpr (Finmap.mem_iff.mpr ⟨n, hn⟩)))
  obtain ⟨m, hm⟩ := Finmap.mem_iff.mp hread
  obtain ⟨n', hn', heq⟩ := h.kept t k m hm
  have hsame : m.address.ip = tunnelIp := by
    cases hn.symm.trans hn'
    rw [← hip', heq]
  have hmem : ⟨k, m⟩ ∈ nodes := by
    have hentry := Finmap.mem_lookup_iff.mp (mem_def.mpr hm)
    rw [hnodes] at hentry
    exact hentry
  have hused : tunnelIp ∈ nodes.map fun e => e.2.address.ip :=
    hsame ▸ List.mem_map_of_mem (f := fun e : (Σ _ : Nat, FsmNode) => e.2.address.ip) hmem
  have hfree := List.find?_some hip
  simp only [contains_eq_mem, Bool.not_eq_true', decide_eq_false_iff_not] at hfree
  exact hfree hused

lemma tunnelIp_join (info : JoinInfoResponse) :
    (MeshDaemon.join parseIp info).wireguard.tunnelIp = info.tunnelIp := by
  rw [MeshDaemon.join, MeshDaemon.wireguard_withPeers]

section

def seat (d : MeshDaemon) : NodeIdentity × IpAddr := (d.identity, d.wireguard.tunnelIp)

variable {j : Joiner} {info : JoinInfoResponse} {publicKey : String} {ids : List Nat}

lemma seats_joined (h : w.leader < w.daemons.length) :
    (w.joined parseIp j info publicKey ids).daemons.map seat =
      w.daemons.map seat ++ [seat (.join parseIp info)] :=
  map_daemons_joined h fun _ _ _ _ => rfl

lemma of_mem_daemons_joined (h : w.leader < w.daemons.length) {d : MeshDaemon}
    (hd : d ∈ (w.joined parseIp j info publicKey ids).daemons) :
    seat d = seat (.join parseIp info) ∨ ∃ d₀ ∈ w.daemons, seat d = seat d₀ := by
  have hmem := List.mem_map_of_mem (f := seat) hd
  rw [seats_joined h, mem_append, mem_singleton, List.mem_map] at hmem
  rcases hmem with ⟨d₀, hd₀, heq⟩ | heq
  · exact .inr ⟨d₀, hd₀, heq.symm⟩
  · exact .inl heq

lemma exists_mem_daemons_joined (h : w.leader < w.daemons.length) {d : MeshDaemon}
    (hd : d ∈ w.daemons) :
    ∃ d' ∈ (w.joined parseIp j info publicKey ids).daemons, seat d' = seat d := by
  have hmem : seat d ∈ (w.joined parseIp j info publicKey ids).daemons.map seat := by
    rw [seats_joined h]
    exact mem_append_left _ (List.mem_map_of_mem hd)
  exact List.mem_map.mp hmem

end

namespace Addressed

lemma commit (h : w.Addressed) (hc : c.member = none) (hremoves : c.removes = false) :
    (w.commit c).Addressed where
  settled := h.settled.commit hc hremoves
  registered d hd := by
    rw [ipAt_commit hc hremoves]
    exact h.registered d hd
  apart k k' ip hk hk' := by
    rw [ipAt_commit hc hremoves] at hk hk'
    exact h.apart k k' ip hk hk'
  subnet := h.subnet

lemma joined (h : w.Addressed) {t t' : Nat} {j : Joiner} {nodes : List (Σ _ : Nat, FsmNode)}
    {tunnelIp : IpAddr} {publicKey : String} {ids : List Nat}
    (hnodes : (w.nodesAt t).entries = nodes) (hall : w.fsm.nodes.keys ⊆ (w.nodesAt t).keys)
    (hip : allocateTunnelIp (nodes.map fun e => e.2.address.ip) = some tunnelIp)
    (hids : (w.nodesAt t').entries.map Sigma.fst = ids) :
    (w.joined parseIp j (joinInfo nodes tunnelIp) publicKey ids).Addressed := by
  let info := joinInfo nodes tunnelIp
  have hnext : info.nextRaftId = w.members.length + 1 := (h.settled.informed_iff hnodes).mp hall
  have hnew (k : Nat) : w.fsm.ipAt k ≠ some tunnelIp := h.settled.ipAt_ne hnodes hall hip k
  have hid {d : MeshDaemon} (hd : d ∈ w.daemons) : d.identity.raftId ≠ info.nextRaftId := by
    have hmem : d.identity.raftId ∈ w.members := by
      rw [← h.settled.daemons]
      exact List.mem_map_of_mem (f := fun d : MeshDaemon => d.identity.raftId) hd
    have hle := (h.settled.mem_members.mp hmem).2
    omega
  refine ⟨h.settled.joined hids hnext, fun d hd => ?_, fun k k' ip hk hk' => ?_, fun d hd => ?_⟩
  · rw [ipAt_joined]
    rcases of_mem_daemons_joined h.settled.leader hd with hseat | ⟨d₀, hd₀, hseat⟩
    · obtain ⟨hident, hip⟩ := Prod.mk.inj hseat
      rw [hident, hip, tunnelIp_join]
      exact if_pos rfl
    · obtain ⟨hident, hip⟩ := Prod.mk.inj hseat
      rw [hident, hip, if_neg (hid hd₀)]
      exact h.registered d₀ hd₀
  · rw [ipAt_joined] at hk hk'
    split_ifs at hk hk' with hnext₁ hnext₂ hnext₂
    · rw [hnext₁, hnext₂]
    · cases hk
      exact absurd hk' (hnew k')
    · cases hk'
      exact absurd hk (hnew k)
    · exact h.apart k k' ip hk hk'
  · rcases of_mem_daemons_joined h.settled.leader hd with hseat | ⟨d₀, hd₀, hseat⟩
    · rw [(Prod.mk.inj hseat).1]
      rfl
    · rw [(Prod.mk.inj hseat).1]
      exact h.subnet d₀ hd₀

lemma tunnelIp_startFromExisting (h : w.Addressed) {i : Nat} {d d' : MeshDaemon}
    (hd : w.daemons[i]? = some d)
    (hd' : MeshDaemon.startFromExisting parseIp d.identity = some d') :
    d'.identity = d.identity ∧ d'.wireguard.tunnelIp = firstTunnelIp := by
  rw [MeshDaemon.startFromExisting, h.subnet d (mem_of_getElem? hd),
    parseSubnetFirstIp_wireguardSubnet, map_some, Option.some.injEq] at hd'
  subst hd'
  refine ⟨rfl, ?_⟩
  rw [MeshDaemon.wireguard_withPeers]

lemma restart (h : w.Addressed) {i : Nat} {d d' : MeshDaemon} (hd : w.daemons[i]? = some d)
    (hd' : MeshDaemon.startFromExisting parseIp d.identity = some d')
    (hfirst : w.fsm.ipAt d.identity.raftId = some firstTunnelIp) :
    { w with daemons := w.daemons.set i d' }.Addressed := by
  obtain ⟨hident, hip⟩ := h.tunnelIp_startFromExisting hd hd'
  refine ⟨h.settled.restart hd hd', List.forall_mem_set h.registered ?_, h.apart,
    List.forall_mem_set h.subnet ?_⟩
  · rw [hident, hip]
    exact hfirst
  · rw [hident]
    exact h.subnet d (mem_of_getElem? hd)

end Addressed

lemma addressed_step {e : MeshEvent} (h : w.Addressed) (hremoves : e.removes = false)
    (he : w.FirstRestarts e) (hstep : w.step parseIp e = some w') : w'.Addressed := by
  cases e with
  | join =>
    obtain ⟨t, nodes, rest, tunnelIp, publicKey, t', ids, rfl, hnodes, hip, hids, rfl⟩ :=
      step_join hstep
    exact h.joined hnodes (he.1 t rfl) hip hids
  | remove => cases hremoves
  | commit =>
    obtain ⟨hc, hremoves, rfl⟩ := step_commit hstep
    exact h.commit hc hremoves
  | elect =>
    have hsettled := settled_step h.settled ⟨hremoves, he.1⟩ hstep
    obtain ⟨-, rfl⟩ := step_elect hstep
    exact ⟨hsettled, h.registered, h.apart, h.subnet⟩
  | restart i =>
    obtain ⟨d, d', hd, hd', rfl⟩ := step_restart hstep
    exact h.restart hd hd' (he.2 i rfl d hd)

lemma firstRestarts_of_tunnelsKept {e : MeshEvent} (h : w.Addressed)
    (hremoves : e.removes = false) (hstep : w.step parseIp e = some w') (hw' : w'.TunnelsKept) :
    w.FirstRestarts e := by
  cases e with
  | join =>
    obtain ⟨t, nodes, rest, tunnelIp, publicKey, t', ids, rfl, hnodes, -, -, rfl⟩ :=
      step_join hstep
    refine ⟨fun t₁ ht₁ => ?_, fun i hi => by cases hi⟩
    cases ht₁
    obtain ⟨m, hle, hnext, -⟩ := h.settled.nextRaftId_eq hnodes
    rw [h.settled.informed_iff hnodes, hnext]
    by_contra hne
    -- the new daemon has the raft id of one that was there before
    have hmember : m + 1 ∈ w.members := h.settled.mem_members.mpr ⟨by omega, by omega⟩
    rw [← h.settled.daemons] at hmember
    obtain ⟨d, hd, hid⟩ := List.mem_map.mp hmember
    obtain ⟨d', hd', hseat⟩ := exists_mem_daemons_joined h.settled.leader hd
    obtain ⟨hident, htunnel⟩ := Prod.mk.inj hseat
    have hsame : d.identity.raftId = (joinInfo nodes tunnelIp).nextRaftId := hid.trans hnext.symm
    have hreg := hw'.registered d' hd'
    rw [ipAt_joined, hident, htunnel, if_pos hsame, Option.some.injEq] at hreg
    have hdistinct := hw'.distinct
    rw [map_daemons_joined h.settled.leader fun _ _ _ _ => rfl, nodup_append] at hdistinct
    refine hdistinct.2.2 _ (List.mem_map_of_mem hd) _ (mem_singleton_self _) ?_
    rw [← hreg, tunnelIp_join]
  | remove => cases hremoves
  | commit c | elect leader => exact ⟨informed_of_none rfl, fun i hi => by cases hi⟩
  | restart =>
    obtain ⟨d, d', hd, hd', rfl⟩ := step_restart hstep
    refine ⟨informed_of_none rfl, fun i' hi' d₁ hd₁ => ?_⟩
    cases hi'
    cases hd.symm.trans hd₁
    obtain ⟨hident, hip⟩ := h.tunnelIp_startFromExisting hd hd'
    have hreg := hw'.registered d' (List.mem_set_self hd)
    rw [hident, hip] at hreg
    exact hreg

lemma addressed_formed {j : Joiner} {publicKey : String}
    (h : formed parseIp j publicKey = some w) : w.Addressed := by
  have hsettled := settled_formed h
  rw [formed_eq, Option.some.injEq] at h
  have hip (k : Nat) : w.fsm.ipAt k = if k = 1 then some firstTunnelIp else none := by
    subst h
    exact ipAt_register (s := default) (m := ⟨1, firstTunnelIp⟩) rfl k
  refine ⟨hsettled, fun d hd => ?_, fun k k' ip hk hk' => ?_, fun d hd => ?_⟩
  · rw [← h] at hd
    rw [mem_singleton.mp hd, MeshDaemon.wireguard_withPeers, hip]
    rfl
  · rw [hip] at hk hk'
    split_ifs at hk hk' with hone hone'
    rw [hone, hone']
  · rw [← h] at hd
    rw [mem_singleton.mp hd]
    rfl

/-- In a cluster that nobody leaves, the daemons have their own tunnel addresses throughout exactly
if every joining node is told of all members and only the first member starts again. -/
theorem tunnel_addresses_kept {j : Joiner} {publicKey : String} {es : List MeshEvent}
    (hformed : formed parseIp j publicKey = some w) (hstay : ∀ e ∈ es, e.removes = false)
    (hrun : run (step parseIp) w es = some w') :
    Guarded (step parseIp) FirstRestarts w es ↔
      ∀ as t, as <+: es → run (step parseIp) w as = some t → t.TunnelsKept := by
  have hw : w.Addressed := addressed_formed hformed
  refine guarded_iff_forall_reached_of (S := Addressed) ?_ ?_ hw hw.tunnelsKept hstay hrun
  · intro w e w' hw hstays he hstep
    exact addressed_step hw hstays he hstep
  · intro w e w' hw hstays hstep
    exact ⟨firstRestarts_of_tunnelsKept hw hstays hstep,
      fun he => (addressed_step hw hstays he hstep).tunnelsKept⟩

def demoFirstRestarts : List MeshEvent := [demoJoin "b" "192.0.2.2" 1 [demoA], .restart 0]

def demoSecondRestarts : List MeshEvent := [demoJoin "b" "192.0.2.2" 1 [demoA], .restart 1]

theorem tunnel_addresses_kept_first : ∃ w w', demoFormed = some w ∧
    run (step demoParse) w demoFirstRestarts = some w' ∧ w'.daemons.length = 2 ∧
    w'.TunnelsKept := by
  have hw : demoFormed.bind (fun w => (run (step demoParse) w demoFirstRestarts).map fun w' =>
      (w'.daemons.length, decide (Guarded (step demoParse) FirstRestarts w demoFirstRestarts))) =
      some (2, true) := by
    decide +kernel
  obtain ⟨w, hformed, h⟩ := bind_eq_some_iff.mp hw
  obtain ⟨w', hrun, heq⟩ := map_eq_some_iff.mp h
  rw [Prod.mk.injEq, decide_eq_true_eq] at heq
  have hstay : ∀ e ∈ demoFirstRestarts, e.removes = false := by decide
  exact ⟨w, w', hformed, hrun, heq.1,
    (tunnel_addresses_kept hformed hstay hrun).mp heq.2 demoFirstRestarts w' prefix_rfl hrun⟩

/-- The second member is registered under 10.99.0.2; when its daemon starts again it takes
10.99.0.1, the address of the first member. -/
theorem restart_takes_first_address : ∃ w w' d d', demoFormed = some w ∧
    run (step demoParse) w demoSecondRestarts = some w' ∧ w'.daemons = [d, d'] ∧
    d.wireguard.tunnelIp = firstTunnelIp ∧ d'.wireguard.tunnelIp = firstTunnelIp ∧
    w'.fsm.ipAt d'.identity.raftId = some (.v4 0x0A630002) ∧ ¬ w'.TunnelsKept := by
  have hw : demoFormed.bind (fun w => (run (step demoParse) w demoSecondRestarts).map fun w' =>
      w'.daemons.map fun d => (d.wireguard.tunnelIp, w'.fsm.ipAt d.identity.raftId)) =
      some [(firstTunnelIp, some (.v4 0x0A630001)), (firstTunnelIp, some (.v4 0x0A630002))] := by
    decide +kernel
  obtain ⟨w, hformed, hw⟩ := bind_eq_some_iff.mp hw
  obtain ⟨w', hrun, hw⟩ := map_eq_some_iff.mp hw
  obtain ⟨d, rest, hdaemons, hd, hrest⟩ := map_eq_cons_iff.mp hw
  obtain ⟨d', rest', rfl, hd', hnil⟩ := map_eq_cons_iff.mp hrest
  cases map_eq_nil_iff.mp hnil
  have hfirst : d.wireguard.tunnelIp = firstTunnelIp := congrArg Prod.fst hd
  have hsecond : d'.wireguard.tunnelIp = firstTunnelIp := congrArg Prod.fst hd'
  refine ⟨w, w', d, d', hformed, hrun, hdaemons, hfirst, hsecond, congrArg Prod.snd hd',
    fun hkept => ?_⟩
  have hdistinct := hkept.distinct
  rw [hdaemons, map_cons, map_singleton, hfirst, hsecond] at hdistinct
  exact absurd hdistinct (by decide)

end MeshWorld

end Mill
