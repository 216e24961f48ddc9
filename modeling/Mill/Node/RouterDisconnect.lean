import Mathlib.Data.List.InsertIdx
import Mill.Node.Router

/-! What is left of a node in the router after its disconnect, and whose sender is registered. -/

namespace Mill

open List Transition

variable {C R : Type}

attribute [local grind =] Finmap.lookup_insert_eq Finmap.lookup_erase_eq
attribute [local grind →] List.mem_or_eq_of_mem_set List.mem_of_getElem?

def Connection.Busy (c : Connection C R) : Prop :=
  c.writer.isEnded = false ∧ c.cancelled = false

/-- The sender of the connection is registered and its writer has not ended. -/
def Connection.Alive (c : Connection C R) : Prop :=
  c.wiring ≠ .created ∧ c.writer.isEnded = false

namespace Router

def DisconnectFinal (s : Router C R) : Prop :=
  ∀ nodeId ∈ s.disconnected, (∀ d ∈ s.disconnects, d.1 ≠ nodeId) → s.inner.lookup nodeId = none

/-- A registered sender belongs to a connection of its node that is alive and the only such one,
and a connection that is alive is registered unless it has been cancelled. -/
structure NewestWins (s : Router C R) : Prop where
  alive : ∀ (i : Nat) (c : Connection C R), s.conns[i]? = some c → c.Alive → c.cancelled = false →
    s.inner.lookup c.nodeId = some i
  registered : ∀ nodeId i, s.inner.lookup nodeId = some i →
    ∃ c, s.conns[i]? = some c ∧ c.nodeId = nodeId ∧ c.Alive ∧
      ∀ (j : Nat) (d : Connection C R), s.conns[j]? = some d → d.nodeId = nodeId → d.Alive → j = i

def Settled (s : Router C R) (nodeId : NodeId) : Prop :=
  (∀ t ∈ s.attempts, t.nodeId ≠ nodeId) ∧
    ∀ c ∈ s.conns, c.nodeId = nodeId → c.wiring = .spawned ∧ c.writer.isLost = false

/-- A node is connected only when all earlier calls and tasks for it have ended, it is
disconnected only when none of them is failing, reconnecting or connecting, a write does not
fail after the token of its connection has fired, and a writer does not end between the two steps of
its disconnect. -/
def InTurn (s : Router C R) : RouterEvent C R → Prop
  | .call nodeId => s.Settled nodeId ∧
      (∀ c ∈ s.conns, c.nodeId = nodeId → c.writer.isEnded = true) ∧
      ∀ d ∈ s.disconnects, d.1 ≠ nodeId
  | .disconnect nodeId => s.Settled nodeId
  | .conn i .writeFails => ∀ c ∈ s.conns[i]?, c.cancelled = false
  | .conn i .writerCancelled => ∀ c ∈ s.conns[i]?, ∀ d ∈ s.disconnects, d.1 ≠ c.nodeId
  | _ => True

instance (s : Router C R) (nodeId : NodeId) : Decidable (s.Settled nodeId) :=
  inferInstanceAs (Decidable (_ ∧ _))

instance (s : Router C R) : ∀ e, Decidable (s.InTurn e) := fun e => by
  unfold InTurn
  split <;> infer_instance

def names (s : Router C R) : List NodeId := s.attempts.map Attempt.nodeId

lemma names_dropAttempt (s : Router C R) (a : Nat) :
    (s.dropAttempt a).names = s.names.eraseIdx a := (eraseIdx_map ..).symm

lemma names_setAttempt {s : Router C R} {a : Nat} {t : Attempt} (ht : s.attempts[a]? = some t)
    (state : AttemptState) : (s.setAttempt a { t with state }).names = s.names := by
  have hname : s.names[a]? = some t.nodeId := by
    rw [names, List.getElem?_map, ht, Option.map_some]
  rw [names, setAttempt, map_set]
  exact List.set_of_getElem? hname

end Router

section

variable {s s' : Router C R}

/-- At most one thing at a time is at work for a node: an attempt, or a connection whose writer has
not ended; and after a disconnect only one that was cancelled. -/
structure Lone (s : Router C R) : Prop where
  names : s.names.Nodup
  attempt : ∀ nodeId ∈ s.names, ∀ c ∈ s.conns, c.nodeId = nodeId → c.writer.isEnded = true
  only : ∀ (i j : Nat) (c d : Connection C R), s.conns[i]? = some c → s.conns[j]? = some d →
    c.nodeId = d.nodeId → c.writer.isEnded = false → d.writer.isEnded = false → i = j
  disconnected : ∀ nodeId ∈ s.disconnected,
    nodeId ∉ s.names ∧ ∀ c ∈ s.conns, c.nodeId = nodeId → ¬ c.Busy
  pending : ∀ d ∈ s.disconnects, d.1 ∈ s.disconnected

/-- What the two maps of the router say of the connections. -/
structure Mapped (s : Router C R) : Prop where
  unspawned : ∀ c ∈ s.conns, c.wiring ≠ .spawned → c.writer = .waiting ∧ c.cancelled = false
  lost : ∀ c ∈ s.conns, c.writer.isLost = true → c.cancelled = false
  alive : ∀ (i : Nat) (c : Connection C R), s.conns[i]? = some c → c.wiring ≠ .created → c.Busy →
    s.inner.lookup c.nodeId = some i
  registered : ∀ nodeId i, s.inner.lookup nodeId = some i → ∃ c, s.conns[i]? = some c ∧
    c.nodeId = nodeId ∧ c.Alive ∧ (c.cancelled = true → (nodeId, some i) ∈ s.disconnects)
  connections : ∀ nodeId i, s.connections.lookup nodeId = some i →
    ∃ c, s.conns[i]? = some c ∧ c.nodeId = nodeId ∧ c.wiring = .spawned
  token : ∀ (i : Nat) (c : Connection C R), s.conns[i]? = some c → c.wiring = .spawned → c.Busy →
    s.connections.lookup c.nodeId = some i

lemma Lone.disconnectFinal (hs : Lone s) (hm : Mapped s) : s.DisconnectFinal := by
  intro nodeId hnode hnone
  by_contra hsome
  obtain ⟨i, hi⟩ := Option.ne_none_iff_exists'.mp hsome
  obtain ⟨c, hc, hname, halive, hcancelled⟩ := hm.registered nodeId i hi
  have hidle := (hs.disconnected nodeId hnode).2 c (mem_of_getElem? hc) hname
  cases h : c.cancelled with
  | true => exact hnone _ (hcancelled h) rfl
  | false => exact hidle ⟨halive.2, h⟩

lemma Mapped.newestWins (hm : Mapped s) (hs : Lone s) : s.NewestWins where
  alive i c hc halive hcancelled := hm.alive i c hc halive.1 ⟨halive.2, hcancelled⟩
  registered nodeId i hi := by
    obtain ⟨c, hc, hname, halive, -⟩ := hm.registered nodeId i hi
    refine ⟨c, hc, hname, halive, fun j d hd hnode hother => ?_⟩
    exact hs.only j i d c hd hc (hnode.trans hname.symm) hother.2 halive.2

end

section

attribute [local grind] Connection.Busy Connection.Alive Connection.create WriterState.isEnded
  WriterState.isLost Router.setConn Router.dropAttempt Router.setAttempt

variable {s s' : Router C R} {i : Nat} {c c' : Connection C R}

lemma Lone.fewer (hs : Lone s) (hconns : ∀ (j : Nat) (d : Connection C R), s'.conns[j]? = some d →
        ∃ d₀, s.conns[j]? = some d₀ ∧ d₀.nodeId = d.nodeId ∧ (d.Busy → d₀.Busy) ∧
          (d.writer.isEnded = false → d₀.writer.isEnded = false))
    (hnames : s'.names.Sublist s.names) (hdisconnected : s'.disconnected = s.disconnected)
    (hdisconnects : s'.disconnects ⊆ s.disconnects) : Lone s' where
  names := hs.names.sublist hnames
  attempt nodeId hnode c hc hname := by
    obtain ⟨j, hj⟩ := mem_iff_getElem?.mp hc
    obtain ⟨c₀, hc₀, hname₀, -, hended⟩ := hconns j c hj
    have hbefore := hs.attempt nodeId (hnames.subset hnode) c₀ (mem_of_getElem? hc₀)
      (hname₀.trans hname)
    by_contra hopen
    rw [Bool.not_eq_true] at hopen
    cases hbefore.symm.trans (hended hopen)
  only i j c d hc hd hname hcopen hdopen := by
    obtain ⟨c₀, hc₀, hcname, -, hcended⟩ := hconns i c hc
    obtain ⟨d₀, hd₀, hdname, -, hdended⟩ := hconns j d hd
    exact hs.only i j c₀ d₀ hc₀ hd₀ (hcname.trans (hname.trans hdname.symm)) (hcended hcopen)
      (hdended hdopen)
  disconnected nodeId hnode := by
    obtain ⟨hnone, hidle⟩ := hs.disconnected nodeId (hdisconnected ▸ hnode)
    refine ⟨fun hin => hnone (hnames.subset hin), fun c hc hname hbusy => ?_⟩
    obtain ⟨j, hj⟩ := mem_iff_getElem?.mp hc
    obtain ⟨c₀, hc₀, hname₀, hbefore, -⟩ := hconns j c hj
    exact hidle c₀ (mem_of_getElem? hc₀) (hname₀.trans hname) (hbefore hbusy)
  pending d hd := hdisconnected ▸ hs.pending d (hdisconnects hd)

lemma lone_call (hs : Lone s) {nodeId : NodeId} (hP : s.InTurn (.call nodeId)) : Lone { s with
      attempts := s.attempts ++ [⟨nodeId, s.calls, .calling⟩]
      calls := s.calls + 1
      disconnected := s.disconnected.erase nodeId } where
  names := by grind [Router.names, hs.names, hP.1.1]
  attempt := by grind [Router.names, hs.attempt, hP.2.1]
  only := hs.only
  disconnected n hn := by
    obtain ⟨hnone, hidle⟩ := hs.disconnected n (Finset.mem_of_mem_erase hn)
    exact ⟨by grind [Router.names, Finset.ne_of_mem_erase hn], hidle⟩
  pending d hd := Finset.mem_erase.mpr ⟨hP.2.2 d hd, hs.pending d hd⟩

lemma lone_authenticated (hs : Lone s) {a : Nat} {t : Attempt} (ht : s.attempts[a]? = some t) :
    Lone { s.dropAttempt a with conns := s.conns ++ [.create t.nodeId t.outer] } := by
  have hname : s.names[a]? = some t.nodeId := by
    rw [Router.names, List.getElem?_map, ht, Option.map_some]
  have hmem : t.nodeId ∈ s.names := mem_of_getElem? hname
  -- the node of the new connection is not one that is being connected any more
  have hgone : t.nodeId ∉ s.names.eraseIdx a := List.notMem_eraseIdx hs.names hname
  have hsub : s.names.eraseIdx a ⊆ s.names := (eraseIdx_sublist ..).subset
  have hnames : ({ s.dropAttempt a with conns := s.conns ++ [.create t.nodeId t.outer] } :
      Router C R).names = s.names.eraseIdx a := Router.names_dropAttempt s a
  refine ⟨hnames ▸ hs.names.sublist (eraseIdx_sublist s.names a), ?_, fun i j c d hc hd => ?_, ?_,
    hs.pending⟩
  · grind [hs.attempt]
  · have hc := List.of_getElem?_concat hc
    have hd := List.of_getElem?_concat hd
    grind [hs.only, hs.attempt]
  · grind [hs.disconnected]

lemma lone_lose (hs : Lone s) (hc : s.conns[i]? = some c) (hbusy : c.Busy) :
    Lone { s.setConn i { c with writer := .ended } with
      inner := s.inner.erase c.nodeId
      attempts := s.attempts ++ [⟨c.nodeId, c.outer, .sleeping⟩] } where
  names := by grind [Router.names, hs.names, hs.attempt]
  attempt := by grind [Router.names, mem_iff_getElem?, hs.attempt, hs.only]
  only := by grind [hs.only]
  disconnected nodeId hnode := by
    obtain ⟨hnone, hidle⟩ := hs.disconnected nodeId hnode
    have hother : c.nodeId ≠ nodeId := fun h => hidle c (mem_of_getElem? hc) h hbusy
    refine ⟨?_, List.forall_mem_set hidle fun _ h => nomatch h.1⟩
    grind [Router.names]
  pending := hs.pending

lemma Lone.disconnect (hs : Lone s) {nodeId : NodeId} (hname : nodeId ∉ s.names)
    (hidle : ∀ c ∈ s.conns, c.nodeId = nodeId → ¬ c.Busy)
    (connections : Finmap fun _ : NodeId => Nat) (token : Option Nat) :
    Lone { s with
      connections
      disconnects := s.disconnects ++ [(nodeId, token)]
      disconnected := insert nodeId s.disconnected } where
  names := hs.names
  attempt := hs.attempt
  only := hs.only
  disconnected n hn := by
    rcases Finset.mem_insert.mp hn with rfl | hn
    · exact ⟨hname, hidle⟩
    · exact hs.disconnected n hn
  pending d hd := by
    rcases mem_append.mp hd with hd | hd
    · exact Finset.mem_insert_of_mem (hs.pending d hd)
    · rw [mem_singleton.mp hd]
      exact Finset.mem_insert_self ..

lemma lone_disconnect (hs : Lone s) (hm : Mapped s) {nodeId : NodeId}
    (hP : s.InTurn (.disconnect nodeId)) (hi : s.connections.lookup nodeId = some i)
    (hc : s.conns[i]? = some c) :
    Lone { s.setConn i { c with cancelled := true } with
      connections := s.connections.erase nodeId
      disconnects := s.disconnects ++ [(nodeId, some i)]
      disconnected := insert nodeId s.disconnected } := by
  have hcancelled : Lone (s.setConn i { c with cancelled := true }) := by
    apply hs.fewer <;> grind [Router.names]
  have hname : nodeId ∉ s.names := by grind [Router.names, hP.1]
  refine hcancelled.disconnect hname (fun d hd hnode hbusy => ?_) _ _
  -- the busy connection of the node is the one whose token is in the map
  obtain ⟨j, hj⟩ := mem_iff_getElem?.mp hd
  rcases List.of_getElem?_set hj with ⟨-, rfl⟩ | ⟨hij, hj⟩
  · cases hbusy.2
  · have htoken := hm.token j d hj (hP.2 d (mem_of_getElem? hj) hnode).1 hbusy
    rw [hnode, hi] at htoken
    exact hij (Option.some.inj htoken).symm

lemma lone_disconnectNone (hs : Lone s) (hm : Mapped s) {nodeId : NodeId}
    (hP : s.InTurn (.disconnect nodeId)) (hi : s.connections.lookup nodeId = none) :
    Lone { s with
      disconnects := s.disconnects ++ [(nodeId, none)]
      disconnected := insert nodeId s.disconnected } := by
  refine hs.disconnect (by grind [Router.names, hP.1]) (fun d hd hnode hbusy => ?_) s.connections _
  obtain ⟨j, hj⟩ := mem_iff_getElem?.mp hd
  have htoken := hm.token j d hj (hP.2 d hd hnode).1 hbusy
  rw [hnode, hi] at htoken
  cases htoken

end

section

attribute [local grind] Connection.Busy Connection.Alive Connection.create WriterState.isEnded
  WriterState.isLost Router.setConn Router.dropAttempt Router.setAttempt

variable {s s' : Router C R} {i : Nat} {c c' : Connection C R}

lemma mapped_authenticated (hs : Mapped s) (a : Nat) (t : Attempt) :
    Mapped { s.dropAttempt a with conns := s.conns ++ [.create t.nodeId t.outer] } where
  unspawned := by grind [hs.unspawned]
  lost := by grind [hs.lost]
  alive := by grind [hs.alive]
  registered := by grind [hs.registered]
  connections := by grind [hs.connections]
  token := by grind [hs.token]

/-- A step of the connection `i` that keeps it wired and at work as it was, and that does not end
the writer of a registered sender. -/
lemma Mapped.update (hs : Mapped s) (hc : s.conns[i]? = some c)
    (hnode : c'.nodeId = c.nodeId) (hwiring : c'.wiring = c.wiring)
    (hcancelled : c'.cancelled = c.cancelled) (hbusy : c'.Busy ↔ c.Busy)
    (hopen : s.inner.lookup c.nodeId = some i → c'.writer.isEnded = false)
    (hunspawned : c'.wiring ≠ .spawned → c'.writer = .waiting ∧ c'.cancelled = false)
    (hlost : c'.writer.isLost = true → c'.cancelled = false) : Mapped (s.setConn i c') where
  unspawned := List.forall_mem_set hs.unspawned hunspawned
  lost := List.forall_mem_set hs.lost hlost
  alive := by grind [hs.alive]
  registered := by grind [hs.registered]
  connections := by grind [hs.connections]
  token := by grind [hs.token]

lemma mapped_insertSender (hs : Mapped s) (hl : Lone s) (hc : s.conns[i]? = some c)
    (hwiring : c.wiring = .created) :
    Mapped { s.setConn i { c with wiring := .registered } with
      inner := s.inner.insert c.nodeId i } where
  unspawned := by grind [hs.unspawned]
  lost := by grind [hs.lost]
  alive := by grind [hs.alive, hs.unspawned, hl.only]
  registered := by grind [hs.registered, hs.unspawned]
  connections := by grind [hs.connections]
  token := by grind [hs.token]

lemma mapped_insertToken (hs : Mapped s) (hl : Lone s) (hc : s.conns[i]? = some c)
    (hwiring : c.wiring = .registered) :
    Mapped { s.setConn i { c with wiring := .spawned } with
      connections := s.connections.insert c.nodeId i } where
  unspawned := by grind [hs.unspawned]
  lost := by grind [hs.lost]
  alive := by grind [hs.alive]
  registered := by grind [hs.registered]
  connections := by grind [hs.connections]
  token := by grind [hs.token, hs.unspawned, hl.only]

lemma mapped_lose (hs : Mapped s) (hl : Lone s) (hc : s.conns[i]? = some c)
    (hspawned : c.wiring = .spawned) (hbusy : c.Busy) (attempts : List Attempt) :
    Mapped { s.setConn i { c with writer := .ended } with
      inner := s.inner.erase c.nodeId, attempts } where
  unspawned := by grind [hs.unspawned]
  lost := by grind [hs.lost]
  alive := by grind [hs.alive, hl.only]
  registered := by grind [hs.registered]
  connections := by grind [hs.connections]
  token := by grind [hs.token]

lemma mapped_disconnect (hs : Mapped s) {nodeId : NodeId}
    (hi : s.connections.lookup nodeId = some i) (hc : s.conns[i]? = some c)
    (hlost : c.writer.isLost = false) (disconnected : Finset NodeId) :
    Mapped { s.setConn i { c with cancelled := true } with
      connections := s.connections.erase nodeId
      disconnects := s.disconnects ++ [(nodeId, some i)]
      disconnected } where
  unspawned := by grind [hs.unspawned, hs.connections]
  lost := by grind [hs.lost]
  alive := by grind [hs.alive]
  registered := by grind [hs.registered, hs.connections]
  connections := by grind [hs.connections]
  token := by grind [hs.token]

lemma mapped_deregister (hs : Mapped s) (hl : Lone s) {d : Nat} {t : NodeId × Option Nat}
    (ht : s.disconnects[d]? = some t) :
    Mapped { s with inner := s.inner.erase t.1, disconnects := s.disconnects.eraseIdx d } := by
  -- a node that is being disconnected has no busy connection
  have hidle := (hl.disconnected t.1 (hl.pending t (mem_of_getElem? ht))).2
  have hkept : ∀ p ∈ s.disconnects, p.1 ≠ t.1 → p ∈ s.disconnects.eraseIdx d := by
    intro p hp hne
    obtain ⟨k, hk⟩ := mem_iff_getElem?.mp hp
    refine mem_eraseIdx_iff_getElem?.mpr ⟨k, ?_, hk⟩
    rintro rfl
    cases hk.symm.trans ht
    exact hne rfl
  refine ⟨hs.unspawned, hs.lost, ?_, ?_, hs.connections, hs.token⟩
  · grind [hs.alive]
  · grind [hs.registered]

end

section

variable {s s' : Router C R}

lemma Connection.Stepped.busy_iff {c c' : Connection C R} {e : ConnEvent R}
    (h : c.Stepped e c') : c'.Busy ↔ c.Busy := by
  have hcancelled := h.cancelled
  have hended := h.writerEnded
  have hstays := h.writerStays
  grind [Connection.Busy]

lemma lone_step (hl : Lone s) (hm : Mapped s) {e : RouterEvent C R} (hP : s.InTurn e)
    (hstep : s.Does e s') : Lone s' := by
  cases hstep with
  | call => exact lone_call hl hP
  | authenticated ht => exact lone_authenticated hl ht
  | @lose i c hc hwriter =>
    have hmem := mem_of_getElem? hc
    have hlost : c.cancelled = false := hm.lost c hmem (by simp [hwriter, WriterState.isLost])
    exact lone_lose hl hc ⟨by simp [hwriter, WriterState.isEnded], hlost⟩
  | disconnect hi hc => exact lone_disconnect hl hm hP hi hc
  | disconnectNone hi => exact lone_disconnectNone hl hm hP hi
  | conn hc hstep =>
    have hstepped := Connection.stepped_of_step hstep
    have hnode := hstepped.nodeId
    have hbusy := hstepped.busy_iff
    have hstays := hstepped.writerStays
    apply hl.fewer <;> grind [Router.setConn, Router.names]
  | loopFails ht _ | slept ht _ =>
    refine hl.fewer (fun j d hd => ⟨d, hd, rfl, id, id⟩) ?_ rfl (List.Subset.refl _)
    rw [Router.names_setAttempt ht]
  | _ =>
    apply hl.fewer <;> grind [Router.setConn, Router.dropAttempt, Router.setAttempt,
      Router.names, Connection.Busy, WriterState.isEnded]

lemma mapped_step (hl : Lone s) (hm : Mapped s) {e : RouterEvent C R} (hP : s.InTurn e)
    (hstep : s.Does e s') : Mapped s' := by
  cases hstep with
  | authenticated => exact mapped_authenticated hm _ _
  | insertSender hc hwiring => exact mapped_insertSender hm hl hc hwiring
  | insertToken hc hwiring => exact mapped_insertToken hm hl hc hwiring
  | @send nodeId x i c hi hc hopen =>
    have hmem := mem_of_getElem? hc
    refine hm.update hc rfl rfl rfl Iff.rfl (fun hin => ?_) (hm.unspawned c hmem) (hm.lost c hmem)
    obtain ⟨_, hc', -, halive, -⟩ := hm.registered _ i hin
    cases hc.symm.trans hc'
    exact halive.2
  | @conn i c c' e hc hstep =>
    have hstepped := Connection.stepped_of_step hstep
    refine hm.update hc hstepped.nodeId hstepped.wiring hstepped.cancelled hstepped.busy_iff
      (fun hin => ?_) (fun h => absurd (hstepped.wiring.trans hstepped.spawned) h) fun hlost => ?_
    · obtain ⟨_, hc', -, halive, hpending⟩ := hm.registered _ i hin
      cases hc.symm.trans hc'
      by_contra hended
      rw [Bool.not_eq_false] at hended
      rcases hstepped.writerEnded hended with hbefore | ⟨hcancelled, rfl⟩
      · cases hbefore.symm.trans halive.2
      · exact hP c hc _ (hpending hcancelled) rfl
    · rw [hstepped.cancelled]
      rcases hstepped.writerLost hlost with hbefore | rfl
      · exact hm.lost c (mem_of_getElem? hc) hbefore
      · exact hP c hc
  | @closed i c hc hwiring hwriter hqueue hinner =>
    -- a busy connection would be registered
    have hidle : ¬ c.Busy := fun hbusy => hinner (hm.alive i c hc (by simp [hwiring]) hbusy)
    have hidle' : ¬ ({ c with writer := .ended } : Connection C R).Busy := fun h => by cases h.1
    exact hm.update hc rfl rfl rfl (iff_of_false hidle' hidle) (fun hin => absurd hin hinner)
      (fun h => absurd hwiring h) nofun
  | @lose i c hc hwriter =>
    have hmem := mem_of_getElem? hc
    have hspawned : c.wiring = .spawned := by
      by_contra hne
      cases hwriter.symm.trans (hm.unspawned c hmem hne).1
    have hlost : c.cancelled = false := hm.lost c hmem (by simp [hwriter, WriterState.isLost])
    exact mapped_lose hm hl hc hspawned ⟨by simp [hwriter, WriterState.isEnded], hlost⟩ _
  | @disconnect nodeId i c hi hc =>
    have hname : c.nodeId = nodeId := by grind [hm.connections nodeId i hi]
    exact mapped_disconnect hm hi hc (hP.2 c (mem_of_getElem? hc) hname).2 _
  | deregister ht => exact mapped_deregister hm hl ht
  | disconnectNone =>
    refine ⟨hm.unspawned, hm.lost, hm.alive, fun n j hn => ?_, hm.connections, hm.token⟩
    obtain ⟨c, hc, hname, halive, hpending⟩ := hm.registered n j hn
    exact ⟨c, hc, hname, halive, fun h => mem_append_left _ (hpending h)⟩
  | _ => exact ⟨hm.unspawned, hm.lost, hm.alive, hm.registered, hm.connections, hm.token⟩

lemma lone_init : Lone (Router.init : Router C R) := by
  constructor <;> simp [Router.init, Router.names]

lemma mapped_init : Mapped (Router.init : Router C R) := by
  constructor <;> simp [Router.init]

/-- In every run in which the calls and failures for a node come in turn, a node that has been
disconnected is not registered again, and the registered senders are those of the connections
that are alive. -/
theorem disconnect_final_newest_wins {es : List (RouterEvent C R)}
    (hturn : Guarded Router.step Router.InTurn .init es)
    (hrun : run Router.step .init es = some s) : s.DisconnectFinal ∧ s.NewestWins := by
  have hinv := run_invariant (I := fun s => Lone s ∧ Mapped s) ?_
    ⟨lone_init, mapped_init⟩ hturn hrun
  · exact ⟨hinv.1.disconnectFinal hinv.2, hinv.2.newestWins hinv.1⟩
  · rintro s e s' ⟨hl, hm⟩ hP hstep
    have hdoes := Router.does_of_step hstep
    exact ⟨lone_step hl hm hP hdoes, mapped_step hl hm hP hdoes⟩

end

namespace Router

def demoName : NodeId := ⟨"n"⟩

def demoWire (i : Nat) : List (RouterEvent Nat Nat) :=
  [.authenticated 0, .insertSender i, .insertToken i]

def demoWriting (i : Nat) : List (RouterEvent Nat Nat) := [.send demoName 7, .conn i .take]

def demoDisconnect : List (RouterEvent Nat Nat) := [.disconnect demoName, .deregister 0]

def demoInTurn : List (RouterEvent Nat Nat) :=
  .call demoName :: demoWire 0 ++ demoWriting 0 ++ [.conn 0 .writeFails, .lose 0, .slept 0] ++
    demoWire 1 ++ demoDisconnect ++ [.conn 1 .writerCancelled, .call demoName] ++ demoWire 2

theorem disconnect_final_newest_wins_inTurn :
    ∃ s : Router Nat Nat, run Router.step .init demoInTurn = some s ∧
      s.inner.lookup demoName = some 2 ∧ s.DisconnectFinal ∧ s.NewestWins := by
  exact exists_end_and (by decide +kernel) fun s hs _ =>
    disconnect_final_newest_wins (by decide +kernel) hs

def demoRevived : List (RouterEvent Nat Nat) :=
  .call demoName :: demoWire 0 ++ demoWriting 0 ++ [.conn 0 .writeFails, .lose 0] ++
    demoDisconnect ++ [.slept 0] ++ demoWire 1

def demoDisplaced : List (RouterEvent Nat Nat) :=
  .call demoName :: demoWire 0 ++ demoWriting 0 ++ demoDisconnect ++ [.call demoName] ++
    demoWire 1 ++ [.conn 0 .writeFails, .lose 0]

def demoLeft (s : Router Nat Nat) : Bool × Option Nat :=
  (decide (demoName ∈ s.disconnected ∧ s.attempts = [] ∧ s.disconnects = []),
    s.inner.lookup demoName)

/-- A loop that has outlived the disconnect registers the node again, for good; and a writer that
has outlived it deregisters the connection that came after. -/
theorem disconnect_undone : (∃ s : Router Nat Nat, run Router.step .init demoRevived = some s ∧
      demoName ∈ s.disconnected ∧ s.inner.lookup demoName = some 1 ∧ s.attempts = [] ∧
      s.disconnects = [] ∧ ¬ s.DisconnectFinal) ∧
    ∃ s : Router Nat Nat, run Router.step .init demoDisplaced = some s ∧
      s.inner.lookup demoName = none ∧ ¬ s.NewestWins := by
  constructor
  · refine exists_end (p := fun s => demoLeft s = (true, some 1))
      (by decide +kernel) fun s _ heq => ?_
    simp only [demoLeft, Prod.mk.injEq, decide_eq_true_eq] at heq
    obtain ⟨⟨hlast, hattempts, hdone⟩, hinner⟩ := heq
    refine ⟨hlast, hinner, hattempts, hdone, fun hfinal => ?_⟩
    have hnone := hfinal demoName hlast (by simp [hdone])
    cases hinner.symm.trans hnone
  · refine exists_end (p := fun s => s.inner.lookup demoName = none ∧
      s.conns[1]? = some ⟨demoName, 1, .spawned, false, [], .waiting, .waiting⟩)
      (by decide +kernel) fun s _ ⟨hinner, hconn⟩ => ⟨hinner, fun hnewest => ?_⟩
    have hsome := hnewest.alive 1 _ hconn ⟨by simp, rfl⟩ rfl
    cases hinner.symm.trans hsome

end Router

end Mill
