import Mill.Node.Router

/-! Connections of which one half is dead. -/

namespace Mill

open Transition

variable {C R : Type}

namespace Router

def Reconnecting (s : Router C R) (nodeId : NodeId) : Prop :=
  (∃ t ∈ s.attempts, t.nodeId = nodeId ∧ t.state.isLoop = true) ∨
    ∃ c ∈ s.conns, c.nodeId = nodeId ∧ c.writer.isLost = true

/-- Of every registered connection whose tokens have not fired the reader is running, or a
reconnect is under way. A reader that is about to be spawned counts as running. -/
def Repaired (s : Router C R) : Prop :=
  ∀ nodeId i (c : Connection C R), s.inner.lookup nodeId = some i → s.conns[i]? = some c →
    c.cancelled = false → c.outer ∉ s.fired → c.reader.isEnded = false ∨ s.Reconnecting nodeId

def ReaderLast (s : Router C R) : RouterEvent C R → Prop
  | .conn i .readerEnds => ∀ c ∈ s.conns[i]?, c.writer.isOpen = false
  | _ => True

instance (s : Router C R) : ∀ e, Decidable (s.ReaderLast e)
  | .conn _ .readerEnds => inferInstanceAs (Decidable (∀ _ ∈ _, _))
  | .conn _ .take | .conn _ .written | .conn _ .writeFails | .conn _ .writerCancelled
  | .conn _ (.read _) | .conn _ .given | .conn _ .readerCancelled | .call _ | .attemptFails _
  | .slept _ | .attemptCancelled _ | .authenticated _ | .insertSender _ | .insertToken _ | .fire _
  | .send _ _ | .closed _ | .lose _ | .disconnect _ | .deregister _ => .isTrue trivial

end Router

section

variable {s s' : Router C R}

structure Connection.Watched (c : Connection C R) : Prop where
  unspawned : c.wiring ≠ .spawned → c.writer = .waiting ∧ c.reader = .waiting
  reader : c.reader.isEnded = true → c.cancelled = true ∨ c.writer.isOpen = false

structure Router.Watched (s : Router C R) : Prop where
  conns : ∀ (i : Nat) (c : Connection C R), s.conns[i]? = some c → c.Watched
  inner : ∀ nodeId i, s.inner.lookup nodeId = some i → ∃ c, s.conns[i]? = some c ∧
    c.nodeId = nodeId ∧ (c.writer.isEnded = true → c.cancelled = true)

lemma Router.Watched.repaired (hs : s.Watched) : s.Repaired := by
  intro nodeId i c hi hc hcancelled _
  cases hreader : c.reader.isEnded with
  | false => exact .inl rfl
  | true =>
    refine .inr (.inr ⟨c, List.mem_of_getElem? hc, ?_⟩)
    obtain ⟨c', hc', hnode, hended⟩ := hs.inner nodeId i hi
    cases hc.symm.trans hc'
    refine ⟨hnode, ?_⟩
    -- the writer is not at its queue, and it has not ended
    have hopen : c.writer.isOpen = false := by
      rcases (hs.conns i c hc).reader hreader with htoken | hopen
      · cases hcancelled.symm.trans htoken
      · exact hopen
    cases hwriter : c.writer with
    | lost => rfl
    | ended =>
      rw [hwriter] at hended
      cases hcancelled.symm.trans (hended rfl)
    | waiting | writing x =>
      rw [hwriter] at hopen
      cases hopen

lemma Router.Watched.set (hs : s.Watched) {i : Nat} {c c' : Connection C R}
    (hc : s.conns[i]? = some c) (hconns : s'.conns = s.conns.set i c') (hc' : c'.Watched)
    (hothers : ∀ nodeId j, j ≠ i → s'.inner.lookup nodeId = some j → s.inner.lookup nodeId = some j)
    (hself : ∀ nodeId, s'.inner.lookup nodeId = some i →
      c'.nodeId = nodeId ∧ (c'.writer.isEnded = true → c'.cancelled = true)) : s'.Watched where
  conns := by
    intro j d hd
    rw [hconns] at hd
    rcases List.of_getElem?_set hd with ⟨_, rfl⟩ | ⟨_, hold⟩
    · exact hc'
    · exact hs.conns j d hold
  inner := by
    intro nodeId j hj
    rw [hconns]
    by_cases hji : j = i
    · subst hji
      exact ⟨c', List.getElem?_set_of_some hc, hself nodeId hj⟩
    · obtain ⟨d, hd, hrest⟩ := hs.inner nodeId j (hothers nodeId j hji hj)
      exact ⟨d, by rw [List.getElem?_set_ne (Ne.symm hji), hd], hrest⟩

lemma Router.Watched.frame (hs : s.Watched) (hconns : s'.conns = s.conns)
    (hinner : ∀ nodeId j, s'.inner.lookup nodeId = some j → s.inner.lookup nodeId = some j) :
    s'.Watched := by
  refine ⟨fun i c hc => ?_, fun nodeId i hi => ?_⟩
  · rw [hconns] at hc
    exact hs.conns i c hc
  · rw [hconns]
    exact hs.inner nodeId i (hinner nodeId i hi)

lemma Connection.Watched.stepped {c c' : Connection C R} {e : ConnEvent R} (hc : c.Watched)
    (hstep : c.Stepped e c') (hlast : e = .readerEnds → c.writer.isOpen = false) :
    c'.Watched where
  unspawned h := absurd (hstep.wiring.trans hstep.spawned) h
  reader := by
    intro hended
    have hopen (h : c.writer.isOpen = false) : c'.writer.isOpen = false := by
      cases hopen' : c'.writer.isOpen with
      | false => rfl
      | true => cases h.symm.trans (hstep.writerOpen hopen')
    rw [hstep.cancelled]
    rcases hstep.readerEnded hended with hbefore | htoken | hends
    · exact (hc.reader hbefore).imp_right hopen
    · exact .inl htoken
    · exact .inr (hopen (hlast hends))

lemma Router.Watched.update (hs : s.Watched) {i : Nat} {c c' : Connection C R}
    (hc : s.conns[i]? = some c) (hconns : s'.conns = s.conns.set i c')
    (hinner : s'.inner = s.inner) (hc' : c'.Watched) (hnode : c'.nodeId = c.nodeId)
    (hended : (c.writer.isEnded = true → c.cancelled = true) →
      c'.writer.isEnded = true → c'.cancelled = true) : s'.Watched := by
  refine hs.set hc hconns hc' (fun nodeId j _ hj => hinner ▸ hj) fun nodeId hi => ?_
  rw [hinner] at hi
  obtain ⟨d, hd, hdnode, hdended⟩ := hs.inner nodeId i hi
  cases hc.symm.trans hd
  exact ⟨hnode.trans hdnode, hended hdended⟩

lemma watched_step (hs : s.Watched) {e : RouterEvent C R} (hP : s.ReaderLast e)
    (hstep : s.Does e s') : s'.Watched := by
  cases hstep with
  | call nodeId | callFails ht | loopFails ht hstate | slept ht hstate
  | attemptCancelled ht hfired | fire outer | disconnectNone hi => exact hs.frame rfl fun _ _ h => h
  | deregister => exact hs.frame rfl fun _ _ h => (Finmap.lookup_erase_eq_some.mp h).2
  | authenticated ht =>
    rename_i a t
    refine ⟨fun i c hc => ?_, fun nodeId i hi => ?_⟩
    · rcases List.of_getElem?_concat hc with hold | ⟨_, rfl⟩
      · exact hs.conns i c hold
      · exact ⟨fun _ => ⟨rfl, rfl⟩, nofun⟩
    · obtain ⟨c, hc, hrest⟩ := hs.inner nodeId i hi
      exact ⟨c, List.getElem?_append_of_some hc, hrest⟩
  | insertSender hc hwiring =>
    rename_i i c
    obtain ⟨hwriter, hreader⟩ := (hs.conns i c hc).unspawned (by simp [hwiring])
    refine hs.set hc rfl ⟨fun _ => ⟨hwriter, hreader⟩, by simp [hreader, ReaderState.isEnded]⟩
      (fun nodeId j hj hlookup => ?_) fun nodeId hlookup => ?_
    · rcases Finmap.lookup_insert_eq_some.mp hlookup with ⟨_, hi⟩ | ⟨_, hold⟩
      · exact absurd hi.symm hj
      · exact hold
    · refine ⟨?_, by simp [hwriter, WriterState.isEnded]⟩
      rcases Finmap.lookup_insert_eq_some.mp hlookup with ⟨hk, _⟩ | ⟨_, hold⟩
      · exact hk.symm
      · obtain ⟨d, hd, hnode, _⟩ := hs.inner nodeId i hold
        cases hc.symm.trans hd
        exact hnode
  | insertToken hc hwiring =>
    rename_i i c
    obtain ⟨hwriter, hreader⟩ := (hs.conns i c hc).unspawned (by simp [hwiring])
    refine hs.update hc rfl rfl ⟨fun h => absurd rfl h, ?_⟩ rfl id
    simp [hreader, ReaderState.isEnded]
  | send hi hc hopen =>
    rename_i nodeId x i c
    exact hs.update hc rfl rfl ⟨(hs.conns i c hc).unspawned, (hs.conns i c hc).reader⟩ rfl id
  | conn hc hstep =>
    rename_i i c c' e
    have hstepped := Connection.stepped_of_step hstep
    have hlast (he : e = .readerEnds) : c.writer.isOpen = false := by
      subst he
      exact hP c hc
    refine hs.update hc rfl rfl ((hs.conns i c hc).stepped hstepped hlast) hstepped.nodeId ?_
    intro hbefore hended
    rw [hstepped.cancelled]
    exact (hstepped.writerEnded hended).elim hbefore And.left
  | closed hc hwiring hwriter hqueue hinner =>
    rename_i i c
    refine hs.set hc rfl ⟨fun h => absurd hwiring h, fun _ => .inr rfl⟩
      (fun nodeId j _ hj => hj) fun nodeId hi => ?_
    -- the sender of this connection is not registered
    obtain ⟨d, hd, hnode, _⟩ := hs.inner nodeId i hi
    cases hc.symm.trans hd
    exact absurd (hnode ▸ hi) hinner
  | lose hc hwriter =>
    rename_i i c
    have hspawned : c.wiring = .spawned := by
      by_contra hne
      rw [((hs.conns i c hc).unspawned hne).1] at hwriter
      cases hwriter
    refine hs.set hc rfl ⟨fun h => absurd hspawned h, fun _ => .inr rfl⟩
      (fun nodeId j _ hj => (Finmap.lookup_erase_eq_some.mp hj).2) fun nodeId hi => ?_
    -- whatever sender the node had is gone
    obtain ⟨hne, hold⟩ := Finmap.lookup_erase_eq_some.mp hi
    obtain ⟨d, hd, hnode, _⟩ := hs.inner nodeId i hold
    cases hc.symm.trans hd
    exact absurd hnode.symm hne
  | disconnect hi hc =>
    rename_i nodeId i c
    exact hs.update hc rfl rfl ⟨(hs.conns i c hc).unspawned, fun _ => .inl rfl⟩ rfl fun _ _ => rfl

lemma watched_init : (Router.init : Router C R).Watched :=
  ⟨fun i c hc => (by cases hc), fun nodeId i hi => (by cases hi)⟩

/-- In every run in which no reader comes to an end before a write of its connection has failed,
every registered connection whose tokens have not fired is read or being replaced. -/
theorem half_dead_connections_repaired {es : List (RouterEvent C R)}
    (hlast : Guarded Router.step Router.ReaderLast .init es)
    (hrun : run Router.step .init es = some s) : s.Repaired := by
  have hinv := run_invariant (I := Router.Watched)
    (fun s e s' hs hP hstep => watched_step hs hP (Router.does_of_step hstep)) watched_init hlast
    hrun
  exact hinv.repaired

end

namespace Router

def demoConnect : List (RouterEvent Nat Nat) :=
  [.call demoNode, .authenticated 0, .insertSender 0, .insertToken 0]

theorem half_dead_connections_repaired_lost : ∃ s : Router Nat Nat, run Router.step .init
        (demoConnect ++ [.send demoNode 7, .conn 0 .take, .conn 0 .writeFails,
          .conn 0 .readerEnds]) = some s ∧
      s.inner.lookup demoNode = some 0 ∧ s.Repaired := by
  exact exists_end_and (by decide +kernel) fun s hs _ =>
    half_dead_connections_repaired (by decide +kernel) hs

/-- The stream from the node ends; the node stays registered and nothing reconnects. -/
theorem half_dead_connection_stays :
    ∃ s : Router Nat Nat, run Router.step .init (demoConnect ++ [.conn 0 .readerEnds]) = some s ∧
      s.inner.lookup demoNode = some 0 ∧ s.attempts = [] ∧ ¬ s.Repaired := by
  refine exists_end (p := fun s => s.inner.lookup demoNode = some 0 ∧
    s.attempts = [] ∧ s.conns = [⟨demoNode, 0, .spawned, false, [], .waiting, .ended⟩] ∧
    s.fired = ∅) (by decide +kernel) ?_
  rintro s - ⟨hinner, hattempts, hconns, hfired⟩
  refine ⟨hinner, hattempts, fun hrepaired => ?_⟩
  have hc : s.conns[0]? = some ⟨demoNode, 0, .spawned, false, [], .waiting, .ended⟩ := by
    rw [hconns]
    rfl
  rcases hrepaired demoNode 0 _ hinner hc rfl (by simp [hfired]) with hreader | hloop | hlost
  · cases hreader
  · rw [hattempts] at hloop
    simp at hloop
  · rw [hconns] at hlost
    simp [WriterState.isLost] at hlost

end Router

end Mill
