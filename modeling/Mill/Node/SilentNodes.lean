import Mill.Node.WatchdogGrace

/-! What becomes of the allocations of a silent node. -/

namespace Mill

open List Option Program Transition

section

variable (heartbeatTimeout : Nat) (tracker : HeartbeatTracker) (nodeDiscovered : Instants)
  (now : Nat)

def lastHeard (raftId : Nat) : Nat :=
  (tracker.lastSeen raftId).getD ((nodeDiscovered.lookup raftId).getD now)

/-- What a tick at the time `now` goes by. -/
def Overdue (raftId : Nat) : Prop :=
  heartbeatTimeout ≤ now - lastHeard tracker nodeDiscovered now raftId

instance (raftId : Nat) :
    Decidable (Overdue heartbeatTimeout tracker nodeDiscovered now raftId) :=
  inferInstanceAs (Decidable (_ ≤ _))

def deadNodes (nodes : List (Nat × NodeId × NodeStatus)) : List NodeId :=
  (nodes.filter fun n => n.2.2 = .ready ∧
    Overdue heartbeatTimeout tracker nodeDiscovered now n.1).map fun n => n.2.1

lemma deadNodes_cons (n : Nat × NodeId × NodeStatus) (nodes : List (Nat × NodeId × NodeStatus)) :
    deadNodes heartbeatTimeout tracker nodeDiscovered now (n :: nodes) =
      deadNodes heartbeatTimeout tracker nodeDiscovered now [n] ++
        deadNodes heartbeatTimeout tracker nodeDiscovered now nodes := by
  rw [deadNodes, ← singleton_append, filter_append, map_append]
  rfl

variable {heartbeatTimeout tracker nodeDiscovered now}

lemma deadNodes_congr {tracker' : HeartbeatTracker} {nodeDiscovered' : Instants}
    {nodes : List (Nat × NodeId × NodeStatus)}
    (h : ∀ n ∈ nodes, lastHeard tracker nodeDiscovered now n.1 =
      lastHeard tracker' nodeDiscovered' now n.1) :
    deadNodes heartbeatTimeout tracker nodeDiscovered now nodes =
      deadNodes heartbeatTimeout tracker' nodeDiscovered' now nodes := by
  unfold deadNodes
  congr 1
  refine filter_congr fun n hn => ?_
  grind [Overdue]

lemma mem_deadNodes {order : List FsmNode} {m : NodeId} :
    m ∈ deadNodes heartbeatTimeout tracker nodeDiscovered now
        (order.map fun n => (n.raftId, n.millId, n.status)) ↔
      ∃ n ∈ order, n.millId = m ∧ n.status = .ready ∧
        Overdue heartbeatTimeout tracker nodeDiscovered now n.raftId := by
  grind [deadNodes]

end

def Alloc.failOn (millIds : List NodeId) (a : Alloc) : Alloc :=
  if a.node ∈ millIds ∧ a.status.isTerminal = false then { a with status := .failed "node down" }
  else a

lemma Alloc.failOn_node (millIds : List NodeId) (a : Alloc) : (a.failOn millIds).node = a.node := by
  unfold Alloc.failOn
  split_ifs <;> rfl

lemma Alloc.failOn_terminal (millIds : List NodeId) (a : Alloc) :
    (a.failOn millIds).status.isTerminal = true ↔
      a.status.isTerminal = true ∨ a.node ∈ millIds := by
  grind [Alloc.failOn, AllocStatus.isTerminal]

lemma Alloc.failOn_append (ms millIds : List NodeId) (a : Alloc) :
    (a.failOn ms).failOn millIds = a.failOn (ms ++ millIds) := by
  grind [Alloc.failOn, AllocStatus.isTerminal]

lemma lookup_applyAll_failed (ids : List AllocId) (status : AllocStatus) (s : FsmState)
    (i : AllocId) :
    (applyAll s (ids.map fun id => .allocStatus id status)).allocs.lookup i =
      if i ∈ ids then (s.allocs.lookup i).map fun a => { a with status }
      else s.allocs.lookup i := by
  induction ids generalizing s with
  | nil => rfl
  | cons id ids ih =>
    rw [map_cons, applyAll_cons, ih, lookup_allocs_applyCommand, allocAfter]
    cases ha : s.allocs.lookup i <;> grind

lemma nodes_applyAll_failed (ids : List AllocId) (status : AllocStatus) (s : FsmState) :
    (applyAll s (ids.map fun id => .allocStatus id status)).nodes = s.nodes := by
  induction ids generalizing s with
  | nil => rfl
  | cons id ids ih =>
    rw [map_cons, applyAll_cons, ih]
    simp only [applyCommand]
    split <;> rfl

/-- From one state to the other the allocations of these nodes have failed, and of the
nodes at most the status has changed. -/
structure Failed (millIds : List NodeId) (s s' : FsmState) : Prop where
  allocs : ∀ i, s'.allocs.lookup i = (s.allocs.lookup i).map (Alloc.failOn millIds)
  nodes : ∀ k, (s'.nodes.lookup k).map (fun n => (n.raftId, n.millId)) =
    (s.nodes.lookup k).map fun n => (n.raftId, n.millId)

lemma Failed.refl (s : FsmState) : Failed [] s s := by
  refine ⟨fun i => ?_, fun k => rfl⟩
  cases ha : s.allocs.lookup i <;> grind [Alloc.failOn]

lemma Failed.trans {ms millIds : List NodeId} {s s' s'' : FsmState} (h : Failed ms s s')
    (h' : Failed millIds s' s'') : Failed (ms ++ millIds) s s'' := by
  refine ⟨fun i => ?_, fun k => (h'.nodes k).trans (h.nodes k)⟩
  rw [h'.allocs, h.allocs, Option.map_map]
  congr 1
  funext a
  exact Alloc.failOn_append ms millIds a

lemma Failed.keyedById {millIds : List NodeId} {s s' : FsmState} (h : Failed millIds s s')
    (hs : KeyedById s) : KeyedById s' := by
  intro i a ha
  rw [h.allocs] at ha
  obtain ⟨b, hb, rfl⟩ := map_eq_some_iff.mp ha
  grind [hs i b hb, Alloc.failOn]

lemma failed_nodeDown (s : FsmState) (raftId : Nat) :
    Failed [] s (applyCommand s (.nodeDown raftId)).1 := by
  refine ⟨fun i => ?_, fun k => ?_⟩
  · rw [lookup_allocs_applyCommand]
    exact (Failed.refl s).allocs i
  · rw [lookup_nodes_applyCommand, nodeAfter]
    cases hn : s.nodes.lookup k <;> grind

lemma failed_applyAll {s : FsmState} (hs : KeyedById s) {order : List Alloc}
    (horder : s.allocs.values = order) (millId : NodeId) :
    Failed [millId] s (applyAll s (((order.filter fun a =>
      a.node == millId && !a.status.isTerminal).map Alloc.id).map
        fun id => .allocStatus id (.failed "node down"))) := by
  refine ⟨fun i => ?_, fun k => by rw [nodes_applyAll_failed]⟩
  rw [lookup_applyAll_failed]
  have hvalues (a : Alloc) : a ∈ order ↔ ∃ k, s.allocs.lookup k = some a := by
    rw [← Multiset.mem_coe, ← horder]
    exact Finmap.mem_values
  -- an allocation with this id is the one that is looked up
  cases ha : s.allocs.lookup i <;> grind [Alloc.failOn, KeyedById]

lemma lookup_discovered (now : Nat) (nodes : List (Nat × NodeId × NodeStatus))
    (nodeDiscovered : Instants) (raftId : Nat) :
    ((discover now nodes nodeDiscovered).retain fun raftId _ =>
      decide (raftId ∈ nodes.map fun n => n.1)).lookup raftId =
        if raftId ∈ nodes.map fun n => n.1 then (nodeDiscovered.lookup raftId).or (some now)
        else none := by
  rw [Finmap.lookup_retain]
  split_ifs with hmem
  · have hgetD := lookup_discover now nodes nodeDiscovered raftId
    have hdiscovered : raftId ∈ discover now nodes nodeDiscovered := mem_discover (.inr hmem)
    obtain ⟨t, ht⟩ := Finmap.mem_iff.mp hdiscovered
    rw [ht, Option.getD_some] at hgetD
    rw [ht, hgetD]
    cases nodeDiscovered.lookup raftId <;> simp [hmem]
  · cases (discover now nodes nodeDiscovered).lookup raftId <;> simp [hmem]

section

def WatchdogEffect.refused : (e : WatchdogEffect) → e.Answer → Bool
  | .coord e, r => e.refused r
  | _, _ => false

def tickSpec : Spec WatchdogEffect WatchdogEffect.Answer WatchdogWorld where
  pre _ _ := True
  post w e r w' := w.Answered e r w' ∧ e.refused r = false

variable {w : WatchdogWorld}

lemma wp_watch {e : WatchdogEffect} {I : e.Answer → WatchdogWorld → Prop}
    (h : ∀ r w', w.Answered e r w' → I r w') : (watch e).wp tickSpec (Returns I) w := by
  refine ⟨trivial, fun r w' hpost => ?_⟩
  exact h r w' hpost.1

lemma wp_watch_bind {α : Type} {e : WatchdogEffect} {f : e.Answer → WatchdogAction α}
    {Q : Except _ α → WatchdogWorld → Prop}
    (h : ∀ r w', w.Answered e r w' → (f r).wp tickSpec Q w') : (watch e >>= f).wp tickSpec Q w :=
  ⟨trivial, fun r w' hpost => h r w' hpost.1⟩

lemma wp_watch_propose {c : Command}
    {I : (WatchdogEffect.coord (.propose c)).Answer → WatchdogWorld → Prop}
    (h : I (.ok (applyCommand w.fsm c).2) { w with fsm := (applyCommand w.fsm c).1 }) :
    (watch (.coord (.propose c))).wp tickSpec (Returns I) w := by
  refine ⟨trivial, fun r w' hpost => ?_⟩
  obtain ⟨hans, haccepted⟩ := hpost
  cases hans with
  | coord e r w' hans =>
    cases hans with
    | applied => exact h
    | refused => cases haccepted

def failAllocs (allocs : List (AllocId × AllocKind × String)) : List Command :=
  allocs.map fun a => .allocStatus a.1 (.failed "node down")

lemma wp_markEach (allocs : List (AllocId × AllocKind × String)) (restartBackoff : RestartBackoff) :
    (foldEach markNodeAllocFailed allocs restartBackoff).wp tickSpec
      (Returns fun _ w' => w'.fsm = applyAll w.fsm (failAllocs allocs) ∧
        w'.tracker = w.tracker) w := by
  -- what is still to be proposed leads to the state that the whole list leads to
  refine wp_foldEach_returns (fun xs _ (φ : WatchdogWorld) =>
    applyAll φ.fsm (failAllocs xs) = applyAll w.fsm (failAllocs allocs) ∧ φ.tracker = w.tracker)
    (fun x xs acc φ hinv => ?_) ⟨rfl, rfl⟩
  refine wp_bind_returns (wp_watch_propose (I := fun _ φ' => φ' = { φ with fsm :=
    (applyCommand φ.fsm (.allocStatus x.1 (.failed "node down"))).1 }) rfl) ?_
  rintro _ φ' rfl
  split_ifs
  · exact hinv
  · exact hinv

lemma wp_markNodeAllocsFailed (hw : KeyedById w.fsm) (millId : NodeId)
    (restartBackoff : RestartBackoff) :
    (markNodeAllocsFailed millId restartBackoff).wp tickSpec
      (Returns fun _ w' => Failed [millId] w.fsm w'.fsm ∧ w'.tracker = w.tracker) w := by
  refine wp_watch_bind fun allocs w' hans => ?_
  cases hans with
  | nodeAllocs millId order horder =>
    refine wp_mono (wp_markEach _ restartBackoff) ?_
    rintro (_ | _) φ hdone
    · exact hdone
    · obtain ⟨hfsm, htracker⟩ := hdone
      refine ⟨?_, htracker⟩
      have hfailed := failed_applyAll hw horder millId
      rw [List.map_map] at hfailed
      rw [hfsm, failAllocs, List.map_map]
      exact hfailed

lemma wp_removeMeshPeer (wireguard : Bool) (wgPubkey : Option String) :
    (removeMeshPeer wireguard wgPubkey).wp tickSpec
      (Returns fun _ w' => w'.fsm = w.fsm ∧ w'.tracker = w.tracker) w := by
  unfold removeMeshPeer
  split
  · refine wp_watch_bind fun r w' hans => ?_
    cases hans <;> exact ⟨rfl, rfl⟩
  · exact ⟨rfl, rfl⟩

variable (hw : KeyedById w.fsm) (wireguard : Bool) (heartbeatTimeout now : Nat)
  (nodeDiscovered : Instants) (restartBackoff : RestartBackoff)

include hw

lemma wp_checkHeartbeat (n : Nat × NodeId × NodeStatus) :
    (checkHeartbeat wireguard heartbeatTimeout now nodeDiscovered restartBackoff n).wp tickSpec
      (Returns fun _ w' =>
        Failed (deadNodes heartbeatTimeout w.tracker nodeDiscovered now [n]) w.fsm w'.fsm ∧
          w'.tracker = w.tracker) w := by
  unfold checkHeartbeat
  split_ifs with hready
  · refine wp_watch_bind fun lastSeen w' hans => ?_
    cases hans
    dsimp only
    split_ifs with hrecent
    · have hheard : ¬ Overdue heartbeatTimeout w.tracker nodeDiscovered now n.1 :=
        not_le.mpr hrecent
      have hnone : deadNodes heartbeatTimeout w.tracker nodeDiscovered now [n] = [] := by
        simp [deadNodes, hheard]
      rw [hnone]
      exact ⟨Failed.refl w.fsm, rfl⟩
    · have hoverdue : Overdue heartbeatTimeout w.tracker nodeDiscovered now n.1 :=
        not_lt.mp hrecent
      have hone : deadNodes heartbeatTimeout w.tracker nodeDiscovered now [n] = [n.2.1] := by
        simp [deadNodes, hready, hoverdue]
      rw [hone]
      refine wp_watch_bind fun _ w' hans => ?_
      cases hans
      refine wp_bind_returns (wp_watch_propose (I := fun r w' => (∃ response, r = .ok response) ∧
        w' = { w with fsm := (applyCommand w.fsm (.nodeDown n.1)).1 }) ⟨⟨_, rfl⟩, rfl⟩) ?_
      rintro r w' ⟨⟨response, rfl⟩, rfl⟩
      have hdown := failed_nodeDown w.fsm n.1
      refine wp_bind_returns (wp_removeMeshPeer wireguard _) ?_
      rintro _ w' ⟨hfsm, htracker⟩
      have hkeyed : KeyedById w'.fsm := hfsm ▸ hdown.keyedById hw
      refine wp_mono (wp_markNodeAllocsFailed hkeyed n.2.1 restartBackoff) ?_
      rintro (_ | _) w'' ⟨hfailed, htracker'⟩
      rw [hfsm] at hfailed
      exact ⟨hdown.trans hfailed, htracker'.trans htracker⟩
  · have hnone : deadNodes heartbeatTimeout w.tracker nodeDiscovered now [n] = [] := by
      simp [deadNodes, hready]
    rw [hnone]
    exact ⟨Failed.refl w.fsm, rfl⟩

lemma wp_checkEach (nodes : List (Nat × NodeId × NodeStatus)) :
    (foldEach (checkHeartbeat wireguard heartbeatTimeout now nodeDiscovered) nodes
      restartBackoff).wp tickSpec
      (Returns fun _ w' =>
        Failed (deadNodes heartbeatTimeout w.tracker nodeDiscovered now nodes) w.fsm w'.fsm) w := by
  let dead := deadNodes heartbeatTimeout w.tracker nodeDiscovered now
  -- failing what is left to fail completes the whole
  refine wp_mono (wp_foldEach_returns (S := tickSpec) (φ := w)
    (fun xs _ φ => KeyedById φ.fsm ∧ φ.tracker = w.tracker ∧
      ∀ s', Failed (dead xs) φ.fsm s' → Failed (dead nodes) w.fsm s')
    (fun n xs acc φ hinv => ?_) ⟨hw, rfl, fun _ h => h⟩) ?_
  · obtain ⟨hkeyed, htracker, hrest⟩ := hinv
    refine wp_mono (wp_checkHeartbeat hkeyed wireguard heartbeatTimeout now nodeDiscovered acc n) ?_
    rintro (_ | _) φ' ⟨hfailed, htracker'⟩
    refine ⟨hfailed.keyedById hkeyed, htracker'.trans htracker, fun s' h => hrest s' ?_⟩
    have hboth := hfailed.trans h
    rw [htracker] at hboth
    rw [show dead (n :: xs) = dead [n] ++ dead xs from deadNodes_cons ..]
    exact hboth
  · rintro (_ | _) φ ⟨_, _, hrest⟩
    exact hrest φ.fsm (Failed.refl φ.fsm)

omit hw in
lemma wp_untrackEach (current : List Nat) {gone : List Nat}
    (hgone : ∀ raftId ∈ gone, raftId ∉ current) :
    (foldEach (fun _ raftId => watch (.untrack raftId)) gone ()).wp tickSpec
      (Returns fun _ w' => w'.fsm = w.fsm ∧
        ∀ raftId ∈ current, w'.tracker.lastSeen raftId = w.tracker.lastSeen raftId) w := by
  refine wp_mono (wp_foldEach_returns (S := tickSpec) (φ := w)
    (fun xs _ φ => (∀ raftId ∈ xs, raftId ∉ current) ∧ φ.fsm = w.fsm ∧
      ∀ raftId ∈ current, φ.tracker.lastSeen raftId = w.tracker.lastSeen raftId)
    (fun x xs _ φ hinv => ?_) ⟨hgone, rfl, fun _ _ => rfl⟩) ?_
  · obtain ⟨hxs, hfsm, hkept⟩ := hinv
    refine wp_watch fun _ φ' hans => ?_
    cases hans with
    | untrack =>
      refine ⟨fun y hy => hxs y (mem_cons_of_mem x hy), hfsm, fun y hy => ?_⟩
      have hne : y ≠ x := fun h => hxs x mem_cons_self (h ▸ hy)
      rw [← hkept y hy, HeartbeatTracker.lastSeen_remove, if_neg hne]
  · rintro (_ | _) φ ⟨_, h⟩
    exact h

lemma wp_checkHeartbeatsAt :
    (checkHeartbeatsAt wireguard heartbeatTimeout nodeDiscovered restartBackoff now).wp tickSpec
      (Returns fun _ w' => ∃ order : List FsmNode, w.fsm.nodes.values = order ∧
        Failed (deadNodes heartbeatTimeout w.tracker nodeDiscovered now
          (order.map fun n => (n.raftId, n.millId, n.status))) w.fsm w'.fsm) w := by
  refine wp_watch_bind fun r w' hans => ?_
  cases hans with
  | nodes order horder =>
    refine wp_watch_bind fun r w' hans => ?_
    cases hans
    generalize hnodes : (order.map fun n => (n.raftId, n.millId, n.status)) = nodes
    refine wp_bind_returns (wp_untrackEach (nodes.map fun n => n.1) ?_) ?_
    · intro raftId hmem
      exact of_decide_eq_true (mem_filter.mp hmem).2
    rintro _ w' ⟨hfsm, htracker⟩
    have hkeyed : KeyedById w'.fsm := hfsm ▸ hw
    refine wp_bind_returns (wp_checkEach hkeyed wireguard heartbeatTimeout now _ restartBackoff
      nodes) ?_
    intro _ w'' hfailed
    refine ⟨order, horder, ?_⟩
    rw [hnodes, ← hfsm]
    convert hfailed using 1
    refine deadNodes_congr fun n hn => ?_
    have hcurrent : n.1 ∈ nodes.map fun n => n.1 := List.mem_map_of_mem hn
    unfold lastHeard
    rw [htracker n.1 hcurrent, lookup_discovered, if_pos hcurrent]
    cases nodeDiscovered.lookup n.1 <;> rfl

omit hw

def WatchdogEffect.Reads (e : WatchdogEffect) : Prop := ∀ r, e.applied r = none

lemma wp_reads {α : Type} {p : WatchdogAction α} (hp : p.Only WatchdogEffect.Reads fun _ => False) :
    p.wp tickSpec (Returns fun _ w' => w'.fsm = w.fsm) w := by
  refine wp_of_only (I := fun φ => φ.fsm = w.fsm) hp rfl ?_ (fun _ φ (h : φ.fsm = w.fsm) => h)
    fun _ _ h _ => h
  intro e φ he hφ
  refine ⟨trivial, fun r φ' hpost => ?_⟩
  rw [hpost.1.fsm_eq, he r]
  exact hφ

lemma only_afterHeartbeats (prevStatuses : Statuses) (r : Instants × RestartBackoff) :
    (afterHeartbeats wireguard prevStatuses r).Only WatchdogEffect.Reads fun _ => False := by
  refine .bind (only_reconcileWireguardPeers (fun _ _ => rfl) (fun _ _ => rfl) (fun _ => rfl)
    wireguard prevStatuses) fun _ => ?_
  refine .bind (.effect fun _ => rfl) fun now => ?_
  refine .bind ((only_checkServiceRestarts now r.2).lift fun e he => ?_) fun _ => trivial
  exact fun answer => he.applied answer

include hw in
lemma wp_tickAt (st : WatchdogState) :
    (checkHeartbeatsAt wireguard heartbeatTimeout st.nodeDiscovered st.restartBackoff now >>=
      afterHeartbeats wireguard st.prevStatuses).wp tickSpec
      (Returns fun _ w' => ∃ order : List FsmNode, w.fsm.nodes.values = order ∧
        Failed (deadNodes heartbeatTimeout w.tracker st.nodeDiscovered now
          (order.map fun n => (n.raftId, n.millId, n.status))) w.fsm w'.fsm) w := by
  refine wp_bind_returns (wp_checkHeartbeatsAt hw wireguard heartbeatTimeout now st.nodeDiscovered
    st.restartBackoff) ?_
  rintro r w' ⟨order, horder, hfailed⟩
  refine wp_mono (wp_reads (only_afterHeartbeats wireguard st.prevStatuses r)) ?_
  rintro (_ | _) w'' hkept
  · exact hkept
  · have hfsm : w''.fsm = w'.fsm := hkept
    exact ⟨order, horder, hfsm ▸ hfailed⟩

end

lemma Failed.mem_nodes {millIds : List NodeId} {s s' : FsmState} (h : Failed millIds s s')
    {n : FsmNode} : (∃ n' ∈ s'.nodes.values, n'.raftId = n.raftId ∧ n'.millId = n.millId) ↔
      ∃ n' ∈ s.nodes.values, n'.raftId = n.raftId ∧ n'.millId = n.millId := by
  have hrow (t : FsmState) : (∃ n' ∈ t.nodes.values, n'.raftId = n.raftId ∧ n'.millId = n.millId) ↔
      ∃ k, (t.nodes.lookup k).map (fun n => (n.raftId, n.millId)) = some (n.raftId, n.millId) := by
    simp only [Finmap.mem_values, map_eq_some_iff, Prod.mk.injEq]
    grind
  rw [hrow s', hrow s]
  simp only [h.nodes]

/-- The world of a watchdog with its history: the heartbeats that were processed, and the nodes
that its ticks found registered, each with the time. -/
structure Vigil extends WatchdogWorld where
  heard : List (Nat × Nat)
  looks : List (Nat × List Nat)

/-- The first of the ticks since which every tick has found the node registered. -/
def inView : List (Nat × List Nat) → Nat → Option Nat
  | [], _ => none
  | (t, raftIds) :: looks, raftId =>
    if raftId ∈ raftIds then (inView looks raftId).or (some t) else none

/-- For at least the timeout the ticks have found the node registered, and no heartbeat of it was
processed. -/
def Silent (heartbeatTimeout : Nat) (w : Vigil) (now raftId : Nat) : Prop :=
  (∀ t ∈ heardOf w.heard raftId, heartbeatTimeout ≤ now - t) ∧
    ∃ t ∈ inView w.looks raftId, heartbeatTimeout ≤ now - t

instance (heartbeatTimeout : Nat) (w : Vigil) (now raftId : Nat) :
    Decidable (Silent heartbeatTimeout w now raftId) :=
  inferInstanceAs (Decidable (_ ∧ ∃ t ∈ _, _))

namespace Vigil

inductive Event
  | commit (c : Command)
  | beat (raftId : Nat)
  | wait (t : Nat)

def outside (w : Vigil) : Event → Option Vigil
  | .commit c => some { w with fsm := (applyCommand w.fsm c).1 }
  | .beat raftId => some { w with
      tracker := w.tracker.record raftId w.clock, heard := (raftId, w.clock) :: w.heard }
  | .wait t => if w.clock ≤ t then some { w with clock := t } else none

def look (t : Nat) : (e : WatchdogEffect) → e.Answer → List (Nat × List Nat)
  | .nodes, nodes => [(t, nodes.map fun n => n.1)]
  | _, _ => []

def answer (w : Vigil) (e : WatchdogEffect) (c : WatchdogChoice) : Option (e.Answer × Vigil) :=
  (w.toWatchdogWorld.answer e c).map fun a => (a.1,
    { w with toWatchdogWorld := a.2, looks := look w.clock e a.1 ++ w.looks })

variable (wireguard : Bool) (heartbeatTimeout : Nat)

/-- The worlds that a watchdog comes to, with the state of its loop: beside and between its ticks
commands commit, heartbeats are processed and time passes, and proposals of a tick may fail. -/
inductive Reached : Vigil → WatchdogState → Prop
  | start (w : WatchdogWorld) (cmds : List Command) (hfsm : w.fsm = applyAll default cmds)
      (htracker : w.tracker = ∅) : Reached ⟨w, [], []⟩ default
  | beside {w w' : Vigil} {st : WatchdogState} (h : Reached w st) (v : Event)
      (hv : w.outside v = some w') : Reached w' st
  | tick {w w' : Vigil} {st st' : WatchdogState} (h : Reached w st)
      (es : List (WatchdogChoice ⊕ Event))
      (hrun : run (stepBeside answer outside) (w, watchdogTick wireguard heartbeatTimeout st) es =
        some (w', .done st')) : Reached w' st'

variable {w w' : Vigil} {e : WatchdogEffect} {r : e.Answer} {c : WatchdogChoice} {v : Event}

lemma of_answer (h : w.answer e c = some (r, w')) : ∃ w₁, w.toWatchdogWorld.Answered e r w₁ ∧
    w' = { w with toWatchdogWorld := w₁, looks := look w.clock e r ++ w.looks } := by
  obtain ⟨a, ha, heq⟩ := map_eq_some_iff.mp h
  obtain ⟨rfl, rfl⟩ := Prod.mk.inj heq
  exact ⟨a.2, WatchdogWorld.answered_of_answer ha, rfl⟩

structure Sound (w : Vigil) : Prop where
  keyed : KeyedById w.fsm
  heard : ∀ raftId t, w.tracker.lastSeen raftId = some t → (raftId, t) ∈ w.heard

lemma Sound.answer (h : w.Sound) (hans : w.answer e c = some (r, w')) : w'.Sound := by
  obtain ⟨w₁, hanswered, rfl⟩ := of_answer hans
  refine ⟨?_, fun raftId t ht => h.heard raftId t ?_⟩
  · simp only [hanswered.fsm_eq]
    cases e.applied r with
    | none => exact h.keyed
    | some c => exact keyedById_applyCommand h.keyed c
  · cases hanswered with
    | untrack =>
      rw [HeartbeatTracker.lastSeen_remove] at ht
      split_ifs at ht
      exact ht
    | _ => exact ht

lemma Sound.outside (h : w.Sound) (hv : w.outside v = some w') : w'.Sound := by
  cases v with
  | commit c =>
    cases hv
    exact ⟨keyedById_applyCommand h.keyed c, h.heard⟩
  | wait t =>
    simp only [Vigil.outside, ite_none_right_eq_some, Option.some.injEq] at hv
    obtain ⟨-, rfl⟩ := hv
    exact ⟨h.keyed, h.heard⟩
  | beat id =>
    cases hv
    refine ⟨h.keyed, fun raftId t ht => ?_⟩
    rw [HeartbeatTracker.lastSeen_record] at ht
    split_ifs at ht with hid
    · cases ht
      exact hid ▸ mem_cons_self
    · exact mem_cons_of_mem _ (h.heard raftId t ht)

/-- What the loop goes by of the looks: since when each node has been in view, and a time that has
passed. -/
structure Seen where
  view : Nat → Option Nat
  since : Nat

def seenSpec : Spec WatchdogEffect WatchdogEffect.Answer Seen where
  pre _ _ := True
  post φ e r φ' := match e, r with
    | .now, t => φ' = ⟨φ.view, t⟩
    | .nodes, nodes => ∃ t, φ.since ≤ t ∧ φ' = ⟨fun raftId =>
        if raftId ∈ nodes.map fun n => n.1 then (φ.view raftId).or (some t) else none, φ.since⟩
    | _, _ => φ' = φ

def Sees (w : Vigil) (φ : Seen) : Prop := inView w.looks = φ.view ∧ φ.since ≤ w.clock

lemma Sees.answer {φ : Seen} (h : Sees w φ) (hans : w.answer e c = some (r, w')) :
    ∃ φ', seenSpec.post φ e r φ' ∧ Sees w' φ' := by
  obtain ⟨w₁, hanswered, rfl⟩ := of_answer hans
  have hclock := h.2.trans hanswered.clock_le
  cases hanswered with
  | now t => exact ⟨_, rfl, h.1, le_rfl⟩
  | nodes => exact ⟨_, ⟨w.clock, h.2, rfl⟩, funext fun raftId => by rw [← h.1]; rfl, h.2⟩
  | _ => exact ⟨φ, rfl, h.1, hclock⟩

lemma Sees.outside {φ : Seen} (h : Sees w φ) (hv : w.outside v = some w') : Sees w' φ := by
  cases v with
  | wait t =>
    simp only [Vigil.outside, ite_none_right_eq_some, Option.some.injEq] at hv
    obtain ⟨hle, rfl⟩ := hv
    exact ⟨h.1, h.2.trans hle⟩
  | _ =>
    cases hv
    exact h

/-- The loop has discovered the nodes that are in view, none later than the tick that saw it. -/
def Discovers (view : Nat → Option Nat) (nodeDiscovered : Instants) : Prop :=
  ∀ raftId, Option.Rel (· ≤ ·) (nodeDiscovered.lookup raftId) (view raftId)

lemma wp_unseen {α : Type} {p : WatchdogAction α} {φ : Seen}
    (hp : p.Only (· ≠ .nodes) fun _ => False) :
    p.wp seenSpec (Returns fun _ φ' => φ'.view = φ.view) φ := by
  refine wp_of_only (I := fun ψ => ψ.view = φ.view) hp rfl ?_
    (fun _ ψ (h : ψ.view = φ.view) => h) fun _ _ h _ => h
  refine fun e ψ he hψ => ⟨trivial, fun r ψ' hpost => ?_⟩
  cases e with
  | nodes => exact absurd rfl he
  | now =>
    obtain rfl : ψ' = ⟨ψ.view, r⟩ := hpost
    exact hψ
  | _ =>
    obtain rfl : ψ' = ψ := hpost
    exact hψ

lemma only_checkHeartbeat (now : Nat) (nodeDiscovered : Instants)
    (restartBackoff : RestartBackoff) (n : Nat × NodeId × NodeStatus) :
    (checkHeartbeat wireguard heartbeatTimeout now nodeDiscovered restartBackoff n).Only
      (· ≠ .nodes) fun _ => False := by
  unfold checkHeartbeat
  split_ifs
  · refine .bind (.effect (by simp)) fun lastSeen => ?_
    dsimp only
    split_ifs
    · trivial
    · refine .bind (.effect (by simp)) fun wgPubkey => .bind (.effect (by simp)) fun r => ?_
      cases r with
      | error => trivial
      | ok =>
        exact .bind (only_removeMeshPeer (by simp) wireguard wgPubkey) fun _ =>
          only_markNodeAllocsFailed (by simp) (by simp) n.2.1 restartBackoff
  · trivial

lemma wp_checkHeartbeats_seen (restartBackoff : RestartBackoff) {nodeDiscovered : Instants}
    {φ : Seen} (hφ : Discovers φ.view nodeDiscovered) :
    (checkHeartbeats wireguard heartbeatTimeout nodeDiscovered restartBackoff).wp seenSpec
      (Returns fun r φ' => Discovers φ'.view r.1) φ := by
  refine ⟨trivial, ?_⟩
  rintro now _ rfl
  refine ⟨trivial, ?_⟩
  rintro nodes _ ⟨t, ht, rfl⟩
  refine wp_bind_returns (p := watch _) (wp_unseen (.effect (by simp))) fun order φ₁ h₁ => ?_
  refine wp_bind_returns (wp_unseen (.foldEach (fun _ raftId _ => ?_) ())) fun _ φ₂ h₂ => ?_
  · exact .effect (by simp)
  refine wp_bind_returns (wp_unseen (.foldEach (fun acc n _ => ?_) _)) fun _ φ₃ h₃ => ?_
  · exact only_checkHeartbeat wireguard heartbeatTimeout now _ acc n
  intro raftId
  rw [h₃, h₂, h₁, lookup_discovered]
  have hold := hφ raftId
  dsimp only
  split_ifs
  · cases hd : nodeDiscovered.lookup raftId <;> cases hv : φ.view raftId <;>
      simp_all [Option.rel_some_some]
  · exact .none

lemma wp_watchdogTick_seen {st : WatchdogState} {φ : Seen}
    (hφ : Discovers φ.view st.nodeDiscovered) :
    (watchdogTick wireguard heartbeatTimeout st).wp seenSpec
      (Returns fun st' φ' => Discovers φ'.view st'.nodeDiscovered) φ := by
  refine wp_bind_returns (wp_checkHeartbeats_seen wireguard heartbeatTimeout st.restartBackoff hφ)
    fun r φ hφ => ?_
  have hreconcile : (reconcileWireguardPeers wireguard st.prevStatuses).Only (· ≠ .nodes)
      fun _ => False := only_reconcileWireguardPeers (by simp) (by simp) (by simp) _ _
  refine wp_bind_returns (wp_unseen hreconcile) fun _ φ₁ h₁ => ?_
  refine wp_bind_returns (wp_unseen (.effect (by simp))) fun now φ₂ h₂ => ?_
  refine wp_bind_returns (wp_unseen ((only_checkServiceRestarts now r.2).lift (by simp)))
    fun _ φ₃ h₃ => ?_
  have hview : φ₃.view = φ.view := h₃.trans (h₂.trans h₁)
  change Discovers φ₃.view r.1
  rw [hview]
  exact hφ

variable {wireguard heartbeatTimeout}

/-- In every world that is reached, what the loop goes by comes from the history. -/
lemma Reached.sound {st : WatchdogState}
    (h : Reached wireguard heartbeatTimeout w st) :
    w.Sound ∧ Discovers (inView w.looks) st.nodeDiscovered := by
  induction h with
  | start w cmds hfsm htracker =>
    refine ⟨⟨hfsm ▸ keyedById_applyAll cmds, fun raftId t ht => ?_⟩, fun _ => .none⟩
    rw [htracker] at ht
    cases ht
  | beside h v hv ih =>
    refine ⟨ih.1.outside hv, ?_⟩
    have hsees : Sees _ ⟨inView _, 0⟩ := Sees.outside ⟨rfl, Nat.zero_le _⟩ hv
    exact hsees.1 ▸ ih.2
  | tick h es hrun ih =>
    obtain ⟨φ, ⟨hsound, hsees⟩, hdone⟩ := wp_of_run_observed
      (T := fun w φ => w.Sound ∧ Sees w φ) (P := fun _ _ => True)
      (fun w φ e next c r w' hT _ _ hans => by
        obtain ⟨φ', hpost, hsees⟩ := hT.2.answer hans
        exact ⟨φ', hpost, hT.1.answer hans, hsees⟩)
      (fun w φ p v w' hT _ hv => ⟨hT.1.outside hv, hT.2.outside hv⟩)
      (wp_watchdogTick_seen (φ := ⟨inView _, 0⟩) wireguard heartbeatTimeout ih.2)
      ⟨ih.1, rfl, Nat.zero_le _⟩ (guarded_of_forall _ fun _ _ _ => trivial) hrun
    exact ⟨hsound, hsees.1 ▸ hdone⟩

lemma overdue_of_silent {now raftId : Nat} {nodeDiscovered : Instants}
    (h : w.Sound) (hview : Discovers (inView w.looks) nodeDiscovered)
    (hsilent : Silent heartbeatTimeout w now raftId) :
    Overdue heartbeatTimeout w.tracker nodeDiscovered now raftId := by
  obtain ⟨hheard, t, ht, hlong⟩ := hsilent
  unfold Overdue lastHeard
  cases hseen : w.tracker.lastSeen raftId with
  | some t' => exact hheard t' (mem_heardOf.mpr (h.heard raftId t' hseen))
  | none =>
    have hrel := hview raftId
    rw [mem_def.mp ht] at hrel
    cases hd : nodeDiscovered.lookup raftId with
    | none =>
      rw [hd] at hrel
      cases hrel
    | some d =>
      rw [hd, rel_some_some] at hrel
      exact hlong.trans (Nat.sub_le_sub_left hrel now)

end Vigil

section

variable (heartbeatTimeout : Nat) (w : Vigil) (now : Nat)

def SilentHoldNothing (s : FsmState) : Prop :=
  ∀ n ∈ s.nodes.values, Silent heartbeatTimeout w now n.raftId →
    ∀ a ∈ s.allocs.values, a.node = n.millId → a.status.isTerminal = true

def SilentHoldersReady (s : FsmState) : Prop :=
  ∀ n ∈ s.nodes.values, Silent heartbeatTimeout w now n.raftId →
    ∀ a ∈ s.allocs.values, a.node = n.millId → a.status.isTerminal = false → n.status = .ready

instance (s : FsmState) : Decidable (SilentHoldNothing heartbeatTimeout w now s) :=
  inferInstanceAs (Decidable (∀ _ ∈ _, _ → ∀ _ ∈ _, _ → _))

instance (s : FsmState) : Decidable (SilentHoldersReady heartbeatTimeout w now s) :=
  inferInstanceAs (Decidable (∀ _ ∈ _, _ → ∀ _ ∈ _, _ → _ → _))

variable {heartbeatTimeout w now}

lemma Failed.silentHoldNothing_iff {s' : FsmState} {nodeDiscovered : Instants}
    {order : List FsmNode} (hdistinct : w.fsm.DistinctNodes) (horder : w.fsm.nodes.values = order)
    (hoverdue : ∀ raftId, Silent heartbeatTimeout w now raftId →
      Overdue heartbeatTimeout w.tracker nodeDiscovered now raftId)
    (h : Failed (deadNodes heartbeatTimeout w.tracker nodeDiscovered now
      (order.map fun n => (n.raftId, n.millId, n.status))) w.fsm s') :
    SilentHoldNothing heartbeatTimeout w now s' ↔
      SilentHoldersReady heartbeatTimeout w now w.fsm := by
  constructor
  · intro hnothing n hn hsilent a ha hnode hlive
    obtain ⟨n', hn', hraft, hmill⟩ := (h.mem_nodes (n := n)).mpr ⟨n, hn, rfl, rfl⟩
    obtain ⟨i, hi⟩ := Finmap.mem_values.mp ha
    have hi' := h.allocs i
    rw [hi, map_some] at hi'
    have hterminal := hnothing n' hn' (hraft ▸ hsilent) _ (Finmap.mem_values.mpr ⟨i, hi'⟩)
      (by rw [Alloc.failOn_node, hnode, hmill])
    rcases (Alloc.failOn_terminal _ a).mp hterminal with hdone | hmem
    · cases hlive.symm.trans hdone
    -- the node that was marked down is the one that holds the allocation
    · obtain ⟨m, hm, hmill', hready, -⟩ := mem_deadNodes.mp hmem
      rw [← Multiset.mem_coe, ← horder] at hm
      obtain ⟨k, hk⟩ := Finmap.mem_values.mp hn
      obtain ⟨k', hk'⟩ := Finmap.mem_values.mp hm
      obtain rfl := hdistinct k n hk k' m hk' (hnode.symm.trans hmill'.symm)
      cases hk.symm.trans hk'
      exact hready
  · intro hready n' hn' hsilent a' ha' hnode
    obtain ⟨n, hn, hraft, hmill⟩ := (h.mem_nodes (n := n')).mp ⟨n', hn', rfl, rfl⟩
    obtain ⟨i, hi⟩ := Finmap.mem_values.mp ha'
    rw [h.allocs i] at hi
    obtain ⟨a, ha, rfl⟩ := map_eq_some_iff.mp hi
    rw [Alloc.failOn_node] at hnode
    rw [Alloc.failOn_terminal]
    by_cases hlive : a.status.isTerminal = true
    · exact .inl hlive
    · have hsilent : Silent heartbeatTimeout w now n.raftId := hraft ▸ hsilent
      have hstatus := hready n hn hsilent a (Finmap.mem_values.mpr ⟨i, ha⟩)
        (hnode.trans hmill.symm) (Bool.not_eq_true _ ▸ hlive)
      rw [horder, Multiset.mem_coe] at hn
      refine .inr (mem_deadNodes.mpr ⟨n, hn, hmill.trans hnode.symm, hstatus, ?_⟩)
      exact hoverdue n.raftId hsilent

end

/-- Whatever the history, after a tick beside which nothing happens and whose proposals are all
accepted, the silent nodes hold nothing exactly if those that held something were Ready. -/
theorem silent_nodes_lose_allocs_iff {w : Vigil} {w' : WatchdogWorld} {st st' : WatchdogState}
    {wireguard : Bool} {heartbeatTimeout now : Nat} {cs : List WatchdogChoice}
    (hw : w.Reached wireguard heartbeatTimeout st) (hdistinct : w.fsm.DistinctNodes)
    (htick : run (stepAlone WatchdogWorld.answer)
      (w.toWatchdogWorld, watchdogTick wireguard heartbeatTimeout st) (.time now :: cs) =
        some (w', .done st'))
    (haccepted : ∀ c ∈ cs, ∀ message, c ≠ .coord (.raftError message)) :
    SilentHoldNothing heartbeatTimeout w now w'.fsm ↔
      SilentHoldersReady heartbeatTimeout w now w.fsm := by
  obtain ⟨hsound, hview⟩ := hw.sound
  obtain ⟨⟨w₁, p₁⟩, hnow, hrest⟩ := run_cons_eq_some.mp htick
  obtain ⟨⟨r, w₂⟩, hans, heq⟩ := map_eq_some_iff.mp hnow
  obtain ⟨rfl, rfl⟩ := Prod.mk.inj heq
  simp only [WatchdogWorld.answer, ite_none_right_eq_some, Option.some.injEq, Prod.mk.injEq] at hans
  obtain ⟨_, rfl, rfl⟩ := hans
  have htail := wp_tickAt (w := { w.toWatchdogWorld with clock := now }) hsound.keyed wireguard
    heartbeatTimeout now st
  have hdone := wp_of_run htail (P := fun c => ∀ message, c ≠ .coord (.raftError message))
    ?_ haccepted hrest
  · obtain ⟨order, horder, hfailed⟩ := hdone
    exact hfailed.silentHoldNothing_iff hdistinct horder
      fun raftId => Vigil.overdue_of_silent hsound hview
  · intro w e c r w' hok hans
    refine ⟨WatchdogWorld.answered_of_answer hans, ?_⟩
    cases e with
    | coord =>
      cases c with
      | coord =>
        obtain ⟨a, ha, heq⟩ := map_eq_some_iff.mp hans
        cases heq
        exact World.not_refused_of_answer ha fun message h => hok message (h ▸ rfl)
      | _ => cases hans
    | _ => rfl

def demoSilentNode (status : NodeStatus) : FsmNode :=
  { FsmNode.demo 1 "n" with status }

def demoSilentAlloc (status : AllocStatus) : Alloc :=
  ⟨⟨"a"⟩, ⟨"n"⟩, "web", .service, status, none, ⟨1, 1⟩, none⟩

def demoAfterHeartbeats (now : Nat) (n : FsmNode) (a : Alloc) : List WatchdogChoice :=
  [.nodes [n], .time now, .coord (.order [n] [a] []), .coord (.services [])]

/-- A tick that finds the node heard of, or not Ready. -/
def demoIdleTick (now : Nat) (status : NodeStatus) : List WatchdogChoice :=
  [.nodes [demoSilentNode status], .discovered [⟨1, 0⟩]] ++
    (if status = .ready then [.proceed] else []) ++
    demoAfterHeartbeats now (demoSilentNode status) (demoSilentAlloc .pulling)

def demoSilentTick : List WatchdogChoice :=
  [.nodes [demoSilentNode .ready], .discovered [⟨1, 0⟩], .proceed, .proceed, .coord .proceed,
    .allocs [demoSilentAlloc .pulling], .coord .proceed] ++
    demoAfterHeartbeats 20 (demoSilentNode .down) (demoSilentAlloc (.failed "node down"))

namespace Vigil

def demoStart : WatchdogWorld where
  fsm := applyAll default
    [.demoRegister 1 "n", .allocScheduled ⟨"a"⟩ 1 "web" .service none ⟨1, 1⟩]
  sent := []
  cloud := []
  clock := 0
  tracker := ∅
  peers := ∅

/-- One tick at the time 0, after the events `vs`. -/
def demoWatched (vs : List Event) (status : NodeStatus) : Option (Vigil × WatchdogState) := do
  let w ← run outside ⟨demoStart, [], []⟩ vs
  match ← run (stepBeside answer outside) (w, watchdogTick false 10 default)
      ((.time 0 :: demoIdleTick 0 status).map .inl) with
  | (w, .done st) => some (w, st)
  | _ => none

lemma reached_demoWatched {vs : List Event} {status : NodeStatus} {w : Vigil} {st : WatchdogState}
    (h : demoWatched vs status = some (w, st)) : w.Reached false 10 st := by
  obtain ⟨w₁, hvs, h⟩ := bind_eq_some_iff.mp h
  obtain ⟨⟨w₂, p⟩, htick, h⟩ := bind_eq_some_iff.mp h
  cases p with
  | perform => cases h
  | fail => cases h
  | done =>
    cases h
    refine .tick (run_invariant (I := fun w => w.Reached false 10 default) ?_ ?_
      (guarded_of_forall _ fun _ _ _ => trivial) hvs) _ htick
    · exact fun w v w' hw _ hv => .beside hw v hv
    · exact .start demoStart _ rfl rfl

end Vigil

lemma Vigil.exists_demoTick (vs : List Event) (status : NodeStatus) (cs : List WatchdogChoice)
    (P : Vigil → FsmState → Prop) [∀ w s, Decidable (P w s)]
    (h : ((demoWatched vs status).bind fun x => (run (stepAlone WatchdogWorld.answer)
      (x.1.toWatchdogWorld, watchdogTick false 10 x.2) cs).map fun s =>
        (s.2.outcome.map Except.toBool, decide (P x.1 s.1.fsm))) = some (some true, true)) :
    ∃ w st w' st', demoWatched vs status = some (w, st) ∧
      run (stepAlone WatchdogWorld.answer) (w.toWatchdogWorld, watchdogTick false 10 st) cs =
        some (w', .done st') ∧ P w w'.fsm := by
  obtain ⟨⟨w, st⟩, hwatched, h⟩ := bind_eq_some_iff.mp h
  obtain ⟨⟨w', p'⟩, hs, hend⟩ := map_eq_some_iff.mp h
  obtain ⟨hdone, hholds⟩ := Prod.mk.inj hend
  cases p' with
  | fail => cases hdone
  | perform => cases hdone
  | done st' => exact ⟨w, st, w', st', hwatched, hs, of_decide_eq_true hholds⟩

theorem silent_nodes_lose_allocs_iff_ready : ∃ w st w' st',
    Vigil.demoWatched [.beat 1] .ready = some (w, st) ∧
      run (stepAlone WatchdogWorld.answer) (w.toWatchdogWorld, watchdogTick false 10 st)
        (.time 20 :: demoSilentTick) = some (w', .done st') ∧
      Silent 10 w 20 1 ∧ SilentHoldNothing 10 w 20 w'.fsm := by
  obtain ⟨w, st, w', st', hwatched, hs, hdistinct, hsilent, hready⟩ := Vigil.exists_demoTick
    [.beat 1] .ready (.time 20 :: demoSilentTick)
    (fun w _ => w.fsm.DistinctNodes ∧ Silent 10 w 20 1 ∧ SilentHoldersReady 10 w 20 w.fsm)
    (by decide +kernel)
  have hiff := silent_nodes_lose_allocs_iff (Vigil.reached_demoWatched hwatched) hdistinct hs
    (by simp [demoSilentTick, demoAfterHeartbeats])
  exact ⟨w, st, w', st', hwatched, hs, hsilent, hiff.mpr hready⟩

/-- A node that is draining when it falls silent keeps its allocation. -/
theorem silent_draining_node_keeps_alloc : ∃ w st w' st',
    Vigil.demoWatched [.beat 1, .commit (.nodeDrain 1)] .draining = some (w, st) ∧
      w.Reached false 10 st ∧
      run (stepAlone WatchdogWorld.answer) (w.toWatchdogWorld, watchdogTick false 10 st)
        (.time 20 :: demoIdleTick 20 .draining) = some (w', .done st') ∧
      (∀ c ∈ demoIdleTick 20 .draining, ∀ message, c ≠ .coord (.raftError message)) ∧
      ¬ SilentHoldNothing 10 w 20 w'.fsm := by
  obtain ⟨w, st, w', st', hwatched, hs, hholds⟩ := Vigil.exists_demoTick
    [.beat 1, .commit (.nodeDrain 1)] .draining (.time 20 :: demoIdleTick 20 .draining)
    (fun w s => ¬ SilentHoldNothing 10 w 20 s) (by decide +kernel)
  exact ⟨w, st, w', st', hwatched, Vigil.reached_demoWatched hwatched, hs,
    by simp [demoIdleTick, demoAfterHeartbeats], hholds⟩

end Mill
