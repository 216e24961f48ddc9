import Mill.Node.SilentNodes

/-! The WireGuard peers that the watchdog removes and puts back. -/

namespace Mill

open Program Transition

def FsmState.statuses (s : FsmState) : Statuses := s.nodes.mapVals fun _ n => n.status

def FsmState.keyAt (s : FsmState) (raftId : Nat) : Option String :=
  (s.nodes.lookup raftId).bind FsmNode.wireguardPubkey

lemma FsmState.lookup_statuses (s : FsmState) (k : Nat) :
    s.statuses.lookup k = (s.nodes.lookup k).map FsmNode.status := Finmap.lookup_mapVals _ _ _

structure PeerWorld extends WatchdogWorld where
  prev : Statuses
  between : Bool
  downed : List Nat
  removed : List String
  changed : Bool

namespace PeerWorld

def AllPresent (w : PeerWorld) : Prop :=
  ∀ k pubkey, w.fsm.statuses.lookup k = some .ready → w.fsm.keyAt k = some pubkey →
    pubkey ∈ w.removed → pubkey ∈ w.peers

def downs : Command → List Nat
  | .nodeDown id => [id]
  | _ => []

def commit (w : PeerWorld) (c : Command) : PeerWorld :=
  { w with
    fsm := (applyCommand w.fsm c).1
    changed := w.changed || decide ((applyCommand w.fsm c).1.statuses ≠ w.fsm.statuses) }

/-- What an effect of the watchdog that leads to `w'` adds to the record. -/
def after (w : PeerWorld) : (e : WatchdogEffect) → e.Answer → WatchdogWorld → PeerWorld
  | .coord .tick, _, w' => { w with toWatchdogWorld := w', changed := false }
  | .coord (.propose c), .ok _, w' =>
    { w with
      toWatchdogWorld := w'
      downed := downs c ++ w.downed
      changed := w.changed || decide (w'.fsm.statuses ≠ w.fsm.statuses) }
  | .removePeer pubkey, .ok _, w' =>
    { w with toWatchdogWorld := w', removed := pubkey :: w.removed }
  | .recovered _, _, w' => { w with toWatchdogWorld := w', between := true }
  | .statuses, nodes, w' =>
    { w with
      toWatchdogWorld := w'
      prev := nodes.foldl (fun m n => m.insert n.1 n.2) ∅
      between := false }
  | _, _, w' => { w with toWatchdogWorld := w' }

def answer (w : PeerWorld) (e : WatchdogEffect) : WatchdogChoice → Option (e.Answer × PeerWorld)
  | .meshError _ => none
  | c => (w.toWatchdogWorld.answer e c).map fun a => (a.1, w.after e a.1 a.2)

end PeerWorld

/-- What others do: the report processor records a heartbeat in the tracker and has it
committed, and a watchdog elsewhere may have had a node marked down. -/
inductive StatusEvent
  | record (id : Nat)
  | heartbeat (id : Nat) (allocStatuses : Finmap fun _ : AllocId => AllocStatus)
  | nodeDown (id : Nat)

def PeerWorld.outside (w : PeerWorld) : StatusEvent → PeerWorld
  | .record id => { w with tracker := w.tracker.record id w.clock }
  | .heartbeat id allocStatuses => w.commit (.nodeHeartbeat id allocStatuses)
  | .nodeDown id => w.commit (.nodeDown id)

abbrev peerStep : PeerWorld × WatchdogAction Unit → WatchdogChoice ⊕ StatusEvent →
    Option (PeerWorld × WatchdogAction Unit) :=
  stepBeside PeerWorld.answer fun w v => some (w.outside v)

/-- A heartbeat that revives a node which the watchdog has marked down is committed only
when the last snapshot has the node Down and the loop is not about to take the next one. -/
def SeenDown : PeerWorld × WatchdogAction Unit → WatchdogChoice ⊕ StatusEvent → Prop
  | (w, _), .inr (.heartbeat id _) => id ∈ w.downed → w.fsm.statuses.lookup id = some .down →
      w.prev.lookup id = some .down ∧ w.between = false
  | _, _ => True

instance : ∀ s e, Decidable (SeenDown s e)
  | (w, _), .inr (.heartbeat id _) => inferInstanceAs (Decidable (id ∈ w.downed → _ → _ ∧ _))
  | _, .inl _ => inferInstanceAs (Decidable True)
  | _, .inr (.record _) => inferInstanceAs (Decidable True)
  | _, .inr (.nodeDown _) => inferInstanceAs (Decidable True)

section

structure Beside (w w' : PeerWorld) : Prop where
  peers : w'.peers = w.peers
  prev : w'.prev = w.prev
  between : w'.between = w.between
  downed : w'.downed = w.downed
  removed : w'.removed = w.removed
  keyed : w.fsm.NodesKeyed → w'.fsm.NodesKeyed
  keys : ∀ k, w'.fsm.keyAt k = w.fsm.keyAt k
  revived : ∀ k ∈ w.downed, w.fsm.statuses.lookup k ≠ some .ready →
    w'.fsm.statuses.lookup k = some .ready → w.prev.lookup k = some .down ∧ w.between = false
  quiet : w'.changed = false → w.changed = false ∧ w'.fsm.statuses = w.fsm.statuses

variable {w w' w'' : PeerWorld}

lemma Beside.refl (w : PeerWorld) : Beside w w :=
  ⟨rfl, rfl, rfl, rfl, rfl, id, fun _ => rfl, fun _ _ hne heq => absurd heq hne, fun h => ⟨h, rfl⟩⟩

lemma Beside.trans (h : Beside w w') (h' : Beside w' w'') : Beside w w'' := by
  obtain ⟨_, _, _, _, _, _, _, hrevived, hquiet⟩ := h
  obtain ⟨_, _, _, _, _, _, _, hrevived', hquiet'⟩ := h'
  constructor <;> grind

lemma keyAt_applyCommand {s : FsmState} {c : Command}
    (hc : (∃ id statuses, c = .nodeHeartbeat id statuses) ∨ (∃ id, c = .nodeDown id) ∨
      ∃ id status, c = .allocStatus id status) (k : Nat) :
    (applyCommand s c).1.keyAt k = s.keyAt k := by
  unfold FsmState.keyAt
  rw [lookup_nodes_applyCommand]
  cases hn : s.nodes.lookup k <;> grind [nodeAfter]

lemma lookup_statuses_heartbeat {s : FsmState} {id : Nat}
    {allocStatuses : Finmap fun _ : AllocId => AllocStatus} {k : Nat}
    (h : (applyCommand s (.nodeHeartbeat id allocStatuses)).1.statuses.lookup k = some .ready)
    (hne : s.statuses.lookup k ≠ some .ready) : k = id ∧ s.statuses.lookup k = some .down := by
  rw [FsmState.lookup_statuses, lookup_nodes_applyCommand, nodeAfter] at h
  rw [FsmState.lookup_statuses] at hne ⊢
  cases hn : s.nodes.lookup k <;> grind

lemma lookup_statuses_nodeDown {s : FsmState} {id k : Nat}
    (h : (applyCommand s (.nodeDown id)).1.statuses.lookup k = some .ready) :
    k ≠ id ∧ s.statuses.lookup k = some .ready := by
  rw [FsmState.lookup_statuses, lookup_nodes_applyCommand, nodeAfter] at h
  rw [FsmState.lookup_statuses]
  cases hn : s.nodes.lookup k <;> grind

lemma lookup_statuses_allocStatus (s : FsmState) (id : AllocId) (status : AllocStatus) (k : Nat) :
    (applyCommand s (.allocStatus id status)).1.statuses.lookup k = s.statuses.lookup k := by
  rw [FsmState.lookup_statuses, lookup_nodes_applyCommand, FsmState.lookup_statuses]
  rfl

lemma Beside.commit {c : Command}
    (hc : (∃ id statuses, c = .nodeHeartbeat id statuses) ∨ (∃ id, c = .nodeDown id) ∨
      ∃ id status, c = .allocStatus id status)
    (hrevived : ∀ k ∈ w.downed, w.fsm.statuses.lookup k ≠ some .ready →
      (applyCommand w.fsm c).1.statuses.lookup k = some .ready →
        w.prev.lookup k = some .down ∧ w.between = false) : Beside w (w.commit c) where
  peers := rfl
  prev := rfl
  between := rfl
  downed := rfl
  removed := rfl
  keyed hw := nodesKeyed_applyCommand hw c
  keys := keyAt_applyCommand hc
  revived := hrevived
  quiet := by
    intro hquiet
    obtain ⟨hstart, hsame⟩ := Bool.or_eq_false_iff.mp hquiet
    exact ⟨hstart, not_not.mp (of_decide_eq_false hsame)⟩

end

section

def WatchdogEffect.meshFails : (e : WatchdogEffect) → e.Answer → Bool
  | .removePeer _, .error _ => true
  | .addPeer _, .error _ => true
  | _, _ => false

structure PeerWorld.Does (w : PeerWorld) (e : WatchdogEffect) (r : e.Answer) (w' : PeerWorld) :
    Prop where
  mesh : e.meshFails r = false
  answered : ∃ w₁, w.toWatchdogWorld.Answered e r w₁ ∧ w' = w.after e r w₁

variable {w w' : PeerWorld} {e : WatchdogEffect}

lemma PeerWorld.does_of_answer {c : WatchdogChoice} {r : e.Answer}
    (h : w.answer e c = some (r, w')) : w.Does e r w' := by
  cases c with
  | meshError => cases h
  | _ =>
    obtain ⟨⟨r, w₁⟩, ha, heq⟩ := Option.map_eq_some_iff.mp h
    cases heq
    refine ⟨?_, w₁, WatchdogWorld.answered_of_answer ha, rfl⟩
    cases e with
    | removePeer pubkey | addPeer peer => cases ha <;> rfl
    | _ => rfl

def peerSpec : Spec WatchdogEffect WatchdogEffect.Answer PeerWorld where
  pre w e := e = .coord .tick → w.changed = false → w.AllPresent
  post w e r w' := w.Does e r w'

inductive StatusFree : WatchdogEffect → Prop
  | now : StatusFree .now
  | nodes : StatusFree .nodes
  | visitDiscovered (m : Instants) : StatusFree (.visitDiscovered m)
  | lastSeen (raftId : Nat) : StatusFree (.lastSeen raftId)
  | untrack (raftId : Nat) : StatusFree (.untrack raftId)
  | pubkey (raftId : Nat) : StatusFree (.pubkey raftId)
  | nodeAllocs (millId : NodeId) : StatusFree (.nodeAllocs millId)
  | allocStatus (id : AllocId) (status : AllocStatus) :
      StatusFree (.coord (.propose (.allocStatus id status)))
  | restart {e : Effect} (he : RestartEffect e) : StatusFree (.coord e)

lemma Beside.of_fsm_eq (hfsm : w'.fsm = w.fsm) (hpeers : w'.peers = w.peers)
    (hprev : w'.prev = w.prev) (hbetween : w'.between = w.between) (hdowned : w'.downed = w.downed)
    (hremoved : w'.removed = w.removed) (hchanged : w'.changed = w.changed) : Beside w w' := by
  constructor <;> grind

lemma beside_of_seenDown {p : WatchdogAction Unit} {v : StatusEvent}
    (h : SeenDown (w, p) (.inr v)) : Beside w (w.outside v) := by
  cases v with
  | record => exact Beside.of_fsm_eq rfl rfl rfl rfl rfl rfl rfl
  | heartbeat id allocStatuses =>
    refine Beside.commit (.inl ⟨id, allocStatuses, rfl⟩) fun k hk hne hready => ?_
    obtain ⟨rfl, hdown⟩ := lookup_statuses_heartbeat hready hne
    exact h hk hdown
  | nodeDown id =>
    refine Beside.commit (.inr (.inl ⟨id, rfl⟩)) fun k hk hne hready => ?_
    exact absurd (lookup_statuses_nodeDown hready).2 hne

lemma StatusFree.beside (he : StatusFree e) {r : e.Answer} (h : w.Does e r w') : Beside w w' := by
  obtain ⟨_, w₁, hans, rfl⟩ := h
  cases he with
  | allocStatus id status =>
    cases hans with
    | coord e r w₂ hans =>
      cases hans with
      | applied =>
        refine Beside.commit (c := .allocStatus id status) (.inr (.inr ⟨id, status, rfl⟩)) ?_
        intro k _ hne hready
        rw [lookup_statuses_allocStatus] at hready
        exact absurd hready hne
      | refused => exact Beside.of_fsm_eq rfl rfl rfl rfl rfl rfl rfl
  | restart he =>
    have hfsm := hans.fsm_eq
    rw [WatchdogEffect.applied, he.applied r] at hfsm
    cases hans with
    | coord => cases he <;> exact Beside.of_fsm_eq hfsm rfl rfl rfl rfl rfl rfl
  | now | untrack raftId =>
    cases hans
    exact Beside.of_fsm_eq rfl rfl rfl rfl rfl rfl rfl
  | _ =>
    cases hans
    exact Beside.refl w

lemma StatusFree.ne_tick (he : StatusFree e) : e ≠ .coord .tick := by
  rintro rfl
  cases he with
  | restart he => cases he

lemma wp_statusFree {α : Type} {p : WatchdogAction α} (hp : p.Only StatusFree fun _ => False) :
    p.wp (peerSpec.beside Beside) (Returns fun _ w' => Beside w w') w := by
  refine wp_of_only (I := fun φ => Beside w φ) hp (Beside.refl w) ?_
    (fun _ φ (h : Beside w φ) => h) fun _ _ h _ => h
  intro e φ he hφ
  refine ⟨fun htick => absurd htick he.ne_tick, ?_⟩
  rintro r φ'' ⟨φ', hbefore, hdoes⟩
  exact (hφ.trans hbefore).trans (he.beside hdoes)

/-- What the first phase relies on: the last snapshot was `prev`, and a peer that was
removed and not put back belongs to a node that the next comparison will see. -/
structure Tracks (prev : Statuses) (w : PeerWorld) : Prop where
  keyed : w.fsm.NodesKeyed
  distinct : ∀ k k' pubkey, w.fsm.keyAt k = some pubkey → w.fsm.keyAt k' = some pubkey → k = k'
  prev_eq : w.prev = prev
  idle : w.between = false
  tracked : ∀ k pubkey, w.fsm.keyAt k = some pubkey → pubkey ∈ w.removed → pubkey ∈ w.peers ∨
    k ∈ w.downed ∧ (w.fsm.statuses.lookup k ≠ some .ready ∨ w.prev.lookup k = some .down)

variable {prev : Statuses}

lemma Beside.not_ready_or (h : Beside w w') {k : Nat} (hk : k ∈ w.downed)
    (hw : w.fsm.statuses.lookup k ≠ some .ready ∨ w.prev.lookup k = some .down) :
    w'.fsm.statuses.lookup k ≠ some .ready ∨ w'.prev.lookup k = some .down := by
  have hrevived := h.revived k hk
  have hprev := h.prev
  grind

lemma Tracks.beside (hw : Tracks prev w) (h : Beside w w') : Tracks prev w' := by
  have hnot := fun k => @Beside.not_ready_or _ _ h k
  obtain ⟨hkeyed, hdistinct, hprev, hidle, htracked⟩ := hw
  obtain ⟨_, _, _, _, _, _, _, _, _⟩ := h
  constructor <;> grind

lemma wp_free_tracks {α : Type} {p : WatchdogAction α}
    (hp : p.Only StatusFree fun _ => False) (hw : Tracks prev w) :
    p.wp (peerSpec.beside Beside) (Returns fun _ w' => Tracks prev w') w := by
  refine wp_mono (wp_statusFree hp) ?_
  rintro (_ | _) w' h
  · exact h
  · exact hw.beside h

lemma wp_watch_beside (he : e ≠ .coord .tick) {I : e.Answer → PeerWorld → Prop}
    (h : ∀ w₁ r w', Beside w w₁ → w₁.Does e r w' → I r w') :
    (watch e).wp (peerSpec.beside Beside) (Returns I) w := by
  refine ⟨fun htick => absurd htick he, ?_⟩
  rintro r w' ⟨w₁, hbefore, hdoes⟩
  exact h w₁ r w' hbefore hdoes

section

variable (hw : Tracks prev w)

include hw

lemma wp_pubkey (raftId : Nat) :
    (watch (.pubkey raftId)).wp (peerSpec.beside Beside) (Returns fun wgPubkey w' =>
      Tracks prev w' ∧ ∀ pubkey, wgPubkey = some pubkey → w'.fsm.keyAt raftId = some pubkey) w := by
  refine wp_watch_beside (by simp) ?_
  rintro w₁ r w'' hbefore ⟨_, w₂, hans, rfl⟩
  cases hans with
  | pubkey => exact ⟨hw.beside hbefore, fun pubkey h => h⟩

def MarkedDown (raftId : Nat) (w : PeerWorld) : Prop :=
  raftId ∈ w.downed ∧
    (w.fsm.statuses.lookup raftId ≠ some .ready ∨ w.prev.lookup raftId = some .down)

lemma Tracks.marked (ids : List Nat) :
    Tracks prev { w with downed := ids ++ w.downed } := by
  obtain ⟨hkeyed, hdistinct, hprev, hidle, htracked⟩ := hw
  constructor <;> grind

lemma wp_propose_nodeDown (raftId : Nat) :
    (watch (.coord (.propose (.nodeDown raftId)))).wp (peerSpec.beside Beside)
      (Returns fun r w' => Tracks prev w' ∧ (∀ k, w'.fsm.keyAt k = w.fsm.keyAt k) ∧
        ∀ response, r = .ok response → MarkedDown raftId w') w := by
  refine wp_watch_beside (by simp) ?_
  rintro w₁ r w'' hbefore ⟨_, w₂, hans, rfl⟩
  have hw₁ := hw.beside hbefore
  cases hans with
  | coord e r w₃ hans =>
    cases hans with
    | applied =>
      have hcommit : Beside w₁ (w₁.commit (.nodeDown raftId)) := by
        refine Beside.commit (.inr (.inl ⟨raftId, rfl⟩)) fun k _ hne hready => ?_
        exact absurd (lookup_statuses_nodeDown hready).2 hne
      refine ⟨(hw₁.beside hcommit).marked [raftId], fun k => ?_, fun _ _ => ?_⟩
      · exact (hcommit.keys k).trans (hbefore.keys k)
      · exact ⟨List.mem_cons_self, .inl fun h => (lookup_statuses_nodeDown h).1 rfl⟩
    | refused => exact ⟨hw₁, hbefore.keys, nofun⟩

lemma wp_removeMeshPeer_tracks {raftId : Nat} (hdown : MarkedDown raftId w) (wireguard : Bool)
    {wgPubkey : Option String}
    (hkey : ∀ pubkey, wgPubkey = some pubkey → w.fsm.keyAt raftId = some pubkey) :
    (removeMeshPeer wireguard wgPubkey).wp (peerSpec.beside Beside)
      (Returns fun _ w' => Tracks prev w') w := by
  unfold removeMeshPeer
  split
  · rename_i pubkey
    refine wp_bind_returns (wp_watch_beside (by simp) ?_) fun _ _ h => h
    rintro w₁ r w'' hbefore ⟨hmesh, w₂, hans, rfl⟩
    have hw₁ := hw.beside hbefore
    cases hans with
    | notRemoved => cases hmesh
    | removed pubkey =>
      refine ⟨hw₁.keyed, hw₁.distinct, hw₁.prev_eq, hw₁.idle, fun k key hk hremoved => ?_⟩
      by_cases hsame : key = pubkey
      · -- the key belongs to the node that has just been marked down
        subst hsame
        have hid : w₁.fsm.keyAt raftId = some key := (hbefore.keys raftId).trans (hkey key rfl)
        obtain rfl := hw₁.distinct k raftId key hk hid
        exact .inr ⟨hbefore.downed ▸ hdown.1, hbefore.not_ready_or hdown.1 hdown.2⟩
      · have hold : key ∈ w₁.removed := (List.mem_cons.mp hremoved).resolve_left hsame
        rcases hw₁.tracked k key hk hold with hpeer | hseen
        · exact .inl (Finmap.mem_erase.mpr ⟨hsame, hpeer⟩)
        · exact .inr hseen
  · exact hw

lemma wp_checkHeartbeat_tracks (wireguard : Bool) (heartbeatTimeout now : Nat)
    (nodeDiscovered : Instants) (restartBackoff : RestartBackoff) (n : Nat × NodeId × NodeStatus) :
    (checkHeartbeat wireguard heartbeatTimeout now nodeDiscovered restartBackoff n).wp
      (peerSpec.beside Beside) (Returns fun _ w' => Tracks prev w') w := by
  unfold checkHeartbeat
  split_ifs with hready
  · refine wp_bind_returns (wp_free_tracks (.effect (.lastSeen n.1)) hw) fun lastSeen w hw => ?_
    dsimp only
    split_ifs with hrecent
    · exact hw
    · refine wp_bind_returns (wp_pubkey hw n.1) ?_
      rintro wgPubkey w ⟨hw, hkey⟩
      refine wp_bind_returns (wp_propose_nodeDown hw n.1) ?_
      rintro r w' ⟨hw', hkeys, hdown⟩
      cases r with
      | error => exact hw'
      | ok response =>
        refine wp_bind_returns (wp_removeMeshPeer_tracks hw' (hdown response rfl) wireguard
          fun pubkey h => (hkeys n.1).trans (hkey pubkey h)) fun _ w hw => ?_
        exact wp_free_tracks (only_markNodeAllocsFailed .nodeAllocs .allocStatus n.2.1 _) hw
  · exact hw

lemma wp_checkHeartbeats_tracks (wireguard : Bool) (heartbeatTimeout : Nat)
    (nodeDiscovered : Instants) (restartBackoff : RestartBackoff) :
    (checkHeartbeats wireguard heartbeatTimeout nodeDiscovered restartBackoff).wp
      (peerSpec.beside Beside) (Returns fun _ w' => Tracks prev w') w := by
  refine wp_bind_returns (wp_free_tracks (.effect .now) hw) fun now w hw => ?_
  refine wp_bind_returns (wp_free_tracks (.effect .nodes) hw) fun nodes w hw => ?_
  refine wp_bind_returns (wp_free_tracks (.effect (.visitDiscovered _)) hw) fun order w hw => ?_
  refine wp_bind_returns (wp_free_tracks (.foldEach (fun _ raftId _ => ?_) _) hw) fun _ w hw => ?_
  · exact .effect (.untrack raftId)
  refine wp_bind_returns (wp_foldEach_returns (fun _ _ w => Tracks prev w) ?_ hw) fun _ w hw => hw
  intro n _ acc w hw
  exact wp_checkHeartbeat_tracks hw wireguard heartbeatTimeout now _ acc n

end

/-- Between the two reads: what was removed is there, is about to be put back, or belongs
to a node that was not Ready when the recovered nodes were read and is not Ready now. -/
structure Restores (pending : List PeerInfo) (w : PeerWorld) : Prop where
  keyed : w.fsm.NodesKeyed
  distinct : ∀ k k' pubkey, w.fsm.keyAt k = some pubkey → w.fsm.keyAt k' = some pubkey → k = k'
  busy : w.between = true
  accounted : ∀ k pubkey, w.fsm.keyAt k = some pubkey → pubkey ∈ w.removed → pubkey ∈ w.peers ∨
    pubkey ∈ pending.map PeerInfo.publicKey ∨ k ∈ w.downed ∧ w.fsm.statuses.lookup k ≠ some .ready

lemma Restores.beside {pending : List PeerInfo} (hw : Restores pending w) (h : Beside w w') :
    Restores pending w' := by
  obtain ⟨hkeyed, hdistinct, hbusy, haccounted⟩ := hw
  obtain ⟨_, _, _, _, _, _, _, hrevived, _⟩ := h
  constructor <;> grind

lemma wp_recovered (hw : Tracks prev w) : (watch (.recovered prev)).wp (peerSpec.beside Beside)
      (Returns fun recovered w' => Restores recovered w') w := by
  refine wp_watch_beside (by simp) ?_
  rintro w₁ r w'' hbefore ⟨_, w₂, hans, rfl⟩
  have hw₁ := hw.beside hbefore
  cases hans with
  | recovered prev order horder =>
    refine ⟨hw₁.keyed, hw₁.distinct, rfl, fun k pubkey (hk : w₁.fsm.keyAt k = some pubkey)
      hremoved => ?_⟩
    rcases hw₁.tracked k pubkey hk hremoved with hpeer | ⟨hdowned, hor⟩
    · exact .inl hpeer
    by_cases hready : w₁.fsm.statuses.lookup k = some .ready
    · -- the comparison sees the node Down before and Ready now
      have hprev : prev.lookup k = some .down := hw₁.prev_eq ▸ hor.resolve_left (not_not.mpr hready)
      obtain ⟨n, hn, hkey⟩ := Option.bind_eq_some_iff.mp hk
      rw [FsmState.lookup_statuses, hn, Option.map_some, Option.some.injEq] at hready
      have hid : n.raftId = k := hw₁.keyed k n hn
      have hmem : n ∈ order := by
        rw [← Multiset.mem_coe, ← horder]
        exact Finmap.mem_values.mpr ⟨k, hn⟩
      have hpeer : n.recoveredPeer prev = some ⟨n.millId, pubkey, none, n.address.ip⟩ := by
        rw [FsmNode.recoveredPeer, hid, if_pos ⟨hprev, hready⟩, hkey, Option.map_some]
      refine .inr (.inl (List.mem_map.mpr ⟨_, List.mem_filterMap.mpr ⟨n, hmem, hpeer⟩, rfl⟩))
    · exact .inr (.inr ⟨hdowned, hready⟩)

lemma wp_addPeer {peer : PeerInfo} {pending : List PeerInfo} (hw : Restores (peer :: pending) w) :
    (watch (.addPeer peer)).wp (peerSpec.beside Beside)
      (Returns fun _ w' => Restores pending w') w := by
  refine wp_watch_beside (by simp) ?_
  rintro w₁ r w'' hbefore ⟨hmesh, w₂, hans, rfl⟩
  have hw₁ := hw.beside hbefore
  cases hans with
  | notAdded => cases hmesh
  | added =>
    have haccounted := hw₁.accounted
    refine ⟨hw₁.keyed, hw₁.distinct, hw₁.busy, ?_⟩
    grind [PeerWorld.after, Finmap.mem_insert]

lemma wp_snapshotStatuses (hw : Restores [] w) : snapshotStatuses.wp (peerSpec.beside Beside)
      (Returns fun prev w' => Tracks prev w' ∧ w'.AllPresent) w := by
  refine wp_bind_returns (wp_watch_beside (I := fun (nodes : List (Nat × NodeStatus)) w' =>
    Tracks (nodes.foldl (fun m n => m.insert n.1 n.2) ∅) w' ∧ w'.AllPresent) (by simp) ?_)
    fun _ _ h => h
  rintro w₁ r w'' hbefore ⟨_, w₂, hans, rfl⟩
  have hw₁ := hw.beside hbefore
  have haccounted := hw₁.accounted
  cases hans with
  | statuses =>
    refine ⟨⟨hw₁.keyed, hw₁.distinct, rfl, rfl, ?_⟩, ?_⟩ <;>
      grind [PeerWorld.after, PeerWorld.AllPresent]

lemma wp_reconcileWireguardPeers (hw : Tracks prev w) :
    (reconcileWireguardPeers true prev).wp (peerSpec.beside Beside)
      (Returns fun prev w' => Tracks prev w' ∧ w'.AllPresent) w := by
  refine wp_bind_returns (wp_recovered hw) fun recovered w hw => ?_
  refine wp_bind_returns (wp_foldEach_returns (fun pending _ w => Restores pending w) ?_ hw)
    fun _ w hw => wp_snapshotStatuses hw
  intro peer pending _ w hw
  exact wp_bind_returns (wp_addPeer hw) fun _ _ h => h

lemma Beside.allPresent (h : Beside w w') (hw : w.changed = false → w.AllPresent)
    (hquiet : w'.changed = false) : w'.AllPresent := by
  obtain ⟨hstart, hsame⟩ := h.quiet hquiet
  intro k pubkey hready hk hremoved
  rw [h.peers]
  exact hw hstart k pubkey (hsame ▸ hready) (h.keys k ▸ hk) (h.removed ▸ hremoved)

lemma wp_afterHeartbeats_tracks (hw : Tracks prev w) (r : Instants × RestartBackoff) :
    (afterHeartbeats true prev r).wp (peerSpec.beside Beside) (Returns fun st w' =>
        Tracks st.prevStatuses w' ∧ (w'.changed = false → w'.AllPresent)) w := by
  refine wp_bind_returns (wp_reconcileWireguardPeers hw) ?_
  rintro prev' w ⟨hw, hpresent⟩
  refine wp_bind_returns (wp_statusFree (.effect .now)) fun now w₁ hw₁ => ?_
  refine wp_bind_returns (wp_statusFree ((only_checkServiceRestarts now r.2).lift
    fun e he => .restart he)) fun restartBackoff w₂ hw₂ => ?_
  have hbeside : Beside w w₂ := hw₁.trans hw₂
  exact ⟨hw.beside hbeside, hbeside.allPresent fun _ => hpresent⟩

lemma wp_watchdogTick_tracks (heartbeatTimeout : Nat) {st : WatchdogState}
    (hw : Tracks st.prevStatuses w) :
    (watchdogTick true heartbeatTimeout st).wp (peerSpec.beside Beside)
      (Returns fun st' w' => Tracks st'.prevStatuses w' ∧
        (w'.changed = false → w'.AllPresent)) w := by
  refine wp_bind_returns (wp_checkHeartbeats_tracks hw true heartbeatTimeout st.nodeDiscovered
    st.restartBackoff) fun r w hw => ?_
  exact wp_afterHeartbeats_tracks hw r

lemma wp_spawnWatchdog (heartbeatTimeout ticks : Nat) {st : WatchdogState}
    (hw : Tracks st.prevStatuses w) (hpresent : w.changed = false → w.AllPresent) :
    (spawnWatchdog true heartbeatTimeout ticks st).wp (peerSpec.beside Beside)
      (fun _ _ => True) w := by
  induction ticks generalizing st w with
  | zero => trivial
  | succ ticks ih =>
    refine ⟨fun _ => hpresent, ?_⟩
    rintro now w'' ⟨w₁, hbefore, _, w₂, hans, rfl⟩
    have hw₁ := hw.beside hbefore
    cases hans with
    | coord e r w₃ hans =>
      cases hans with
      | tick =>
        have hw₂ : Tracks st.prevStatuses { w₁ with clock := now, changed := false } :=
          ⟨hw₁.keyed, hw₁.distinct, hw₁.prev_eq, hw₁.idle, hw₁.tracked⟩
        change (watchdogTick true heartbeatTimeout st >>=
          spawnWatchdog true heartbeatTimeout ticks).wp _ _ _
        refine wp_bind_returns (wp_watchdogTick_tracks heartbeatTimeout hw₂) ?_
        rintro st' w' ⟨hw', hpresent'⟩
        exact ih hw' hpresent'

end

def PeerWorld.start (w : WatchdogWorld) : PeerWorld :=
  { w with prev := ∅, between := false, downed := [], removed := [], changed := false }

/-- Between two ticks, and after a tick in which no status has changed, every Ready node whose
peer was removed has it back, if each revival is one that the comparison can see. -/
theorem wireguard_peers_follow_status {cmds : List Command} {w : WatchdogWorld}
    {heartbeatTimeout ticks : Nat} {es : List (WatchdogChoice ⊕ StatusEvent)}
    {w' : PeerWorld} {next : (WatchdogEffect.coord .tick).Answer → WatchdogAction Unit}
    (hw : w.fsm = applyAll default cmds)
    (hkeys : ∀ k k' pubkey, w.fsm.keyAt k = some pubkey → w.fsm.keyAt k' = some pubkey → k = k')
    (hseen : Guarded peerStep SeenDown
      (.start w, spawnWatchdog true heartbeatTimeout ticks default) es)
    (hrun : run peerStep (.start w, spawnWatchdog true heartbeatTimeout ticks default)
      es = some (w', .perform (.coord .tick) next))
    (hquiet : w'.changed = false) : w'.AllPresent := by
  have hkeyed : w.fsm.NodesKeyed := by
    rw [hw]
    exact nodesKeyed_applyAll cmds
  have hstart : Tracks (default : WatchdogState).prevStatuses (.start w) :=
    ⟨hkeyed, hkeys, rfl, rfl, fun _ _ _ h => nomatch h⟩
  have hloop := wp_spawnWatchdog heartbeatTimeout ticks hstart fun _ _ _ _ _ h => nomatch h
  have hpre {a b : PeerWorld} {e : WatchdogEffect} (hbeside : Beside a b)
      (h : peerSpec.pre a e) : peerSpec.pre b e := fun htick => hbeside.allPresent (h htick)
  have hrely (w : PeerWorld) (p : WatchdogAction Unit) (v : StatusEvent) (w' : PeerWorld)
      (hP : SeenDown (w, p) (.inr v)) (hout : some (w.outside v) = some w') :
      Beside w w' := by
    cases hout
    exact beside_of_seenDown hP
  have hleft := wp_of_run_beside (S := peerSpec) (P := SeenDown) Beside.refl Beside.trans hpre
    (fun _ _ => trivial) (fun w p e c r w' _ hans => PeerWorld.does_of_answer hans) hrely
    hloop hseen hrun
  exact hleft.1 rfl hquiet

def demoKeyed (status : NodeStatus) : FsmNode :=
  ⟨1, ⟨"n"⟩, ⟨.v4 0x0A630001, 4400⟩, ⟨4, 4, 8192, 8192⟩, status, some "key", none, none, none⟩

def demoMesh : WatchdogWorld :=
  { fsm := applyAll default [.nodeRegister 1 ⟨"n"⟩ ⟨.v4 0x0A630001, 4400⟩ ⟨4, 4, 8192, 8192⟩
      (some "key") none none none]
    sent := [], cloud := [], clock := 0, tracker := ∅
    peers := Finmap.singleton "key" ⟨⟨"n"⟩, "key", none, .v4 0x0A630001⟩ }

def demoLook (now : Nat) : List (WatchdogChoice ⊕ StatusEvent) :=
  [.inl (.coord (.time now)), .inl (.time now), .inl (.nodes [demoKeyed .ready]),
    .inl (.discovered [⟨1, 0⟩]), .inl .proceed]

def demoMarkDown : List (WatchdogChoice ⊕ StatusEvent) :=
  [.inl .proceed, .inl (.coord .proceed), .inl .proceed, .inl (.allocs [])]

def demoRest (now : Nat) (n : FsmNode) (adds : Nat) : List (WatchdogChoice ⊕ StatusEvent) :=
  [.inl (.nodes [n])] ++ List.replicate adds (.inl .proceed) ++
    [.inl (.nodes [n]), .inl (.time now), .inl (.coord (.order [n] [] [])),
      .inl (.coord (.services []))]

def demoRevive : List (WatchdogChoice ⊕ StatusEvent) :=
  [.inr (.record 1), .inr (.heartbeat 1 ∅)]

def demoPeer (s : PeerWorld × WatchdogAction Unit) : Bool :=
  match s.2 with
  | .perform (.coord .tick) _ => !s.1.changed &&
      decide (s.1.fsm.statuses.lookup 1 = some .ready ∧ s.1.fsm.keyAt 1 = some "key" ∧
        "key" ∈ s.1.removed)
  | _ => false

lemma of_demoPeer {s : PeerWorld × WatchdogAction Unit} (h : demoPeer s = true) :
    (∃ next, s.2 = .perform (.coord .tick) next) ∧ s.1.changed = false ∧
      s.1.fsm.statuses.lookup 1 = some .ready ∧ s.1.fsm.keyAt 1 = some "key" ∧
        "key" ∈ s.1.removed := by
  unfold demoPeer at h
  split at h
  · rename_i next htick
    rw [Bool.and_eq_true, Bool.not_eq_true', decide_eq_true_eq] at h
    exact ⟨⟨next, htick⟩, h⟩
  · cases h

theorem wireguard_peers_follow_status_noticed :
    ∃ w' next, run peerStep (.start demoMesh, spawnWatchdog true 10 4 default)
        (demoLook 0 ++ demoRest 0 (demoKeyed .ready) 0 ++ demoLook 20 ++ demoMarkDown ++
          demoRest 20 (demoKeyed .down) 0 ++ demoRevive ++ demoLook 21 ++
          demoRest 21 (demoKeyed .ready) 1) = some (w', .perform (.coord .tick) next) ∧
      "key" ∈ w'.removed ∧ "key" ∈ w'.peers := by
  have hrun : (run peerStep (.start demoMesh, spawnWatchdog true 10 4 default)
      (demoLook 0 ++ demoRest 0 (demoKeyed .ready) 0 ++ demoLook 20 ++ demoMarkDown ++
        demoRest 20 (demoKeyed .down) 0 ++ demoRevive ++ demoLook 21 ++
        demoRest 21 (demoKeyed .ready) 1)).map demoPeer = some true := by decide +kernel
  obtain ⟨⟨w', p'⟩, hs, hend⟩ := Option.map_eq_some_iff.mp hrun
  obtain ⟨⟨next, rfl⟩, hquiet, hready, hkey, hremoved⟩ := of_demoPeer hend
  have hkeys : ∀ k k' pubkey, demoMesh.fsm.keyAt k = some pubkey →
      demoMesh.fsm.keyAt k' = some pubkey → k = k' := by
    have hone (k : Nat) (pubkey : String) (h : demoMesh.fsm.keyAt k = some pubkey) : k = 1 := by
      obtain ⟨n, hn, _⟩ := Option.bind_eq_some_iff.mp h
      exact (Finmap.of_lookup_singleton hn).1
    intro k k' pubkey hk hk'
    rw [hone k pubkey hk, hone k' pubkey hk']
  have hall := wireguard_peers_follow_status rfl hkeys (by decide +kernel) hs hquiet
  exact ⟨w', next, hs, hremoved, hall 1 "key" hready hkey hremoved⟩

/-- The node is revived in the tick that marks it down, before the snapshot: no later
comparison sees it Down. -/
theorem wireguard_peer_stays_removed :
    ∃ w' next, run peerStep (.start demoMesh, spawnWatchdog true 10 4 default)
        (demoLook 0 ++ demoRest 0 (demoKeyed .ready) 0 ++ demoLook 20 ++ demoMarkDown ++
          demoRevive ++ demoRest 20 (demoKeyed .ready) 0 ++ demoLook 21 ++
          demoRest 21 (demoKeyed .ready) 0) = some (w', .perform (.coord .tick) next) ∧
      w'.changed = false ∧ w'.fsm.statuses.lookup 1 = some .ready ∧
      w'.fsm.keyAt 1 = some "key" ∧ "key" ∈ w'.removed ∧ "key" ∉ w'.peers := by
  have hrun : (run peerStep (.start demoMesh, spawnWatchdog true 10 4 default)
      (demoLook 0 ++ demoRest 0 (demoKeyed .ready) 0 ++ demoLook 20 ++ demoMarkDown ++
        demoRevive ++ demoRest 20 (demoKeyed .ready) 0 ++ demoLook 21 ++
        demoRest 21 (demoKeyed .ready) 0)).map
          (fun s => (demoPeer s, decide ("key" ∈ s.1.peers))) = some (true, false) := by
    decide +kernel
  obtain ⟨⟨w', p'⟩, hs, hend⟩ := Option.map_eq_some_iff.mp hrun
  obtain ⟨hpeer, hgone⟩ := Prod.mk.inj hend
  obtain ⟨⟨next, rfl⟩, hquiet, hready, hkey, hremoved⟩ := of_demoPeer hpeer
  exact ⟨w', next, hs, hquiet, hready, hkey, hremoved, of_decide_eq_false hgone⟩

end Mill
