import Mill.Node.Capacity

/-! References to nodes. -/

namespace Mill

open Finmap

namespace FsmState

variable {s : FsmState} {c : Command} {m : NodeId} {id : Nat}

def millIdAt (s : FsmState) (id : Nat) : Option NodeId :=
  (s.nodes.lookup id).map FsmNode.millId

def registered (s : FsmState) (m : NodeId) : Bool := s.nodes.any fun _ n => n.millId == m

def elsewhere (s : FsmState) (id : Nat) (m : NodeId) : Bool :=
  s.nodes.any fun k n => k != id && n.millId == m

/-- `NodeRemove` is refused: there are live allocations on the node. -/
def busy (s : FsmState) (id : Nat) : Bool :=
  (s.nodes.lookup id).any fun n => s.allocs.any fun _ a => counts n.millId a

lemma registered_iff : s.registered m = true ↔ ∃ k, s.millIdAt k = some m := by
  simp only [registered, any_eq_true, beq_iff_eq, millIdAt, Option.map_eq_some_iff]

lemma elsewhere_iff : s.elsewhere id m = true ↔ ∃ k, k ≠ id ∧ s.millIdAt k = some m := by
  simp only [elsewhere, any_eq_true, Bool.and_eq_true, bne_iff_ne, beq_iff_eq, millIdAt,
    Option.map_eq_some_iff]
  constructor
  · rintro ⟨k, n, hn, hk, hm⟩
    exact ⟨k, hk, n, hn, hm⟩
  · rintro ⟨k, hk, n, hn, hm⟩
    exact ⟨k, n, hn, hk, hm⟩

def millIdAfter (s : FsmState) (k : Nat) : Command → Option NodeId
  | .nodeRegister id millId .. => if k = id then some millId else s.millIdAt k
  | .nodeRemove id => if k = id ∧ s.busy id = false then none else s.millIdAt k
  | _ => s.millIdAt k

lemma millIdAt_applyCommand (s : FsmState) (c : Command) (k : Nat) :
    (applyCommand s c).1.millIdAt k = s.millIdAfter k c := by
  have hkept {c : Command} (hc : ∀ millId address resources pubkey instanceId rpcAddress
      advertiseAddr, c ≠ .nodeRegister k millId address resources pubkey instanceId rpcAddress
        advertiseAddr) (hremove : c ≠ .nodeRemove k) :
      (nodeAfter s k c).map FsmNode.millId = s.millIdAt k := by
    obtain ⟨f, hf⟩ := (nodeAfter_eq (s := s) hc).resolve_right fun h => hremove h.1
    rw [hf, Option.map_map]
    rfl
  rw [millIdAt, lookup_nodes_applyCommand]
  cases c with
  | nodeRegister =>
    simp only [nodeAfter, millIdAfter]
    split_ifs <;> rfl
  | nodeRemove id =>
    cases hn : s.nodes.lookup id with
    | none =>
      simp only [nodeAfter, millIdAfter, busy, hn, Option.any_none, and_true]
      split_ifs with hk
      · rw [hk, hn, Option.map_none]
      · rfl
    | some n =>
      simp only [nodeAfter, millIdAfter, busy, hn, Option.any_some, counts]
      by_cases hbusy : (s.allocs.any fun _ a => a.node == n.millId && !a.status.isTerminal) = true
      · rw [if_pos hbusy, if_neg fun h => by rw [h.2] at hbusy; cases hbusy]
        rfl
      · rw [if_neg hbusy, Bool.not_eq_true] at *
        simp only [hbusy, and_true]
        split_ifs <;> rfl
  | _ => exact hkept (by simp) (by simp)

lemma registered_nodeRegister {millId : NodeId} {address : SocketAddr}
    {resources : NodeResources} {pubkey instanceId : Option String}
    {rpcAddress : Option SocketAddr} {advertiseAddr : Option String} :
    (applyCommand s (.nodeRegister id millId address resources pubkey instanceId rpcAddress
      advertiseAddr)).1.registered m = true ↔ m = millId ∨ s.elsewhere id m = true := by
  simp only [registered_iff, elsewhere_iff, millIdAt_applyCommand, millIdAfter]
  constructor
  · rintro ⟨k, hk⟩
    split_ifs at hk with hid
    · cases hk
      exact .inl rfl
    · exact .inr ⟨k, hid, hk⟩
  · rintro (rfl | ⟨k, hid, hk⟩)
    · exact ⟨id, if_pos rfl⟩
    · exact ⟨k, (if_neg hid).trans hk⟩

lemma registered_nodeRemove : (applyCommand s (.nodeRemove id)).1.registered m = true ↔
      (s.busy id = true ∧ s.registered m = true) ∨ s.elsewhere id m = true := by
  simp only [registered_iff, elsewhere_iff, millIdAt_applyCommand, millIdAfter]
  cases hbusy : s.busy id with
  | true =>
    simp only [reduceCtorEq, and_false, if_false, true_and]
    exact ⟨.inl, fun h => h.elim (fun h => h) fun ⟨k, _, hk⟩ => ⟨k, hk⟩⟩
  | false =>
    simp only [and_true, reduceCtorEq, false_and, false_or]
    constructor
    · rintro ⟨k, hk⟩
      split_ifs at hk with hid
      exact ⟨k, hid, hk⟩
    · rintro ⟨k, hid, hk⟩
      exact ⟨k, (if_neg hid).trans hk⟩

lemma millIdAt_of_not_elsewhere (h : s.registered m = true)
    (hother : ¬ s.elsewhere id m = true) : s.millIdAt id = some m := by
  obtain ⟨k, hk⟩ := registered_iff.mp h
  by_cases hid : k = id
  · rw [← hid]
    exact hk
  · exact absurd (elsewhere_iff.mpr ⟨k, hid, hk⟩) hother

lemma registered_applyCommand
    (hreg : ∀ id millId address resources pubkey instanceId rpcAddress advertiseAddr,
      c ≠ .nodeRegister id millId address resources pubkey instanceId rpcAddress advertiseAddr)
    (hrem : ∀ id, c ≠ .nodeRemove id) (m : NodeId) :
    (applyCommand s c).1.registered m = s.registered m := by
  have hsame : ∀ k, s.millIdAfter k c = s.millIdAt k := by
    intro k
    cases c with
    | nodeRegister id millId address resources pubkey instanceId rpcAddress advertiseAddr =>
      exact absurd rfl (hreg id millId address resources pubkey instanceId rpcAddress advertiseAddr)
    | nodeRemove id => exact absurd rfl (hrem id)
    | _ => rfl
  rw [Bool.eq_iff_iff, registered_iff, registered_iff]
  simp only [millIdAt_applyCommand, hsame]

def LiveRegistered (s : FsmState) : Prop :=
  ∀ i a, s.allocs.lookup i = some a → a.status.isTerminal = false → s.registered a.node = true

def revivesStray (s : FsmState) (i : AllocId) (status : AllocStatus) : Bool :=
  s.revives i status && (s.allocs.lookup i).any fun a => !s.registered a.node

def KeepsAllocNodes (s : FsmState) : Command → Prop
  | .nodeRegister id millId .. =>
    ∀ old ∈ s.millIdAt id, old = millId ∨ s.elsewhere id old = true ∨
      (s.allocs.any fun _ a => counts old a) = false
  | .nodeHeartbeat id allocStatuses =>
    id ∈ s.nodes → (allocStatuses.any fun i status => s.revivesStray i status) = false
  | .allocStatus allocId status => s.revivesStray allocId status = false
  | _ => True

instance (s : FsmState) : DecidablePred s.KeepsAllocNodes
  | .nodeRegister .. => inferInstanceAs (Decidable (∀ old ∈ _, _ ∨ _ ∨ _))
  | .nodeHeartbeat .. => inferInstanceAs (Decidable (_ ∈ _ → _))
  | .allocStatus .. => inferInstanceAs (Decidable (_ = false))
  | .deploy _ | .nodeDown _ | .nodeDrain _ | .nodeRemove _ | .allocScheduled ..
  | .allocRunning .. | .secretSet .. | .secretDelete _ | .volumeCreated ..
  | .volumeAttached .. | .volumeDetached _ | .volumeDestroyed _ => .isTrue trivial

lemma revivesStray_iff {i : AllocId} {status : AllocStatus} :
    s.revivesStray i status = true ↔ ∃ a, s.allocs.lookup i = some a ∧
      a.status.isTerminal = true ∧ status.isTerminal = false ∧ s.registered a.node = false := by
  cases ha : s.allocs.lookup i with
  | none => simp [revivesStray, revives, ha]
  | some => simp [revivesStray, revives, ha, and_assoc, and_left_comm]

lemma revivesStray_eq_false {i : AllocId} {status : AllocStatus} :
    s.revivesStray i status = false ↔ ∀ a, s.allocs.lookup i = some a →
      a.status.isTerminal = true → status.isTerminal = false → s.registered a.node = true := by
  rw [← Bool.not_eq_true, revivesStray_iff]
  constructor
  · intro h a ha ht hlive
    by_contra hstray
    exact h ⟨a, ha, ht, hlive, Bool.eq_false_iff.mpr hstray⟩
  · rintro h ⟨a, ha, ht, hlive, hstray⟩
    rw [h a ha ht hlive] at hstray
    cases hstray

lemma counts_iff {a : Alloc} : counts m a = true ↔ a.node = m ∧ a.status.isTerminal = false := by
  simp [counts]

lemma liveRegistered_nodeRegister_iff (h : s.LiveRegistered) {millId : NodeId}
    {address : SocketAddr} {resources : NodeResources} {pubkey instanceId : Option String}
    {rpcAddress : Option SocketAddr} {advertiseAddr : Option String} :
    (applyCommand s (.nodeRegister id millId address resources pubkey instanceId rpcAddress
      advertiseAddr)).1.LiveRegistered ↔
      s.KeepsAllocNodes (.nodeRegister id millId address resources pubkey instanceId rpcAddress
        advertiseAddr) := by
  constructor
  · intro hafter old hold
    by_contra hnot
    simp only [not_or, Bool.not_eq_false, any_eq_true] at hnot
    obtain ⟨hne, hother, i, a, ha, hcounts⟩ := hnot
    obtain ⟨rfl, hlive⟩ := counts_iff.mp hcounts
    have hreg := hafter i a ha hlive
    rw [registered_nodeRegister] at hreg
    exact hreg.elim hne hother
  · intro hc i a ha hlive
    have ha' : s.allocs.lookup i = some a := ha
    rw [registered_nodeRegister]
    by_contra hnot
    rw [not_or] at hnot
    have hold := millIdAt_of_not_elsewhere (h i a ha' hlive) hnot.2
    rcases hc a.node hold with heq | hother | hidle
    · exact hnot.1 heq
    · exact hnot.2 hother
    · have := any_eq_false.mp hidle i a ha'
      rw [counts_iff.mpr ⟨rfl, hlive⟩] at this
      cases this

lemma liveRegistered_nodeRemove (h : s.LiveRegistered) (id : Nat) :
    (applyCommand s (.nodeRemove id)).1.LiveRegistered := by
  intro i a ha hlive
  rw [lookup_allocs_applyCommand] at ha
  rw [registered_nodeRemove]
  have hb : s.allocs.lookup i = some a := by
    rcases allocAfter_nodeRemove s i id with hsame | hgone
    · rw [← hsame]
      exact ha
    · rw [hgone] at ha
      cases ha
  have hreg := h i a hb hlive
  by_contra hnot
  rw [not_or, not_and] at hnot
  obtain ⟨n, hn, hmill⟩ :=
    Option.map_eq_some_iff.mp (millIdAt_of_not_elsewhere hreg hnot.2)
  -- the node holds the allocation, so it is busy and stays
  have hbusy : s.busy id = true := by
    rw [busy, hn, Option.any_some]
    exact any_eq_true.mpr ⟨i, a, hb, counts_iff.mpr ⟨hmill.symm, hlive⟩⟩
  exact hnot.1 hbusy hreg

lemma liveRegistered_map_iff (h : s.LiveRegistered)
    (hreg : ∀ m, (applyCommand s c).1.registered m = s.registered m)
    {f : AllocId → Alloc → Alloc} (hf : ∀ i, allocAfter s i c = (s.allocs.lookup i).map (f i))
    (hnode : ∀ i a, (f i a).node = a.node) :
    (applyCommand s c).1.LiveRegistered ↔ ∀ i a, s.allocs.lookup i = some a →
      a.status.isTerminal = true → (f i a).status.isTerminal = false →
        s.registered a.node = true := by
  constructor
  · intro hafter i a ha _ hlive
    have hfa : (applyCommand s c).1.allocs.lookup i = some (f i a) := by
      rw [lookup_allocs_applyCommand, hf, ha, Option.map_some]
    have hr := hafter i (f i a) hfa hlive
    rwa [hreg, hnode] at hr
  · intro hc i b hb hlive
    rw [lookup_allocs_applyCommand, hf] at hb
    obtain ⟨a, ha, rfl⟩ := Option.map_eq_some_iff.mp hb
    rw [hreg, hnode]
    cases ht : a.status.isTerminal with
    | true => exact hc i a ha ht hlive
    | false => exact h i a ha ht

lemma liveRegistered_of_map (h : s.LiveRegistered)
    (hreg : ∀ m, (applyCommand s c).1.registered m = s.registered m)
    {f : AllocId → Alloc → Alloc} (hf : ∀ i, allocAfter s i c = (s.allocs.lookup i).map (f i))
    (hnode : ∀ i a, (f i a).node = a.node)
    (hterminal : ∀ i a, a.status.isTerminal = true → (f i a).status.isTerminal = true) :
    (applyCommand s c).1.LiveRegistered := by
  refine (liveRegistered_map_iff h hreg hf hnode).mpr fun i a _ ht hlive => ?_
  rw [hterminal i a ht] at hlive
  cases hlive

lemma liveRegistered_nodeHeartbeat_iff (h : s.LiveRegistered)
    {allocStatuses : Finmap fun _ : AllocId => AllocStatus} :
    (applyCommand s (.nodeHeartbeat id allocStatuses)).1.LiveRegistered ↔
      s.KeepsAllocNodes (.nodeHeartbeat id allocStatuses) := by
  have hreg := registered_applyCommand (s := s) (c := .nodeHeartbeat id allocStatuses)
    (fun _ _ _ _ _ _ _ _ => Command.noConfusion) (fun _ => Command.noConfusion)
  by_cases hid : id ∈ s.nodes
  · have hf : ∀ i, allocAfter s i (.nodeHeartbeat id allocStatuses) =
        (s.allocs.lookup i).map (Alloc.report allocStatuses i) := fun i => if_pos hid
    have hnode : ∀ i a, (Alloc.report allocStatuses i a).node = a.node := by
      intro i a
      rw [report_eq]
    rw [liveRegistered_map_iff h hreg hf hnode]
    simp only [KeepsAllocNodes, hid, true_imp_iff, any_eq_false, revivesStray_eq_false]
    constructor
    · intro hc i status hst a ha ht hlive
      refine hc i a ha ht ?_
      rw [report_status_of_terminal ht, hst]
      exact hlive
    · intro hc i a ha ht hlive
      rw [report_status_of_terminal ht] at hlive
      cases hst : allocStatuses.lookup i with
      | none =>
        rw [hst, Option.getD_none, ht] at hlive
        cases hlive
      | some status =>
        rw [hst] at hlive
        exact hc i status hst a ha ht hlive
  · refine iff_of_true ?_ fun hmem => absurd hmem hid
    refine liveRegistered_of_map h hreg (f := fun _ a => a) (fun i => ?_) (fun _ _ => rfl)
      fun _ _ ht => ht
    rw [Option.map_id']
    exact if_neg hid

lemma liveRegistered_allocStatus_iff (h : s.LiveRegistered) {allocId : AllocId}
    {status : AllocStatus} :
    (applyCommand s (.allocStatus allocId status)).1.LiveRegistered ↔
      s.KeepsAllocNodes (.allocStatus allocId status) := by
  have hreg := registered_applyCommand (s := s) (c := .allocStatus allocId status)
    (fun _ _ _ _ _ _ _ _ => Command.noConfusion) (fun _ => Command.noConfusion)
  have hf : ∀ i, allocAfter s i (.allocStatus allocId status) =
      (s.allocs.lookup i).map fun a => if i = allocId then { a with status } else a := by
    intro i
    simp only [allocAfter]
    split_ifs
    · rfl
    · exact Option.map_id'.symm
  have hnode : ∀ (i : AllocId) (a : Alloc),
      (if i = allocId then { a with status } else a).node = a.node := by
    intro i a
    split_ifs <;> rfl
  rw [liveRegistered_map_iff h hreg hf hnode, KeepsAllocNodes, revivesStray_eq_false]
  constructor
  · intro hc a ha ht hlive
    exact hc allocId a ha ht (by rw [if_pos rfl]; exact hlive)
  · intro hc i a ha ht hlive
    split_ifs at hlive with hi
    · exact hc a (hi ▸ ha) ht hlive
    · rw [ht] at hlive
      cases hlive

lemma liveRegistered_allocScheduled (h : s.LiveRegistered) (allocId : AllocId) (nodeId : Nat)
    (name : String) (kind : AllocKind) (address : Option SocketAddr) (resources : AllocResources) :
    (applyCommand s (.allocScheduled allocId nodeId name kind address
      resources)).1.LiveRegistered := by
  have hreg := registered_applyCommand (s := s)
    (c := .allocScheduled allocId nodeId name kind address resources)
    (fun _ _ _ _ _ _ _ _ => Command.noConfusion) (fun _ => Command.noConfusion)
  intro i a ha hlive
  rw [hreg]
  rw [lookup_allocs_applyCommand] at ha
  cases hn : s.nodes.lookup nodeId with
  | none =>
    simp only [allocAfter, hn] at ha
    exact h i a ha hlive
  | some =>
    simp only [allocAfter, hn] at ha
    split_ifs at ha
    · cases ha
      exact registered_iff.mpr ⟨nodeId, by rw [millIdAt, hn]; rfl⟩
    · exact h i a ha hlive

lemma liveRegistered_applyCommand_iff (h : s.LiveRegistered) (c : Command) :
    (applyCommand s c).1.LiveRegistered ↔ s.KeepsAllocNodes c := by
  have hother (hreg : ∀ m, (applyCommand s c).1.registered m = s.registered m)
      (hf : ∀ i, allocAfter s i c = s.allocs.lookup i) : (applyCommand s c).1.LiveRegistered := by
    refine liveRegistered_of_map h hreg (f := fun _ a => a) (fun i => ?_) (fun _ _ => rfl)
      fun _ _ ht => ht
    rw [Option.map_id']
    exact hf i
  cases c with
  | nodeRegister =>
    exact liveRegistered_nodeRegister_iff h
  | nodeHeartbeat => exact liveRegistered_nodeHeartbeat_iff h
  | allocStatus => exact liveRegistered_allocStatus_iff h
  | nodeRemove id => exact iff_of_true (liveRegistered_nodeRemove h id) trivial
  | allocScheduled =>
    exact iff_of_true (liveRegistered_allocScheduled h _ _ _ _ _ _) trivial
  | allocRunning allocId address startedAt =>
    refine iff_of_true ?_ trivial
    refine liveRegistered_of_map h (registered_applyCommand
      (fun _ _ _ _ _ _ _ _ => Command.noConfusion) (fun _ => Command.noConfusion))
      (f := fun i a => if i = allocId then a.run address startedAt else a) (fun i => ?_)
      (fun i a => ?_) fun i a ht => ?_
    · simp only [allocAfter]
      split_ifs
      · rfl
      · exact Option.map_id'.symm
    · split_ifs
      · rw [run_eq]
      · rfl
    · rw [run_of_terminal ht, ite_self]
      exact ht
  | _ =>
    exact iff_of_true (hother (registered_applyCommand
      (fun _ _ _ _ _ _ _ _ => Command.noConfusion) (fun _ => Command.noConfusion))
      fun _ => rfl) trivial

lemma liveRegistered_default : LiveRegistered default := by
  intro i a ha
  cases ha

/-- In every state that a log of commands passes through, the live allocations name
registered nodes, exactly if every command of the log meets the condition. -/
theorem live_allocs_registered_iff (cs : List Command) :
    (∀ ds, ds <+: cs → LiveRegistered (applyAll default ds)) ↔
      Transition.Guarded fsmStep KeepsAllocNodes default cs :=
  (guarded_fsmStep_iff (I := LiveRegistered) (fun _ c hs => liveRegistered_applyCommand_iff hs c)
    liveRegistered_default cs).symm

def demoReRegister (name : String) : List Command :=
  [.demoRegister 1 "node-1", .allocScheduled ⟨"web-0"⟩ 1 "web" .service none ⟨1, 256⟩,
    .demoRegister 1 name]

theorem live_allocs_registered_same_node :
    ∀ ds, ds <+: demoReRegister "node-1" → LiveRegistered (applyAll default ds) :=
  (live_allocs_registered_iff (demoReRegister "node-1")).mpr (by decide +kernel)

/-- Under another mill id the registration leaves the allocation without a node. -/
theorem live_alloc_unregistered :
    ¬ LiveRegistered (applyAll default (demoReRegister "node-2")) := by
  intro h
  have hweb := h ⟨"web-0"⟩ (makeAlloc ⟨"web-0"⟩ ⟨"node-1"⟩ "web" .service none ⟨1, 256⟩) rfl rfl
  exact absurd hweb (by decide +kernel)

def VolumesRegistered (s : FsmState) : Prop :=
  ∀ v vol m, s.volumes.lookup v = some vol → vol.state = .attached m → s.registered m = true

def attachedTo (s : FsmState) (m : NodeId) : Bool :=
  s.volumes.any fun _ vol => vol.state == .attached m

def KeepsVolumeNodes (s : FsmState) : Command → Prop
  | .nodeRegister id millId .. =>
    ∀ old ∈ s.millIdAt id, old = millId ∨ s.elsewhere id old = true ∨ s.attachedTo old = false
  | .nodeRemove id =>
    ∀ old ∈ s.millIdAt id, s.busy id = true ∨ s.elsewhere id old = true ∨ s.attachedTo old = false
  | _ => True

instance (s : FsmState) : DecidablePred s.KeepsVolumeNodes
  | .nodeRegister .. | .nodeRemove _ => inferInstanceAs (Decidable (∀ old ∈ _, _ ∨ _ ∨ _))
  | .deploy _ | .nodeHeartbeat .. | .nodeDown _ | .nodeDrain _ | .allocScheduled ..
  | .allocStatus .. | .allocRunning .. | .secretSet .. | .secretDelete _ | .volumeCreated ..
  | .volumeAttached .. | .volumeDetached _ | .volumeDestroyed _ => .isTrue trivial

lemma attachedTo_eq_false : s.attachedTo m = false ↔
    ∀ v vol, s.volumes.lookup v = some vol → vol.state ≠ .attached m := by
  simp only [attachedTo, any_eq_false, beq_eq_false_iff_ne]

lemma volumesRegistered_iff_of_lost (id : Nat) (h : s.VolumesRegistered)
    (hvolumes : (applyCommand s c).1.volumes = s.volumes) {kept : NodeId → Prop}
    (hkept : ∀ m, (applyCommand s c).1.registered m = true ↔ kept m ∨ s.elsewhere id m = true) :
    (applyCommand s c).1.VolumesRegistered ↔
      ∀ old ∈ s.millIdAt id, kept old ∨ s.elsewhere id old = true ∨ s.attachedTo old = false := by
  constructor
  · intro hafter old _
    by_contra hnot
    simp only [not_or, Bool.not_eq_false] at hnot
    obtain ⟨hlost, hother, hvol⟩ := hnot
    obtain ⟨v, vol, hv, hstate⟩ := any_eq_true.mp hvol
    rw [← hvolumes] at hv
    have hreg := hafter v vol old hv (beq_iff_eq.mp hstate)
    rw [hkept] at hreg
    exact hreg.elim hlost hother
  · intro hc v vol m hv hstate
    rw [hvolumes] at hv
    rw [hkept]
    by_contra hnot
    rw [not_or] at hnot
    have hold := millIdAt_of_not_elsewhere (h v vol m hv hstate) hnot.2
    rcases hc m hold with hkeep | hother | hnone
    · exact hnot.1 hkeep
    · exact hnot.2 hother
    · exact attachedTo_eq_false.mp hnone v vol hv hstate

lemma volumesRegistered_of_volumeAfter (h : s.VolumesRegistered)
    (hreg : ∀ m, (applyCommand s c).1.registered m = s.registered m) :
    (applyCommand s c).1.VolumesRegistered := by
  intro v vol m hv hstate
  rw [hreg]
  rw [lookup_volumes_applyCommand] at hv
  cases c with
  | volumeCreated =>
    simp only [volumeAfter] at hv
    split_ifs at hv
    · cases hv
      cases hstate
    · exact h v vol m hv hstate
  | volumeAttached name node =>
    cases hn : s.nodes.lookup node with
    | none =>
      simp only [volumeAfter, hn] at hv
      exact h v vol m hv hstate
    | some =>
      simp only [volumeAfter, hn] at hv
      split_ifs at hv
      · obtain ⟨old, _, rfl⟩ := Option.map_eq_some_iff.mp hv
        cases hstate
        exact registered_iff.mpr ⟨node, by rw [millIdAt, hn]; rfl⟩
      · exact h v vol m hv hstate
  | volumeDetached =>
    simp only [volumeAfter] at hv
    split_ifs at hv
    · obtain ⟨old, _, rfl⟩ := Option.map_eq_some_iff.mp hv
      cases hstate
    · exact h v vol m hv hstate
  | volumeDestroyed =>
    simp only [volumeAfter] at hv
    split_ifs at hv
    exact h v vol m hv hstate
  | _ => exact h v vol m hv hstate

lemma volumesRegistered_applyCommand_iff (h : s.VolumesRegistered) (c : Command) :
    (applyCommand s c).1.VolumesRegistered ↔ s.KeepsVolumeNodes c := by
  have hsame (hc : ∀ v, volumeAfter s v c = s.volumes.lookup v) :
      (applyCommand s c).1.volumes = s.volumes := by
    apply ext_lookup
    intro v
    rw [lookup_volumes_applyCommand, hc]
  cases c with
  | nodeRegister id =>
    exact volumesRegistered_iff_of_lost id h rfl fun m => registered_nodeRegister
  | nodeRemove id =>
    -- a busy node stays, so nothing is lost with it
    rw [volumesRegistered_iff_of_lost id h (hsame fun _ => rfl) fun m => registered_nodeRemove]
    refine forall₂_congr fun old hold => or_congr_left ?_
    exact and_iff_left (registered_iff.mpr ⟨id, hold⟩)
  | _ =>
    exact iff_of_true (volumesRegistered_of_volumeAfter h (registered_applyCommand
      (fun _ _ _ _ _ _ _ _ => Command.noConfusion) (fun _ => Command.noConfusion))) trivial

lemma volumesRegistered_default : VolumesRegistered default := by
  intro v vol m hv
  cases hv

lemma exists_schedule_iff {v : String} {vol : FsmVolume} (hv : s.volumes.lookup v = some vol)
    (hstate : vol.state = .attached m) {nodes : List FsmNode} (hnodes : s.nodes.values = nodes)
    {volumes : List (Σ _ : String, FsmVolume)} (hvolumes : s.volumes.entries = volumes)
    (need : Resources) (name : String) (allocs : List (NodeId × String × AllocKind)) :
    (∃ available, schedule ⟨need, name, .service, some v⟩ nodes allocs
      (volumes.map fun e => (e.1, e.2)) available = some m) ↔
      ∃ id n, s.nodes.lookup id = some n ∧ n.millId = m ∧ n.status = .ready := by
  have hpin : (⟨need, name, .service, some v⟩ : ScheduleRequest).attachedTo
      (volumes.map fun e => (e.1, e.2)) = some m := by
    rw [ScheduleRequest.attachedTo_eq hvolumes]
    simp only [Option.bind_eq_bind, Option.bind_some, hv, hstate]
  have hmem : ∀ n, n ∈ nodes ↔ ∃ id, s.nodes.lookup id = some n := by
    intro n
    rw [← mem_values, hnodes, Multiset.mem_coe]
  constructor
  · rintro ⟨available, h⟩
    obtain ⟨n, hn, hmill, hready, -⟩ := exists_of_schedule_eq_some h
    obtain ⟨id, hid⟩ := (hmem n).mp hn
    exact ⟨id, n, hid, hmill, hready⟩
  · rintro ⟨id, n, hid, hmill, hready⟩
    refine ⟨fun _ => some ⟨need.cpu, need.cpu, need.memory, need.memory⟩, ?_⟩
    rw [schedule_of_attachedTo hpin, if_pos]
    refine List.any_eq_true.mpr ⟨n, (hmem n).mpr ⟨id, hid⟩, ?_⟩
    simp [hmill, hready, hasCapacity]

/-- In every state that a log of commands passes through, the attached volumes name
registered nodes, exactly if every command of the log meets the condition. A service
that such a volume pins can be placed, given enough resources, exactly if a node with
that mill id is ready. -/
theorem attached_volumes_registered_iff (cs : List Command) :
    ((∀ ds, ds <+: cs → VolumesRegistered (applyAll default ds)) ↔
      Transition.Guarded fsmStep KeepsVolumeNodes default cs) ∧
    ∀ ds, ds <+: cs → ∀ v vol m, (applyAll default ds).volumes.lookup v = some vol →
      vol.state = .attached m → ∀ nodes : List FsmNode, (applyAll default ds).nodes.values = nodes →
      ∀ volumes : List (Σ _ : String, FsmVolume),
        (applyAll default ds).volumes.entries = volumes → ∀ need name allocs,
        ((∃ available, schedule ⟨need, name, .service, some v⟩ nodes allocs
          (volumes.map fun e => (e.1, e.2)) available = some m) ↔
          ∃ id n, (applyAll default ds).nodes.lookup id = some n ∧ n.millId = m ∧
            n.status = .ready) := by
  refine ⟨(guarded_fsmStep_iff (I := VolumesRegistered)
    (fun _ c hs => volumesRegistered_applyCommand_iff hs c) volumesRegistered_default cs).symm, ?_⟩
  intro ds _ v vol m hv hstate nodes hnodes volumes hvolumes need name allocs
  exact exists_schedule_iff hv hstate hnodes hvolumes need name allocs

def demoRemove (detach : List Command) : List Command :=
  [.demoRegister 1 "node-1", .volumeCreated "data" "vol-1", .volumeAttached "data" 1] ++ detach ++
    [.nodeRemove 1]

theorem attached_volumes_registered_detached :
    ∀ ds, ds <+: demoRemove [.volumeDetached "data"] → VolumesRegistered (applyAll default ds) :=
  (attached_volumes_registered_iff (demoRemove [.volumeDetached "data"])).1.mpr (by decide +kernel)

/-- Without the detach the volume stays attached to a node that is gone, and nothing
that needs it is placed any more. -/
theorem attached_volume_unregistered : (applyAll default (demoRemove [])).volumes.lookup "data" =
      some ⟨"vol-1", .attached ⟨"node-1"⟩⟩ ∧
    ¬ VolumesRegistered (applyAll default (demoRemove [])) ∧
    (applyAll default (demoRemove [])).nodes.values = ([] : List FsmNode) ∧
    ∀ need name allocs available, schedule ⟨need, name, .service, some "data"⟩ [] allocs
      [("data", ⟨"vol-1", .attached ⟨"node-1"⟩⟩)] available = none := by
  refine ⟨by decide +kernel, ?_, by decide +kernel, fun _ _ _ _ => rfl⟩
  intro h
  have hdata := h "data" ⟨"vol-1", .attached ⟨"node-1"⟩⟩ ⟨"node-1"⟩ (by decide +kernel) rfl
  exact absurd hdata (by decide +kernel)

end FsmState

end Mill
