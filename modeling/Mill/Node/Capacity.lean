import Mill.Node.Scheduler
import Mill.Raft.Lifecycle

/-! Reserved against total resources: when a command keeps every node within what
it has. -/

namespace Mill

open Finmap

namespace FsmState

section

variable {M : Type} [AddCommMonoid M]

/-- What the live allocations of a node reserve of one resource. -/
def reserved (g : AllocResources → M) (s : FsmState) (millId : NodeId) : M :=
  s.allocs.total fun a => if counts millId a then g a.resources else 0

lemma reserved_allocScheduled {s : FsmState} {nodeId : Nat} {n : FsmNode}
    (hn : s.nodes.lookup nodeId = some n) (g : AllocResources → M) (allocId : AllocId)
    (name : String) (kind : AllocKind) (address : Option SocketAddr) (r : AllocResources)
    (m : NodeId) :
    (applyCommand s (.allocScheduled allocId nodeId name kind address r)).1.reserved g m =
      (if m = n.millId then g r else 0) +
        (s.allocs.erase allocId).total fun a => if counts m a then g a.resources else 0 := by
  have hcounts : counts m (makeAlloc allocId n.millId name kind address r) =
      decide (m = n.millId) := by
    simp [counts, makeAlloc, AllocStatus.isTerminal, eq_comm, beq_eq_decide]
  simp only [applyCommand, hn, reserved, makeAlloc, total_insert]
  simp only [makeAlloc] at hcounts
  simp only [hcounts, decide_eq_true_eq]

lemma reserved_eq_zero {s : FsmState} {g : AllocResources → M} {m : NodeId}
    (h : (s.allocs.any fun _ a => counts m a) = false) : s.reserved g m = 0 := by
  apply Multiset.sum_eq_zero
  intro x hx
  obtain ⟨a, ha, rfl⟩ := Multiset.mem_map.mp hx
  obtain ⟨i, hi⟩ := mem_values.mp ha
  have hnot := any_eq_false.mp h i a hi
  rw [hnot, if_neg Bool.false_ne_true]

variable [PartialOrder M] [IsOrderedAddMonoid M]

lemma reserved_erase_le {s : FsmState} {g : AllocResources → M} {allocId : AllocId}
    (hg : ∀ a, s.allocs.lookup allocId = some a → a.status.isTerminal = false → 0 ≤ g a.resources)
    (m : NodeId) :
    ((s.allocs.erase allocId).total fun a => if counts m a then g a.resources else 0) ≤
      s.reserved g m := by
  apply total_erase_le
  intro a ha
  split_ifs with hcounts
  · simp only [counts, Bool.and_eq_true, Bool.not_eq_true'] at hcounts
    exact hg a ha hcounts.2
  · exact le_refl 0

end

def memReserved (s : FsmState) (millId : NodeId) : Nat :=
  s.reserved (fun r => r.memory.toNat) millId

def WithinTotals (s : FsmState) (n : FsmNode) : Prop :=
  s.memReserved n.millId ≤ n.resources.memoryTotal.toNat ∧ s.cpuUsed n.millId ≤ n.resources.cpuTotal

def NotOvercommitted (s : FsmState) : Prop :=
  ∀ id n, s.nodes.lookup id = some n → s.WithinTotals n

instance (s : FsmState) (n : FsmNode) : Decidable (s.WithinTotals n) :=
  inferInstanceAs (Decidable (_ ∧ _))

lemma notOvercommitted_iff {s : FsmState} :
    (s.nodes.any fun _ n => !decide (s.WithinTotals n)) = false ↔ s.NotOvercommitted := by
  simp only [any_eq_false, Bool.not_eq_false', decide_eq_true_eq]
  rfl

instance (s : FsmState) : Decidable s.NotOvercommitted := decidable_of_iff _ notOvercommitted_iff

lemma cpuUsed_eq_reserved (s : FsmState) (m : NodeId) :
    s.cpuUsed m = s.reserved AllocResources.cpu m := rfl

lemma toNat_sum (t : Multiset ByteSize) : t.sum.toNat = (t.map UInt64.toNat).sum % 2 ^ 64 := by
  induction t using Multiset.induction_on with
  | empty => rfl
  | cons b t ih =>
    rw [Multiset.sum_cons, UInt64.toNat_add, ih, Multiset.map_cons, Multiset.sum_cons,
      Nat.add_mod_mod]

lemma toNat_memUsed (s : FsmState) (m : NodeId) :
    (s.memUsed m).toNat = s.memReserved m % 2 ^ 64 := by
  rw [memUsed, total, toNat_sum, Multiset.map_map, memReserved, reserved, total]
  congr 3
  funext a
  rw [Function.comp_apply]
  split_ifs <;> rfl

variable {n : FsmNode} {i allocId : AllocId}

lemma toNat_memoryAvailable {s : FsmState} (h : s.WithinTotals n) :
    (saturatingSub n.resources.memoryTotal (s.memUsed n.millId)).toNat =
      n.resources.memoryTotal.toNat - s.memReserved n.millId := by
  have hlt : s.memReserved n.millId < 2 ^ 64 :=
    h.1.trans_lt n.resources.memoryTotal.toNat_lt
  have hused : (s.memUsed n.millId).toNat = s.memReserved n.millId := by
    rw [toNat_memUsed, Nat.mod_eq_of_lt hlt]
  have hle : s.memUsed n.millId ≤ n.resources.memoryTotal := by
    rw [UInt64.le_iff_toNat_le, hused]
    exact h.1
  rw [saturatingSub, if_pos hle, UInt64.toNat_sub_of_le _ _ hle, hused]

lemma hasCapacity_iff {s : FsmState} {id : Nat}
    (hn : s.nodes.lookup id = some n) (h : s.WithinTotals n) (need : Resources) :
    hasCapacity (s.nodeAvailableResources id) need = true ↔
      need.memory.toNat + s.memReserved n.millId ≤ n.resources.memoryTotal.toNat ∧
        need.cpu + s.cpuUsed n.millId ≤ n.resources.cpuTotal := by
  have hmem := h.1
  rw [nodeAvailableResources, hn, Option.map_some]
  simp only [hasCapacity, Bool.and_eq_true, decide_eq_true_eq, UInt64.le_iff_toNat_le,
    toNat_memoryAvailable h, le_sub_iff_add_le]
  rw [and_comm, Nat.le_sub_iff_add_le hmem]

def fits (s : FsmState) (millId : NodeId) (need : Resources) : Bool :=
  !s.nodes.any fun id n => n.millId == millId && !hasCapacity (s.nodeAvailableResources id) need

lemma fits_iff {s : FsmState} {m : NodeId} {need : Resources} :
    s.fits m need = true ↔ ∀ id n, s.nodes.lookup id = some n → n.millId = m →
      hasCapacity (s.nodeAvailableResources id) need = true := by
  simp only [fits, Bool.not_eq_true', any_eq_false, Bool.and_eq_false_iff, Bool.not_eq_false',
    beq_eq_false_iff_ne, ne_eq, ← imp_iff_not_or]

def DistinctNodes (s : FsmState) : Prop :=
  ∀ id n, s.nodes.lookup id = some n → ∀ id' n', s.nodes.lookup id' = some n' →
    n.millId = n'.millId → id = id'

lemma distinctNodes_iff {s : FsmState} : (s.nodes.any fun id n => s.nodes.any fun id' n' =>
      !decide (n.millId = n'.millId → id = id')) = false ↔ s.DistinctNodes := by
  simp only [any_eq_false, Bool.not_eq_false', decide_eq_true_eq]
  rfl

instance (s : FsmState) : Decidable s.DistinctNodes := decidable_of_iff _ distinctNodes_iff

/-- What is looked up under the raft id of the chosen node has room, whatever is stored there. -/
lemma exists_fits_of_schedule {s : FsmState} (hs : s.DistinctNodes) {nodes nodes' : List FsmNode}
    (hnodes : s.nodes.values = nodes) (hnodes' : s.nodes.values = nodes')
    {request : ScheduleRequest} {allocs : List (NodeId × String × AllocKind)}
    {volumes : List (String × FsmVolume)} {m : NodeId} {raftId : Nat}
    (h : schedule request nodes allocs volumes s.nodeAvailableResources = some m)
    (hid : raftIdFor nodes' m = some raftId) :
    ∃ n, s.nodes.lookup raftId = some n ∧ s.fits n.millId request.need = true := by
  obtain ⟨n, hn, hm, -, hcap⟩ := exists_of_schedule_eq_some h
  obtain ⟨n', hn', hraft⟩ := Option.map_eq_some_iff.mp hid
  have hm' : n'.millId = m := by simpa using List.find?_some hn'
  obtain ⟨k, hk⟩ := mem_values.mp (hnodes ▸ hn : n ∈ s.nodes.values)
  obtain ⟨k', hk'⟩ := mem_values.mp (hnodes' ▸ List.mem_of_find?_eq_some hn' : n' ∈ s.nodes.values)
  obtain rfl := hs k n hk k' n' hk' (hm.trans hm'.symm)
  cases hk.symm.trans hk'
  rw [hraft] at hcap
  cases hlookup : s.nodes.lookup raftId with
  | none =>
    rw [nodeAvailableResources, hlookup] at hcap
    cases hcap
  | some node =>
    refine ⟨node, rfl, fits_iff.mpr fun id' n' hid' hsame => ?_⟩
    obtain rfl := hs id' n' hid' raftId node hlookup hsame
    exact hcap

def revives (s : FsmState) (i : AllocId) (status : AllocStatus) : Bool :=
  !status.isTerminal && (s.allocs.lookup i).any fun a => a.status.isTerminal

/-- The commands that find room for what they reserve: a node that registers is
new, a status does not revive a terminal allocation, and an allocation fits on its
node when it is scheduled. -/
def Admits (s : FsmState) : Command → Prop
  | .nodeRegister id millId _ resources _ _ _ _ =>
    id ∉ s.nodes ∧ 0 ≤ resources.cpuTotal ∧ (s.allocs.any fun _ a => counts millId a) = false
  | .nodeHeartbeat _ allocStatuses =>
    (allocStatuses.any fun i status => s.revives i status) = false
  | .allocScheduled _ nodeId _ _ _ resources =>
    0 ≤ resources.cpu ∧
      ∀ n ∈ s.nodes.lookup nodeId, s.fits n.millId ⟨resources.cpu, resources.memory⟩ = true
  | .allocStatus allocId status => s.revives allocId status = false
  | _ => True

instance (s : FsmState) (c : Command) : Decidable (Admits s c) := by
  cases c <;> dsimp only [Admits] <;> infer_instance

structure Solvent (s : FsmState) : Prop where
  cpu_nonneg : ∀ i a, s.allocs.lookup i = some a → 0 ≤ a.resources.cpu
  within : s.NotOvercommitted

variable {s : FsmState} {c : Command}

lemma isTerminal_of_not_revives {b : Alloc} {status : AllocStatus}
    (hb : s.allocs.lookup i = some b) (ht : b.status.isTerminal = true)
    (h : s.revives i status = false) : status.isTerminal = true := by
  simpa [revives, hb, ht] using h

lemma isTerminal_allocAfter (hc : Admits s c) {a b : Alloc}
    (hnew : ∀ nodeId name kind address resources,
      c ≠ .allocScheduled i nodeId name kind address resources)
    (hb : s.allocs.lookup i = some b) (ht : b.status.isTerminal = true)
    (ha : allocAfter s i c = some a) : a.status.isTerminal = true := by
  have hsame (h : some b = some a) : a.status.isTerminal = true := by
    cases h
    exact ht
  cases c with
  | nodeHeartbeat id allocStatuses =>
    simp only [allocAfter, hb, Option.map_some] at ha
    split_ifs at ha
    · cases ha
      rw [report_status_of_terminal ht]
      cases hst : allocStatuses.lookup i with
      | none => exact ht
      | some status => exact isTerminal_of_not_revives hb ht (any_eq_false.mp hc i status hst)
    · exact hsame ha
  | allocScheduled allocId nodeId name kind address resources =>
    have hne : i ≠ allocId := fun he => hnew nodeId name kind address resources (he ▸ rfl)
    simp only [allocAfter, if_neg hne, hb] at ha
    split at ha <;> exact hsame ha
  | allocStatus =>
    simp only [allocAfter, hb, Option.map_some] at ha
    split_ifs at ha with hi
    · cases ha
      exact isTerminal_of_not_revives (hi ▸ hb) ht hc
    · exact hsame ha
  | allocRunning =>
    simp only [allocAfter, hb, Option.map_some, run_of_terminal ht, ite_self] at ha
    exact hsame ha
  | nodeRemove id =>
    rcases allocAfter_nodeRemove s i id with h | h
    · exact hsame (hb ▸ h ▸ ha)
    · rw [h] at ha
      cases ha
  | _ => exact hsame (hb ▸ ha)

section

variable {M : Type} [AddCommMonoid M] [PartialOrder M] [IsOrderedAddMonoid M]
  {g : AllocResources → M}

lemma reserved_applyCommand_le (hc : Admits s c) (hnew : ∀ i nodeId name kind address resources,
      c ≠ .allocScheduled i nodeId name kind address resources)
    (hg : ∀ i a, s.allocs.lookup i = some a → 0 ≤ g a.resources) (m : NodeId) :
    (applyCommand s c).1.reserved g m ≤ s.reserved g m := by
  apply total_le_total
  intro i
  have hpos : 0 ≤ (s.allocs.lookup i).elim 0 fun a => if counts m a then g a.resources else 0 := by
    cases hb : s.allocs.lookup i with
    | none => exact le_refl 0
    | some b =>
      rw [Option.elim_some]
      split_ifs
      · exact hg i b hb
      · exact le_refl 0
  rw [lookup_allocs_applyCommand]
  cases ha : allocAfter s i c with
  | none => exact hpos
  | some a =>
    obtain ⟨b, hb, hab⟩ := alloc_of_allocAfter (hnew i) ha
    have hnode : a.node = b.node := by rw [hab]
    have hresources : a.resources = b.resources := by rw [hab]
    have hcounts : counts m a = true → counts m b = true := by
      simp only [counts, Bool.and_eq_true, hnode, Bool.not_eq_true']
      rintro ⟨hm, hlive⟩
      refine ⟨hm, Bool.eq_false_iff.mpr fun ht => ?_⟩
      rw [isTerminal_allocAfter hc (hnew i) hb ht ha] at hlive
      cases hlive
    rw [hb, Option.elim_some] at hpos
    rw [hb, Option.elim_some, Option.elim_some, hresources]
    by_cases hm : counts m a = true
    · rw [if_pos hm, if_pos (hcounts hm)]
    · rw [if_neg hm]
      exact hpos

end

lemma mem_nonneg (i : AllocId) (a : Alloc) (_ : s.allocs.lookup i = some a) :
    0 ≤ a.resources.memory.toNat := Nat.zero_le _

lemma within_allocScheduled (h : s.NotOvercommitted) {nodeId : Nat}
    (hn : s.nodes.lookup nodeId = some n)
    (hcpu : ∀ a, s.allocs.lookup allocId = some a → a.status.isTerminal = false →
      0 ≤ a.resources.cpu)
    (name : String) (kind : AllocKind) (address : Option SocketAddr) (r : AllocResources)
    (hfits : s.fits n.millId ⟨r.cpu, r.memory⟩ = true) :
    (applyCommand s (.allocScheduled allocId nodeId name kind address r)).1.NotOvercommitted := by
  intro id k hk
  rw [lookup_nodes_applyCommand] at hk
  have hwithin : s.WithinTotals k := h id k hk
  have hmemErase := reserved_erase_le (s := s) (g := fun r => r.memory.toNat)
    (fun a ha _ => mem_nonneg allocId a ha) k.millId
  have hcpuErase := reserved_erase_le (g := AllocResources.cpu) hcpu k.millId
  unfold WithinTotals memReserved
  rw [cpuUsed_eq_reserved, reserved_allocScheduled hn, reserved_allocScheduled hn]
  by_cases hm : k.millId = n.millId
  · have hcap := fits_iff.mp hfits id k hk hm
    obtain ⟨hmem, hcpu⟩ := (hasCapacity_iff hk hwithin _).mp hcap
    rw [if_pos hm, if_pos hm]
    exact ⟨(Nat.add_le_add_left hmemErase _).trans hmem, (add_le_add_right hcpuErase _).trans hcpu⟩
  · rw [if_neg hm, if_neg hm, zero_add, zero_add]
    exact ⟨hmemErase.trans hwithin.1, hcpuErase.trans hwithin.2⟩

lemma within_allocScheduled_iff (h : s.Solvent) {nodeId : Nat}
    (hn : s.nodes.lookup nodeId = some n) (hfresh : s.allocs.lookup allocId = none) (name : String)
    (kind : AllocKind) (address : Option SocketAddr) (r : AllocResources) :
    (applyCommand s (.allocScheduled allocId nodeId name kind address r)).1.NotOvercommitted ↔
      s.fits n.millId ⟨r.cpu, r.memory⟩ = true := by
  refine ⟨fun hafter => fits_iff.mpr fun id k hk hm => ?_,
    within_allocScheduled h.within hn (fun a ha _ => h.cpu_nonneg allocId a ha) name kind address r⟩
  have hwithin := hafter id k (by rw [lookup_nodes_applyCommand]; exact hk)
  unfold WithinTotals memReserved at hwithin
  rw [cpuUsed_eq_reserved, reserved_allocScheduled hn, reserved_allocScheduled hn,
    erase_of_lookup_eq_none hfresh, if_pos hm, if_pos hm] at hwithin
  exact (hasCapacity_iff hk (h.within id k hk) _).mpr hwithin

lemma cpu_nonneg_applyCommand (h : s.Solvent) (hc : Admits s c) {a : Alloc}
    (ha : (applyCommand s c).1.allocs.lookup i = some a) : 0 ≤ a.resources.cpu := by
  rw [lookup_allocs_applyCommand] at ha
  rcases allocAfter_eq_some ha with ⟨_, _, _, _, _, _, rfl, rfl⟩ | ⟨b, hb, hab⟩
  · exact hc.1
  · rw [hab]
    exact h.cpu_nonneg i b hb

lemma within_of_not_scheduled (h : s.Solvent) (hc : Admits s c)
    (hnew : ∀ i nodeId name kind address resources,
      c ≠ .allocScheduled i nodeId name kind address resources) :
    (applyCommand s c).1.NotOvercommitted := by
  intro id k hk
  rw [lookup_nodes_applyCommand] at hk
  have hmem := reserved_applyCommand_le (g := fun r => r.memory.toNat) hc hnew mem_nonneg k.millId
  have hcpu := reserved_applyCommand_le (g := AllocResources.cpu) hc hnew h.cpu_nonneg k.millId
  by_cases hreg : ∃ millId address resources pubkey instanceId rpcAddress advertiseAddr,
      c = .nodeRegister id millId address resources pubkey instanceId rpcAddress advertiseAddr
  · obtain ⟨millId, address, resources, pubkey, instanceId, rpcAddress, advertiseAddr, rfl⟩ := hreg
    -- a new node: nothing is reserved on it yet
    obtain ⟨-, hpos, hidle⟩ := hc
    simp only [nodeAfter, if_pos] at hk
    cases hk
    rw [reserved_eq_zero hidle] at hmem hcpu
    exact ⟨hmem.trans (Nat.zero_le _), hcpu.trans hpos⟩
  · simp only [not_exists] at hreg
    obtain ⟨n, hn, hkn⟩ := node_of_nodeAfter hreg hk
    have hmill : k.millId = n.millId := by rw [hkn]
    have hresources : k.resources = n.resources := by rw [hkn]
    obtain ⟨hwmem, hwcpu⟩ := h.within id n hn
    unfold WithinTotals
    rw [hresources]
    rw [← hmill] at hwmem hwcpu
    exact ⟨hmem.trans hwmem, hcpu.trans hwcpu⟩

lemma solvent_applyCommand (h : s.Solvent) (hc : Admits s c) : (applyCommand s c).1.Solvent := by
  refine ⟨fun i a ha => cpu_nonneg_applyCommand h hc ha, ?_⟩
  by_cases hnew : ∃ i nodeId name kind address resources,
      c = .allocScheduled i nodeId name kind address resources
  · obtain ⟨i, nodeId, name, kind, address, resources, rfl⟩ := hnew
    cases hn : s.nodes.lookup nodeId with
    | none =>
      simp only [applyCommand, hn]
      exact h.within
    | some n =>
      exact within_allocScheduled h.within hn (fun a ha _ => h.cpu_nonneg i a ha) name kind address
        resources (hc.2 n hn)
  · simp only [not_exists] at hnew
    exact within_of_not_scheduled h hc hnew

end FsmState

end Mill
