import Mathlib.Algebra.Order.Field.Rat
import Mathlib.Data.List.MinMax
import Mill.Raft.State

/-! The placement function. Its inputs are lists in the order in which the hash
maps of the state are visited; scores are exact rationals. -/

namespace Mill

open List Option

structure ScheduleRequest where
  need : Resources
  name : String
  kind : AllocKind
  volume : Option String
deriving DecidableEq

def hasCapacity (available : Option NodeResources) (need : Resources) : Bool :=
  match available with
  | some avail => need.cpu ≤ avail.cpuAvailable && need.memory ≤ avail.memoryAvailable
  | none => false

def binPackScore (avail : NodeResources) : ℚ :=
  avail.cpuAvailable + (avail.memoryAvailable.toNat : ℚ) / 2 ^ 30

namespace ScheduleRequest

def attachedTo (request : ScheduleRequest) (volumes : List (String × FsmVolume)) :
    Option NodeId := do
  let name ← request.volume
  let vol ← volumes.find? fun v => v.1 == name
  match vol.2.state with
  | .attached node => some node
  | .ready => none

/-- The ready nodes with enough of both resources, with what they have left. -/
def candidates (request : ScheduleRequest) (nodes : List FsmNode)
    (available : Nat → Option NodeResources) : List (FsmNode × NodeResources) :=
  (nodes.filter fun n => n.status == .ready).filterMap fun n => do
    let avail ← available n.raftId
    if hasCapacity (some avail) request.need then some (n, avail) else none

def spread (request : ScheduleRequest) (allocs : List (NodeId × String × AllocKind))
    (candidates : List (FsmNode × NodeResources)) : List (FsmNode × NodeResources) :=
  if request.kind = .service then
    let nodesWithSame :=
      (allocs.filter fun a => a.2.1 == request.name && a.2.2 == .service).map Prod.fst
    let spread := candidates.filter fun c => c.1.millId ∉ nodesWithSame
    if spread.isEmpty then candidates else spread
  else candidates

end ScheduleRequest

def schedule (request : ScheduleRequest) (nodes : List FsmNode)
    (allocs : List (NodeId × String × AllocKind)) (volumes : List (String × FsmVolume))
    (available : Nat → Option NodeResources) : Option NodeId :=
  match request.attachedTo volumes with
  | some node =>
    -- the volume pins the allocation: this node or none
    let fits := nodes.any fun n =>
      n.millId == node && n.status == .ready && hasCapacity (available n.raftId) request.need
    if fits then some node else none
  | none =>
    let candidates := request.candidates nodes available
    if candidates.isEmpty then none
    else
      -- the first of the candidates with the least score
      ((request.spread allocs candidates).argmin fun c => binPackScore c.2).map fun c => c.1.millId

lemma ScheduleRequest.attachedTo_eq {volumes : Finmap fun _ : String => FsmVolume}
    {order : List (Σ _ : String, FsmVolume)} (h : volumes.entries = order)
    (request : ScheduleRequest) :
    request.attachedTo (order.map fun v => (v.1, v.2)) = (do
      let name ← request.volume
      let vol ← volumes.lookup name
      match vol.state with
      | .attached node => some node
      | .ready => none) := by
  have hfind : ∀ name, (order.map fun v => (v.1, v.2)).find? (fun v => v.1 == name) =
      (order.dlookup name).map fun vol => (name, vol) := by
    intro name
    clear h
    induction order with
    | nil => rfl
    | cons e order ih =>
      obtain ⟨k, vol⟩ := e
      by_cases hk : k = name
      · subst hk
        simp
      · have hne : name ≠ k := fun h => hk h.symm
        rw [dlookup_cons_ne _ _ hne, ← ih]
        simp [hk]
  unfold ScheduleRequest.attachedTo
  cases request.volume with
  | none => rfl
  | some name =>
    simp only [bind_eq_bind, bind_some, hfind, Finmap.lookup_of_entries h]
    cases order.dlookup name <;> rfl

variable {volumes : List (String × FsmVolume)} {request : ScheduleRequest} {nodes : List FsmNode}
  {available : Nat → Option NodeResources}

lemma schedule_of_attachedTo
    {m : NodeId} (h : request.attachedTo volumes = some m) (nodes : List FsmNode)
    (allocs : List (NodeId × String × AllocKind)) (available : Nat → Option NodeResources) :
    schedule request nodes allocs volumes available = if nodes.any fun n =>
        n.millId == m && n.status == .ready && hasCapacity (available n.raftId) request.need
      then some m else none := by
  rw [schedule, h]

lemma mem_candidates {c : FsmNode × NodeResources} : c ∈ request.candidates nodes available ↔
      c.1 ∈ nodes ∧ c.1.status = .ready ∧ available c.1.raftId = some c.2 ∧
        hasCapacity (some c.2) request.need = true := by
  obtain ⟨n, avail⟩ := c
  simp only [ScheduleRequest.candidates, mem_filterMap, mem_filter, beq_iff_eq,
    bind_eq_bind, bind_eq_some_iff, ite_none_right_eq_some,
    Option.some.injEq, Prod.mk.injEq]
  constructor
  · rintro ⟨m, ⟨hm, hready⟩, a, ha, hfits, rfl, rfl⟩
    exact ⟨hm, hready, ha, hfits⟩
  · rintro ⟨hn, hready, ha, hfits⟩
    exact ⟨n, ⟨hn, hready⟩, avail, ha, hfits, rfl, rfl⟩

lemma mem_of_mem_spread
    {allocs : List (NodeId × String × AllocKind)} {cs : List (FsmNode × NodeResources)}
    {c : FsmNode × NodeResources} (h : c ∈ request.spread allocs cs) : c ∈ cs := by
  unfold ScheduleRequest.spread at h
  split_ifs at h
  · dsimp only at h
    split_ifs at h
    · exact h
    · exact mem_of_mem_filter h
  · exact h

lemma exists_of_schedule_eq_some {allocs : List (NodeId × String × AllocKind)} {m : NodeId}
    (h : schedule request nodes allocs volumes available = some m) :
    ∃ n ∈ nodes, n.millId = m ∧ n.status = .ready ∧
      hasCapacity (available n.raftId) request.need = true := by
  unfold schedule at h
  split at h
  · rename_i node _
    rw [ite_none_right_eq_some] at h
    obtain ⟨hany, hm⟩ := h
    obtain ⟨n, hn, hfits⟩ := List.any_eq_true.mp hany
    simp only [Bool.and_eq_true, beq_iff_eq] at hfits
    cases hm
    exact ⟨n, hn, hfits.1.1, hfits.1.2, hfits.2⟩
  · rw [ite_none_left_eq_some] at h
    obtain ⟨c, hc, hm⟩ := map_eq_some_iff.mp h.2
    have hmem := mem_of_mem_spread (argmin_mem hc)
    obtain ⟨hn, hready, havail, hfits⟩ := mem_candidates.mp hmem
    exact ⟨c.1, hn, hm, hready, havail ▸ hfits⟩

lemma exists_schedule_of_room (h : request.attachedTo volumes = none) {n : FsmNode} (hn : n ∈ nodes)
    (hready : n.status = .ready) (hroom : hasCapacity (available n.raftId) request.need = true)
    (allocs : List (NodeId × String × AllocKind)) :
    ∃ m, schedule request nodes allocs volumes available = some m := by
  obtain ⟨avail, havail⟩ : ∃ avail, available n.raftId = some avail := by
    cases hav : available n.raftId with
    | none =>
      rw [hav] at hroom
      cases hroom
    | some avail => exact ⟨avail, rfl⟩
  have hmem : (n, avail) ∈ request.candidates nodes available :=
    mem_candidates.mpr ⟨hn, hready, havail, havail ▸ hroom⟩
  have hspread : request.spread allocs (request.candidates nodes available) ≠ [] := by
    unfold ScheduleRequest.spread
    split_ifs
    · dsimp only
      split_ifs with hempty
      · exact ne_nil_of_mem hmem
      · exact fun hnil => hempty (List.isEmpty_iff.mpr hnil)
    · exact ne_nil_of_mem hmem
  have hne : (request.candidates nodes available).isEmpty = false :=
    isEmpty_eq_false_iff.mpr (ne_nil_of_mem hmem)
  rw [schedule, h]
  simp only [hne, Bool.false_eq_true, if_false]
  cases hmin : (request.spread allocs (request.candidates nodes available)).argmin
      fun c => binPackScore c.2 with
  | none => exact absurd (argmin_eq_none.mp hmin) hspread
  | some c => exact ⟨c.1.millId, rfl⟩

end Mill
