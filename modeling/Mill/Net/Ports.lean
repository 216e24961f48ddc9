import Mathlib.Data.Finset.Max
import Mathlib.Order.Interval.Finset.Nat
import Mill.Config.Runtime
import Mill.Lib.FinMap

/-! The host port allocator. A port is never both available and allocated: the
pool carries the proof. -/

namespace Mill

@[ext] structure PortPool where
  start : Nat
  stop : Nat
  available : Finset Nat
  allocated : Finmap fun _ : Nat => AllocId
  disjoint : ∀ p ∈ available, allocated.lookup p = none

namespace PortPool

/-- `inUse` is what the scan of the host found. -/
def withRange (start stop : Nat) (inUse : Finset Nat) : PortPool where
  start := start
  stop := stop
  available := Finset.Icc start stop \ inUse
  allocated := ∅
  disjoint _ _ := rfl

def claim (pool : PortPool) (port : Nat) (allocId : AllocId) : PortPool where
  start := pool.start
  stop := pool.stop
  available := pool.available.erase port
  allocated := pool.allocated.insert port allocId
  disjoint := by
    intro p hp
    have hne : p ≠ port := Finset.ne_of_mem_erase hp
    rw [Finmap.lookup_insert_of_ne _ hne]
    exact pool.disjoint p (Finset.mem_of_mem_erase hp)

def allocate (pool : PortPool) (allocId : AllocId) : Option (Nat × PortPool) :=
  if h : pool.available.Nonempty then
    let port := pool.available.min' h
    some (port, pool.claim port allocId)
  else none

def allocateSpecific (pool : PortPool) (allocId : AllocId) (port : Nat) : Bool × PortPool :=
  if port < pool.start ∨ port > pool.stop then (false, pool)
  else if (pool.allocated.lookup port).isSome then (false, pool)
  else (true, pool.claim port allocId)

def release (pool : PortPool) (port : Nat) : PortPool :=
  match pool.allocated.lookup port with
  | none => pool
  | some _ =>
    { pool with
      available := insert port pool.available
      allocated := pool.allocated.erase port
      disjoint := by
        intro p hp
        rw [Finmap.lookup_erase_eq]
        split_ifs with h
        · rfl
        · exact pool.disjoint p ((Finset.mem_insert.mp hp).resolve_left h) }

def owner (pool : PortPool) (port : Nat) : Option AllocId := pool.allocated.lookup port

@[simp] lemma owner_claim (pool : PortPool) (port p : Nat) (allocId : AllocId) :
    (pool.claim port allocId).owner p = if p = port then some allocId else pool.owner p :=
  Finmap.lookup_insert_eq ..

@[simp] lemma owner_release (pool : PortPool) (port p : Nat) :
    (pool.release port).owner p = if p = port then none else pool.owner p := by
  unfold release owner
  cases h : pool.allocated.lookup port with
  | none =>
    split_ifs with hp
    · rw [hp, h]
    · rfl
  | some => exact Finmap.lookup_erase_eq ..

lemma allocate_eq_some {pool pool' : PortPool} {allocId : AllocId} {port : Nat}
    (h : pool.allocate allocId = some (port, pool')) :
    pool.owner port = none ∧ pool' = pool.claim port allocId := by
  unfold allocate at h
  split_ifs at h with hne
  simp only [Option.some.injEq, Prod.mk.injEq] at h
  obtain ⟨rfl, rfl⟩ := h
  exact ⟨pool.disjoint _ (Finset.min'_mem _ hne), rfl⟩

lemma available_release (pool : PortPool) (port : Nat) : (pool.release port).available =
    if pool.owner port = none then pool.available else insert port pool.available := by
  unfold release owner
  cases pool.allocated.lookup port with
  | none => rfl
  | some => rfl

lemma allocated_release (pool : PortPool) (port : Nat) :
    (pool.release port).allocated = pool.allocated.erase port := by
  unfold release
  cases h : pool.allocated.lookup port with
  | none => exact (Finmap.erase_of_lookup_eq_none h).symm
  | some => rfl

lemma range_release (pool : PortPool) (port : Nat) :
    (pool.release port).start = pool.start ∧ (pool.release port).stop = pool.stop := by
  unfold release
  cases pool.allocated.lookup port with
  | none => exact ⟨rfl, rfl⟩
  | some => exact ⟨rfl, rfl⟩

lemma release_comm (pool : PortPool) (p q : Nat) :
    (pool.release p).release q = (pool.release q).release p := by
  apply PortPool.ext
  · rw [(range_release _ q).1, (range_release _ p).1, (range_release _ p).1, (range_release _ q).1]
  · rw [(range_release _ q).2, (range_release _ p).2, (range_release _ p).2, (range_release _ q).2]
  · by_cases hpq : p = q
    · rw [hpq]
    · simp only [available_release, owner_release, if_neg hpq, if_neg (Ne.symm hpq)]
      split_ifs with hq hp
      · rfl
      · rfl
      · rfl
      · exact Finset.insert_comm q p pool.available
  · rw [allocated_release, allocated_release, allocated_release, allocated_release,
      Finmap.erase_erase]

lemma release_of_allocate {pool pool' : PortPool} {allocId : AllocId} {port : Nat}
    (h : pool.allocate allocId = some (port, pool')) : pool'.release port = pool := by
  have hfree : pool.owner port = none := (allocate_eq_some h).1
  have hin : port ∈ pool.available := by
    unfold allocate at h
    split_ifs at h with hne
    cases h
    exact Finset.min'_mem _ hne
  rw [(allocate_eq_some h).2]
  apply PortPool.ext
  · exact (range_release _ port).1
  · exact (range_release _ port).2
  · rw [available_release, owner_claim, if_pos rfl, if_neg (Option.some_ne_none _)]
    exact Finset.insert_erase hin
  · rw [allocated_release]
    apply Finmap.ext_lookup
    intro p
    rw [Finmap.lookup_erase_eq]
    split_ifs with hp
    · rw [hp]
      exact hfree.symm
    · exact Finmap.lookup_insert_of_ne _ hp

/-- `snapshot` is in the order in which the map is visited. Ports out of range and ports that
are in use by now are skipped. -/
def restore (pool : PortPool) (inUse : Finset Nat) (snapshot : List (Nat × AllocId)) : PortPool :=
  snapshot.foldl (fun pool e =>
    if e.1 < pool.start ∨ e.1 > pool.stop then pool
    else if e.1 ∈ inUse then pool
    else pool.claim e.1 e.2) pool

inductive Op
  | allocate (allocId : AllocId)
  | allocateSpecific (allocId : AllocId) (port : Nat)
  | release (port : Nat)
  | restore (inUse : Finset Nat) (snapshot : List (Nat × AllocId))

def perform (pool : PortPool) : Op → PortPool
  | .allocate allocId => ((pool.allocate allocId).map Prod.snd).getD pool
  | .allocateSpecific allocId port => (pool.allocateSpecific allocId port).2
  | .release port => pool.release port
  | .restore inUse snapshot => pool.restore inUse snapshot

structure Within (start stop : Nat) (initial : Finset Nat) (pool : PortPool) : Prop where
  range : pool.start = start ∧ pool.stop = stop
  inside : ∀ p, p ∈ pool.available ∨ (pool.owner p).isSome = true → start ≤ p ∧ p ≤ stop
  kept : ∀ p ∈ initial, p ∈ pool.available ∨ (pool.owner p).isSome = true

variable {start stop : Nat} {initial : Finset Nat} {pool : PortPool} {port : Nat}

lemma Within.claim (h : Within start stop initial pool) (hport : start ≤ port ∧ port ≤ stop)
    (allocId : AllocId) : Within start stop initial (pool.claim port allocId) where
  range := h.range
  inside p hp := by
    by_cases heq : p = port
    · exact heq ▸ hport
    · rw [owner_claim, if_neg heq] at hp
      exact h.inside p (hp.imp_left Finset.mem_of_mem_erase)
  kept p hp := by
    by_cases heq : p = port
    · exact .inr (by simp [heq])
    · rw [owner_claim, if_neg heq]
      exact (h.kept p hp).imp_left (Finset.mem_erase_of_ne_of_mem heq)

lemma Within.release (h : Within start stop initial pool) (port : Nat) :
    Within start stop initial (pool.release port) := by
  cases howner : pool.owner port with
  | none =>
    have hsame : pool.release port = pool := by
      rw [PortPool.release, show pool.allocated.lookup port = none from howner]
    rwa [hsame]
  | some a =>
    have hsome : (pool.owner port).isSome = true := by rw [howner, Option.isSome_some]
    have havailable : (pool.release port).available = insert port pool.available := by
      rw [available_release, howner, if_neg (Option.some_ne_none a)]
    refine ⟨?_, fun p hp => ?_, fun p hp => ?_⟩
    · rw [(range_release pool port).1, (range_release pool port).2]
      exact h.range
    · rw [havailable, Finset.mem_insert, owner_release] at hp
      by_cases heq : p = port
      · exact heq ▸ h.inside port (.inr hsome)
      · rw [if_neg heq] at hp
        exact h.inside p (hp.imp_left fun hp => hp.resolve_left heq)
    · rw [havailable, Finset.mem_insert, owner_release]
      by_cases heq : p = port
      · exact .inl (.inl heq)
      · rw [if_neg heq]
        exact (h.kept p hp).imp_left .inr

lemma Within.restore (h : Within start stop initial pool) (inUse : Finset Nat)
    (snapshot : List (Nat × AllocId)) :
    Within start stop initial (pool.restore inUse snapshot) := by
  refine List.foldlRecOn snapshot _ h fun pool h e _ => ?_
  rw [h.range.1, h.range.2]
  split_ifs with hrange hused
  · exact h
  · exact h
  · exact h.claim ⟨Nat.not_lt.mp fun hlt => hrange (.inl hlt),
      Nat.not_lt.mp fun hlt => hrange (.inr hlt)⟩ e.2

lemma within_perform (h : Within start stop initial pool) (op : Op) :
    Within start stop initial (pool.perform op) := by
  cases op with
  | allocate allocId =>
    rw [perform, allocate]
    split_ifs with hne
    · exact h.claim (h.inside _ (.inl (Finset.min'_mem _ hne))) allocId
    · exact h
  | allocateSpecific allocId =>
    rw [perform, allocateSpecific, h.range.1, h.range.2]
    split_ifs with hrange hsome
    · exact h
    · exact h
    · exact h.claim ⟨Nat.not_lt.mp fun hlt => hrange (.inl hlt),
        Nat.not_lt.mp fun hlt => hrange (.inr hlt)⟩ allocId
  | release port => exact h.release port
  | restore inUse snapshot => exact h.restore inUse snapshot

lemma within_withRange (start stop : Nat) (inUse : Finset Nat) :
    Within start stop (withRange start stop inUse).available (withRange start stop inUse) where
  range := ⟨rfl, rfl⟩
  inside p hp := by
    rcases hp with hp | hp
    · exact Finset.mem_Icc.mp (Finset.mem_sdiff.mp hp).1
    · exact absurd hp (by simp [owner, withRange])
  kept p hp := .inl hp

/-- Whatever is called, the ports stay apart, in range and accounted for, and `allocate` hands
out the least one that is available as long as there is one. -/
theorem port_pool_invariant (start stop : Nat) (inUse : Finset Nat) (ops : List Op) :
    let initial := withRange start stop inUse
    let pool := ops.foldl perform initial
    (∀ p ∈ pool.available, p ∉ pool.allocated) ∧
      (∀ p, p ∈ pool.available ∨ p ∈ pool.allocated → start ≤ p ∧ p ≤ stop) ∧
      (∀ p ∈ initial.available, p ∈ pool.available ∨ p ∈ pool.allocated) ∧
      ∀ allocId, match pool.allocate allocId with
        | some (port, pool') => IsLeast (pool.available : Set Nat) port ∧ port ∉ pool.allocated ∧
            pool'.owner port = some allocId ∧ port ∉ pool'.available ∧ ∀ p ≠ port,
              pool'.owner p = pool.owner p ∧ (p ∈ pool'.available ↔ p ∈ pool.available)
        | none => pool.available = ∅ := by
  intro initial pool
  have h : Within start stop initial.available pool :=
    List.foldlRecOn ops _ (within_withRange start stop inUse) fun _ h op _ => within_perform h op
  have hdisjoint : ∀ p ∈ pool.available, p ∉ pool.allocated :=
    fun p hp => Finmap.lookup_eq_none.mp (pool.disjoint p hp)
  have hinside := h.inside
  have hkept := h.kept
  simp only [owner, Finmap.lookup_isSome] at hinside hkept
  refine ⟨hdisjoint, hinside, hkept, fun allocId => ?_⟩
  unfold allocate
  by_cases hne : pool.available.Nonempty
  · rw [dif_pos hne]
    refine ⟨Finset.isLeast_min' _ hne, hdisjoint _ (Finset.min'_mem _ hne),
      Finmap.lookup_insert _, Finset.notMem_erase _ _, fun p hp => ⟨?_, ?_⟩⟩
    · exact Finmap.lookup_insert_of_ne _ hp
    · exact Finset.mem_erase.trans (and_iff_right hp)
  · rw [dif_neg hne]
    exact Finset.not_nonempty_iff_eq_empty.mp hne

end PortPool

end Mill
