import Mathlib.Data.Prod.Lex
import Mathlib.Order.Nat
import Mill.Raft.Command

/-! The types of the Raft library that the storage layer handles. -/

namespace Mill

structure LeaderId where
  term : Nat
  nodeId : Nat
deriving DecidableEq

structure LogId where
  leaderId : LeaderId
  index : Nat
deriving DecidableEq

namespace LogId

def key (l : LogId) : ℕ ×ₗ ℕ ×ₗ ℕ := toLex (l.leaderId.term, toLex (l.leaderId.nodeId, l.index))

lemma key_injective : Function.Injective key := by
  rintro ⟨⟨t, n⟩, i⟩ ⟨⟨t', n'⟩, i'⟩ h
  simp only [key, EmbeddingLike.apply_eq_iff_eq, Prod.mk.injEq] at h
  obtain ⟨rfl, rfl, rfl⟩ := h
  rfl

instance : LinearOrder LogId := LinearOrder.lift' key key_injective

def AtLeast (new old : Option LogId) : Prop := ∀ l ∈ old, ∃ l' ∈ new, l ≤ l'

instance (new old : Option LogId) : Decidable (AtLeast new old) := by
  unfold AtLeast
  infer_instance

lemma AtLeast.refl (l : Option LogId) : AtLeast l l := fun i hi => ⟨i, hi, le_rfl⟩

lemma AtLeast.trans {a b c : Option LogId} (hab : AtLeast a b) (hbc : AtLeast b c) :
    AtLeast a c := by
  intro l hl
  obtain ⟨l', hl', hle⟩ := hbc l hl
  obtain ⟨l'', hl'', hle'⟩ := hab l' hl'
  exact ⟨l'', hl'', hle.trans hle'⟩

lemma atLeast_none (l : Option LogId) : AtLeast l none := by
  intro i hi
  cases hi

end LogId

structure Vote where
  leaderId : LeaderId
  committed : Bool
deriving DecidableEq

namespace Vote

def key (v : Vote) : ℕ ×ₗ ℕ ×ₗ Bool :=
  toLex (v.leaderId.term, toLex (v.leaderId.nodeId, v.committed))

lemma key_injective : Function.Injective key := by
  rintro ⟨⟨t, n⟩, c⟩ ⟨⟨t', n'⟩, c'⟩ h
  simp only [key, EmbeddingLike.apply_eq_iff_eq, Prod.mk.injEq] at h
  obtain ⟨rfl, rfl, rfl⟩ := h
  rfl

instance : LinearOrder Vote := LinearOrder.lift' key key_injective

end Vote

structure Membership where
  configs : List (Finset Nat)
  nodes : Finmap fun _ : Nat => String
deriving DecidableEq

structure StoredMembership where
  logId : Option LogId
  membership : Membership
deriving DecidableEq

instance : Inhabited StoredMembership := ⟨⟨none, ⟨[], ∅⟩⟩⟩

inductive EntryPayload
  | blank
  | normal (cmd : Command)
  | membership (m : Membership)
deriving DecidableEq

structure Entry where
  logId : LogId
  payload : EntryPayload
deriving DecidableEq

structure SnapshotMeta where
  lastLogId : Option LogId
  lastMembership : StoredMembership
  snapshotId : String
deriving DecidableEq

end Mill
