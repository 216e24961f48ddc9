import Mathlib.Algebra.BigOperators.Group.List.Basic
import Mathlib.Algebra.Group.Prod
import Mathlib.Algebra.Order.Group.Multiset
import Mathlib.Data.Multiset.Basic
import Mathlib.Tactic.Abel

/-! Accounts of what a system holds: a sum over its parts, of which a step changes one and lets
something in or out. An item that has steps before it is counted together with them. -/

namespace List

variable {α : Type*}

lemma sum_map_set {M : Type*} [AddCommMonoid M] (f : α → M) {l : List α} {i : Nat} {a b : α}
    (h : l[i]? = some a) : ((l.set i b).map f).sum + f a = (l.map f).sum + f b := by
  induction l generalizing i with
  | nil => cases h
  | cons x l ih =>
    cases i with
    | zero =>
      rw [getElem?_cons_zero, Option.some.injEq] at h
      subst h
      simp only [set_cons_zero, map_cons, sum_cons]
      rw [add_right_comm, add_comm (f b), add_right_comm]
    | succ =>
      rw [getElem?_cons_succ] at h
      simp only [set_cons_succ, map_cons, sum_cons, add_assoc, ih h]

lemma sum_map_set_add {M : Type*} [AddCancelCommMonoid M] (f : α → M) {l : List α} {i : Nat}
    {a b : α} {outflow inflow : M} (h : l[i]? = some a) (hb : f b + outflow = f a + inflow) :
    ((l.set i b).map f).sum + outflow = (l.map f).sum + inflow := by
  have hset := sum_map_set f (b := b) h
  refine add_right_cancel (b := f a) ?_
  rw [add_right_comm, hset, add_assoc, hb, add_comm (f a), add_assoc]

end List

namespace Account

lemma flow_balance {M : Type*} [AddCancelCommMonoid M] {a a' b b' outflow inflow gone : M}
    (ha : a' + outflow = a + inflow) (hb : b' + (inflow + gone) = b + outflow) :
    a' + b' + gone = a + b := by
  refine add_right_cancel (b := outflow + inflow) ?_
  calc a' + b' + gone + (outflow + inflow) = (a' + outflow) + (b' + (inflow + gone)) := by abel
    _ = (a + inflow) + (b + outflow) := by rw [ha, hb]
    _ = a + b + (outflow + inflow) := by abel

variable {α : Type*}

/-- Items with `k` steps before them each, and how many steps that makes. -/
def atLevel (k : Nat) (l : List α) : Multiset α × ℕ := (l, k * l.length)

@[simp] lemma atLevel_nil (k : Nat) : atLevel k ([] : List α) = 0 := rfl

@[simp] lemma atLevel_append (k : Nat) (l l' : List α) :
    atLevel k (l ++ l') = atLevel k l + atLevel k l' := by
  simp [atLevel, Nat.mul_add]

lemma atLevel_cons (k : Nat) (a : α) (l : List α) :
    atLevel k (a :: l) = atLevel k [a] + atLevel k l :=
  atLevel_append k [a] l

lemma atLevel_succ (k : Nat) (a : α) : atLevel (k + 1) [a] = atLevel k [a] + (0, 1) := by
  simp [atLevel]

def Loaded (m : Multiset α × ℕ) : Prop := m.2 = 0 → m = 0

lemma loaded_atLevel (k : Nat) (l : List α) : Loaded (atLevel (k + 1) l) := by
  intro h
  have hl : l = [] := by simpa [atLevel] using h
  rw [hl, atLevel_nil]

lemma Loaded.eq_zero_of_add {m n : Multiset α × ℕ} (hm : Loaded m) (hn : Loaded n)
    (h : (m + n).2 = 0) : m = 0 ∧ n = 0 := by
  obtain ⟨h1, h2⟩ := Nat.add_eq_zero_iff.mp h
  exact ⟨hm h1, hn h2⟩

lemma Loaded.add {m n : Multiset α × ℕ} (hm : Loaded m) (hn : Loaded n) : Loaded (m + n) := by
  intro h
  obtain ⟨h1, h2⟩ := hm.eq_zero_of_add hn h
  rw [h1, h2, add_zero]

lemma eq_zero_of_sum {β : Type*} {f : β → Multiset α × ℕ} (hf : ∀ b, Loaded (f b))
    {l : List β} (h : (l.map f).sum.2 = 0) : ∀ b ∈ l, f b = 0 := by
  induction l with
  | nil => exact nofun
  | cons b l ih =>
    obtain ⟨h1, h2⟩ := Nat.add_eq_zero_iff.mp h
    exact List.forall_mem_cons.mpr ⟨hf b h1, ih h2⟩

lemma loaded_sum {β : Type*} {f : β → Multiset α × ℕ} (hf : ∀ b, Loaded (f b)) (l : List β) :
    Loaded (l.map f).sum := by
  induction l with
  | nil => exact fun _ => rfl
  | cons b l ih => exact (hf b).add ih

end Account
