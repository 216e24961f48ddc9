import Mathlib.Data.Finmap
import Mathlib.Algebra.BigOperators.Group.Multiset.Basic
import Mathlib.Algebra.Order.BigOperators.Group.Finset

/-! Operations of a hash map that Mathlib's finite maps lack: updating values
in place, keeping the entries that pass a test, and totals over the values.
A `Finmap` has no iteration order, so a statement about one holds for every
order in which the entries may be visited. -/

namespace Finmap

variable {K V W : Type*}

def values (m : Finmap fun _ : K => V) : Multiset V := m.entries.map Sigma.snd

lemma mem_values [DecidableEq K] {m : Finmap fun _ : K => V} {v : V} :
    v ∈ m.values ↔ ∃ k, m.lookup k = some v := by
  simp only [values, Multiset.mem_map]
  constructor
  · rintro ⟨⟨k, v'⟩, he, rfl⟩
    exact ⟨k, mem_lookup_iff.mpr he⟩
  · rintro ⟨k, hk⟩
    exact ⟨⟨k, v⟩, mem_lookup_iff.mp hk, rfl⟩

section

variable {M : Type*} [AddCommMonoid M]

def total (g : V → M) (m : Finmap fun _ : K => V) : M := (m.values.map g).sum

end

variable [DecidableEq K]

section

variable {m : Finmap fun _ : K => V} {order : List (Σ _ : K, V)} {k : K}

omit [DecidableEq K] in
lemma nodupKeys_of_entries (h : m.entries = order) : order.NodupKeys := by
  have hm := m.nodupKeys
  rwa [h] at hm

omit [DecidableEq K] in
lemma mem_of_map_fst {keys : List K} (h : m.entries.map Sigma.fst = keys) : k ∈ keys ↔ k ∈ m := by
  rw [← Multiset.mem_coe, ← h]
  rfl

omit [DecidableEq K] in
lemma mem_of_entries (h : m.entries = order) : k ∈ order.map Sigma.fst ↔ k ∈ m := by
  apply mem_of_map_fst
  rw [h, Multiset.map_coe]

lemma mem_iff_of_entries
    (h : m.entries = order) {v : V} : ⟨k, v⟩ ∈ order ↔ m.lookup k = some v := by
  rw [← Option.mem_def, Finmap.mem_lookup_iff, h, Multiset.mem_coe]

lemma lookup_of_entries (h : m.entries = order) (k : K) : m.lookup k = order.dlookup k := by
  obtain ⟨entries, hm⟩ := m
  subst h
  rfl

end

def mapVals (f : K → V → W) (m : Finmap fun _ : K => V) : Finmap fun _ : K => W where
  entries := m.entries.map fun e => ⟨e.1, f e.1 e.2⟩
  nodupKeys := by
    obtain ⟨⟨l⟩, hl⟩ := m
    exact List.NodupKeys.map₂ f l hl

@[simp] lemma lookup_mapVals (f : K → V → W) (m : Finmap fun _ : K => V) (k : K) :
    (m.mapVals f).lookup k = (m.lookup k).map (f k) := by
  obtain ⟨⟨l⟩, hl⟩ := m
  exact List.dlookup_map₂ k

lemma map_values_congr {m m' : Finmap fun _ : K => V} {f : V → W}
    (h : ∀ k, (m.lookup k).map f = (m'.lookup k).map f) : m.values.map f = m'.values.map f := by
  have hvalues (m : Finmap fun _ : K => V) : m.values.map f = (m.mapVals fun _ => f).values := by
    simp only [values, mapVals, Multiset.map_map, Function.comp_apply]
  have hmaps : m.mapVals (fun _ => f) = m'.mapVals fun _ => f :=
    ext_lookup fun k => by rw [lookup_mapVals, lookup_mapVals, h]
  rw [hvalues, hvalues, hmaps]

def retain (p : K → V → Bool) (m : Finmap fun _ : K => V) : Finmap fun _ : K => V where
  entries := m.entries.filter fun e => p e.1 e.2
  nodupKeys := by
    obtain ⟨⟨l⟩, hl⟩ := m
    exact List.NodupKeys.sublist List.filter_sublist hl

lemma lookup_retain_eq_some {p : K → V → Bool} {m : Finmap fun _ : K => V} {k : K} {v : V} :
    (m.retain p).lookup k = some v ↔ m.lookup k = some v ∧ p k v = true := by
  simp only [← Option.mem_def, mem_lookup_iff, retain, Multiset.mem_filter]

@[simp] lemma lookup_retain (p : K → V → Bool) (m : Finmap fun _ : K => V) (k : K) :
    (m.retain p).lookup k = (m.lookup k).filter (p k) := by
  ext v
  rw [lookup_retain_eq_some, Option.filter_eq_some_iff]

lemma any_eq_true {p : K → V → Bool} {m : Finmap fun _ : K => V} :
    m.any p = true ↔ ∃ k v, m.lookup k = some v ∧ p k v = true := by
  obtain ⟨⟨l⟩, hl⟩ := m
  have hfold : ∀ (l : List (Σ _ : K, V)) (b : Bool),
      l.foldl (fun b e => b || p e.1 e.2) b = (b || l.any fun e => p e.1 e.2) := by
    intro l
    induction l with
    | nil => simp
    | cons e l ih => simp [ih, Bool.or_assoc]
  have hany : any p ⟨Quot.mk _ l, hl⟩ = l.any fun e => p e.1 e.2 := hfold l false
  rw [hany, List.any_eq_true]
  constructor
  · rintro ⟨⟨k, v⟩, he, hp⟩
    exact ⟨k, v, lookup_eq_some_iff.mpr he, hp⟩
  · rintro ⟨k, v, hk, hp⟩
    exact ⟨⟨k, v⟩, lookup_eq_some_iff.mp hk, hp⟩

lemma any_eq_false {p : K → V → Bool} {m : Finmap fun _ : K => V} :
    m.any p = false ↔ ∀ k v, m.lookup k = some v → p k v = false := by
  rw [← Bool.not_eq_true, any_eq_true]
  simp only [not_exists, not_and, Bool.not_eq_true]

section

variable {k k' : K} {v : V} {m : Finmap fun _ : K => V}

lemma of_lookup_singleton {i : K} {x : V}
    (h : (singleton k v : Finmap fun _ : K => V).lookup i = some x) : i = k ∧ x = v := by
  obtain rfl := (mem_singleton _ _ _).mp (mem_of_lookup_eq_some h)
  rw [lookup_singleton_eq, Option.some.injEq] at h
  exact ⟨rfl, h.symm⟩

lemma lookup_insert_eq (m : Finmap fun _ : K => V) (k k' : K) (v : V) :
    (m.insert k v).lookup k' = if k' = k then some v else m.lookup k' := by
  split_ifs with h
  · subst h
    exact lookup_insert m
  · exact lookup_insert_of_ne m h

lemma lookup_erase_eq (m : Finmap fun _ : K => V) (k k' : K) :
    (m.erase k).lookup k' = if k' = k then none else m.lookup k' := by
  split_ifs with h
  · subst h
    exact lookup_erase k' m
  · exact lookup_erase_ne h

lemma lookup_insert_eq_some {v' : V} :
    (m.insert k v).lookup k' = some v' ↔ k' = k ∧ v = v' ∨ k' ≠ k ∧ m.lookup k' = some v' := by
  rw [lookup_insert_eq]
  split_ifs with h
  · simp [h]
  · simp [h]

lemma lookup_erase_eq_some : (m.erase k).lookup k' = some v ↔ k' ≠ k ∧ m.lookup k' = some v := by
  rw [lookup_erase_eq]
  split_ifs with h
  · simp [h]
  · simp [h]

lemma erase_of_lookup_eq_none (h : m.lookup k = none) : m.erase k = m := by
  apply ext_lookup
  intro k'
  rw [lookup_erase_eq]
  split_ifs with hk
  · rw [hk, h]
  · rfl

lemma insert_erase (m : Finmap fun _ : K => V) (k : K) (v : V) :
    (m.erase k).insert k v = m.insert k v := by
  apply ext_lookup
  intro k'
  simp only [lookup_insert_eq, lookup_erase_eq]
  split_ifs <;> rfl

lemma lookup_insert_map {f : V → V} (h : m.lookup k = some v) (k' : K) :
    (m.insert k (f v)).lookup k' = if k' = k then (m.lookup k').map f else m.lookup k' := by
  rw [lookup_insert_eq]
  split_ifs with hk
  · rw [hk, h, Option.map_some]
  · rfl

lemma lookup_eq_map_of_none {f : V → V} (h : m.lookup k = none) (k' : K) :
    m.lookup k' = if k' = k then (m.lookup k').map f else m.lookup k' := by
  split_ifs with hk
  · rw [hk, h, Option.map_none]
  · rfl

end

def modify (k : K) (f : V → V) (m : Finmap fun _ : K => V) : Finmap fun _ : K => V :=
  match m.lookup k with
  | some v => m.insert k (f v)
  | none => m

lemma lookup_modify (m : Finmap fun _ : K => V) (k k' : K) (f : V → V) :
    (m.modify k f).lookup k' = if k' = k then (m.lookup k').map f else m.lookup k' := by
  unfold modify
  cases hk : m.lookup k with
  | none => exact lookup_eq_map_of_none hk k'
  | some => exact lookup_insert_map hk k'

/-- A loop that updates one key after another does the same whatever the order
of the keys, as long as no key comes twice. -/
lemma foldl_modify {U : Type*} (f : U → V → V) {l : List (Σ _ : K, U)} (hl : l.NodupKeys)
    (m : Finmap fun _ : K => V) : l.foldl (fun m e => m.modify e.1 (f e.2)) m =
      m.mapVals fun k v => (l.dlookup k).elim v (f · v) := by
  apply ext_lookup
  intro k
  rw [lookup_mapVals]
  induction l generalizing m with
  | nil => simp
  | cons e l ih =>
    rw [List.nodupKeys_cons] at hl
    rw [List.foldl_cons, ih hl.2, lookup_modify]
    by_cases hk : k = e.1
    · have hnone : l.dlookup k = none := List.dlookup_eq_none.mpr (hk ▸ hl.1)
      rw [if_pos hk, hnone, hk, List.dlookup_cons_eq, Option.map_map]
      rfl
    · rw [if_neg hk, List.dlookup_cons_ne _ _ hk]

variable {M : Type*} [AddCommMonoid M]

lemma total_insert (g : V → M) (m : Finmap fun _ : K => V) (k : K) (v : V) :
    total g (m.insert k v) = g v + total g (m.erase k) := by
  have h : k ∉ m.erase k := notMem_erase_self
  rw [← insert_erase, total, values, entries_insert_of_notMem h]
  simp only [Multiset.map_cons, Multiset.sum_cons, total, values]

lemma total_eq_sum (g : V → M) {m : Finmap fun _ : K => V} {t : Finset K} (h : m.keys ⊆ t) :
    total g m = ∑ k ∈ t, (m.lookup k).elim 0 g := by
  have hval : m.keys.val = m.entries.map Sigma.fst := rfl
  have hkeys : total g m = ∑ k ∈ m.keys, (m.lookup k).elim 0 g := by
    rw [Finset.sum, hval, Multiset.map_map, total, values, Multiset.map_map]
    congr 1
    apply Multiset.map_congr rfl
    intro e he
    rw [Function.comp_apply, Function.comp_apply, mem_lookup_iff.mpr he, Option.elim_some]
  rw [hkeys]
  apply Finset.sum_subset h
  intro k _ hk
  rw [lookup_eq_none.mpr (mt mem_keys.mpr hk), Option.elim_none]

variable [PartialOrder M] [IsOrderedAddMonoid M] {g : V → M}

lemma total_le_total {m m' : Finmap fun _ : K => V}
    (h : ∀ k, (m.lookup k).elim 0 g ≤ (m'.lookup k).elim 0 g) : total g m ≤ total g m' := by
  have hm : m.keys ⊆ m.keys ∪ m'.keys := Finset.subset_union_left
  have hm' : m'.keys ⊆ m.keys ∪ m'.keys := Finset.subset_union_right
  rw [total_eq_sum g hm, total_eq_sum g hm']
  exact Finset.sum_le_sum fun k _ => h k

lemma total_erase_le (m : Finmap fun _ : K => V) (k : K)
    (hg : ∀ v, m.lookup k = some v → 0 ≤ g v) : total g (m.erase k) ≤ total g m := by
  apply total_le_total
  intro k'
  rw [lookup_erase_eq]
  split_ifs with hk
  · cases hv : m.lookup k' with
    | none => exact le_refl 0
    | some v => exact hg v (hk ▸ hv)
  · exact le_refl _

end Finmap
