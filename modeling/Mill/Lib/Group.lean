import Mill.Lib.FinMap

/-! Finite maps built from lists: by grouping the elements by a key, where the values under a key
keep the order of the list, and by inserting the entries one by one. -/

namespace Finmap

variable {K V W : Type*} [DecidableEq K]

def push (m : Finmap fun _ : K => List V) (k : K) (v : V) : Finmap fun _ : K => List V :=
  m.insert k ((m.lookup k).getD [] ++ [v])

def groupBy (key : W → K) (val : W → V) (xs : List W) : Finmap fun _ : K => List V :=
  xs.foldl (fun m x => m.push (key x) (val x)) ∅

variable {key : W → K} {val : W → V} {xs : List W} {k : K}

lemma groupBy_concat (x : W) :
    groupBy key val (xs ++ [x]) = (groupBy key val xs).push (key x) (val x) := by
  rw [groupBy, List.foldl_append]
  rfl

lemma lookup_groupBy_getD :
    ((groupBy key val xs).lookup k).getD [] = (xs.filter fun x => key x = k).map val := by
  induction xs using List.reverseRecOn with
  | nil => rfl
  | append_singleton xs x ih =>
    rw [groupBy_concat, push, lookup_insert_eq, List.filter_append, List.map_append, ← ih]
    by_cases hk : k = key x
    · subst hk
      simp
    · have hne : key x ≠ k := fun h => hk h.symm
      simp [hk, hne]

lemma mem_groupBy : k ∈ groupBy key val xs ↔ ∃ x ∈ xs, key x = k := by
  induction xs using List.reverseRecOn with
  | nil => simp [groupBy, notMem_empty]
  | append_singleton xs x ih =>
    rw [groupBy_concat, push, mem_insert, ih]
    simp only [List.mem_append, List.mem_singleton]
    constructor
    · rintro (rfl | ⟨y, hy, rfl⟩)
      · exact ⟨x, .inr rfl, rfl⟩
      · exact ⟨y, .inl hy, rfl⟩
    · rintro ⟨y, hy | rfl, rfl⟩
      · exact .inr ⟨y, hy, rfl⟩
      · exact .inl rfl

lemma lookup_groupBy_eq_some {vs : List V} : (groupBy key val xs).lookup k = some vs ↔
    (∃ x ∈ xs, key x = k) ∧ vs = (xs.filter fun x => key x = k).map val := by
  have hmem : k ∈ groupBy key val xs ↔ ∃ x ∈ xs, key x = k := mem_groupBy
  rw [← hmem, ← lookup_groupBy_getD, mem_iff]
  constructor
  · intro h
    rw [h]
    exact ⟨⟨vs, rfl⟩, rfl⟩
  · rintro ⟨⟨ws, hws⟩, rfl⟩
    rw [hws, Option.getD_some]

lemma lookup_groupBy_eq_none : (groupBy key val xs).lookup k = none ↔ ∀ x ∈ xs, key x ≠ k := by
  rw [lookup_eq_none, mem_groupBy]
  simp only [not_exists, not_and, ne_eq]

variable {U : Type*} {f : V → U}

lemma lookup_foldl_insert {order : List (Σ _ : K, V)} (horder : order.NodupKeys)
    (m : Finmap fun _ : K => U) (k : K) :
    (order.foldl (fun m e => m.insert e.1 (f e.2)) m).lookup k =
      ((order.dlookup k).map f).or (m.lookup k) := by
  induction order generalizing m with
  | nil => rfl
  | cons e order ih =>
    obtain ⟨hnew, horder⟩ := List.nodupKeys_cons.mp horder
    rw [List.foldl_cons, ih horder, lookup_insert_eq]
    by_cases hk : k = e.1
    · subst hk
      rw [List.dlookup_eq_none.mpr hnew, if_pos rfl, List.dlookup_cons_eq]
      rfl
    · rw [if_neg hk, List.dlookup_cons_ne _ _ hk]

lemma exists_lookup_foldl_insert (hk : k ∈ xs.map key) (m : Finmap fun _ : K => V) :
    ∃ x ∈ xs, key x = k ∧
      (xs.foldl (fun m x => m.insert (key x) (val x)) m).lookup k = some (val x) := by
  induction xs using List.reverseRecOn with
  | nil => cases hk
  | append_singleton xs x ih =>
    rw [List.foldl_append, List.foldl_cons, List.foldl_nil, lookup_insert_eq]
    by_cases hx : k = key x
    · exact ⟨x, by simp, hx.symm, if_pos hx⟩
    · rw [List.map_append, List.mem_append] at hk
      have hold : k ∈ xs.map key := hk.resolve_right fun h => hx (List.mem_singleton.mp h)
      obtain ⟨y, hy, hkey, hlookup⟩ := ih hold
      exact ⟨y, List.mem_append_left _ hy, hkey, (if_neg hx).trans hlookup⟩

lemma lookup_foldl_insert_of_notMem (hk : k ∉ xs.map key) (m : Finmap fun _ : K => V) :
    (xs.foldl (fun m x => m.insert (key x) (val x)) m).lookup k = m.lookup k := by
  induction xs generalizing m with
  | nil => rfl
  | cons x xs ih =>
    rw [List.map_cons, List.mem_cons, not_or] at hk
    rw [List.foldl_cons, ih hk.2, lookup_insert_of_ne _ hk.1]

lemma mem_foldl_insert (m : Finmap fun _ : K => V) :
    k ∈ xs.foldl (fun m x => m.insert (key x) (val x)) m ↔ k ∈ xs.map key ∨ k ∈ m := by
  induction xs generalizing m with
  | nil => simp
  | cons x xs ih =>
    rw [List.foldl_cons, ih, mem_insert, List.map_cons, List.mem_cons]
    constructor
    · rintro (hxs | hx | hm)
      · exact .inl (.inr hxs)
      · exact .inl (.inl hx)
      · exact .inr hm
    · rintro ((hx | hxs) | hm)
      · exact .inr (.inl hx)
      · exact .inl hxs
      · exact .inr (.inr hm)

lemma lookup_of_insertions {m : Finmap fun _ : K => V} {order : List (Σ _ : K, V)}
    (h : m.entries = order) (k : K) :
    (order.foldl (fun m e => m.insert e.1 (f e.2)) (∅ : Finmap fun _ : K => U)).lookup k =
      (m.lookup k).map f := by
  rw [lookup_foldl_insert (nodupKeys_of_entries h), ← lookup_of_entries h, lookup_empty,
    Option.or_none]

end Finmap
