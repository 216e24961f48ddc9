import Mathlib.Data.List.Basic

/-! Lists of events and of tasks: the last element with a property (of a sequence
of writes of which some fail, the one that is still there), and what replacing one
element leaves. -/

namespace List

variable {α : Type*} {p : α → Bool} {l l' : List α} {a b : α} {i j : Nat} {P : α → Prop}

def lastWhere (p : α → Bool) (l : List α) : Option α := (l.filter p).getLast?

lemma lastWhere_concat (l : List α) (a : α) :
    lastWhere p (l ++ [a]) = if p a = true then some a else lastWhere p l := by
  unfold lastWhere
  cases h : p a <;> simp [h]

lemma lastWhere_eq_none (h : lastWhere p l = none) : ∀ a ∈ l, ¬ p a = true := by
  rw [lastWhere, List.getLast?_eq_none_iff, List.filter_eq_nil_iff] at h
  exact h

lemma mem_of_lastWhere (h : lastWhere p l = some a) : a ∈ l ∧ p a = true := by
  have hm := List.mem_of_getLast? h
  exact List.mem_filter.mp hm

lemma mem_set_of_ne {v : α} (hi : l[i]? = some a) (hv : v ∈ l) (hne : v ≠ a) : v ∈ l.set i b := by
  obtain ⟨j, hj⟩ := List.mem_iff_getElem?.mp hv
  have hij : i ≠ j := by
    rintro rfl
    exact hne (Option.some.inj (hj.symm.trans hi))
  have hset : (l.set i b)[j]? = some v := by rw [List.getElem?_set_ne hij, hj]
  exact List.mem_of_getElem? hset

lemma of_getElem?_set (h : (l.set i a)[j]? = some b) : j = i ∧ b = a ∨ j ≠ i ∧ l[j]? = some b := by
  rw [List.getElem?_set] at h
  split_ifs at h with hij hlen
  · exact .inl ⟨hij.symm, (Option.some.inj h).symm⟩
  · exact .inr ⟨Ne.symm hij, h⟩

lemma of_getElem?_concat (h : (l ++ [a])[i]? = some b) : l[i]? = some b ∨ i = l.length ∧ b = a := by
  rw [List.getElem?_append] at h
  split_ifs at h with hi
  · exact .inl h
  · obtain ⟨hlen, hb⟩ := List.getElem?_eq_some_iff.mp h
    rw [List.length_singleton] at hlen
    have hi' : i = l.length := by omega
    subst hi'
    simp only [Nat.sub_self, List.getElem_cons_zero] at hb
    exact .inr ⟨rfl, hb.symm⟩

lemma getElem?_append_of_some (h : l[i]? = some a) : (l ++ l')[i]? = some a := by
  rw [List.getElem?_append_left (List.getElem?_eq_some_iff.mp h).1, h]

lemma notMem_eraseIdx (hl : l.Nodup) (h : l[i]? = some a) : a ∉ l.eraseIdx i := by
  intro hmem
  obtain ⟨j, hji, hj⟩ := List.mem_eraseIdx_iff_getElem?.mp hmem
  have hlt := (List.getElem?_eq_some_iff.mp hj).1
  exact hji ((List.getElem?_inj hlt hl).mp (hj.trans h.symm))

lemma set_of_getElem? (h : l[i]? = some a) : l.set i a = l := by
  obtain ⟨hlt, rfl⟩ := List.getElem?_eq_some_iff.mp h
  exact List.set_getElem_self hlt

lemma getElem?_set_of_some (h : l[i]? = some a) : (l.set i b)[i]? = some b :=
  getElem?_set_self (getElem?_eq_some_iff.mp h).1

lemma mem_set_self (hi : l[i]? = some a) : b ∈ l.set i b :=
  List.mem_of_getElem? (getElem?_set_of_some hi)

lemma exists_mem_set (hi : l[i]? = some a)
    (h : ∃ x ∈ l, P x) (hb : P a → P b) : ∃ x ∈ l.set i b, P x := by
  obtain ⟨x, hx, hP⟩ := h
  by_cases hxa : x = a
  · subst hxa
    exact ⟨b, mem_set_self hi, hb hP⟩
  · exact ⟨x, mem_set_of_ne hi hx hxa, hP⟩

lemma forall_mem_set (hl : ∀ x ∈ l, P x) (hb : P b) : ∀ x ∈ l.set i b, P x := by
  intro x hx
  rcases mem_or_eq_of_mem_set hx with hold | rfl
  · exact hl x hold
  · exact hb

lemma exists_getElem?_set (hi : l[i]? = some a) (hj : ∃ x, l[j]? = some x ∧ P x)
    (hP : j = i → P a → P b) : ∃ x, (l.set i b)[j]? = some x ∧ P x := by
  obtain ⟨x, hx, hPx⟩ := hj
  by_cases hij : i = j
  · subst hij
    cases hi.symm.trans hx
    exact ⟨b, getElem?_set_of_some hi, hP rfl hPx⟩
  · exact ⟨x, (getElem?_set_ne hij).trans hx, hPx⟩

lemma of_getElem?_pair {c : α} (h : [a, b][i]? = some c) : i = 0 ∧ c = a ∨ i = 1 ∧ c = b := by
  rcases i with _ | _ | i
  · exact .inl ⟨rfl, (Option.some.inj h).symm⟩
  · exact .inr ⟨rfl, (Option.some.inj h).symm⟩
  · cases h

lemma getElem?_modify_of_some (h : l[i]? = some a)
    (f : α → α) : (l.modify j f)[i]? = some (if j = i then f a else a) := by
  rw [List.getElem?_modify, h]
  rfl

lemma modify_append_of_lt (h : i < l.length) (f : α → α) :
    (l ++ l').modify i f = l.modify i f ++ l' := by
  apply List.ext_getElem?
  intro j
  rw [List.getElem?_modify, List.getElem?_append, List.getElem?_append, List.length_modify,
    List.getElem?_modify]
  split_ifs with hij hj
  · rfl
  · omega
  · rfl
  · exact congrFun Option.map_id _

lemma map_modify_of_fixed {β : Type*} {g : α → β} {f : α → α} (hf : ∀ a, g (f a) = g a)
    (l : List α) (i : Nat) : (l.modify i f).map g = l.map g := by
  apply List.ext_getElem?
  intro j
  rw [List.getElem?_map, List.getElem?_modify, List.getElem?_map, Option.map_eq_map, Option.map_map]
  congr 1
  funext a
  rw [Function.comp_apply]
  split_ifs
  · exact hf a
  · rfl

end List
