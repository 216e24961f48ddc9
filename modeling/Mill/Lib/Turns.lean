import Mathlib.Data.List.Nodup

/-! Items that take turns on a shared state, each of them once. A turn changes the part of its own
item only, and what comes of it depends on that part and on what it sees of the items it reads. In
two orders that put every item on the same side of the items it reads, every item has the same
outcome. -/

namespace Turns

variable {σ ι β V B : Type*}

inductive Rounds (turn : ι → σ → β → σ → Prop) : σ → List (ι × β) → σ → Prop
  | nil (s : σ) : Rounds turn s [] s
  | cons {i s t u o turns} (h : turn i s o t) (hrest : Rounds turn t turns u) :
      Rounds turn s ((i, o) :: turns) u

structure Local (turn : ι → σ → β → σ → Prop) (reads : ι → ι → Prop) (part : ι → σ → V)
    (seen : V → B) : Prop where
  frame : ∀ {i s o t}, turn i s o t → ∀ j, j ≠ i → part j t = part j s
  outcome : ∀ {i s o s' t o' t'}, turn i s o s' → turn i t o' t' → part i s = part i t →
    (∀ j, reads i j → j ≠ i → seen (part j s) = seen (part j t)) → o = o'
  after : ∀ {i s o s' t t'}, turn i s o s' → turn i t o t' → part i s = part i t →
    seen (part i s') = seen (part i t')

variable {turn : ι → σ → β → σ → Prop} {reads : ι → ι → Prop} {part : ι → σ → V} {seen : V → B}
  {s t u : σ}

lemma rounds_append {as bs : List (ι × β)} :
    Rounds turn s (as ++ bs) u ↔ ∃ t, Rounds turn s as t ∧ Rounds turn t bs u := by
  induction as generalizing s with
  | nil =>
    constructor
    · intro h
      exact ⟨s, .nil s, h⟩
    · rintro ⟨t, hs, h⟩
      cases hs
      exact h
  | cons a as ih =>
    constructor
    · intro h
      cases h with
      | cons hturn hrest =>
        obtain ⟨t, has, hbs⟩ := ih.mp hrest
        exact ⟨t, .cons hturn has, hbs⟩
    · rintro ⟨t, hs, hbs⟩
      cases hs with
      | cons hturn hrest => exact .cons hturn (ih.mpr ⟨t, hrest, hbs⟩)

lemma pair_sublist_iff {as bs : List ι} {i j : ι} (h : (as ++ i :: bs).Nodup) :
    [j, i].Sublist (as ++ i :: bs) ↔ j ∈ as := by
  have hdisjoint : i ∉ as ∧ i ∉ bs := by
    rw [List.nodup_append] at h
    have hbs : i ∉ bs := (List.nodup_cons.mp h.2.1).1
    exact ⟨fun hi => h.2.2 i hi i List.mem_cons_self rfl, hbs⟩
  constructor
  · intro hsub
    obtain ⟨front, back, heq, hfront, hback⟩ := List.sublist_append_iff.mp hsub
    rcases front with _ | ⟨a, _ | ⟨b, front⟩⟩
    · -- both in the back part, where nothing comes before `i`
      rw [List.nil_append] at heq
      subst heq
      have hlast : i ∈ bs := by
        rcases List.sublist_cons_iff.mp hback with htail | ⟨r, hr, htail⟩
        · exact htail.subset (by simp)
        · cases hr
          exact htail.subset (by simp)
      exact absurd hlast hdisjoint.2
    · cases heq
      exact hfront.subset List.mem_cons_self
    · simp only [List.cons_append, List.cons.injEq] at heq
      obtain ⟨rfl, rfl, _⟩ := heq
      exact absurd (hfront.subset (by simp)) hdisjoint.1
  · intro hj
    have hfront : [j].Sublist as := List.singleton_sublist.mpr hj
    have hback : [i].Sublist (i :: bs) := List.singleton_sublist.mpr List.mem_cons_self
    exact hfront.append hback

namespace Local

variable (hl : Local turn reads part seen)
include hl

lemma part_of_notMem {turns : List (ι × β)} (h : Rounds turn s turns t) {j : ι}
    (hj : j ∉ turns.map Prod.fst) : part j t = part j s := by
  induction h with
  | nil => rfl
  | @cons i s t u o turns hturn _ ih =>
    rw [List.map_cons, List.mem_cons, not_or] at hj
    rw [ih hj.2, hl.frame hturn j hj.1]

lemma exists_turn {turns : List (ι × β)} (h : Rounds turn s turns t)
    (hnodup : (turns.map Prod.fst).Nodup) {j : ι} {o : β} (hj : (j, o) ∈ turns) :
    ∃ a b, turn j a o b ∧ part j a = part j s ∧ part j b = part j t := by
  obtain ⟨as, bs, rfl⟩ := List.append_of_mem hj
  obtain ⟨a, has, hrest⟩ := rounds_append.mp h
  cases hrest with
  | @cons _ _ b _ _ _ hturn hbs =>
    rw [List.map_append, List.map_cons, List.nodup_append, List.nodup_cons] at hnodup
    have hbefore : j ∉ as.map Prod.fst :=
      fun hmem => hnodup.2.2 j hmem j List.mem_cons_self rfl
    exact ⟨a, b, hturn, hl.part_of_notMem has hbefore, (hl.part_of_notMem hbs hnodup.2.1.1).symm⟩

lemma exists_turn_at {as bs : List (ι × β)} {i : ι} {o : β}
    (h : Rounds turn s (as ++ (i, o) :: bs) u)
    (hnodup : ((as ++ (i, o) :: bs).map Prod.fst).Nodup) :
    ∃ t t', Rounds turn s as t ∧ turn i t o t' ∧ part i t = part i s := by
  obtain ⟨t, has, hrest⟩ := rounds_append.mp h
  cases hrest with
  | @cons _ _ t' _ _ _ hturn _ =>
    rw [List.map_append, List.map_cons, List.nodup_append] at hnodup
    have hbefore : i ∉ as.map Prod.fst :=
      fun hmem => hnodup.2.2 i hmem i List.mem_cons_self rfl
    exact ⟨t, t', has, hturn, hl.part_of_notMem has hbefore⟩

lemma outcome_eq {turns₁ turns₂ : List (ι × β)} {u₁ u₂ : σ} (h₁ : Rounds turn s turns₁ u₁)
    (h₂ : Rounds turn s turns₂ u₂) (hnodup₁ : (turns₁.map Prod.fst).Nodup)
    (hnodup₂ : (turns₂.map Prod.fst).Nodup)
    (hside : ∀ i j, reads i j →
      ([j, i].Sublist (turns₁.map Prod.fst) ↔ [j, i].Sublist (turns₂.map Prod.fst)))
    {i : ι} {o₁ o₂ : β} (hi₁ : (i, o₁) ∈ turns₁) (hi₂ : (i, o₂) ∈ turns₂) : o₁ = o₂ := by
  obtain ⟨as₁, bs₁, heq₁⟩ := List.append_of_mem hi₁
  -- by the position of the item in the first order
  induction hlen : as₁.length using Nat.strongRecOn generalizing i o₁ o₂ as₁ bs₁ with
  | _ n ih =>
    obtain ⟨as₂, bs₂, heq₂⟩ := List.append_of_mem hi₂
    have hside' : ∀ j, reads i j → (j ∈ as₁.map Prod.fst ↔ j ∈ as₂.map Prod.fst) := by
      intro j hj
      have hiff := hside i j hj
      rw [heq₁, List.map_append, List.map_cons] at hnodup₁ hiff
      rw [heq₂, List.map_append, List.map_cons] at hnodup₂ hiff
      rwa [pair_sublist_iff hnodup₁, pair_sublist_iff hnodup₂] at hiff
    obtain ⟨t₁, t₁', hbefore₁, hturn₁, hown₁⟩ :=
      hl.exists_turn_at (heq₁ ▸ h₁) (heq₁ ▸ hnodup₁)
    obtain ⟨t₂, t₂', hbefore₂, hturn₂, hown₂⟩ :=
      hl.exists_turn_at (heq₂ ▸ h₂) (heq₂ ▸ hnodup₂)
    refine hl.outcome hturn₁ hturn₂ (hown₁.trans hown₂.symm) fun j hreads _ => ?_
    by_cases hj : j ∈ as₁.map Prod.fst
    · obtain ⟨⟨_, p₁⟩, hp₁, rfl⟩ := List.mem_map.mp hj
      obtain ⟨⟨j, p₂⟩, hp₂, rfl⟩ := List.mem_map.mp ((hside' _ hreads).mp hj)
      have hmem₁ : (j, p₁) ∈ turns₁ := heq₁ ▸ List.mem_append_left _ hp₁
      have hmem₂ : (j, p₂) ∈ turns₂ := heq₂ ▸ List.mem_append_left _ hp₂
      have hsame : p₁ = p₂ := by
        obtain ⟨as, bs, has⟩ := List.append_of_mem hp₁
        have heq : turns₁ = as ++ (j, p₁) :: (bs ++ (i, o₁) :: bs₁) := by
          rw [heq₁, has, List.append_assoc, List.cons_append]
        have hlt : as.length < n := by
          rw [← hlen, has, List.length_append, List.length_cons]
          omega
        exact ih as.length hlt hmem₁ hmem₂ as _ heq rfl
      subst hsame
      have hnodup_as₁ : (as₁.map Prod.fst).Nodup := by
        rw [heq₁, List.map_append, List.nodup_append] at hnodup₁
        exact hnodup₁.1
      have hnodup_as₂ : (as₂.map Prod.fst).Nodup := by
        rw [heq₂, List.map_append, List.nodup_append] at hnodup₂
        exact hnodup₂.1
      obtain ⟨a₁, b₁, hj₁, ha₁, hb₁⟩ := hl.exists_turn hbefore₁ hnodup_as₁ hp₁
      obtain ⟨a₂, b₂, hj₂, ha₂, hb₂⟩ := hl.exists_turn hbefore₂ hnodup_as₂ hp₂
      rw [← hb₁, ← hb₂]
      exact hl.after hj₁ hj₂ (ha₁.trans ha₂.symm)
    · have hj' : j ∉ as₂.map Prod.fst := fun hmem => hj ((hside' j hreads).mpr hmem)
      rw [hl.part_of_notMem hbefore₁ hj, hl.part_of_notMem hbefore₂ hj']

end Local

end Turns
