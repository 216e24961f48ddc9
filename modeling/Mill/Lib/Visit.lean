import Mill.Lib.FinMap

/-! Loops over a finite map, in whatever order its keys come. -/

namespace Finmap

variable {K V W E : Type*} [DecidableEq K]

structure Enumerates (order : List K) (m : Finmap fun _ : K => V) : Prop where
  nodup : order.Nodup
  mem_iff : ∀ k, k ∈ order ↔ k ∈ m

def visit (m : Finmap fun _ : K => V) (order : List K) : List (K × V) :=
  order.filterMap fun k => (m.lookup k).map fun v => (k, v)

variable {m : Finmap fun _ : K => V} {order : List K} {k : K} {v : V}

lemma mem_visit : (k, v) ∈ m.visit order ↔ k ∈ order ∧ m.lookup k = some v := by
  simp only [visit, List.mem_filterMap, Option.map_eq_some_iff, Prod.mk.injEq]
  constructor
  · rintro ⟨k', hk', v', hv', rfl, rfl⟩
    exact ⟨hk', hv'⟩
  · rintro ⟨hk, hv⟩
    exact ⟨k, hk, v, hv, rfl, rfl⟩

lemma Enumerates.mem_visit_iff (h : Enumerates order m) :
    (k, v) ∈ m.visit order ↔ m.lookup k = some v := by
  rw [mem_visit]
  refine ⟨fun hv => hv.2, fun hv => ⟨?_, hv⟩⟩
  rw [h.mem_iff]
  exact Finmap.mem_of_lookup_eq_some hv

lemma map_fst_visit_of_subset (h : ∀ k ∈ order, k ∈ m) : (m.visit order).map Prod.fst = order := by
  induction order with
  | nil => rfl
  | cons k order ih =>
    have hk : (m.lookup k).isSome = true := Finmap.lookup_isSome.mpr (h k List.mem_cons_self)
    obtain ⟨v, hv⟩ := Option.isSome_iff_exists.mp hk
    have htail := ih fun k' hk' => h k' (List.mem_cons_of_mem k hk')
    rw [visit, List.filterMap_cons, hv, Option.map_some, List.map_cons]
    exact congrArg (k :: ·) htail

lemma Enumerates.map_fst_visit (h : Enumerates order m) : (m.visit order).map Prod.fst = order :=
  map_fst_visit_of_subset fun k hk => (h.mem_iff k).mp hk

def collectStep (f : K → V → Option W × List E) (acc : (Finmap fun _ : K => W) × List E)
    (e : K × V) : (Finmap fun _ : K => W) × List E :=
  ((f e.1 e.2).1.elim acc.1 fun w => acc.1.insert e.1 w, acc.2 ++ (f e.1 e.2).2)

/-- A loop that inserts what it makes of each entry, if it makes something of it, and collects
the errors on the way. -/
def collect (f : K → V → Option W × List E) (entries : List (K × V)) :
    (Finmap fun _ : K => W) × List E :=
  entries.foldl (collectStep f) (∅, [])

variable {f : K → V → Option W × List E}

lemma foldl_collectStep (entries : List (K × V)) (acc : (Finmap fun _ : K => W) × List E) :
    (entries.foldl (collectStep f) acc).2 = acc.2 ++ entries.flatMap (fun e => (f e.1 e.2).2) ∧
    ∀ k, (entries.map Prod.fst).Nodup → (entries.foldl (collectStep f) acc).1.lookup k =
      ((entries.find? fun e => e.1 = k).bind fun e => (f e.1 e.2).1).or (acc.1.lookup k) := by
  induction entries generalizing acc with
  | nil => exact ⟨(List.append_nil _).symm, fun _ _ => rfl⟩
  | cons e entries ih =>
    obtain ⟨herrors, hlookup⟩ := ih (collectStep f acc e)
    refine ⟨?_, ?_⟩
    · rw [List.foldl_cons, herrors, List.flatMap_cons, collectStep, List.append_assoc]
    · intro k hnodup
      rw [List.map_cons, List.nodup_cons] at hnodup
      rw [List.foldl_cons, hlookup k hnodup.2, List.find?_cons, collectStep]
      by_cases hk : e.1 = k
      · have hrest : (entries.find? fun e => e.1 = k) = none := by
          rw [List.find?_eq_none]
          intro e' he' hk'
          refine hnodup.1 ?_
          rw [hk, ← of_decide_eq_true hk']
          exact List.mem_map_of_mem he'
        subst hk
        rw [hrest, decide_eq_true rfl]
        cases hf : (f e.1 e.2).1 with
        | none =>
          simp only [Option.bind_none, Option.none_or, Option.elim_none, Option.bind_some, hf]
        | some =>
          simp only [Option.bind_none, Option.none_or, Option.elim_some, Option.bind_some, hf,
            Option.some_or, Finmap.lookup_insert]
      · rw [decide_eq_false hk]
        cases hf : (f e.1 e.2).1 with
        | none => rfl
        | some =>
          simp only [Option.elim_some, Finmap.lookup_insert_of_ne _ (Ne.symm hk)]

lemma collect_errors (entries : List (K × V)) :
    (collect f entries).2 = entries.flatMap fun e => (f e.1 e.2).2 := by
  rw [collect, (foldl_collectStep entries _).1, List.nil_append]

lemma Enumerates.lookup_collect (h : Enumerates order m) (k : K) :
    (collect f (m.visit order)).1.lookup k = (m.lookup k).bind fun v => (f k v).1 := by
  have hnodup : ((m.visit order).map Prod.fst).Nodup := by
    rw [h.map_fst_visit]
    exact h.nodup
  rw [collect, (foldl_collectStep _ _).2 k hnodup, Finmap.lookup_empty, Option.or_none]
  cases hfind : (m.visit order).find? fun e => e.1 = k with
  | none =>
    cases hm : m.lookup k with
    | none => rfl
    | some v =>
      have hmem := h.mem_visit_iff.mpr hm
      exact absurd (decide_eq_true rfl) (List.find?_eq_none.mp hfind (k, v) hmem)
  | some e =>
    obtain ⟨k', v⟩ := e
    have hk : k' = k := by simpa using List.find?_some hfind
    have hm := h.mem_visit_iff.mp (List.mem_of_find?_eq_some hfind)
    subst hk
    rw [hm]
    rfl

end Finmap
