import Mathlib.Data.List.Basic
import Mathlib.Data.List.Induction
import Mathlib.Order.Basic

/-! Runs of a transition system given by a partial step function. An event that
is not enabled in a state has no step there, so an interleaving of several
parties is a list of their events along which every step is defined. -/

namespace Transition

variable {σ ε : Type*}

def run (step : σ → ε → Option σ) : σ → List ε → Option σ
  | s, [] => some s
  | s, e :: es => (step s e).bind fun s' => run step s' es

/-- Every step of the run is taken from a state in which it meets `P`. -/
def Guarded (step : σ → ε → Option σ) (P : σ → ε → Prop) : σ → List ε → Prop
  | _, [] => True
  | s, e :: es => P s e ∧ ∀ s', step s e = some s' → Guarded step P s' es

variable {step : σ → ε → Option σ} {P : σ → ε → Prop} {s s'' s' : σ} {es as bs : List ε}
  {I : σ → Prop}

@[simp] lemma run_nil (s : σ) : run step s [] = some s := rfl

lemma run_cons_eq_some {e : ε} :
    run step s (e :: es) = some s'' ↔ ∃ s', step s e = some s' ∧ run step s' es = some s'' :=
  Option.bind_eq_some_iff

lemma run_append : run step s (as ++ bs) = (run step s as).bind fun s' => run step s' bs := by
  induction as generalizing s with
  | nil => rfl
  | cons a as ih =>
    rw [List.cons_append, run, run, Option.bind_assoc]
    congr 1
    funext s'
    exact ih

lemma run_concat_eq_some {e : ε} :
    run step s (as ++ [e]) = some s'' ↔ ∃ s', run step s as = some s' ∧ step s' e = some s'' := by
  rw [run_append, Option.bind_eq_some_iff]
  simp only [run_cons_eq_some, run_nil, Option.some.injEq, exists_eq_right]

lemma guarded_append : Guarded step P s (as ++ bs) ↔
    Guarded step P s as ∧ ∀ s', run step s as = some s' → Guarded step P s' bs := by
  induction as generalizing s with
  | nil =>
    simp only [List.nil_append, Guarded, run_nil, Option.some.injEq, forall_eq', true_and]
  | cons a as ih =>
    simp only [List.cons_append, Guarded, ih, run_cons_eq_some]
    constructor
    · rintro ⟨ha, h⟩
      refine ⟨⟨ha, fun s' hs => (h s' hs).1⟩, ?_⟩
      rintro s'' ⟨s', hs, hr⟩
      exact (h s' hs).2 s'' hr
    · rintro ⟨⟨ha, h⟩, hbs⟩
      exact ⟨ha, fun s' hs => ⟨h s' hs, fun s'' hr => hbs s'' ⟨s', hs, hr⟩⟩⟩

instance decidableGuarded [∀ s e, Decidable (P s e)] : ∀ s es, Decidable (Guarded step P s es)
  | _, [] => .isTrue trivial
  | s, e :: es =>
    match h : step s e with
    | none => decidable_of_iff (P s e) (by simp [Guarded, h])
    | some s' =>
      have := decidableGuarded s' es
      decidable_of_iff (P s e ∧ Guarded step P s' es) (by simp [Guarded, h])

scoped instance (priority := low) decidableEnd {o : Option σ} {p : σ → Prop} [DecidablePred p] :
    Decidable (∃ s, o = some s ∧ p s) :=
  inferInstanceAs (Decidable (∃ s ∈ o, p s))

lemma exists_end {o : Option σ} {p q : σ → Prop} (h : ∃ s, o = some s ∧ p s)
    (hq : ∀ s, o = some s → p s → q s) : ∃ s, o = some s ∧ q s := by
  obtain ⟨s, hs, hp⟩ := h
  exact ⟨s, hs, hq s hs hp⟩

lemma exists_end_and {o : Option σ} {p q : σ → Prop} (h : ∃ s, o = some s ∧ p s)
    (hq : ∀ s, o = some s → p s → q s) : ∃ s, o = some s ∧ p s ∧ q s :=
  exists_end h fun s hs hp => ⟨hp, hq s hs hp⟩

/-- What every guarded step preserves holds at the end of every guarded run. A
prefix of a guarded run is one too, so it holds in every state reached. -/
lemma run_invariant (hstep : ∀ s e s', I s → P s e → step s e = some s' → I s') (hs : I s)
    (hg : Guarded step P s es) (hr : run step s es = some s') : I s' := by
  induction es generalizing s with
  | nil =>
    rw [run_nil, Option.some.injEq] at hr
    exact hr ▸ hs
  | cons e es ih =>
    obtain ⟨t, ht, hr⟩ := run_cons_eq_some.mp hr
    exact ih (hstep s e t hs hg.1 ht) (hg.2 t ht) hr

/-- Where, in the states that guarded steps lead to, the guard is exactly what `I` needs of the next
step, a run is guarded exactly if `I` holds in every state it reaches. The events of the run are of
the kind `Q`. -/
lemma guarded_iff_forall_reached_of {S : σ → Prop} {Q : ε → Prop}
    (hkeep : ∀ s e s', S s → Q e → P s e → step s e = some s' → S s')
    (hstep : ∀ s e s', S s → Q e → step s e = some s' → (I s' ↔ P s e))
    (hs : S s) (hI : I s) (hes : ∀ e ∈ es, Q e) (hr : run step s es = some s') :
    Guarded step P s es ↔ ∀ as t, as <+: es → run step s as = some t → I t := by
  induction es generalizing s with
  | nil =>
    refine iff_of_true trivial fun as t has ht => ?_
    rw [List.prefix_nil.mp has, run_nil, Option.some.injEq] at ht
    exact ht ▸ hI
  | cons e es ih =>
    obtain ⟨u, hu, hr⟩ := run_cons_eq_some.mp hr
    have he : Q e := hes e List.mem_cons_self
    have hes : ∀ e' ∈ es, Q e' := fun e' he' => hes e' (List.mem_cons_of_mem e he')
    constructor
    · rintro ⟨hP, hg⟩ as t has ht
      have hSu : S u := hkeep s e u hs he hP hu
      have hIu : I u := (hstep s e u hs he hu).mpr hP
      rcases List.prefix_cons_iff.mp has with rfl | ⟨bs, rfl, hbs⟩
      · rw [run_nil, Option.some.injEq] at ht
        exact ht ▸ hI
      · obtain ⟨v, hv, ht⟩ := run_cons_eq_some.mp ht
        cases hu.symm.trans hv
        exact (ih hSu hIu hes hr).mp (hg u hu) bs t hbs ht
    · intro h
      have hone : run step s [e] = some u := run_cons_eq_some.mpr ⟨u, hu, rfl⟩
      have hIu : I u := h [e] u (by simp) hone
      have hP : P s e := (hstep s e u hs he hu).mp hIu
      have hSu : S u := hkeep s e u hs he hP hu
      refine ⟨hP, fun v hv => ?_⟩
      cases hu.symm.trans hv
      refine (ih hSu hIu hes hr).mpr fun bs t hbs ht => ?_
      exact h (e :: bs) t (List.cons_prefix_cons.mpr ⟨rfl, hbs⟩) (run_cons_eq_some.mpr ⟨u, hu, ht⟩)

lemma guarded_iff_forall_reached (hstep : ∀ s e s', I s → step s e = some s' → (I s' ↔ P s e))
    (hs : I s) (hr : run step s es = some s') :
    Guarded step P s es ↔ ∀ as t, as <+: es → run step s as = some t → I t :=
  guarded_iff_forall_reached_of (Q := fun _ => True)
    (fun s e s' hs _ hP hu => (hstep s e s' hs hu).mpr hP)
    (fun s e s' hs _ hu => hstep s e s' hs hu) hs hs (fun _ _ => trivial) hr

lemma Guarded.and {Q : σ → ε → Prop} (hP : Guarded step P s es)
    (hQ : Guarded step Q s es) : Guarded step (fun s e => P s e ∧ Q s e) s es := by
  induction es generalizing s with
  | nil => trivial
  | cons e es ih => exact ⟨⟨hP.1, hQ.1⟩, fun s' hs => ih (hP.2 s' hs) (hQ.2 s' hs)⟩

lemma guarded_of_forall (s : σ) (h : ∀ e ∈ es, ∀ s, P s e) : Guarded step P s es := by
  induction es generalizing s with
  | nil => trivial
  | cons e es ih =>
    have hes : ∀ e' ∈ es, ∀ s, P s e' := fun e' he' => h e' (List.mem_cons_of_mem e he')
    exact ⟨h e List.mem_cons_self s, fun s' _ => ih s' hes⟩

/-- Where some step of the kind `Q` lowers a measure as long as it is not zero, steps of that kind
lead to a state in which it is. -/
lemma exists_run_of_progress {Q : ε → Prop} {measure : σ → Nat}
    (hprogress : ∀ s, I s → measure s ≠ 0 →
      ∃ e s', Q e ∧ step s e = some s' ∧ I s' ∧ measure s' < measure s) (s : σ) (hs : I s) :
    ∃ es s', (∀ e ∈ es, Q e) ∧ run step s es = some s' ∧ I s' ∧ measure s' = 0 := by
  induction hm : measure s using Nat.strongRecOn generalizing s with
  | _ m ih =>
    by_cases hzero : measure s = 0
    · exact ⟨[], s, fun _ he => absurd he List.not_mem_nil, run_nil s, hs, hzero⟩
    · obtain ⟨e, t, hQ, ht, hIt, hlt⟩ := hprogress s hs hzero
      obtain ⟨es, u, hes, hu, hIu, hend⟩ := ih (measure t) (hm ▸ hlt) t hIt rfl
      refine ⟨e :: es, u, fun e' he' => ?_, run_cons_eq_some.mpr ⟨t, ht, hu⟩, hIu, hend⟩
      rcases List.mem_cons.mp he' with rfl | he'
      · exact hQ
      · exact hes e' he'

variable {α : Type*} {obs : σ → ε → List α}

def trace (step : σ → ε → Option σ) (obs : σ → ε → List α) : σ → List ε → List α
  | _, [] => []
  | s, e :: es => obs s e ++ (step s e).elim [] fun s' => trace step obs s' es

lemma trace_concat {s s' : σ} {as : List ε} (hr : run step s as = some s') (e : ε) :
    trace step obs s (as ++ [e]) = trace step obs s as ++ obs s' e := by
  induction as generalizing s with
  | nil =>
    rw [run_nil, Option.some.injEq] at hr
    subst hr
    rw [List.nil_append, trace, trace, List.nil_append]
    cases step s e with
    | none | some t => exact List.append_nil _
  | cons a as ih =>
    obtain ⟨t, ht, hr⟩ := run_cons_eq_some.mp hr
    rw [List.cons_append, trace, trace, ht, Option.elim_some, Option.elim_some, ih hr,
      List.append_assoc]

lemma run_invariant_history {s₀ : σ} {I : List ε → σ → Prop}
    (hstep : ∀ as s e s', run step s₀ as = some s → I as s → P s e → step s e = some s' →
      I (as ++ [e]) s')
    (hs : I [] s₀) {es : List ε} (hg : Guarded step P s₀ es) {s : σ}
    (hr : run step s₀ es = some s) : I es s := by
  induction es using List.reverseRecOn generalizing s with
  | nil =>
    rw [run_nil, Option.some.injEq] at hr
    exact hr ▸ hs
  | append_singleton as e ih =>
    obtain ⟨t, ht, he⟩ := run_concat_eq_some.mp hr
    obtain ⟨has, hlast⟩ := guarded_append.mp hg
    exact hstep as t e s ht (ih has ht) (hlast t ht).1 he

end Transition
