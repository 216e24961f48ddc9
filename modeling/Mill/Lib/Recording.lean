import Mill.Lib.Program

/-! Surroundings that keep a record of what they have answered, so that a statement about a
run can speak of all that the program has done. -/

namespace Program

variable {E : Type} {R : E → Type} {X α W C V Φ : Type}

abbrev Record (E : Type) (R : E → Type) := List (Σ e, R e)

def recording (answer : W → (e : E) → C → Option (R e × W)) (w : W × Record E R) (e : E) (c : C) :
    Option (R e × (W × Record E R)) :=
  (answer w.1 e c).map fun a => (a.1, a.2, w.2 ++ [⟨e, a.1⟩])

def offRecord (outside : W → V → Option W) (w : W × Record E R) (v : V) : Option (W × Record E R) :=
  (outside w.1 v).map fun w' => (w', w.2)

def noted (note : Φ → (e : E) → R e → Φ) (φ : Φ) (record : Record E R) : Φ :=
  record.foldl (fun φ x => note φ x.1 x.2) φ

@[simp] lemma noted_concat (note : Φ → (e : E) → R e → Φ) (φ : Φ) (record : Record E R) (e : E)
    (r : R e) : noted note φ (record ++ [⟨e, r⟩]) = note (noted note φ record) e r := by
  simp [noted, List.foldl_append]

section

variable {answer : W → (e : E) → C → Option (R e × W)} {outside : W → V → Option W}
  {S : Spec E R Φ} {note : Φ → (e : E) → R e → Φ} {I : W → Φ → Prop} {Q : Except X α → Φ → Prop}
  {p p' : Program E R X α} {w w' : W} {φ : Φ} {record : Record E R}

lemma recording_eq_some {e : E} {c : C} {r : R e} {u u' : W × Record E R} :
    recording answer u e c = some (r, u') ↔
      answer u.1 e c = some (r, u'.1) ∧ u'.2 = u.2 ++ [⟨e, r⟩] := by
  obtain ⟨w', record'⟩ := u'
  unfold recording
  simp only [Option.map_eq_some_iff, Prod.exists, Prod.mk.injEq]
  constructor
  · rintro ⟨r', w'', h, rfl, rfl, rfl⟩
    exact ⟨h, rfl⟩
  · rintro ⟨h, rfl⟩
    exact ⟨r, w', h, rfl, rfl, rfl⟩

/-- A program whose effects can all be answered in the world `w` gets to its end there. -/
lemma Only.exists_ended {P : E → Prop} {F : X → Prop} {G : (e : E) → R e → Prop}
    (hp : p.Only P F) (hanswer : ∀ e, P e → ∃ c r, answer w e c = some (r, w) ∧ G e r)
    (record : Record E R) : ∃ record' p' o,
      Reaches (recording answer) ((w, record), p) ((w, record'), p') ∧ p'.outcome = some o ∧
        ∀ x ∈ record', x ∈ record ∨ G x.1 x.2 := by
  induction p generalizing record with
  | done a => exact ⟨record, done a, .ok a, .refl _, rfl, fun _ hx => .inl hx⟩
  | fail x => exact ⟨record, fail x, .error x, .refl _, rfl, fun _ hx => .inl hx⟩
  | perform e next ih =>
    obtain ⟨c, r, hans, hG⟩ := hanswer e hp.1
    obtain ⟨record', p', o, hreach, ho, hrecord⟩ := ih r (hp.2 r) (record ++ [⟨e, r⟩])
    refine ⟨record', p', o, .step (recording_eq_some.mpr ⟨hans, rfl⟩) hreach, ho, fun x hx => ?_⟩
    rcases hrecord x hx with hx | hx
    · rw [List.mem_append, List.mem_singleton] at hx
      rcases hx with hx | rfl
      · exact .inl hx
      · exact .inr hG
    · exact .inr hx

/-- What an observer has noted is enough to say what is left of a program that runs beside others,
as long as the world and the notes stay in the relation `I`. -/
lemma wp_of_run_recorded {es : List (C ⊕ V)}
    (hanswer : ∀ w φ e c r w', I w φ → S.pre φ e → answer w e c = some (r, w') →
      S.post φ e r (note φ e r) ∧ I w' (note φ e r))
    (houtside : ∀ w φ v w', I w φ → outside w v = some w' → I w' φ)
    (hp : p.wp S Q φ) (hI : I w φ)
    (hrun : Transition.run (stepBeside (recording answer) (offRecord outside)) ((w, []), p) es =
      some ((w', record), p')) :
    I w' (noted note φ record) ∧ p'.wp S Q (noted note φ record) := by
  have hg : Transition.Guarded (stepBeside (recording answer) (offRecord outside))
      (fun _ _ => True) ((w, []), p) es := Transition.guarded_of_forall _ fun _ _ _ => trivial
  suffices h : ∃ ψ, (ψ = noted note φ record ∧ I w' ψ) ∧ p'.wp S Q ψ by
    obtain ⟨ψ, ⟨rfl, hI'⟩, hp'⟩ := h
    exact ⟨hI', hp'⟩
  refine wp_of_run_observed (T := fun u ψ => ψ = noted note φ u.2 ∧ I u.1 ψ) ?_ ?_ hp ⟨rfl, hI⟩ hg
    hrun
  · rintro u ψ e next c r u' ⟨rfl, hu⟩ hpre - hans
    obtain ⟨hans, hrecord⟩ := recording_eq_some.mp hans
    obtain ⟨hpost, hu'⟩ := hanswer u.1 _ e c r u'.1 hu hpre hans
    exact ⟨_, hpost, by rw [hrecord, noted_concat], hu'⟩
  · rintro u ψ q v u' ⟨rfl, hu⟩ - hout
    obtain ⟨w₁, hw₁, rfl⟩ := Option.map_eq_some_iff.mp hout
    exact ⟨rfl, houtside u.1 _ v w₁ hu hw₁⟩

lemma wp_of_run_recorded_alone {cs : List C}
    (hanswer : ∀ w φ e c r w', I w φ → S.pre φ e → answer w e c = some (r, w') →
      S.post φ e r (note φ e r) ∧ I w' (note φ e r))
    (hp : p.wp S Q φ) (hI : I w φ)
    (hrun : Transition.run (stepAlone (recording answer)) ((w, []), p) cs =
      some ((w', record), p')) :
    I w' (noted note φ record) ∧ p'.wp S Q (noted note φ record) := by
  have hg : Transition.Guarded (stepAlone (recording answer)) (fun _ _ => True) ((w, []), p) cs :=
    Transition.guarded_of_forall _ fun _ _ _ => trivial
  refine Transition.run_invariant (I := fun s => I s.1.1 (noted note φ s.1.2) ∧
    s.2.wp S Q (noted note φ s.1.2)) ?_ ⟨hI, hp⟩ hg hrun
  rintro ⟨u, q⟩ c ⟨u', q'⟩ ⟨hu, hq⟩ - hstep
  obtain ⟨e, next, r, rfl, hans, rfl⟩ := of_stepAlone hstep
  obtain ⟨hans, hrecord⟩ := recording_eq_some.mp hans
  obtain ⟨hpost, hu'⟩ := hanswer u.1 _ e c r u'.1 hu hq.1 hans
  rw [hrecord, noted_concat]
  exact ⟨hu', hq.2 r _ hpost⟩

end

variable {M : Type} {A : W → (e : E) → R e → W → Prop} {I : W → List M → Prop}
  {mark : (e : E) → R e → Option M} {p p' : Program E R X α} {φ : List M}

def marks (mark : (e : E) → R e → Option M) (record : Record E R) : List M :=
  record.filterMap fun x => mark x.1 x.2

/-- An observer who keeps a mark of some effects; `I` is what the marks say of the world. -/
def marking (A : W → (e : E) → R e → W → Prop) (I : W → List M → Prop)
    (mark : (e : E) → R e → Option M) : Spec E R (List M) where
  pre _ _ := True
  post φ e r φ' := (∃ w w', I w φ ∧ A w e r w') ∧ φ' = φ ++ (mark e r).toList

lemma wp_mark {e : E} {Q : Except X (R e) → List M → Prop}
    (h : ∀ r w w', I w φ → A w e r w' → Q (.ok r) (φ ++ (mark e r).toList)) :
    (effect e).wp (marking A I mark) Q φ := by
  refine wp_effect trivial ?_
  rintro r _ ⟨⟨w, w', hI, hA⟩, rfl⟩
  exact h r w w' hI hA

lemma wp_unmarked {F : X → Prop} (hp : p.Only (fun e => ∀ r, mark e r = none) F) :
    p.wp (marking A I mark) (fun o φ' => φ' = φ ∧ ∀ x, o = .error x → F x) φ := by
  refine wp_of_only (I := fun φ' => φ' = φ) hp rfl ?_ (fun _ _ h => ⟨h, nofun⟩)
    fun x _ hx h => ⟨h, fun y hy => by cases hy; exact hx⟩
  rintro e φ' he rfl
  refine ⟨trivial, ?_⟩
  rintro r _ ⟨-, rfl⟩
  rw [he r, Option.toList_none, List.append_nil]

lemma of_run_marked {answer : W → (e : E) → C → Option (R e × W)} {outside : W → V → Option W}
    {P : E → Prop} {F : X → Prop} {G : W → V → Prop} {Q : Except X α → List M → Prop} {w w' : W}
    {record : Record E R} {es : List (C ⊕ V)} {o : Except X α}
    (hA : ∀ w e c r w', answer w e c = some (r, w') → A w e r w')
    (hI : ∀ w φ e r w', P e → I w φ → A w e r w' → I w' (φ ++ (mark e r).toList))
    (houtside : ∀ w φ v w', I w φ → G w v → outside w v = some w' → I w' φ)
    (honly : p.Only P F) (hp : p.wp (marking A I mark) Q []) (hw : I w [])
    (hg : Transition.Guarded (stepBeside (recording answer) (offRecord outside))
      (fun s e => ∀ v, e = .inr v → G s.1.1 v) ((w, []), p) es)
    (hrun : Transition.run (stepBeside (recording answer) (offRecord outside)) ((w, []), p) es =
      some ((w', record), p')) (ho : p'.outcome = some o) : Q o (marks mark record) := by
  have hend := Transition.run_invariant (I := fun s => I s.1.1 (marks mark s.1.2) ∧
    s.2.wp (marking A I mark) Q (marks mark s.1.2) ∧ s.2.Only P F) ?_ ⟨hw, hp, honly⟩ hg hrun
  · exact of_wp_outcome hend.2.1 ho
  rintro ⟨u, q⟩ (c | v) ⟨u', q'⟩ ⟨hu, hq, hqonly⟩ hG hstep
  · obtain ⟨e, next, r, rfl, hans, rfl⟩ := of_stepAlone hstep
    obtain ⟨hans, hrecord⟩ := recording_eq_some.mp hans
    have hA' := hA _ _ _ _ _ hans
    have hmarks : marks mark u'.2 = marks mark u.2 ++ (mark e r).toList := by
      cases hmark : mark e r <;> simp [marks, hrecord, List.filterMap_append, hmark]
    rw [hmarks]
    exact ⟨hI _ _ _ _ _ hqonly.1 hu hA', hq.2 r _ ⟨⟨u.1, u'.1, hu, hA'⟩, rfl⟩, hqonly.2 r⟩
  · obtain ⟨u₁, hout, heq⟩ := Option.map_eq_some_iff.mp hstep
    obtain ⟨rfl, rfl⟩ := Prod.mk.inj heq
    obtain ⟨w₁, hw₁, rfl⟩ := Option.map_eq_some_iff.mp hout
    exact ⟨houtside _ _ v w₁ hu (hG v rfl) hw₁, hq, hqonly⟩

end Program
