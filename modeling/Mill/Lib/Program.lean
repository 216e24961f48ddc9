import Mill.Lib.List
import Mill.Lib.Run

/-! Programs that act on their surroundings through effects, and machines that run
any number of them side by side. A program is a tree: it returns, fails, or performs
an effect and goes on with the answer. What the answers can be is left to the
surroundings, so one program serves for every interleaving. -/

inductive Program (E : Type) (R : E → Type) (X α : Type)
  | done (a : α)
  | fail (x : X)
  | perform (e : E) (next : R e → Program E R X α)

namespace Program

variable {E : Type} {R : E → Type} {X Y α β σ Φ : Type}

def bind : Program E R X α → (α → Program E R X β) → Program E R X β
  | done a, f => f a
  | fail x, _ => fail x
  | perform e next, f => perform e fun r => (next r).bind f

instance : Monad (Program E R X) where
  pure := done
  bind := bind

def effect (e : E) : Program E R X (R e) := perform e done

def attempt : Program E R X α → Program E R Y (Except X α)
  | done a => done (.ok a)
  | fail x => done (.error x)
  | perform e next => perform e fun r => (next r).attempt

def foldEach (body : σ → β → Program E R X σ) : List β → σ → Program E R X σ
  | [], acc => done acc
  | x :: xs, acc => do
    let acc ← body acc x
    foldEach body xs acc

lemma bind_assoc {γ : Type} (p : Program E R X α) (f : α → Program E R X β)
    (g : β → Program E R X γ) : p >>= f >>= g = p >>= fun a => f a >>= g := by
  induction p with
  | done => rfl
  | fail => rfl
  | perform e next ih => exact congrArg (perform e) (funext fun r => ih r)

lemma foldEach_map {τ : Type} {f : τ → σ} {body : σ → β → Program E R X σ}
    {body' : τ → β → Program E R X τ}
    (h : ∀ acc x, body (f acc) x = body' acc x >>= fun acc' => pure (f acc')) (xs : List β)
    (acc : τ) : foldEach body xs (f acc) = foldEach body' xs acc >>= fun acc' => pure (f acc') := by
  induction xs generalizing acc with
  | nil => rfl
  | cons x xs ih =>
    rw [foldEach, foldEach, h, bind_assoc, bind_assoc]
    exact congrArg (bind (body' acc x)) (funext fun acc' => ih acc')

def lift {E' : Type} {R' : E' → Type} (f : E → E') (g : ∀ e, R' (f e) → R e) :
    Program E R X α → Program E' R' X α
  | done a => done a
  | fail x => fail x
  | perform e next => perform (f e) fun r => (next (g e r)).lift f g

def outcome : Program E R X α → Option (Except X α)
  | done a => some (.ok a)
  | fail x => some (.error x)
  | perform _ _ => none

section

/-- Every effect that the program may perform satisfies `P`, every failure `F`. -/
def Only (P : E → Prop) (F : X → Prop) : Program E R X α → Prop
  | done _ => True
  | fail x => F x
  | perform e next => P e ∧ ∀ r, (next r).Only P F

variable {P P' : E → Prop} {F F' : X → Prop} {p : Program E R X α}

lemma Only.effect {e : E} (he : P e) : (effect e : Program E R X (R e)).Only P F :=
  ⟨he, fun _ => trivial⟩

lemma Only.bind {f : α → Program E R X β} (hp : p.Only P F)
    (hf : ∀ a, (f a).Only P F) : (p >>= f).Only P F := by
  induction p with
  | done a => exact hf a
  | fail => exact hp
  | perform e next ih => exact ⟨hp.1, fun r => ih r (hp.2 r)⟩

lemma Only.attempt {G : Y → Prop} (hp : p.Only P F) :
    (p.attempt : Program E R Y (Except X α)).Only P G := by
  induction p with
  | done => trivial
  | fail => trivial
  | perform e next ih => exact ⟨hp.1, fun r => ih r (hp.2 r)⟩

lemma Only.foldEach {body : σ → β → Program E R X σ} {xs : List β}
    (h : ∀ acc, ∀ x ∈ xs, (body acc x).Only P F) (acc : σ) :
    (Program.foldEach body xs acc).Only P F := by
  induction xs generalizing acc with
  | nil => trivial
  | cons x xs ih =>
    refine Only.bind (h acc x List.mem_cons_self) fun acc' => ?_
    exact ih (fun acc y hy => h acc y (List.mem_cons_of_mem x hy)) acc'

lemma Only.lift {E' : Type} {R' : E' → Type} {f : E → E'} {g : ∀ e, R' (f e) → R e}
    {Q : E' → Prop} (hp : p.Only P F) (h : ∀ e, P e → Q (f e)) : (p.lift f g).Only Q F := by
  induction p with
  | done => trivial
  | fail => exact hp
  | perform e next ih => exact ⟨h e hp.1, fun r => ih (g e r) (hp.2 (g e r))⟩

lemma Only.mono (hp : p.Only P F) (h : ∀ e, P e → P' e) (hF : ∀ x, F x → F' x) : p.Only P' F' := by
  induction p with
  | done => trivial
  | fail x => exact hF x hp
  | perform e next ih => exact ⟨h e hp.1, fun r => ih r (hp.2 r)⟩

end

/-- What an observer takes an effect to need and to do, in terms of the observer's own
state. -/
structure Spec (E : Type) (R : E → Type) (Φ : Type) where
  pre : Φ → E → Prop
  post : Φ → (e : E) → R e → Φ → Prop

/-- Whatever is answered, each effect meets its precondition and the program ends, if
it does, with `Q`. -/
def wp (S : Spec E R Φ) (Q : Except X α → Φ → Prop) : Program E R X α → Φ → Prop
  | done a, φ => Q (.ok a) φ
  | fail x, φ => Q (.error x) φ
  | perform e next, φ => S.pre φ e ∧ ∀ r φ', S.post φ e r φ' → (next r).wp S Q φ'

section

variable {S : Spec E R Φ} {φ : Φ} {p : Program E R X α} {Q : Except X α → Φ → Prop}

lemma wp_mono {Q' : Except X α → Φ → Prop} (hp : p.wp S Q φ)
    (h : ∀ o φ, Q o φ → Q' o φ) : p.wp S Q' φ := by
  induction p generalizing φ with
  | done => exact h _ _ hp
  | fail => exact h _ _ hp
  | perform e next ih => exact ⟨hp.1, fun r φ' hr => ih r (hp.2 r φ' hr)⟩

lemma of_wp_outcome {o : Except X α} (hp : p.wp S Q φ) (ho : p.outcome = some o) : Q o φ := by
  cases p with
  | done a | fail x =>
    cases ho
    exact hp
  | perform => cases ho

lemma wp_bind {f : α → Program E R X β} {Q : Except X β → Φ → Prop}
    (h : p.wp S (fun o φ => match o with
      | .ok a => (f a).wp S Q φ
      | .error x => Q (.error x) φ) φ) : (p >>= f).wp S Q φ := by
  induction p generalizing φ with
  | done => exact h
  | fail => exact h
  | perform e next ih => exact ⟨h.1, fun r φ' hr => ih r (h.2 r φ' hr)⟩

lemma wp_attempt {Q : Except Y (Except X α) → Φ → Prop}
    (h : p.wp S (fun o φ => Q (.ok o) φ) φ) : p.attempt.wp S Q φ := by
  induction p generalizing φ with
  | done => exact h
  | fail => exact h
  | perform e next ih => exact ⟨h.1, fun r φ' hr => ih r (h.2 r φ' hr)⟩

lemma wp_effect {e : E} {Q : Except X (R e) → Φ → Prop} (hpre : S.pre φ e)
    (hpost : ∀ r φ', S.post φ e r φ' → Q (.ok r) φ') :
    (effect e : Program E R X (R e)).wp S Q φ := ⟨hpre, hpost⟩

lemma wp_foldEach {body : σ → β → Program E R X σ} (Inv : List β → σ → Φ → Prop)
    {Q : Except X σ → Φ → Prop}
    (hbody : ∀ x xs acc φ, Inv (x :: xs) acc φ → (body acc x).wp S (fun o φ => match o with
      | .ok acc' => Inv xs acc' φ
      | .error y => Q (.error y) φ) φ)
    (hend : ∀ acc φ, Inv [] acc φ → Q (.ok acc) φ) {xs : List β} {acc : σ}
    (h : Inv xs acc φ) : (foldEach body xs acc).wp S Q φ := by
  induction xs generalizing acc φ with
  | nil => exact hend acc φ h
  | cons x xs ih =>
    refine wp_bind (wp_mono (hbody x xs acc φ h) ?_)
    rintro (y | acc') φ' ho
    · exact ho
    · exact ih ho

/-- The program returns, and then `I` holds of the result and the observer's state. -/
def Returns (I : α → Φ → Prop) : Except X α → Φ → Prop
  | .ok a, φ => I a φ
  | .error _, _ => False

lemma wp_bind_returns {f : α → Program E R X β} {I : α → Φ → Prop} {Q : Except X β → Φ → Prop}
    (hp : p.wp S (Returns I) φ) (hf : ∀ a φ, I a φ → (f a).wp S Q φ) : (p >>= f).wp S Q φ := by
  refine wp_bind (wp_mono hp ?_)
  rintro (x | a) φ' h
  · exact h.elim
  · exact hf a φ' h

lemma wp_foldEach_returns {body : σ → β → Program E R X σ} (Inv : List β → σ → Φ → Prop)
    (hbody : ∀ x xs acc φ, Inv (x :: xs) acc φ → (body acc x).wp S (Returns (Inv xs)) φ)
    {xs : List β} {acc : σ} (h : Inv xs acc φ) :
    (foldEach body xs acc).wp S (Returns (Inv [])) φ := by
  refine wp_foldEach Inv (fun x xs acc φ h => ?_) (fun _ _ h => h) h
  refine wp_mono (hbody x xs acc φ h) ?_
  rintro (y | acc') φ' ho
  · exact ho
  · exact ho

lemma wp_of_only {P : E → Prop} {F : X → Prop} {I : Φ → Prop} (hp : p.Only P F) (hφ : I φ)
    (hP : ∀ e φ, P e → I φ → S.pre φ e ∧ ∀ r φ', S.post φ e r φ' → I φ')
    (hdone : ∀ a φ, I φ → Q (.ok a) φ) (hfail : ∀ x φ, F x → I φ → Q (.error x) φ) :
    p.wp S Q φ := by
  induction p generalizing φ with
  | done a => exact hdone a φ hφ
  | fail x => exact hfail x φ hp hφ
  | perform e next ih =>
    obtain ⟨hpre, hpost⟩ := hP e φ hp.1 hφ
    exact ⟨hpre, fun r φ' hr => ih r (hp.2 r) (hpost r φ' hr)⟩

/-- Whatever the outcome, what held before holds after it. -/
def Keeps (S : Spec E R Φ) (I : Φ → Prop) (p : Program E R X α) : Prop :=
  ∀ φ, I φ → p.wp S (fun _ φ' => I φ') φ

section

variable {I : Φ → Prop}

lemma Keeps.pure (a : α) : (pure a : Program E R X α).Keeps S I := fun _ hφ => hφ

lemma Keeps.bind {f : α → Program E R X β} (hp : p.Keeps S I) (hf : ∀ a, (f a).Keeps S I) :
    (p >>= f).Keeps S I := by
  intro φ hφ
  refine wp_bind (wp_mono (hp φ hφ) ?_)
  rintro (x | a) φ' hφ'
  · exact hφ'
  · exact hf a φ' hφ'

lemma Keeps.attempt (hp : p.Keeps S I) : (p.attempt : Program E R Y (Except X α)).Keeps S I :=
  fun φ hφ => wp_attempt (hp φ hφ)

lemma Keeps.foldEach {body : σ → β → Program E R X σ} {xs : List β}
    (h : ∀ acc, ∀ x ∈ xs, (body acc x).Keeps S I) (acc : σ) : (foldEach body xs acc).Keeps S I := by
  induction xs generalizing acc with
  | nil => exact fun _ hφ => hφ
  | cons x xs ih =>
    refine (h acc x List.mem_cons_self).bind fun acc' => ih (fun acc y hy => ?_) acc'
    exact h acc y (List.mem_cons_of_mem x hy)

lemma Keeps.of_only {P : E → Prop} {F : X → Prop} (hp : p.Only P F)
    (hP : ∀ e φ, P e → I φ → S.pre φ e ∧ ∀ r φ', S.post φ e r φ' → I φ') : p.Keeps S I :=
  fun _ hφ => wp_of_only hp hφ hP (fun _ _ h => h) fun _ _ _ h => h

end

/-- What an observer of the effects into which a program is lifted sees of the program's own. -/
def Spec.along {E' : Type} {R' : E' → Type} (S : Spec E' R' Φ) (f : E → E')
    (g : ∀ e, R' (f e) → R e) : Spec E R Φ where
  pre φ e := S.pre φ (f e)
  post φ e r φ' := ∃ r', g e r' = r ∧ S.post φ (f e) r' φ'

lemma wp_lift {E' : Type} {R' : E' → Type} {S : Spec E' R' Φ} {f : E → E'}
    {g : ∀ e, R' (f e) → R e} (hp : p.wp (S.along f g) Q φ) : (p.lift f g).wp S Q φ := by
  induction p generalizing φ with
  | done => exact hp
  | fail => exact hp
  | perform e next ih => exact ⟨hp.1, fun r φ' hr => ih (g e r) (hp.2 (g e r) φ' ⟨r, rfl, hr⟩)⟩

end

section

variable {W C : Type} {answer : W → (e : E) → C → Option (R e × W)} {w w' : W}
  {p p' : Program E R X α} {b : W × Program E R X α} {f : α → Program E R X β} {S : Spec E R W}
  {Q : Except X α → W → Prop}

def stepAlone (answer : W → (e : E) → C → Option (R e × W)) :
    W × Program E R X α → C → Option (W × Program E R X α)
  | (w, perform e next), c => (answer w e c).map fun a => (a.2, next a.1)
  | _, _ => none

lemma of_stepAlone {c : C} (h : stepAlone answer (w, p) c = some (w', p')) :
    ∃ e next r, p = perform e next ∧ answer w e c = some (r, w') ∧ p' = next r := by
  cases p with
  | done => cases h
  | fail => cases h
  | perform e next =>
    obtain ⟨⟨r, w₁⟩, ha, heq⟩ := Option.map_eq_some_iff.mp h
    obtain ⟨rfl, rfl⟩ := Prod.mk.inj heq
    exact ⟨e, next, r, rfl, ha, rfl⟩

def Reaches (answer : W → (e : E) → C → Option (R e × W)) (a b : W × Program E R X α) : Prop :=
  ∃ cs, Transition.run (stepAlone answer) a cs = some b

lemma Reaches.refl (a : W × Program E R X α) : Reaches answer a a := ⟨[], rfl⟩

lemma Reaches.step {e : E} {next : R e → Program E R X α} {c : C} {r : R e}
    (h : answer w e c = some (r, w'))
    (hnext : Reaches answer (w', next r) b) : Reaches answer (w, perform e next) b := by
  obtain ⟨cs, hcs⟩ := hnext
  refine ⟨c :: cs, Transition.run_cons_eq_some.mpr ⟨(w', next r), ?_, hcs⟩⟩
  rw [stepAlone, h, Option.map_some]

lemma Reaches.rec_step {motive : W → Program E R X α → Prop}
    (h : Reaches answer (w, p) b) (hend : motive b.1 b.2)
    (hstep : ∀ w e next c r w', answer w e c = some (r, w') → motive w' (next r) →
      motive w (perform e next)) : motive w p := by
  obtain ⟨cs, hcs⟩ := h
  induction cs generalizing w p with
  | nil =>
    rw [Transition.run_nil, Option.some.injEq] at hcs
    subst hcs
    exact hend
  | cons c cs ih =>
    obtain ⟨⟨w₁, p₁⟩, hone, hcs⟩ := Transition.run_cons_eq_some.mp hcs
    obtain ⟨e, next, r, rfl, ha, rfl⟩ := of_stepAlone hone
    exact hstep w e next c r w₁ ha (ih hcs)

lemma Reaches.trans {a : W × Program E R X α} (h : Reaches answer (w, p) a)
    (hb : Reaches answer a b) : Reaches answer (w, p) b :=
  h.rec_step (motive := fun w p => Reaches answer (w, p) b) hb fun _ _ _ _ _ _ ha hnext =>
    .step ha hnext

lemma Reaches.bind (h : Reaches answer (w, p) (w', p')) :
    Reaches answer (w, p >>= f) (w', p' >>= f) :=
  h.rec_step (motive := fun w p => Reaches answer (w, p >>= f) (w', p' >>= f)) (.refl _)
    fun _ _ _ _ _ _ ha hnext => .step ha hnext

lemma Reaches.bind_done {a : α} {b : W × Program E R X β} (h : Reaches answer (w, p) (w', done a))
    (hf : Reaches answer (w', f a) b) : Reaches answer (w, p >>= f) b := h.bind.trans hf

lemma Reaches.attempt (h : Reaches answer (w, p) (w', p')) :
    Reaches answer (w, (p.attempt : Program E R Y (Except X α))) (w', p'.attempt) :=
  h.rec_step (motive := fun w p => Reaches answer (w, p.attempt) (w', p'.attempt)) (.refl _)
    fun _ _ _ _ _ _ ha hnext => .step ha hnext

/-- With some answers the program, alone, gets to perform `e` in the world `w'`. -/
def Performs (answer : W → (e : E) → C → Option (R e × W)) (w : W) (p : Program E R X α) (w' : W)
    (e : E) : Prop := ∃ next, Reaches answer (w, p) (w', perform e next)

lemma Reaches.performs {w'' : W} {e : E} (h : Reaches answer (w, p) (w', p'))
    (he : Performs answer w' p' w'' e) : Performs answer w p w'' e := by
  obtain ⟨next, hnext⟩ := he
  exact ⟨next, h.trans hnext⟩

lemma Performs.bind {e : E} (h : Performs answer w p w' e) : Performs answer w (p >>= f) w' e := by
  obtain ⟨next, hnext⟩ := h
  exact ⟨_, hnext.bind⟩

lemma Performs.attempt {e : E} (h : Performs answer w p w' e) :
    Performs answer w (p.attempt : Program E R Y (Except X α)) w' e := by
  obtain ⟨next, hnext⟩ := h
  exact ⟨_, hnext.attempt⟩

lemma wp_of_reaches (hp : p.wp S Q w)
    (hS : ∀ w e c r w', answer w e c = some (r, w') → S.post w e r w')
    (h : Reaches answer (w, p) (w', p')) : p'.wp S Q w' :=
  h.rec_step (motive := fun w p => p.wp S Q w → p'.wp S Q w') id
    (fun _ e _ c _ _ ha hnext hp => hnext (hp.2 _ _ (hS _ e c _ _ ha))) hp

lemma wp_of_run {P : C → Prop} {cs : List C} (hp : p.wp S Q w)
    (hS : ∀ w e c r w', P c → answer w e c = some (r, w') → S.post w e r w') (hcs : ∀ c ∈ cs, P c)
    (hrun : Transition.run (stepAlone answer) (w, p) cs = some (w', p')) : p'.wp S Q w' := by
  induction cs generalizing w p with
  | nil =>
    rw [Transition.run_nil, Option.some.injEq] at hrun
    cases hrun
    exact hp
  | cons c cs ih =>
    obtain ⟨⟨w₁, p₁⟩, hone, hrun⟩ := Transition.run_cons_eq_some.mp hrun
    obtain ⟨e, next, r, rfl, ha, rfl⟩ := of_stepAlone hone
    have hpost : S.post w e r w₁ := hS w e c r w₁ (hcs c List.mem_cons_self) ha
    exact ih (hp.2 r w₁ hpost) (fun c' hc' => hcs c' (List.mem_cons_of_mem c hc')) hrun

lemma pre_of_performs {e : E} (hp : p.wp S Q w)
    (hS : ∀ w e c r w', answer w e c = some (r, w') → S.post w e r w')
    (h : Performs answer w p w' e) : S.pre w' e := by
  obtain ⟨next, hnext⟩ := h
  exact (wp_of_reaches hp hS hnext).1

end

variable {S : Spec E R Φ} {rely : Φ → Φ → Prop} {φ φ' : Φ} {p : Program E R X α}
  {Q : Except X α → Φ → Prop}

def Spec.beside (S : Spec E R Φ) (rely : Φ → Φ → Prop) : Spec E R Φ where
  pre := S.pre
  post φ e r φ'' := ∃ φ', rely φ φ' ∧ S.post φ' e r φ''

lemma wp_rely (hp : p.wp (S.beside rely) Q φ) (hrely : rely φ φ')
    (htrans : ∀ {a b c}, rely a b → rely b c → rely a c)
    (hpre : ∀ {a b e}, rely a b → S.pre a e → S.pre b e)
    (hQ : ∀ {a b o}, rely a b → Q o a → Q o b) : p.wp (S.beside rely) Q φ' := by
  cases p with
  | done => exact hQ hrely hp
  | fail => exact hQ hrely hp
  | perform =>
    refine ⟨hpre hrely hp.1, ?_⟩
    rintro r ψ ⟨φ'', hbefore, hpost⟩
    exact hp.2 r ψ ⟨φ'', htrans hrely hbefore, hpost⟩

variable {W C V : Type} {answer : W → (e : E) → C → Option (R e × W)} {outside : W → V → Option W}

def stepBeside (answer : W → (e : E) → C → Option (R e × W)) (outside : W → V → Option W) :
    W × Program E R X α → C ⊕ V → Option (W × Program E R X α)
  | s, .inl c => stepAlone answer s c
  | (w, p), .inr v => (outside w v).map fun w' => (w', p)

lemma wp_of_run_beside {S : Spec E R W} {rely : W → W → Prop} {Q : Except X α → W → Prop}
    {P : W × Program E R X α → C ⊕ V → Prop} {w w' : W} {p' : Program E R X α} {es : List (C ⊕ V)}
    (hrefl : ∀ a, rely a a) (htrans : ∀ {a b c}, rely a b → rely b c → rely a c)
    (hpre : ∀ {a b e}, rely a b → S.pre a e → S.pre b e) (hQ : ∀ {a b o}, rely a b → Q o a → Q o b)
    (hS : ∀ w p e c r w', P (w, p) (.inl c) → answer w e c = some (r, w') → S.post w e r w')
    (hrely : ∀ w p v w', P (w, p) (.inr v) → outside w v = some w' → rely w w')
    (hp : p.wp (S.beside rely) Q w)
    (hg : Transition.Guarded (stepBeside answer outside) P (w, p) es)
    (hrun : Transition.run (stepBeside answer outside) (w, p) es = some (w', p')) :
    p'.wp (S.beside rely) Q w' := by
  refine Transition.run_invariant (I := fun s => s.2.wp (S.beside rely) Q s.1) ?_ hp hg hrun
  rintro ⟨w, p⟩ (c | v) ⟨w₁, p₁⟩ hinv hP hstep
  · obtain ⟨e, next, r, rfl, hans, rfl⟩ := of_stepAlone hstep
    exact hinv.2 r w₁ ⟨w, hrefl w, hS w _ e c r w₁ hP hans⟩
  · obtain ⟨w₂, hout, heq⟩ := Option.map_eq_some_iff.mp hstep
    obtain ⟨rfl, rfl⟩ := Prod.mk.inj heq
    exact wp_rely hinv (hrely w p v w₂ hP hout) htrans hpre hQ

/-- What an observer keeps of the world is enough to say what is left of a program, if every answer
is as the observer takes it to be and what others do changes nothing for the observer. -/
lemma wp_of_run_observed {S : Spec E R Φ} {T : W → Φ → Prop} {Q : Except X α → Φ → Prop}
    {P : W × Program E R X α → C ⊕ V → Prop} {w w' : W} {p' : Program E R X α} {es : List (C ⊕ V)}
    (hanswer : ∀ w φ e next c r w', T w φ → S.pre φ e → P (w, perform e next) (.inl c) →
      answer w e c = some (r, w') → ∃ φ', S.post φ e r φ' ∧ T w' φ')
    (houtside : ∀ w φ p v w', T w φ → P (w, p) (.inr v) → outside w v = some w' → T w' φ)
    (hp : p.wp S Q φ) (hrel : T w φ)
    (hg : Transition.Guarded (stepBeside answer outside) P (w, p) es)
    (hrun : Transition.run (stepBeside answer outside) (w, p) es = some (w', p')) :
    ∃ φ', T w' φ' ∧ p'.wp S Q φ' := by
  refine Transition.run_invariant (I := fun s => ∃ φ, T s.1 φ ∧ s.2.wp S Q φ) ?_
    ⟨φ, hrel, hp⟩ hg hrun
  rintro ⟨w, p⟩ (c | v) ⟨w₁, p₁⟩ ⟨φ, hrel, hp⟩ hP hstep
  · obtain ⟨e, next, r, rfl, hans, rfl⟩ := of_stepAlone hstep
    obtain ⟨φ', hpost, hrel'⟩ := hanswer w φ e next c r w₁ hrel hp.1 hP hans
    exact ⟨φ', hrel', hp.2 r φ' hpost⟩
  · obtain ⟨w₂, hout, heq⟩ := Option.map_eq_some_iff.mp hstep
    obtain ⟨rfl, rfl⟩ := Prod.mk.inj heq
    exact ⟨φ, houtside w φ p v w₂ hrel hP hout, hp⟩

end Program

/-- Tasks over a shared world. Each carries a tag, in which `track` may keep what the
task has done so far. -/
structure Machine (E : Type) (R : E → Type) (X α W C V T : Type) where
  answer : W → (e : E) → C → Option (R e × W)
  starts : E → List (T × Program E R X α)
  outside : W → V → Option (W × List (T × Program E R X α))
  track : W → T → (e : E) → R e → T

namespace Machine

variable {E : Type} {R : E → Type} {X α W C V T : Type}

structure State (E : Type) (R : E → Type) (X α W T : Type) where
  world : W
  tasks : List (T × Program E R X α)

inductive Event (C V : Type)
  | act (i : Nat) (c : C)
  | outside (v : V)

def step (M : Machine E R X α W C V T) (s : State E R X α W T) :
    Event C V → Option (State E R X α W T)
  | .act i c =>
    match s.tasks[i]? with
    | some (t, .perform e next) =>
      (M.answer s.world e c).map fun a =>
        ⟨a.2, s.tasks.set i (M.track a.2 t e a.1, next a.1) ++ M.starts e⟩
    | _ => none
  | .outside v => (M.outside s.world v).map fun a => ⟨a.1, s.tasks ++ a.2⟩

def State.next (s : State E R X α W T) (i : Nat) : Option (T × E) :=
  match s.tasks[i]? with
  | some (t, .perform e _) => some (t, e)
  | _ => none

variable {M : Machine E R X α W C V T} {s s' : State E R X α W T}

lemma next_eq_some {i : Nat} {t : T} {e : E} :
    s.next i = some (t, e) ↔ ∃ next, s.tasks[i]? = some (t, .perform e next) := by
  unfold State.next
  constructor
  · intro h
    split at h
    · rename_i t' e' next htask
      cases h
      exact ⟨next, htask⟩
    · cases h
  · rintro ⟨next, htask⟩
    rw [htask]

lemma step_act_eq_some {i : Nat} {c : C} : M.step s (.act i c) = some s' ↔
    ∃ t e next r w, s.tasks[i]? = some (t, .perform e next) ∧ M.answer s.world e c = some (r, w) ∧
      s' = ⟨w, s.tasks.set i (M.track w t e r, next r) ++ M.starts e⟩ := by
  unfold step
  dsimp only
  constructor
  · intro h
    split at h
    · rename_i t e next htask
      obtain ⟨⟨r, w⟩, ha, rfl⟩ := Option.map_eq_some_iff.mp h
      exact ⟨t, e, next, r, w, htask, ha, rfl⟩
    · cases h
  · rintro ⟨t, e, next, r, w, htask, ha, rfl⟩
    rw [htask]
    dsimp only
    rw [ha, Option.map_some]

lemma step_outside_eq_some {v : V} : M.step s (.outside v) = some s' ↔
    ∃ w new, M.outside s.world v = some (w, new) ∧ s' = ⟨w, s.tasks ++ new⟩ := by
  simp only [step, Option.map_eq_some_iff, Prod.exists]
  constructor
  · rintro ⟨w, new, h, rfl⟩
    exact ⟨w, new, h, rfl⟩
  · rintro ⟨w, new, h, rfl⟩
    exact ⟨w, new, h, rfl⟩

end Machine
