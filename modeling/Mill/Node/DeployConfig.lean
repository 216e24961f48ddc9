import Mill.Node.DeployEffects

/-! The stored config under deploys. -/

namespace Mill

open Mill.Action List Program Transition

/-- How far a deploy is with the stored config; `old` is what it has read. -/
inductive DeployPhase
  | idle
  | opened (old : Option ClusterConfig)
  | committed (old : Option ClusterConfig)
  | rolledBack (old : Option ClusterConfig)
deriving DecidableEq

structure Deploying where
  new : ClusterConfig
  phase : DeployPhase
  readAt : Nat
  committedAt : Nat
deriving DecidableEq

namespace Deploying

def begin (new : ClusterConfig) : Deploying := ⟨new, .idle, 0, 0⟩

def track (writes : Nat) (t : Deploying) (e : Effect) (r : e.Answer) : Deploying :=
  match t.phase, e, r with
  | .idle, .read .config, old => { t with phase := .opened old, readAt := writes }
  | .opened old, .propose (.deploy _), .ok _ =>
    { t with phase := .committed old, committedAt := writes }
  | .committed old, .propose (.deploy _), .ok _ => { t with phase := .rolledBack old }
  | _, _, _ => t

variable {t : Deploying} {old : Option ClusterConfig}

lemma track_read (h : t.phase = .idle) (writes : Nat) :
    t.track writes (.read .config) old = { t with phase := .opened old, readAt := writes } := by
  simp only [track, h]

lemma track_read_again (h : t.phase ≠ .idle) (writes : Nat) :
    t.track writes (.read .config) old = t := by
  unfold track
  split <;> first | rfl | contradiction

lemma track_commit (h : t.phase = .opened old) (writes : Nat) (config : ClusterConfig)
    (response : Response) : t.track writes (.propose (.deploy config)) (.ok response) =
      { t with phase := .committed old, committedAt := writes } := by
  simp only [track, h]

lemma track_rollBack (h : t.phase = .committed old) (writes : Nat) (config : ClusterConfig)
    (response : Response) : t.track writes (.propose (.deploy config)) (.ok response) =
      { t with phase := .rolledBack old } := by
  simp only [track, h]

lemma track_refused (writes : Nat) (c : Command) (message : String) :
    t.track writes (.propose c) (.error message) = t := by
  unfold track
  split <;> first | rfl | contradiction

end Deploying

def Effect.Quiet (e : Effect) : Prop :=
  e ≠ .read .config ∧ ∀ config, e ≠ .propose (.deploy config)

section

variable {e : Effect}

lemma Deploying.track_of_quiet (he : e.Quiet) (writes : Nat) (t : Deploying) (r : e.Answer) :
    t.track writes e r = t := by
  unfold track
  split
  · exact absurd rfl he.1
  · exact absurd rfl (he.2 _)
  · exact absurd rfl (he.2 _)
  · rfl

lemma ServiceEffect.quiet {name : String} {d : ServiceDef} (he : ServiceEffect name d e) :
    e.Quiet := by
  cases he with
  | volume vol hvol e he => cases he <;> simp [Effect.Quiet]
  | firstReady => simp [Effect.Quiet]
  | replica e he =>
    cases he with
    | start allocId e he =>
      cases he with
      | running node e he => cases he <;> simp [Effect.Quiet]
      | _ => simp [Effect.Quiet]
    | _ => simp [Effect.Quiet]

lemma only_applyPlan_quiet (ctx : DeployCtx) (plan : DeployPlan) :
    (applyPlan ctx plan).Only Effect.Quiet fun x => ∃ e, x = .node e :=
  only_applyPlan ctx (fun _ _ => by simp [Effect.Quiet]) (fun _ _ => by simp [Effect.Quiet])
    fun _ _ _ he => he.quiet

end

section

/-- A deploy stores its own config once, after it has read the old one, and then at
most the one that it has read. With `accepted`, no proposal is refused. -/
def deploySpec (accepted : Prop) : Spec Effect Effect.Answer Deploying where
  pre t e := ∀ config, e = .propose (.deploy config) →
    (∃ old, t.phase = .opened old ∧ config = t.new) ∨ t.phase = .committed (some config)
  post t e r t' := (∃ writes, t' = t.track writes e r) ∧ (accepted → e.refused r = false)

def DeployEnd (accepted : Prop) : Except DeployError Bool → Deploying → Prop
  | .ok true, t => ∃ old, t.phase = .committed old
  | .ok false, t => t.phase = .committed none ∨ (∃ old, t.phase = .rolledBack (some old)) ∨
      ¬accepted ∧ ∃ old, t.phase = .committed (some old)
  | .error x, t => (∃ old, t.phase = .opened old ∧ (accepted → ∃ m, x = .validationFailed m)) ∨
      ∃ old, t.phase = .committed old ∧ ∃ e, x = .node e

variable {accepted : Prop} {t : Deploying} {α : Type}

lemma wp_quiet {p : Action α} {F : DeployError → Prop}
    {Q : Except DeployError α → Deploying → Prop} (hp : p.Only Effect.Quiet F)
    (hdone : ∀ a, Q (.ok a) t) (hfail : ∀ x, F x → Q (.error x) t) :
    p.wp (deploySpec accepted) Q t := by
  refine wp_of_only (I := fun t' => t' = t) hp rfl ?_ ?_ ?_
  · rintro e t' he rfl
    refine ⟨fun config h => absurd h (he.2 config), ?_⟩
    rintro r t'' ⟨⟨writes, rfl⟩, -⟩
    exact Deploying.track_of_quiet he writes t' r
  · rintro a t' rfl
    exact hdone a
  · rintro x t' hx rfl
    exact hfail x hx

lemma wp_preDeploy (new : ClusterConfig) : (preDeploy new).wp (deploySpec accepted)
    (fun o t => match o with
      | .ok a => t.phase = .opened a.1 ∧ t.new = new
      | .error x => ∃ old, t.phase = .opened old ∧ ∃ m, x = .validationFailed m)
    (.begin new) := by
  have hread (old : Option ClusterConfig) (t : Deploying)
      (h : (deploySpec accepted).post (.begin new) (.read .config) old t) :
      t.phase = .opened old ∧ t.new = new := by
    obtain ⟨⟨writes, rfl⟩, -⟩ := h
    rw [Deploying.track_read rfl]
    exact ⟨rfl, rfl⟩
  have hquiet (old : Option ClusterConfig) (e : Effect) (t : Deploying) (he : PreDeployEffect e)
      (ht : t.phase = .opened old ∧ t.new = new) : (deploySpec accepted).pre t e ∧
        ∀ r t', (deploySpec accepted).post t e r t' → t'.phase = .opened old ∧ t'.new = new := by
    have he : e.Quiet := by cases he <;> simp [Effect.Quiet]
    refine ⟨fun config h => absurd h (he.2 config), ?_⟩
    rintro r t' ⟨⟨writes, rfl⟩, -⟩
    rw [Deploying.track_of_quiet he]
    exact ht
  refine wp_mono (wp_preDeploy_of new (fun old t => t.phase = .opened old ∧ t.new = new)
    (fun _ _ => True) ⟨fun config h => (nomatch h), hread⟩ hquiet fun _ _ _ _ _ => trivial) ?_
  rintro (x | a) t ⟨old, ht, ho⟩
  · exact ⟨old, ht.1, ho⟩
  · obtain ⟨newOrder, oldOrder, rfl, -⟩ := ho
    exact ht

lemma wp_rollBack (failed : Bool) (old : Option ClusterConfig) : t.phase = .committed old →
    (match failed, old with
      | true, some old => do
        let _ ← act (.propose (.deploy old))
        pure (!failed)
      | _, _ => pure (!failed) : Action Bool).wp (deploySpec accepted) (DeployEnd accepted) t := by
  intro ht
  cases failed with
  | false => exact ⟨old, ht⟩
  | true =>
    cases old with
    | none => exact .inl ht
    | some old =>
      refine wp_bind (wp_effect ?_ ?_)
      · rintro config h
        cases h
        exact .inr ht
      rintro (message | response) t' ⟨⟨writes, rfl⟩, haccepted⟩
      · rw [Deploying.track_refused]
        exact .inr (.inr ⟨fun ha => absurd (haccepted ha) (by simp [Effect.refused]), old, ht⟩)
      · rw [Deploying.track_rollBack ht]
        exact .inr (.inl ⟨old, rfl⟩)

lemma wp_runDeploy (ctx : DeployCtx) (new : ClusterConfig) :
    (runDeploy ctx new).wp (deploySpec accepted) (DeployEnd accepted) (.begin new) := by
  refine wp_bind (wp_mono (wp_preDeploy new) ?_)
  rintro (x | ⟨old, plan⟩) t ho
  · obtain ⟨old, hphase, hx⟩ := ho
    exact .inl ⟨old, hphase, fun _ => hx⟩
  obtain ⟨hphase, hnew⟩ := ho
  refine wp_bind (wp_propose ?_ ?_ ?_)
  · rintro config h
    cases h
    exact .inl ⟨old, hphase, hnew.symm⟩
  · rintro response t' ⟨⟨writes, rfl⟩, -⟩
    rw [Deploying.track_commit hphase]
    refine wp_bind (wp_quiet (only_applyPlan_quiet ctx plan)
      (fun failed => wp_rollBack failed old rfl) ?_)
    rintro x ⟨e, rfl⟩
    exact .inr ⟨old, rfl, e, rfl⟩
  · rintro message t' ⟨⟨writes, rfl⟩, haccepted⟩
    rw [Deploying.track_refused]
    exact .inl ⟨old, hphase, fun ha => absurd (haccepted ha) (by simp [Effect.refused])⟩

end

section

inductive ConfigStep (config : Option ClusterConfig) (writes : Nat) (t : Deploying) :
    Effect → Option ClusterConfig → Nat → Deploying → Prop
  | unseen (e : Effect) : ConfigStep config writes t e config writes t
  | read (h : t.phase = .idle) : ConfigStep config writes t (.read .config) config writes
      { t with phase := .opened config, readAt := writes }
  | commit (old : Option ClusterConfig) (h : t.phase = .opened old) :
      ConfigStep config writes t (.propose (.deploy t.new)) (some t.new) (writes + 1)
        { t with phase := .committed old, committedAt := writes + 1 }
  | rollBack (old : ClusterConfig) (h : t.phase = .committed (some old)) :
      ConfigStep config writes t (.propose (.deploy old)) (some old) (writes + 1)
        { t with phase := .rolledBack (some old) }

def Effect.storesConfig (e : Effect) (r : e.Answer) : Nat :=
  match e.applied r with
  | some (.deploy _) => 1
  | _ => 0

lemma Effect.quiet_propose {c : Command} (hc : ∀ config, c ≠ .deploy config) :
    (Effect.propose c).Quiet :=
  ⟨nofun, fun config h => hc config (Effect.propose.inj h)⟩

variable {accepted : Prop} {t : Deploying} {w w' : World} {e : Effect} {r : e.Answer}

lemma configStep_of_answered (hpre : (deploySpec accepted).pre t e) (h : w.Answered e r w')
    (writes : Nat) : ConfigStep w.fsm.config writes t e w'.fsm.config
      (writes + e.storesConfig r) (t.track (writes + e.storesConfig r) e r) := by
  have hunseen (he : e.Quiet) (hstores : e.storesConfig r = 0)
      (hconfig : w'.fsm.config = w.fsm.config) : ConfigStep w.fsm.config writes t e w'.fsm.config
        (writes + e.storesConfig r) (t.track (writes + e.storesConfig r) e r) := by
    rw [Deploying.track_of_quiet he, hstores, hconfig]
    exact .unseen e
  cases h with
  | read q =>
    by_cases hq : q = .config
    · subst hq
      by_cases hidle : t.phase = .idle
      · rw [Deploying.track_read hidle]
        exact .read hidle
      · rw [Deploying.track_read_again hidle]
        exact .unseen _
    · exact hunseen ⟨fun h => hq (Effect.read.inj h), nofun⟩ rfl rfl
  | applied c =>
    by_cases hc : ∃ config, c = .deploy config
    · obtain ⟨config, rfl⟩ := hc
      rcases hpre config rfl with ⟨old, hold, rfl⟩ | hold
      · rw [Deploying.track_commit hold]
        exact .commit old hold
      · rw [Deploying.track_rollBack hold]
        exact .rollBack config hold
    · have hc' : ∀ config, c ≠ .deploy config := fun config h => hc ⟨config, h⟩
      refine hunseen (Effect.quiet_propose hc') ?_ (config_applyCommand hc')
      unfold Effect.storesConfig
      split
      · rename_i h
        exact absurd (Option.some.inj h) (hc' _)
      · rfl
  | refused =>
    rw [Deploying.track_refused]
    exact .unseen _
  | _ => exact hunseen (by simp [Effect.Quiet]) rfl rfl

end

section

structure ConfigWorld where
  world : World
  writes : Nat

inductive DeployRequest
  /-- A request to the API: `post_deploy` spawns the deploy and does not wait. -/
  | start (config : ClusterConfig)
  | commit (c : Command)

abbrev Deploys := Machine.State Effect Effect.Answer DeployError Bool ConfigWorld Deploying

abbrev DeployEvent := Machine.Event Choice DeployRequest

def deploys (ctx : DeployCtx) :
    Machine Effect Effect.Answer DeployError Bool ConfigWorld Choice DeployRequest Deploying where
  answer w e c := (w.world.answer e c).map fun a => (a.1, ⟨a.2, w.writes + e.storesConfig a.1⟩)
  starts _ := []
  outside w
    | .start config => some (w, [(.begin config, runDeploy ctx config)])
    | .commit (.deploy _) => none
    | .commit c =>
      some (⟨{ w.world with fsm := (applyCommand w.world.fsm c).1 }, w.writes⟩, [])
  track w t e r := t.track w.writes e r

def ConfigWorld.config (w : ConfigWorld) : Option ClusterConfig := w.world.fsm.config

variable {ctx : DeployCtx} {s s' : Deploys} {accepted : Prop}

lemma deploys_act {i : Nat} {c : Choice} (h : (deploys ctx).step s (.act i c) = some s')
    (hprogram : ∀ tp ∈ s.tasks, tp.2.wp (deploySpec accepted) (DeployEnd accepted) tp.1)
    (hc : accepted → ∀ message, c ≠ .raftError message) :
    ∃ t e next t' p', s.tasks[i]? = some (t, .perform e next) ∧ s'.tasks = s.tasks.set i (t', p') ∧
      ConfigStep s.world.config s.world.writes t e s'.world.config s'.world.writes t' ∧
      p'.wp (deploySpec accepted) (DeployEnd accepted) t' := by
  obtain ⟨t, e, next, r, w, htask, ha, rfl⟩ := Machine.step_act_eq_some.mp h
  obtain ⟨⟨r', w'⟩, hanswer, hrw⟩ := Option.map_eq_some_iff.mp ha
  obtain ⟨rfl, rfl⟩ := Prod.mk.inj hrw
  have hwp := hprogram _ (mem_of_getElem? htask)
  have hstep := configStep_of_answered hwp.1 (World.answered_of_answer hanswer) s.world.writes
  have haccepted : accepted → e.refused r' = false := fun hok =>
    World.not_refused_of_answer hanswer (hc hok)
  exact ⟨t, e, next, _, next r', htask, append_nil _, hstep, hwp.2 r' _ ⟨⟨_, rfl⟩, haccepted⟩⟩

lemma deploys_outside {v : DeployRequest} (h : (deploys ctx).step s (.outside v) = some s') :
    s'.world.config = s.world.config ∧ s'.world.writes = s.world.writes ∧ (s'.tasks = s.tasks ∨
        ∃ new, v = .start new ∧ s'.tasks = s.tasks ++ [(.begin new, runDeploy ctx new)]) := by
  obtain ⟨w, tasks, hw, rfl⟩ := Machine.step_outside_eq_some.mp h
  cases v with
  | start new =>
    cases hw
    exact ⟨rfl, rfl, .inr ⟨new, rfl, rfl⟩⟩
  | commit c =>
    by_cases hc : ∃ config, c = .deploy config
    · obtain ⟨config, rfl⟩ := hc
      cases hw
    · have hc' : ∀ config, c ≠ .deploy config := fun config h => hc ⟨config, h⟩
      simp only [deploys] at hw
      cases hw
      exact ⟨config_applyCommand hc', rfl, .inl (append_nil _)⟩

end

section

def Deploying.Restores (before config : Option ClusterConfig) (t : Deploying) : Prop :=
  match t.phase with
  | .idle => config = before
  | .opened old => old = before ∧ config = before
  | .committed old => old = before ∧ config = some t.new
  | .rolledBack old => old = before ∧ config = before

lemma ConfigStep.restores {before config config' : Option ClusterConfig} {writes writes' : Nat}
    {t t' : Deploying} {e : Effect} (h : ConfigStep config writes t e config' writes' t')
    (ht : t.Restores before config) : t'.Restores before config' := by
  cases h with
  | unseen => exact ht
  | read hidle =>
    have hconfig : config = before := by simpa only [Deploying.Restores, hidle] using ht
    exact ⟨hconfig, hconfig⟩
  | commit old hopened =>
    have hbefore : old = before ∧ config = before := by
      simpa only [Deploying.Restores, hopened] using ht
    exact ⟨hbefore.1, rfl⟩
  | rollBack old hcommitted =>
    have hbefore : some old = before ∧ config = some t.new := by
      simpa only [Deploying.Restores, hcommitted] using ht
    exact ⟨hbefore.1, hbefore.1⟩

lemma ConfigStep.new_eq {config config' : Option ClusterConfig} {writes writes' : Nat}
    {t t' : Deploying} {e : Effect} (h : ConfigStep config writes t e config' writes' t') :
    t'.new = t.new := by
  cases h <;> rfl

def DeployEvent.undisturbed : DeployEvent → Bool
  | .act _ (.raftError _) => false
  | .outside (.start _) => false
  | _ => true

variable {ctx : DeployCtx} {before : Option ClusterConfig} {new : ClusterConfig} {s s' : Deploys}

structure SingleDeploy (before : Option ClusterConfig) (new : ClusterConfig) (s : Deploys) :
    Prop where
  program : ∀ tp ∈ s.tasks, tp.2.wp (deploySpec True) (DeployEnd True) tp.1
  config : ∀ tp ∈ s.tasks, tp.1.new = new ∧ tp.1.Restores before s.world.config
  alone : s.tasks.length = 1

lemma singleDeploy_step {event : DeployEvent} (hs : SingleDeploy before new s)
    (hevent : DeployEvent.undisturbed event = true) (h : (deploys ctx).step s event = some s') :
    SingleDeploy before new s' := by
  cases event with
  | act i c =>
    have hc : True → ∀ message, c ≠ .raftError message := by
      rintro - message rfl
      cases hevent
    obtain ⟨t, e, next, t', p', htask, htasks, hstep, hwp⟩ := deploys_act h hs.program hc
    obtain ⟨hnew, hconfig⟩ := hs.config _ (mem_of_getElem? htask)
    have hi : i < s.tasks.length := (List.getElem?_eq_some_iff.mp htask).1
    have hone : s.tasks.set i (t', p') = [(t', p')] := by
      obtain ⟨tp, htp⟩ := length_eq_one_iff.mp hs.alone
      have hi0 : i = 0 := by have hlen := hs.alone; omega
      rw [htp, hi0, set_cons_zero]
    rw [hone] at htasks
    refine ⟨?_, ?_, by rw [htasks]; rfl⟩
    · rw [htasks]
      rintro tp htp
      rw [mem_singleton.mp htp]
      exact hwp
    · rw [htasks]
      rintro tp htp
      rw [mem_singleton.mp htp]
      exact ⟨hstep.new_eq.trans hnew, hstep.restores hconfig⟩
  | outside =>
    obtain ⟨hconfig, -, htasks | ⟨other, rfl, -⟩⟩ := deploys_outside h
    · exact ⟨htasks ▸ hs.program, by rw [htasks, hconfig]; exact hs.config, htasks ▸ hs.alone⟩
    · cases hevent

def oneDeploy (ctx : DeployCtx) (w : World) (new : ClusterConfig) : Deploys :=
  ⟨⟨w, 0⟩, [(.begin new, runDeploy ctx new)]⟩

lemma singleDeploy_start (ctx : DeployCtx) (w : World) (new : ClusterConfig) :
    SingleDeploy w.fsm.config new (oneDeploy ctx w new) := by
  refine ⟨?_, ?_, rfl⟩
  · rintro tp htp
    rw [mem_singleton.mp htp]
    exact wp_runDeploy ctx new
  · rintro tp htp
    rw [mem_singleton.mp htp]
    exact ⟨rfl, rfl⟩

/-- A failed deploy leaves the config that it found exactly if validation rejected it,
or a service failed and there was a config to go back to. A first deploy is not undone,
and neither is one that ends at a Stop that was not delivered. -/
theorem failed_deploy_restores_iff (ctx : DeployCtx) (w : World) (new : ClusterConfig)
    (events : List DeployEvent) (s : Deploys) (result : Except DeployError Bool)
    (hevents : ∀ event ∈ events, DeployEvent.undisturbed event = true)
    (hrun : run (deploys ctx).step (oneDeploy ctx w new) events = some s)
    (hend : s.tasks.map (fun tp => tp.2.outcome) = [some result]) (hfail : result ≠ .ok true) :
    s.world.config = w.fsm.config ↔
      (∃ m, result = .error (.validationFailed m)) ∨ (result = .ok false ∧ w.fsm.config.isSome) ∨
        w.fsm.config = some new := by
  have hs : SingleDeploy w.fsm.config new s :=
    run_invariant (P := fun _ event => DeployEvent.undisturbed event = true)
      (fun _ _ _ hs he h => singleDeploy_step hs he h) (singleDeploy_start ctx w new)
      (guarded_of_forall _ fun e he _ => hevents e he) hrun
  obtain ⟨⟨t, p⟩, htask⟩ := length_eq_one_iff.mp hs.alone
  have hmem : (t, p) ∈ s.tasks := by rw [htask]; exact mem_singleton_self _
  have hwp := hs.program _ hmem
  obtain ⟨rfl, hconfig⟩ := hs.config _ hmem
  have hresult : p.outcome = some result := by simpa [htask] using hend
  have hdone : DeployEnd True result t := of_wp_outcome hwp hresult
  generalize w.fsm.config = before at hconfig
  unfold Deploying.Restores at hconfig
  match result with
  | .ok true => exact absurd rfl hfail
  | .ok false =>
    rcases hdone with hphase | ⟨old, hphase⟩ | ⟨hno, -⟩
    · simp only [hphase] at hconfig
      obtain ⟨rfl, hconfig⟩ := hconfig
      simp [hconfig]
    · simp only [hphase] at hconfig
      obtain ⟨rfl, hconfig⟩ := hconfig
      simp [hconfig]
    · exact absurd trivial hno
  | .error x =>
    rcases hdone with ⟨old, hphase, hx⟩ | ⟨old, hphase, e, rfl⟩
    · simp only [hphase] at hconfig
      obtain ⟨m, rfl⟩ := hx trivial
      simp [hconfig]
    · simp only [hphase] at hconfig
      rw [hconfig.2]
      constructor
      · exact fun h => .inr (.inr h.symm)
      · rintro (⟨m, h⟩ | ⟨h, -⟩ | h)
        · cases h
        · cases h
        · exact h.symm

def demoConfig : ClusterConfig := ⟨Finmap.singleton "web" demoDef, ∅⟩

def demoWorld (config : Option ClusterConfig) : World :=
  ⟨{ PlacementSystem.demoFsm with config }, [], [], 0⟩

def demoOrder : Choice := .order [PlacementSystem.demoNode] [] []

def demoCommit : List Choice :=
  [demoOrder, .services [⟨"web", demoDef⟩], .services [], demoOrder, demoOrder, .proceed, .proceed]

def demoUnreachable : List Choice :=
  [demoOrder, demoOrder, demoOrder, .proceed, .env [], .undelivered (.nodeUnreachable "n"),
    .proceed]

def demoFailing : List DeployEvent := (demoCommit ++ demoUnreachable).map (.act 0)

theorem failed_deploy_restores_iff_rolledBack :
    ∃ s, run (deploys demoCtx).step (oneDeploy demoCtx (demoWorld (some ⟨∅, ∅⟩)) demoConfig)
        (demoFailing ++ [.act 0 .proceed]) = some s ∧
      s.tasks.map (fun tp => tp.2.outcome) = [some (.ok false)] ∧
      s.world.config = some ⟨∅, ∅⟩ := by
  refine exists_end_and (by decide +kernel) fun s hs hend => ?_
  exact (failed_deploy_restores_iff demoCtx (demoWorld (some ⟨∅, ∅⟩)) demoConfig _ s (.ok false)
    (by decide +kernel) hs hend (by decide)).mpr (.inr (.inl ⟨rfl, rfl⟩))

/-- A first deploy whose only service fails: the config stays. -/
theorem failed_first_deploy_keeps_config : (demoWorld none).fsm.config = none ∧
      (∀ event ∈ demoFailing, DeployEvent.undisturbed event = true) ∧
      ∃ s, run (deploys demoCtx).step (oneDeploy demoCtx (demoWorld none) demoConfig)
          demoFailing = some s ∧
        s.tasks.map (fun tp => tp.2.outcome) = [some (.ok false)] ∧
        s.world.config = some demoConfig := by
  exact ⟨rfl, by decide +kernel, by decide +kernel⟩

end

def Storing (s : Deploys) (i : Nat) : Bool :=
  match s.next i with
  | some (_, .propose (.deploy _)) => true
  | _ => false

def StoresAlone (s : Deploys) : DeployEvent → Prop
  | .act i _ => Storing s i = true → ∀ j < s.tasks.length, j ≠ i → ∀ tp ∈ s.tasks[j]?,
      tp.2.outcome.isSome ∨ tp.1.phase = .idle
  | .outside _ => True

instance : ∀ (s : Deploys) (event : DeployEvent), Decidable (StoresAlone s event)
  | _, .act _ _ => inferInstanceAs (Decidable (_ → _))
  | _, .outside _ => .isTrue trivial

variable {ctx : DeployCtx} {s s' : Deploys} {i : Nat} {t t' : Deploying} {p' : Action Bool}
  {e : Effect} {next : e.Answer → Action Bool}

lemma StoresAlone.others {c : Choice} {config : ClusterConfig} (h : StoresAlone s (.act i c))
    (he : e = .propose (.deploy config)) (hi : s.tasks[i]? = some (t, .perform e next)) {j : Nat}
    {tp : Deploying × Action Bool} (hj : j ≠ i) (htp : s.tasks[j]? = some tp)
    (hrunning : tp.2.outcome = none) : tp.1.phase = .idle := by
  have hstoring : Storing s i = true := by
    subst he
    unfold Storing
    rw [Machine.next_eq_some.mpr ⟨next, hi⟩]
  have hlen : j < s.tasks.length := (List.getElem?_eq_some_iff.mp htp).1
  rcases h hstoring j hlen hj tp htp with hended | hidle
  · rw [hrunning] at hended
    cases hended
  · exact hidle

structure OneAtATime (s : Deploys) : Prop where
  program : ∀ tp ∈ s.tasks, tp.2.wp (deploySpec False) (DeployEnd False) tp.1
  past : ∀ tp ∈ s.tasks, tp.1.committedAt ≤ s.world.writes
  opened : ∀ (i : Nat) (tp : Deploying × Action Bool) (old : Option ClusterConfig),
    s.tasks[i]? = some tp → tp.2.outcome = none → tp.1.phase = .opened old →
      tp.1.readAt = s.world.writes
  committed : ∀ (i : Nat) (tp : Deploying × Action Bool) (old : Option ClusterConfig),
    s.tasks[i]? = some tp → tp.2.outcome = none → tp.1.phase = .committed old →
      tp.1.readAt + 1 = s.world.writes ∧ s.world.config = some tp.1.new ∧
        tp.1.committedAt = s.world.writes ∧
        ∀ (j : Nat) (tp' : Deploying × Action Bool), j ≠ i → s.tasks[j]? = some tp' →
          tp'.1.committedAt < s.world.writes
  latest : ∀ tp ∈ s.tasks, ∀ old, tp.1.phase = .committed old →
    (∀ tp' ∈ s.tasks, tp'.1.committedAt ≤ tp.1.committedAt) → s.world.config = some tp.1.new

lemma oneAtATime_start (hs : OneAtATime s) (new : ClusterConfig) :
    OneAtATime ⟨s.world, s.tasks ++ [(.begin new, runDeploy ctx new)]⟩ := by
  have hold {j : Nat} {tp : Deploying × Action Bool} (hphase : tp.1.phase ≠ .idle)
      (h : (s.tasks ++ [(Deploying.begin new, runDeploy ctx new)])[j]? = some tp) :
      s.tasks[j]? = some tp := by
    rcases List.of_getElem?_concat h with hj | ⟨-, rfl⟩
    · exact hj
    · exact absurd rfl hphase
  refine ⟨?_, ?_, ?_, ?_, ?_⟩
  · intro tp htp
    rcases mem_append.mp htp with hmem | hmem
    · exact hs.program tp hmem
    · rw [mem_singleton.mp hmem]
      exact wp_runDeploy ctx new
  · intro tp htp
    rcases mem_append.mp htp with hmem | hmem
    · exact hs.past tp hmem
    · rw [mem_singleton.mp hmem]
      exact Nat.zero_le _
  · intro j tp old htp hrunning hphase
    exact hs.opened j tp old (hold (by simp [hphase]) htp) hrunning hphase
  · intro j tp old htp hrunning hphase
    have htp' := hold (by simp [hphase]) htp
    obtain ⟨hread, hconfig, hat, hothers⟩ := hs.committed j tp old htp' hrunning hphase
    refine ⟨hread, hconfig, hat, fun k tp' hk htk => ?_⟩
    rcases List.of_getElem?_concat htk with htk' | ⟨-, rfl⟩
    · exact hothers k tp' hk htk'
    · have hpos : 0 < s.world.writes := by omega
      exact hpos
  · intro tp htp old hphase hlast
    obtain ⟨j, hj⟩ := mem_iff_getElem?.mp htp
    have hmem := mem_of_getElem? (hold (by simp [hphase]) hj)
    exact hs.latest tp hmem old hphase fun tp' htp' =>
      hlast tp' (mem_append_left _ htp')

lemma oneAtATime_unseen (hs : OneAtATime s) (hi : s.tasks[i]? = some (t, .perform e next))
    (ht : t' = t ∨ t' = { t with phase := .opened s.world.config, readAt := s.world.writes })
    (hwp : p'.wp (deploySpec False) (DeployEnd False) t') (w : ConfigWorld)
    (hconfig : w.config = s.world.config) (hwrites : w.writes = s.world.writes) :
    OneAtATime ⟨w, s.tasks.set i (t', p')⟩ := by
  have hat : t'.committedAt = t.committedAt := by rcases ht with rfl | rfl <;> rfl
  have hcommitted {old : Option ClusterConfig} (h : t'.phase = .committed old) : t' = t := by
    rcases ht with rfl | rfl
    · rfl
    · cases h
  have hmem := mem_of_getElem? hi
  refine ⟨?_, ?_, ?_, ?_, ?_⟩
  · exact List.forall_mem_set hs.program hwp
  · rw [hwrites]
    exact List.forall_mem_set hs.past (hat ▸ hs.past _ hmem)
  · intro j tp old htp hrunning hphase
    rw [hwrites]
    rcases List.of_getElem?_set htp with ⟨rfl, rfl⟩ | ⟨-, htp'⟩
    · rcases ht with rfl | rfl
      · exact hs.opened j (t', .perform e next) old hi rfl hphase
      · rfl
    · exact hs.opened j tp old htp' hrunning hphase
  · intro j tp old htp hrunning hphase
    rw [hwrites, hconfig]
    rcases List.of_getElem?_set htp with ⟨rfl, rfl⟩ | ⟨hj, htp'⟩
    · obtain rfl := hcommitted hphase
      obtain ⟨hread, hnew, hat', hothers⟩ := hs.committed j _ old hi rfl hphase
      refine ⟨hread, hnew, hat', fun k tp' hk htk => ?_⟩
      rcases List.of_getElem?_set htk with ⟨rfl, -⟩ | ⟨-, htk'⟩
      · exact absurd rfl hk
      · exact hothers k tp' hk htk'
    · obtain ⟨hread, hnew, hat', hothers⟩ := hs.committed j tp old htp' hrunning hphase
      refine ⟨hread, hnew, hat', fun k tp' hk htk => ?_⟩
      rcases List.of_getElem?_set htk with ⟨rfl, rfl⟩ | ⟨-, htk'⟩
      · exact hat ▸ hothers k _ hk hi
      · exact hothers k tp' hk htk'
  · intro tp htp old hphase hlast
    rw [hconfig]
    have hlast' : ∀ tp' ∈ s.tasks, tp'.1.committedAt ≤ tp.1.committedAt := by
      intro tp' htp'
      obtain ⟨k, hk⟩ := mem_iff_getElem?.mp htp'
      by_cases hki : k = i
      · subst hki
        obtain rfl := Option.some.inj (hi.symm.trans hk)
        exact hat ▸ hlast _ (List.mem_set_self hi)
      · refine hlast tp' (mem_of_getElem? (i := k) ?_)
        rw [List.getElem?_set_ne (Ne.symm hki), hk]
    rcases mem_or_eq_of_mem_set htp with hold | rfl
    · exact hs.latest tp hold old hphase hlast'
    · obtain rfl := hcommitted hphase
      exact hs.latest (t', .perform e next) hmem old hphase hlast'

lemma oneAtATime_stored (hs : OneAtATime s) (hi : s.tasks[i]? = some (t, .perform e next))
    (hothers : ∀ j tp, j ≠ i → s.tasks[j]? = some tp → tp.2.outcome = none → tp.1.phase = .idle)
    (hwp : p'.wp (deploySpec False) (DeployEnd False) t') (w : ConfigWorld)
    (hwrites : w.writes = s.world.writes + 1) (hat : t'.committedAt ≤ w.writes)
    (hopened : ∀ old, t'.phase ≠ .opened old)
    (hcommitted : ∀ old, t'.phase = .committed old →
      t'.readAt = s.world.writes ∧ w.config = some t'.new ∧ t'.committedAt = w.writes)
    (hlast : ∀ j tp, j ≠ i → s.tasks[j]? = some tp → tp.1.committedAt < t'.committedAt) :
    OneAtATime ⟨w, s.tasks.set i (t', p')⟩ := by
  refine ⟨?_, ?_, ?_, ?_, ?_⟩
  · exact List.forall_mem_set hs.program hwp
  · have hpast : ∀ tp ∈ s.tasks, tp.1.committedAt ≤ w.writes := by
      intro tp htp
      exact hwrites ▸ Nat.le_succ_of_le (hs.past tp htp)
    exact List.forall_mem_set hpast hat
  · intro j tp old htp hrunning hphase
    rcases List.of_getElem?_set htp with ⟨rfl, rfl⟩ | ⟨hj, htp'⟩
    · exact absurd hphase (hopened old)
    · rw [hothers j tp hj htp' hrunning] at hphase
      cases hphase
  · intro j tp old htp hrunning hphase
    rcases List.of_getElem?_set htp with ⟨rfl, rfl⟩ | ⟨hj, htp'⟩
    · obtain ⟨hread, hconfig, hat'⟩ := hcommitted old hphase
      refine ⟨by rw [hread, hwrites], hconfig, hat', fun k tp' hk htk => ?_⟩
      rcases List.of_getElem?_set htk with ⟨rfl, -⟩ | ⟨-, htk'⟩
      · exact absurd rfl hk
      · exact hat' ▸ hlast k tp' hk htk'
    · rw [hothers j tp hj htp' hrunning] at hphase
      cases hphase
  · intro tp htp old hphase hmax
    obtain ⟨j, hj⟩ := mem_iff_getElem?.mp htp
    rcases List.of_getElem?_set hj with ⟨rfl, rfl⟩ | ⟨hji, hj'⟩
    · exact (hcommitted old hphase).2.1
    · -- the deploy that has just stored committed later
      have hlt := hlast j tp hji hj'
      have hmem : (t', p') ∈ s.tasks.set i (t', p') := List.mem_set_self hi
      exact absurd (hmax _ hmem) (Nat.not_le.mpr hlt)

lemma oneAtATime_step {event : DeployEvent} (hs : OneAtATime s) (hevent : StoresAlone s event)
    (h : (deploys ctx).step s event = some s') : OneAtATime s' := by
  obtain ⟨w, tasks⟩ := s'
  cases event with
  | outside =>
    obtain ⟨hconfig, hwrites, htasks⟩ := deploys_outside h
    have hsame : OneAtATime ⟨w, s.tasks⟩ :=
      ⟨hs.program, hwrites ▸ hs.past, hwrites ▸ hs.opened,
        by rw [hconfig, hwrites]; exact hs.committed, hconfig ▸ hs.latest⟩
    rcases htasks with rfl | ⟨new, -, rfl⟩
    · exact hsame
    · exact oneAtATime_start hsame new
  | act i =>
    obtain ⟨t, e, next, t', p', htask, htasks, hstep, hwp⟩ :=
      deploys_act h hs.program fun hno => hno.elim
    dsimp only at htasks hstep
    subst htasks
    generalize hconfig : w.config = config at hstep
    generalize hwrites : w.writes = writes at hstep
    cases hstep with
    | unseen => exact oneAtATime_unseen hs htask (.inl rfl) hwp w hconfig hwrites
    | read => exact oneAtATime_unseen hs htask (.inr rfl) hwp w hconfig hwrites
    | commit old hphase =>
      have hopened := hs.opened i (t, .perform _ next) old htask rfl hphase
      refine oneAtATime_stored hs htask (fun j tp => hevent.others rfl htask) hwp w hwrites
        hwrites.ge (fun old h => by cases h) ?_ fun j tp _ htp => ?_
      · exact fun old' _ => ⟨hopened, hconfig, hwrites.symm⟩
      · have hpast := hs.past tp (mem_of_getElem? htp)
        exact Nat.lt_succ_of_le hpast
    | rollBack old hphase =>
      obtain ⟨-, -, hat, hothers⟩ := hs.committed i (t, .perform _ next) _ htask rfl hphase
      refine oneAtATime_stored hs htask (fun j tp => hevent.others rfl htask) hwp w hwrites ?_
        (fun old h => by cases h) (fun old h => by cases h) fun j tp hj htp => ?_
      · rw [hwrites]
        exact Nat.le_succ_of_le hat.le
      · exact hat ▸ hothers j tp hj htp

def noDeploys (w : World) : Deploys := ⟨⟨w, 0⟩, []⟩

lemma oneAtATime_noDeploys (w : World) : OneAtATime (noDeploys w) :=
  ⟨nofun, nofun, fun _ _ _ h => (nomatch h),
    fun _ _ _ h => (nomatch h), nofun⟩

/-- Where deploys store their configs one at a time, one that rolls back replaces its own
config, the only one stored since it read the old one, and the config of one that
succeeds stays until a later deploy commits. -/
theorem rollback_replaces_own_config (ctx : DeployCtx) (w : World) (events : List DeployEvent)
    (s : Deploys) (hguard : Guarded (deploys ctx).step StoresAlone (noDeploys w) events)
    (hrun : run (deploys ctx).step (noDeploys w) events = some s) :
    (∀ i t config old, s.next i = some (t, .propose (.deploy config)) → t.phase = .committed old →
      s.world.writes = t.readAt + 1 ∧ s.world.config = some t.new) ∧
    ∀ tp ∈ s.tasks, tp.2.outcome = some (.ok true) →
      (∀ tp' ∈ s.tasks, tp'.1.committedAt ≤ tp.1.committedAt) → s.world.config = some tp.1.new := by
  have hs : OneAtATime s := run_invariant (fun _ _ _ hs he h => oneAtATime_step hs he h)
    (oneAtATime_noDeploys w) hguard hrun
  constructor
  · intro i t config old hnext hphase
    obtain ⟨next, htask⟩ := Machine.next_eq_some.mp hnext
    obtain ⟨hread, hconfig, -⟩ := hs.committed i _ old htask rfl hphase
    exact ⟨hread.symm, hconfig⟩
  · intro tp htp hdone hlast
    obtain ⟨old, hphase⟩ : DeployEnd False (.ok true) tp.1 :=
      of_wp_outcome (hs.program tp htp) hdone
    exact hs.latest tp htp old hphase hlast

def demoJob : ClusterConfig := ⟨∅, Finmap.singleton "job" ⟨"job", ⟨1, 1024⟩, 1, ∅, none⟩⟩

def demoStarts : List DeployEvent := [.outside (.start demoConfig), .outside (.start demoJob)]

def demoRollBack : List Choice := demoUnreachable ++ [.proceed]

def demoFailed : Alloc :=
  ⟨⟨"web-0"⟩, ⟨"n"⟩, "web", .service, .failed "node unreachable: n", none, ⟨1, 1024⟩, none⟩

def demoSecond (allocs : List Alloc) (services : List (Σ _ : String, ServiceDef)) : List Choice :=
  let order := .order [PlacementSystem.demoNode] allocs []
  [order, .services [], .services services, order, order, .proceed]

def demoInTurn : List DeployEvent :=
  demoStarts ++ (demoCommit ++ demoRollBack).map (.act 0) ++
    (demoSecond [demoFailed] []).map (.act 1)

def demoOverlapping : List DeployEvent :=
  demoStarts ++ demoCommit.map (.act 0) ++
    (demoSecond [] [⟨"web", demoDef⟩] ++ [demoOrder]).map (.act 1) ++ demoRollBack.map (.act 0)

def ends (s : Deploys) : List (Option (Except DeployError Bool) × Nat) :=
  s.tasks.map fun tp => (tp.2.outcome, tp.1.committedAt)

theorem rollback_replaces_own_config_inTurn :
    ∃ s, run (deploys demoCtx).step (noDeploys (demoWorld (some ⟨∅, ∅⟩))) demoInTurn = some s ∧
      ends s = [(some (.ok false), 1), (some (.ok true), 3)] ∧ s.world.config = some demoJob := by
  refine exists_end (p := fun s => ends s = [(some (.ok false), 1), (some (.ok true), 3)] ∧
    s.tasks[1]?.map (fun tp => (tp.1.new, tp.1.committedAt)) = some (demoJob, 3))
    (by decide +kernel) fun s hs ⟨hends, htask⟩ => ?_
  obtain ⟨tp, htp, hnew⟩ := Option.map_eq_some_iff.mp htask
  obtain ⟨hjob, hat⟩ := Prod.mk.inj hnew
  have hin {tp' : Deploying × Action Bool} (h : tp' ∈ s.tasks) :
      (tp'.2.outcome, tp'.1.committedAt) = (some (.ok false), 1) ∨
        (tp'.2.outcome, tp'.1.committedAt) = (some (.ok true), 3) :=
    mem_pair.mp (hends ▸ mem_map_of_mem h)
  have hmem := mem_of_getElem? htp
  refine ⟨hends, hjob ▸ (rollback_replaces_own_config demoCtx _ demoInTurn s
    (by decide +kernel) hs).2 tp hmem ?_ fun tp' htp' => ?_⟩
  · simpa [hat] using hin hmem
  · rw [hat]
    rcases hin htp' with h | h <;> simp [(Prod.mk.inj h).2]

/-- Another deploy commits and succeeds while the first is still under way; the rollback of
the first replaces the config of the other. -/
theorem rollback_replaces_later_config :
    ∃ s, run (deploys demoCtx).step (noDeploys (demoWorld (some ⟨∅, ∅⟩))) demoOverlapping = some s ∧
      ends s = [(some (.ok false), 1), (some (.ok true), 2)] ∧ s.world.config = some ⟨∅, ∅⟩ ∧
      s.tasks.map (fun tp => tp.1.new) = [demoConfig, demoJob] := by
  decide +kernel

end Mill
