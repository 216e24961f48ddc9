import Mill.Node.Rollout

/-! The number of allocations of a service when the watchdog runs beside a deploy. -/

namespace Mill

open Mill.Action List Program Transition

section

variable (old : Option ClusterConfig) (new : ClusterConfig)

def Unchanged (name : String) : Prop :=
  serviceDef old name = serviceDef (some new) name

def Effect.InScope : Effect → Prop
  | .read (.serviceAllocs name) => ¬ Unchanged old new name
  | .propose (.deploy config) => config = new ∨ old = some config
  | _ => True

def scopeSpec : Spec Effect Effect.Answer Unit where
  pre _ e := e.InScope old new
  post _ e r _ := match e, r with
    | .read .config, config => config = old
    | .visitServices services, order => services.entries = order
    | _, _ => True

inductive WatchEffect : Effect → Prop
  | tick : WatchEffect .tick
  | config : WatchEffect (.read .config)
  | visitServices (services : Finmap fun _ : String => ServiceDef) :
      WatchEffect (.visitServices services)
  | serviceCounts (name : String) : WatchEffect (.read (.serviceCounts name))
  | spawnRestart (name : String) (d : ServiceDef) (h : ¬ Unchanged old new name) :
      WatchEffect (.spawnRestart name d)

def watchSpec : Spec Effect Effect.Answer Unit where
  pre _ e := WatchEffect old new e
  post _ e r _ := match e, r with
    | .read .config, config =>
      ∀ name, Unchanged old new name → serviceDef config name = serviceDef (some new) name
    | .visitServices services, order => services.entries = order
    | .read (.serviceCounts name), counts => Unchanged old new name →
      ∀ d, serviceDef (some new) name = some d → d.replicas ≤ (counts : Nat × Nat).2
    | _, _ => True

variable {old new} {name : String} {d : ServiceDef} {e : Effect}

lemma ServiceEffect.inScope (h : ¬ Unchanged old new name) (he : ServiceEffect name d e) :
    e.InScope old new := by
  cases he with
  | firstReady => trivial
  | volume vol hvol e he => cases he <;> trivial
  | replica e he =>
    cases he with
    | serviceAllocs => exact h
    | start allocId e he =>
      cases he with
      | running node e he => cases he <;> trivial
      | _ => trivial
    | _ => trivial

lemma wp_runDeploy_scope (ctx : DeployCtx) (old : Option ClusterConfig) (new : ClusterConfig) :
    (runDeploy ctx new).wp (scopeSpec old new) (fun _ _ => True) () := by
  have hkeep (config : Option ClusterConfig) (e : Effect) (_ : Unit) (he : PreDeployEffect e)
      (hconfig : config = old) : (scopeSpec old new).pre () e ∧
        ∀ r φ', (scopeSpec old new).post () e r φ' → config = old := by
    refine ⟨?_, fun _ _ _ => hconfig⟩
    cases he <;> trivial
  refine wp_bind (wp_mono (wp_preDeploy_of (S := scopeSpec old new) new
    (fun config _ => config = old) (fun services order => services.entries = order)
    ⟨trivial, fun _ _ h => h⟩ hkeep fun _ _ _ _ h => h) ?_)
  rintro (x | a) φ ⟨config, hconfig, ho⟩
  · trivial
  subst hconfig
  obtain ⟨newOrder, oldOrder, rfl, hnew, hold⟩ := ho
  refine wp_bind (wp_propose (.inl rfl) (fun response φ₁ _ => ?_) fun _ _ _ => trivial)
  have honly : (applyPlan ctx (diffConfig config new newOrder oldOrder)).Only
      (Effect.InScope config new) fun x => ∃ e, x = .node e := by
    refine only_applyPlan ctx (fun name hname heq => ?_) (fun _ _ => trivial)
      fun s hs e he => he.inScope fun heq => ?_
    · obtain ⟨hsome, hnone⟩ := (mem_removed hold).mp hname
      exact hsome (heq.trans hnone)
    · rcases mem_append.mp hs with hs | hs
      · obtain ⟨hdef, hnone⟩ := (mem_added hnew).mp hs
        cases hnone.symm.trans (heq.trans hdef)
      · obtain ⟨hdef, d', hd', hne⟩ := (mem_changed hnew).mp hs
        exact hne (Option.some.inj (hd'.symm.trans (heq.trans hdef)))
  refine wp_bind (wp_of_only (I := fun _ => True) honly trivial
    (fun e _ he _ => ⟨he, fun _ _ _ => trivial⟩) (fun failed φ₂ _ => ?_) fun _ _ _ _ => trivial)
  cases failed with
  | false => trivial
  | true =>
    cases config with
    | none => trivial
    | some => exact wp_bind (wp_effect (.inr rfl) fun _ _ _ => trivial)

lemma wp_checkServiceRestart (now : Nat) (restartBackoff : RestartBackoff)
    {s : Σ _ : String, ServiceDef}
    (hs : Unchanged old new s.1 → serviceDef (some new) s.1 = some s.2) :
    (checkServiceRestart now restartBackoff s).wp (watchSpec old new)
      (fun o _ => ∃ backoff, o = .ok backoff) () := by
  refine wp_bind (wp_effect (.serviceCounts s.1) ?_)
  rintro ⟨active, nonTerminal⟩ φ hcounts
  dsimp only
  split_ifs with hactive hpending
  · exact ⟨_, rfl⟩
  · exact ⟨_, rfl⟩
  -- Here too few allocations run, so the deploy changes the service.
  have hchanged : ¬ Unchanged old new s.1 := fun h => hpending (hcounts h s.2 (hs h))
  cases restartBackoff.lookup s.1 with
  | none => exact ⟨_, rfl⟩
  | some =>
    dsimp only
    split_ifs
    · exact ⟨_, rfl⟩
    · refine wp_bind (wp_foldEach (fun _ _ _ => True) (fun _ _ _ _ _ => ?_)
        (fun _ _ _ => ⟨_, rfl⟩) trivial)
      exact wp_effect (.spawnRestart s.1 s.2 hchanged) fun _ _ _ => trivial

lemma wp_checkServiceRestarts (now : Nat) (restartBackoff : RestartBackoff) :
    (checkServiceRestarts now restartBackoff).wp (watchSpec old new)
      (fun o _ => ∃ backoff, o = .ok backoff) () := by
  refine wp_bind (wp_effect .config fun config φ hconfig => ?_)
  refine wp_bind (wp_effect (.visitServices _) fun order φ' horder => ?_)
  refine wp_foldEach (fun left _ _ => left ⊆ order) ?_ (fun backoff _ _ => ⟨backoff, rfl⟩)
    (List.Subset.refl order)
  intro s left backoff _ hleft
  obtain ⟨hs, hleft⟩ := cons_subset.mp hleft
  refine wp_mono (wp_checkServiceRestart now backoff fun hunchanged => ?_) ?_
  · have hdef : serviceDef config s.1 = some s.2 := by
      have hmem : s ∈ ((config.map ClusterConfig.services).getD ∅).entries := horder ▸ hs
      cases config with
      | none => cases hmem
      | some => exact Finmap.mem_lookup_iff.mpr hmem
    exact (hconfig s.1 hunchanged).symm.trans hdef
  · rintro o _ ⟨backoff', rfl⟩
    exact hleft

def watchdogTask (ticks : Nat) (restartBackoff : RestartBackoff) : Action Bool := do
  watchdog ticks restartBackoff
  pure true

lemma wp_watchdogTask (ticks : Nat) (restartBackoff : RestartBackoff) :
    (watchdogTask ticks restartBackoff).wp (watchSpec old new) (fun _ _ => True) () := by
  refine wp_bind ?_
  induction ticks generalizing restartBackoff with
  | zero => trivial
  | succ ticks ih =>
    refine wp_bind (wp_effect .tick fun now _ _ => ?_)
    refine wp_bind (wp_mono (wp_checkServiceRestarts now restartBackoff) ?_)
    rintro o _ ⟨backoff, rfl⟩
    exact ih backoff

lemma wp_restartTask_trace (ctx : DeployCtx) (name : String) (d : ServiceDef) :
    (restartTask ctx name d).wp traceSpec
      (fun _ u => u.starting = none ∧ ∀ e ∈ u.up, e.2.1 = name) (.begin (.restart name)) := by
  refine wp_bind (wp_bind (wp_bind (wp_act_unseen rfl fun suffix => ?_)))
  refine wp_mono (p := startAlloc ctx name d _ 0) (wp_startAlloc_trace ctx 0 rfl) ?_
  rintro (x | u) t ht
  · exact ⟨ht.idle, by simp [ht.up, DeployTrace.begin]⟩
  · exact ⟨ht.idle, by simp [ht.up, DeployTrace.begin]⟩

end

section

variable {s : FsmState} {id : AllocId} {name : String}

def FsmState.runningFor (s : FsmState) (name : String) : Finset AllocId :=
  s.allocs.keys.filter fun id => s.runsFor id = some name

lemma FsmState.mem_runningFor : id ∈ s.runningFor name ↔ s.runsFor id = some name := by
  rw [runningFor, Finset.mem_filter, and_iff_right_iff_imp]
  intro h
  by_contra hid
  rw [runsFor_of_not_mem fun hmem => hid (Finmap.mem_keys.mpr hmem)] at h
  cases h

lemma card_runningFor_le (hs : KeyedById s) (v : View s) (name : String) :
    (s.runningFor name).card ≤ (Query.eval s v (.serviceCounts name)).2 := by
  let allocs := (v.allocs.filter fun a => a.name == name).filter fun a => !a.status.isTerminal
  have hsub : s.runningFor name ⊆ (allocs.map Alloc.id).toFinset := by
    intro id hid
    obtain ⟨a, ha, hlive, hservice⟩ :=
      FsmState.runsFor_eq_some.mp (FsmState.mem_runningFor.mp hid)
    have hvalue : a ∈ v.allocs := by
      have hmem := Finmap.mem_values.mpr ⟨id, ha⟩
      rwa [v.allocs_eq] at hmem
    have hname := Alloc.name_of_service hservice
    refine mem_toFinset.mpr (mem_map.mpr ⟨a, ?_, hs id a ha⟩)
    simp [allocs, hvalue, hname, hlive]
  calc (s.runningFor name).card ≤ (allocs.map Alloc.id).toFinset.card := Finset.card_le_card hsub
    _ ≤ (allocs.map Alloc.id).length := toFinset_card_le _
    _ = allocs.length := length_map _

end

section

variable (old : Option ClusterConfig) (new : ClusterConfig)

def Rolls (name : String) : Prop :=
  serviceDef (some new) name ≠ none ∧ ¬ Unchanged old new name

def Choice.refuses : Choice → Bool
  | .raftError _ => true
  | _ => false

/-- No proposal fails, new allocations get new ids, whatever is started becomes healthy, and
the nodes report the end of an allocation only if it was told to stop. -/
def AllHealthy (s : Cluster) : ClusterEvent → Prop
  | .act i c => c.refuses = false ∧
      ∀ n ∈ s.next i, n.2.Fresh s.world.fsm s.traces ∧ n.2.startFails = false
  | .outside c => ∀ id ∈ s.world.fsm.allocs.keys,
      (applyCommand s.world.fsm c).1.runsFor id = s.world.fsm.runsFor id ∨
        (applyCommand s.world.fsm c).1.runsFor id = none ∧
          ∃ t ∈ s.traces, t.task = .deploy ∧ id ∈ t.halted

/-- A service that the deploy starts replicas of is restarted only if it ran before and has not
been listed yet, and is listed only when its restarts have ended. -/
def RestartsApart (s : Cluster) : ClusterEvent → Prop
  | .act i _ => ∀ n ∈ s.next i, match n.2 with
    | .spawnRestart name _ => Rolls old new name →
        serviceDef old name ≠ none ∧ ∀ t ∈ s.traces, ∀ l ∈ t.listings, l.1 ≠ name
    | .read (.serviceAllocs name) => Rolls old new name →
        ∀ tp ∈ s.tasks, tp.1.task = .restart name → tp.2.outcome.isSome
    | _ => True
  | .outside _ => True

instance : DecidablePred (Rolls old new) :=
  fun name => inferInstanceAs (Decidable
    (serviceDef (some new) name ≠ none ∧ ¬ serviceDef old name = serviceDef (some new) name))

instance decidableAllHealthy (s : Cluster) : DecidablePred (AllHealthy s)
  | .act _ _ => inferInstanceAs (Decidable (_ = false ∧ ∀ n ∈ _, _ ∧ _))
  | .outside _ => inferInstanceAs (Decidable (∀ id ∈ _, _ ∨ _ ∧ ∃ t ∈ _, _ ∧ _))

instance decidableRestartsApart (s : Cluster) : DecidablePred (RestartsApart old new s)
  | .act i _ => by
    have hone (n : DeployTrace × Effect) : Decidable (match n.2 with
        | .spawnRestart name _ => Rolls old new name →
            serviceDef old name ≠ none ∧ ∀ t ∈ s.traces, ∀ l ∈ t.listings, l.1 ≠ name
        | .read (.serviceAllocs name) => Rolls old new name →
            ∀ tp ∈ s.tasks, tp.1.task = .restart name → tp.2.outcome.isSome
        | _ => True) := by
      split <;> infer_instance
    exact inferInstanceAs (Decidable (∀ n ∈ s.next i, _))
  | .outside _ => .isTrue trivial

def Steady (before : FsmState) (new : ClusterConfig) : Prop :=
  ∀ name d, serviceDef (some new) name = some d →
    (Unchanged before.config new name → (before.runningFor name).card = d.replicas) ∧
      (serviceDef before.config name = none → before.runningFor name = ∅)

/-- A restart beside the deploy `t`: what it has started of a service that is rolled out was
listed with it. -/
structure Restarting (t : DeployTrace) (name : String) (up : ClusterTask) : Prop where
  task : up.1.task = .restart name
  changed : ¬ Unchanged old new name
  ran : serviceDef (some new) name ≠ none → serviceDef old name ≠ none
  program : up.2.wp traceSpec (fun _ u => u.starting = none ∧ ∀ e ∈ u.up, e.2.1 = name) up.1
  listed : serviceDef (some new) name ≠ none → ∀ l ∈ t.listings, l.1 = name →
    up.2.outcome.isSome ∧ ∀ e ∈ up.1.entries, e.1 ∈ l.2 ∨ e.1 ∈ t.halted

end

structure Replicating (before : FsmState) (new : ClusterConfig) (s : Cluster) (t : DeployTrace)
    (p : Action Bool) (v : DeployTrace) (q : Action Bool) (restarts : List ClusterTask) :
    Prop where
  tasks : s.tasks = (t, p) :: (v, q) :: restarts
  accounts : Accounts before s.world.fsm t (v :: restarts.map Prod.fst)
  deploys : t.task = .deploy
  program : p.wp traceSpec (DeployOutcome new) t
  scope : p.wp (scopeSpec before.config new) (fun _ _ => True) ()
  listings : ∀ l ∈ t.listings, ¬ Unchanged before.config new l.1
  commits : ∀ c ∈ t.commits, c = new ∨ before.config = some c
  watches : v.task = .watchdog
  idle : v.commits = [] ∧ v.entries = []
  watchdog : q.wp (watchSpec before.config new) (fun _ _ => True) ()
  restarts : ∀ up ∈ restarts, ∃ name, Restarting before.config new t name up

variable {ctx : DeployCtx} {before : FsmState} {new : ClusterConfig} {s s' : Cluster}
  {t v u : DeployTrace} {p q : Action Bool} {restarts : List ClusterTask} {e : Effect}
  {name : String} {c : Choice} {r : e.Answer} {w : World}

lemma AllHealthy.act {i : Nat} {next : e.Answer → Action Bool} (hguard : AllHealthy s (.act i c))
    (htask : s.tasks[i]? = some (u, .perform e next))
    (ha : World.answer s.world e c = some (r, w)) :
    e.refused r = false ∧ e.Fresh s.world.fsm s.traces ∧ e.startFails = false := by
  have haccepted : ∀ message, c ≠ .raftError message := by
    rintro message rfl
    cases hguard.1
  exact ⟨World.not_refused_of_answer ha haccepted,
    hguard.2 _ (Machine.next_eq_some.mpr ⟨next, htask⟩)⟩

lemma starts_of_not_watchdog (horderly : e.Orderly u) (htask : u.task ≠ .watchdog) :
    (cluster ctx).starts e = [] := by
  cases e with
  | spawnRestart => exact absurd horderly htask
  | _ => rfl

lemma Effect.eq_of_commits {c : ClusterConfig} (h : e.commits r = some c) :
    e = .propose (.deploy c) := by
  cases e with
  | propose command =>
    cases command with
    | deploy =>
      cases r with
      | ok => cases h; rfl
      | error => cases h
    | _ => cases r <;> cases h
  | send => cases r <;> cases h
  | _ => cases h

lemma DeployTrace.listings_track (he : ∀ name, e ≠ .read (.serviceAllocs name))
    (t : DeployTrace) (r : e.Answer) : (t.track e r).listings = t.listings := by
  unfold track
  split <;> first | rfl | exact absurd rfl (he _)

lemma Accounts.scopePost {rest : List DeployTrace} {w' : World}
    (h : Accounts before w.fsm t rest) (horderly : e.Orderly t) (ha : w.Answered e r w') :
    (scopeSpec before.config new).post () e r () := by
  cases ha with
  | read q =>
    cases q with
    | config =>
      have hcommits : t.commits = [] := horderly
      have hconfig := h.config
      rw [hcommits] at hconfig
      exact hconfig
    | _ => trivial
  | visitServices services order horder => exact horder
  | _ => trivial

lemma WatchEffect.orderly {old : Option ClusterConfig} (he : WatchEffect old new e)
    (htask : v.task = .watchdog) (hcommits : v.commits = []) : e.Orderly v := by
  cases he with
  | config => exact hcommits
  | spawnRestart => exact htask
  | _ => trivial

lemma WatchEffect.track {old : Option ClusterConfig} (he : WatchEffect old new e)
    (r : e.Answer) : (v.track e r).commits = v.commits ∧ (v.track e r).entries = v.entries := by
  cases he <;> exact ⟨rfl, rfl⟩

section

variable (hs : Replicating before new s t p v q restarts)

include hs

lemma Replicating.traces : s.traces = t :: v :: restarts.map Prod.fst := by
  rw [Cluster.traces, hs.tasks]
  rfl

lemma Replicating.runningFor_subset (h : Unchanged before.config new name) :
    before.runningFor name ⊆ s.world.fsm.runningFor name := by
  intro id hid
  have hbefore := FsmState.mem_runningFor.mp hid
  refine FsmState.mem_runningFor.mpr (hs.accounts.ledger.kept id name hbefore fun hhalted => ?_)
  obtain ⟨l, hl, rfl⟩ := hs.accounts.stops.halted id hhalted name hbefore
  exact hs.listings l hl h

lemma Replicating.serviceDef_config (h : Unchanged before.config new name) :
    serviceDef s.world.fsm.config name = serviceDef (some new) name := by
  rw [hs.accounts.config]
  cases hcommits : t.commits with
  | nil => exact h
  | cons c =>
    rcases hs.commits c (by simp [hcommits]) with rfl | hc
    · rfl
    · rw [List.head?_cons, Option.some_or, ← hc]
      exact h

lemma Replicating.mem_listing {up : ClusterTask} (hup : up ∈ restarts)
    (hr : Restarting before.config new t name up) (hended : up.2.outcome.isSome)
    (view : View s.world.fsm) : ∀ e ∈ up.1.entries,
      e.1 ∈ (Query.eval s.world.fsm view (.serviceAllocs name)).map Prod.fst ∨ e.1 ∈ t.halted := by
  obtain ⟨o, ho⟩ := Option.isSome_iff_exists.mp hended
  obtain ⟨hidle, hown⟩ := of_wp_outcome hr.program ho
  intro e he
  rw [DeployTrace.entries, hidle] at he
  by_cases hhalted : e.1 ∈ t.halted
  · exact .inr hhalted
  · have hmem : up.1 ∈ t :: v :: restarts.map Prod.fst :=
      mem_cons_of_mem _ (mem_cons_of_mem _ (mem_map_of_mem hup))
    have hruns := (hs.accounts.ledger.backed up.1 hmem).up e he hhalted
    obtain ⟨a, ha, -, hservice⟩ := FsmState.runsFor_eq_some.mp hruns
    refine .inl ((mem_serviceAllocs hs.accounts.ledger.keyed view).mpr ⟨a, ha, ?_⟩)
    rw [Alloc.name_of_service hservice, hown e he]

lemma replicating_deploy (hhealthy : AllHealthy s (.act 0 c))
    (hapart : RestartsApart before.config new s (.act 0 c))
    (h : (cluster ctx).step s (.act 0 c) = some s') :
    ∃ t' p', Replicating before new s' t' p' v q restarts := by
  obtain ⟨t₀, e, next, r, w, htask, ha, rfl⟩ := Machine.step_act_eq_some.mp h
  obtain ⟨hrefused, hfresh, hfails⟩ := hhealthy.act htask ha
  have hnext := hapart _ (Machine.next_eq_some.mpr ⟨next, htask⟩)
  rw [hs.tasks] at htask
  obtain ⟨rfl, rfl⟩ := Prod.mk.inj (Option.some.inj htask)
  have hanswered := World.answered_of_answer ha
  obtain ⟨horderly, hpost⟩ := hs.program
  obtain ⟨hscope, hscoped⟩ := hs.scope
  rw [hs.traces] at hfresh
  have htold := hs.accounts.ledger.told (i := 0) rfl horderly hanswered hfresh fun _ f hf =>
    hs.accounts.tidy.apart f (mem_append_right _ hf)
  have hhalted (id : AllocId) (hid : id ∈ t.halted) : id ∈ (t.track e r).halted := by
    rw [DeployTrace.halted_track horderly]
    exact mem_append_right _ hid
  refine ⟨t.track e r, next r, ?_, hs.accounts.deploy horderly hanswered hrefused hfresh hfails,
    (t.task_track r).trans hs.deploys, hpost r _ ⟨rfl, hrefused, htold⟩,
    hscoped r () (hs.accounts.scopePost horderly hanswered), ?_, ?_, hs.watches, hs.idle,
    hs.watchdog, ?_⟩
  · rw [hs.tasks, starts_of_deploy horderly hs.deploys, append_nil]
    rfl
  · intro l hl
    by_cases hlist : ∃ n, e = .read (.serviceAllocs n)
    · obtain ⟨n, rfl⟩ := hlist
      rcases mem_cons.mp hl with rfl | hl
      · exact hscope
      · exact hs.listings l hl
    · rw [DeployTrace.listings_track fun n hn => hlist ⟨n, hn⟩] at hl
      exact hs.listings l hl
  · intro config hconfig
    rw [DeployTrace.commits_track] at hconfig
    rcases mem_append.mp hconfig with hconfig | hconfig
    · obtain rfl := Effect.eq_of_commits (Option.mem_toList.mp hconfig)
      exact hscope
    · exact hs.commits config hconfig
  · intro up hup
    obtain ⟨name, hr⟩ := hs.restarts up hup
    refine ⟨name, hr.task, hr.changed, hr.ran, hr.program, fun hnew l hl hname => ?_⟩
    have hbefore (hl : l ∈ t.listings) : up.2.outcome.isSome ∧
        ∀ f ∈ up.1.entries, f.1 ∈ l.2 ∨ f.1 ∈ (t.track e r).halted := by
      obtain ⟨hended, hin⟩ := hr.listed hnew l hl hname
      exact ⟨hended, fun f hf => (hin f hf).imp_right (hhalted f.1)⟩
    by_cases hlist : ∃ n, e = .read (.serviceAllocs n)
    · obtain ⟨n, rfl⟩ := hlist
      rcases mem_cons.mp hl with rfl | hl
      · obtain rfl : n = name := hname
        have hmem : up ∈ s.tasks := by
          rw [hs.tasks]
          exact mem_cons_of_mem _ (mem_cons_of_mem _ hup)
        have hended := hnext ⟨hnew, hr.changed⟩ up hmem hr.task
        cases hanswered with
        | read q view => exact ⟨hended, hs.mem_listing hup hr hended view⟩
      · exact hbefore hl
    · rw [DeployTrace.listings_track fun n hn => hlist ⟨n, hn⟩] at hl
      exact hbefore hl

lemma Replicating.watchPost (hsteady : Steady before new) (ha : s.world.Answered e r w) :
    (watchSpec before.config new).post () e r () := by
  cases ha with
  | read query view =>
    cases query with
    | config => exact fun name h => hs.serviceDef_config h
    | serviceCounts name =>
      intro h d hd
      calc d.replicas = (before.runningFor name).card := ((hsteady name d hd).1 h).symm
        _ ≤ (s.world.fsm.runningFor name).card := Finset.card_le_card (hs.runningFor_subset h)
        _ ≤ _ := card_runningFor_le hs.accounts.ledger.keyed view name
    | _ => trivial
  | visitServices services order horder => exact horder
  | _ => trivial

lemma replicating_watchdog (hsteady : Steady before new) (hhealthy : AllHealthy s (.act 1 c))
    (hapart : RestartsApart before.config new s (.act 1 c))
    (h : (cluster ctx).step s (.act 1 c) = some s') :
    ∃ v' q' more, Replicating before new s' t p v' q' (restarts ++ more) := by
  obtain ⟨v₀, e, next, r, w, htask, ha, rfl⟩ := Machine.step_act_eq_some.mp h
  obtain ⟨hrefused, hfresh, hfails⟩ := hhealthy.act htask ha
  have hnext := hapart _ (Machine.next_eq_some.mpr ⟨next, htask⟩)
  rw [hs.tasks] at htask
  obtain ⟨rfl, rfl⟩ := Prod.mk.inj (Option.some.inj htask)
  have hanswered := World.answered_of_answer ha
  obtain ⟨hwatch, hpost⟩ := hs.watchdog
  have horderly := hwatch.orderly hs.watches hs.idle.1
  obtain ⟨hcommits, hentries⟩ := hwatch.track (v := v) r
  rw [hs.traces] at hfresh
  have haccounts := hs.accounts.other (i := 0) rfl (by rw [hs.watches]; decide) horderly hanswered
    hrefused hfresh hfails
  have hidle : (v.track e r).commits = [] ∧ (v.track e r).entries = [] :=
    ⟨hcommits.trans hs.idle.1, hentries.trans hs.idle.2⟩
  have hwatchdog := hpost r () (hs.watchPost hsteady hanswered)
  have hwatches := (v.task_track r).trans hs.watches
  by_cases hspawn : ∃ name d, e = .spawnRestart name d
  · obtain ⟨name, d, rfl⟩ := hspawn
    have hchanged : ¬ Unchanged before.config new name := by
      cases hwatch with
      | spawnRestart _ _ hchanged => exact hchanged
    have hrestart : Restarting before.config new t name
        (.begin (.restart name), restartTask ctx name d) := by
      refine ⟨rfl, hchanged, fun hnew => (hnext ⟨hnew, hchanged⟩).1,
        wp_restartTask_trace ctx name d, fun hnew l hl hname => ?_⟩
      have ht : t ∈ s.traces := by
        rw [hs.traces]
        exact mem_cons_self
      exact absurd hname ((hnext ⟨hnew, hchanged⟩).2 t ht l hl)
    refine ⟨v.track _ r, next r, [(.begin (.restart name), restartTask ctx name d)], ?_, ?_,
      hs.deploys, hs.program, hs.scope, hs.listings, hs.commits, hwatches, hidle, hwatchdog,
      fun up hup => ?_⟩
    · rw [hs.tasks]
      rfl
    · rw [map_append]
      exact haccounts.spawned (.restart name)
    · rcases mem_append.mp hup with hup | hup
      · exact hs.restarts up hup
      · rw [mem_singleton.mp hup]
        exact ⟨name, hrestart⟩
  · have hstarts : (cluster ctx).starts e = [] := by
      cases e with
      | spawnRestart name d => exact absurd ⟨name, d, rfl⟩ hspawn
      | _ => rfl
    refine ⟨v.track e r, next r, [], ?_, ?_, hs.deploys, hs.program, hs.scope, hs.listings,
      hs.commits, hwatches, hidle, hwatchdog, ?_⟩
    · rw [hs.tasks, hstarts, append_nil, append_nil]
      rfl
    · rw [append_nil]
      exact haccounts
    · rw [append_nil]
      exact hs.restarts

lemma replicating_restart {i : Nat} (hhealthy : AllHealthy s (.act (i + 2) c))
    (h : (cluster ctx).step s (.act (i + 2) c) = some s') :
    ∃ up, Replicating before new s' t p v q (restarts.set i up) := by
  obtain ⟨u, e, next, r, w, htask, ha, rfl⟩ := Machine.step_act_eq_some.mp h
  obtain ⟨hrefused, hfresh, hfails⟩ := hhealthy.act htask ha
  rw [hs.tasks] at htask
  have hi : restarts[i]? = some (u, .perform e next) := htask
  obtain ⟨name, hr⟩ := hs.restarts _ (mem_of_getElem? hi)
  have hanswered := World.answered_of_answer ha
  obtain ⟨horderly, hpost⟩ := hr.program
  have hrestart : u.task = .restart name := hr.task
  have hdeploy : u.task ≠ .deploy := by simp [hrestart]
  have hwatchdog : u.task ≠ .watchdog := by simp [hrestart]
  have hu : (v :: restarts.map Prod.fst)[i + 1]? = some u := by
    rw [List.getElem?_cons_succ, List.getElem?_map, hi]
    rfl
  rw [hs.traces] at hfresh
  have htold := hs.accounts.ledger.told (i := i + 2) hu horderly hanswered hfresh
    fun htask => absurd htask hdeploy
  have haccounts := hs.accounts.other hu hdeploy horderly hanswered hrefused hfresh hfails
  refine ⟨(u.track e r, next r), ?_, ?_, hs.deploys, hs.program, hs.scope, hs.listings, hs.commits,
    hs.watches, hs.idle, hs.watchdog, fun up hup => ?_⟩
  · rw [hs.tasks, starts_of_not_watchdog horderly hwatchdog, append_nil]
    rfl
  · rw [map_set]
    exact haccounts
  · rcases mem_or_eq_of_mem_set hup with hup | rfl
    · exact hs.restarts up hup
    · refine ⟨name, (u.task_track r).trans hr.task, hr.changed, hr.ran,
        hpost r _ ⟨rfl, hrefused, htold⟩, fun hnew l hl hname => ?_⟩
      -- The restart was under way, so the service had not been listed.
      cases (hr.listed hnew l hl hname).1

lemma replicating_report {c : Command} (hhealthy : AllHealthy s (.outside c))
    (h : (cluster ctx).step s (.outside c) = some s') :
    Replicating before new s' t p v q restarts := by
  obtain ⟨hc, rfl⟩ := cluster_outside h
  refine ⟨hs.tasks, hs.accounts.report hc fun j => ?_, hs.deploys, hs.program, hs.scope,
    hs.listings, hs.commits, hs.watches, hs.idle, hs.watchdog, hs.restarts⟩
  by_cases hj : j ∈ s.world.fsm.allocs
  · refine (hhealthy j (Finmap.mem_keys.mpr hj)).imp_right ?_
    rintro ⟨hnone, u, hu, htask, hhalted⟩
    refine ⟨hnone, ?_⟩
    rw [hs.traces] at hu
    rcases mem_cons.mp hu with rfl | hu
    · exact hhalted
    · rcases mem_cons.mp hu with rfl | hu
      · cases hs.watches.symm.trans htask
      · obtain ⟨up, hup, rfl⟩ := mem_map.mp hu
        obtain ⟨name, hr⟩ := hs.restarts up hup
        cases hr.task.symm.trans htask
  · exact .inl ((runsFor_report hc hj).trans (FsmState.runsFor_of_not_mem hj).symm)

end

lemma replicating_step (hsteady : Steady before new) {event : ClusterEvent}
    (hs : ∃ t p v q restarts, Replicating before new s t p v q restarts)
    (hguard : AllHealthy s event ∧ RestartsApart before.config new s event)
    (h : (cluster ctx).step s event = some s') :
    ∃ t p v q restarts, Replicating before new s' t p v q restarts := by
  obtain ⟨t, p, v, q, restarts, hs⟩ := hs
  obtain ⟨hhealthy, hapart⟩ := hguard
  cases event with
  | outside => exact ⟨t, p, v, q, restarts, replicating_report hs hhealthy h⟩
  | act i =>
    match i, hhealthy, hapart, h with
    | 0, hhealthy, hapart, h =>
      obtain ⟨t', p', hs'⟩ := replicating_deploy hs hhealthy hapart h
      exact ⟨t', p', v, q, restarts, hs'⟩
    | 1, hhealthy, hapart, h =>
      obtain ⟨v', q', more, hs'⟩ := replicating_watchdog hs hsteady hhealthy hapart h
      exact ⟨t, p, v', q', restarts ++ more, hs'⟩
    | i + 2, hhealthy, hapart, h =>
      obtain ⟨up, hs'⟩ := replicating_restart hs hhealthy h
      exact ⟨t, p, v, q, restarts.set i up, hs'⟩

/-- One deploy of `new` and a watchdog for so many ticks, both about to start. -/
def watchedRollout (ctx : DeployCtx) (w : World) (new : ClusterConfig) (ticks : Nat)
    (restartBackoff : RestartBackoff) : Cluster :=
  ⟨w, [(.begin .deploy, runDeploy ctx new), (.begin .watchdog, watchdogTask ticks restartBackoff)]⟩

lemma replicating_start (hkeyed : KeyedById w.fsm) (hnodes : w.fsm.NodesKeyed)
    (ticks : Nat) (restartBackoff : RestartBackoff) :
    Replicating w.fsm new (watchedRollout ctx w new ticks restartBackoff) (.begin .deploy)
      (runDeploy ctx new) (.begin .watchdog) (watchdogTask ticks restartBackoff) [] := by
  refine ⟨rfl, accounts_begin hkeyed hnodes fun u hu => ⟨.watchdog, mem_singleton.mp hu⟩, rfl,
    wp_runDeploy_trace ctx new, wp_runDeploy_scope ctx w.fsm.config new, ?_, ?_, rfl, ⟨rfl, rfl⟩,
    wp_watchdogTask ticks restartBackoff, ?_⟩
  all_goals exact fun _ h => (nomatch h)

section

variable (hs : Replicating before new s t p v q restarts)
  (hended : ∀ tp ∈ s.tasks, tp.1.task ≠ .watchdog → tp.2.outcome.isSome)
  (hsettled : ∀ id ∈ t.halted, s.world.fsm.runsFor id = none)

include hs hended hsettled

lemma Replicating.of_runsFor (hdeployed : Deployed before.config new t) {id : AllocId}
    (hid : s.world.fsm.runsFor id = some name) (hnew : serviceDef (some new) name ≠ none) :
    before.runsFor id = some name ∧ id ∉ t.halted ∨ ∃ d, (id, name, d) ∈ t.up := by
  have hhalted : id ∉ t.halted := fun hmem => by
    rw [hsettled id hmem] at hid
    cases hid
  rcases hs.accounts.ledger.sound id name hid with hmem | hbefore | ⟨u, hu, f, hf, rfl, rfl⟩
  · exact absurd hmem hhalted
  · exact .inl ⟨hbefore, hhalted⟩
  rcases mem_cons.mp hu with rfl | hu
  · rw [DeployTrace.entries, hdeployed.idle] at hf
    exact .inr ⟨f.2.2, hf⟩
  rcases mem_cons.mp hu with rfl | hu
  · rw [hs.idle.2] at hf
    cases hf
  -- A restart: the service has been listed, so what was started of it has been stopped.
  obtain ⟨up, hup, rfl⟩ := mem_map.mp hu
  obtain ⟨n, hr⟩ := hs.restarts up hup
  have hmem : up ∈ s.tasks := by
    rw [hs.tasks]
    exact mem_cons_of_mem _ (mem_cons_of_mem _ hup)
  obtain ⟨o, ho⟩ := Option.isSome_iff_exists.mp (hended up hmem (by simp [hr.task]))
  obtain ⟨hidle, hown⟩ := of_wp_outcome hr.program ho
  obtain rfl : f.2.1 = n := by
    rw [DeployTrace.entries, hidle] at hf
    exact hown f hf
  obtain ⟨d, hd⟩ := Option.ne_none_iff_exists'.mp hnew
  obtain ⟨listing, hlisting, hcleared⟩ := hdeployed.changed f.2.1 d hd (hr.ran hnew)
    fun hold => hr.changed (hold.trans hd.symm)
  rcases (hr.listed hnew _ hlisting rfl).2 f hf with hin | hin
  · exact absurd (hcleared f.1 hin) hhalted
  · exact absurd hin hhalted

lemma Replicating.card_of_unchanged (hsteady : Steady before new)
    (hdeployed : Deployed before.config new t) {d : ServiceDef}
    (hd : serviceDef (some new) name = some d) (h : Unchanged before.config new name) :
    (s.world.fsm.runningFor name).card = d.replicas := by
  have hnew : serviceDef (some new) name ≠ none := by simp [hd]
  have hsame : s.world.fsm.runningFor name = before.runningFor name := by
    refine Finset.Subset.antisymm (fun id hid => ?_) (hs.runningFor_subset h)
    rcases hs.of_runsFor hended hsettled hdeployed (FsmState.mem_runningFor.mp hid) hnew with
      ⟨hbefore, -⟩ | ⟨d', hd'⟩
    · exact FsmState.mem_runningFor.mpr hbefore
    · obtain ⟨hdef, hother⟩ := hdeployed.up _ hd'
      exact absurd (Eq.trans h hdef) hother
  rw [hsame]
  exact (hsteady name d hd).1 h

lemma Replicating.card_of_rolled (hsteady : Steady before new)
    (hdeployed : Deployed before.config new t) {d : ServiceDef}
    (hd : serviceDef (some new) name = some d) (h : ¬ Unchanged before.config new name) :
    (s.world.fsm.runningFor name).card = d.replicas := by
  have hnew : serviceDef (some new) name ≠ none := by simp [hd]
  have hold : serviceDef before.config name ≠ some d := fun hold => h (hold.trans hd.symm)
  let own := t.up.filter fun f => f.2.1 == name
  have hentries : t.entries = t.up := by rw [DeployTrace.entries, hdeployed.idle]; rfl
  -- Nothing that ran before is left: a new service had nothing, a changed one is cleared.
  have hgone (id : AllocId) (hid : before.runsFor id = some name) : id ∈ t.halted := by
    by_cases hran : serviceDef before.config name = none
    · have hempty := (hsteady name d hd).2 hran
      have hmem := FsmState.mem_runningFor.mpr hid
      rw [hempty] at hmem
      cases hmem
    · obtain ⟨listing, hlisting, hcleared⟩ := hdeployed.changed name d hd hran hold
      exact (hs.accounts.stops.listed _ hlisting id hid).elim (hcleared id) fun h => h
  have hsame : s.world.fsm.runningFor name = (own.map Prod.fst).toFinset := by
    ext id
    rw [FsmState.mem_runningFor, mem_toFinset, mem_map]
    constructor
    · intro hid
      rcases hs.of_runsFor hended hsettled hdeployed hid hnew with ⟨hbefore, hhalted⟩ | ⟨d', hd'⟩
      · exact absurd (hgone id hbefore) hhalted
      · exact ⟨(id, name, d'), mem_filter.mpr ⟨hd', beq_self_eq_true name⟩, rfl⟩
    · rintro ⟨f, hf, rfl⟩
      obtain ⟨hf, hname⟩ := mem_filter.mp hf
      have hruns := (hs.accounts.ledger.backed t mem_cons_self).up f hf
        (hs.accounts.tidy.apart f (hentries ▸ hf))
      rw [hruns, beq_iff_eq.mp hname]
  have hdistinct : (own.map Prod.fst).Nodup := by
    have hup := hs.accounts.tidy.distinct
    rw [hentries] at hup
    exact (filter_sublist.map Prod.fst).nodup hup
  rw [hsame, toFinset_card_of_nodup hdistinct, length_map, ← countP_eq_length_filter]
  exact hdeployed.replicas name d hd hold

end

/-- In every run in which whatever is started becomes healthy, and in which the restarts of a
service keep apart from its rollout, a deploy that has succeeded leaves each service of its
config with just its replicas. -/
theorem deploy_replicates (ctx : DeployCtx) (w : World) (new : ClusterConfig) (ticks : Nat)
    (restartBackoff : RestartBackoff) (events : List ClusterEvent) (s : Cluster)
    (hkeyed : KeyedById w.fsm) (hnodes : w.fsm.NodesKeyed) (hsteady : Steady w.fsm new)
    (hhealthy : Guarded (cluster ctx).step AllHealthy
      (watchedRollout ctx w new ticks restartBackoff) events)
    (hapart : Guarded (cluster ctx).step (RestartsApart w.fsm.config new)
      (watchedRollout ctx w new ticks restartBackoff) events)
    (hrun : run (cluster ctx).step (watchedRollout ctx w new ticks restartBackoff) events = some s)
    (hend : s.tasks[0]?.bind (fun tp => tp.2.outcome) = some (.ok true))
    (hended : ∀ tp ∈ s.tasks, tp.1.task ≠ .watchdog → tp.2.outcome.isSome)
    (hsettled : ∀ tp ∈ s.tasks, ∀ id ∈ tp.1.halted, s.world.fsm.runsFor id = none) :
    ∀ name d, new.services.lookup name = some d →
      (s.world.fsm.runningFor name).card = d.replicas := by
  intro name d hd
  obtain ⟨t, p, v, q, restarts, hs⟩ := run_invariant (I := fun s =>
      ∃ t p v q restarts, Replicating w.fsm new s t p v q restarts)
    (fun _ _ _ hs hguard h => replicating_step hsteady hs hguard h)
    ⟨_, _, _, _, _, replicating_start hkeyed hnodes ticks restartBackoff⟩
    (hhealthy.and hapart) hrun
  have hmem : (t, p) ∈ s.tasks := by
    rw [hs.tasks]
    exact mem_cons_self
  have hresult : p.outcome = some (.ok true) := by
    rw [hs.tasks] at hend
    exact hend
  obtain ⟨old, hold, hdeployed⟩ := of_wp_outcome hs.program hresult rfl
  obtain rfl := hs.accounts.old old hold
  by_cases hunchanged : Unchanged w.fsm.config new name
  · exact hs.card_of_unchanged hended (hsettled _ hmem) hsteady hdeployed hd hunchanged
  · exact hs.card_of_rolled hended (hsettled _ hmem) hsteady hdeployed hd hunchanged

def demoReplica (id : String) : Alloc :=
  ⟨⟨id⟩, ⟨"n"⟩, "web", .service, .healthy, some ⟨.v4 0, 80⟩, ⟨1, 1024⟩, none⟩

def demoRead (allocs : List Alloc) : Choice := .order [PlacementSystem.demoNode] allocs []

lemma demoWorld_nodesKeyed (config : Option ClusterConfig) : (demoWorld config).fsm.NodesKeyed := by
  intro id n hn
  obtain ⟨rfl, rfl⟩ := Finmap.of_lookup_singleton hn
  rfl

def demoStart (i : Nat) (id : String) (allocs : List Alloc) : List ClusterEvent :=
  [.act i (demoRead allocs), .act i (demoRead allocs), .act i .proceed, .act i (.env []),
    .act i .proceed, .outside (.allocRunning ⟨id⟩ (some ⟨.v4 0, 80⟩) none), .act i .proceed,
    .act i .proceed, .act i .proceed, .act i .proceed]

def demoTick (now : Nat) (allocs : List Alloc) : List ClusterEvent :=
  [.act 1 (.time now), .act 1 (demoRead allocs), .act 1 (.services [⟨"web", demoDef⟩]),
    .act 1 (demoRead allocs)]

def demoWatched : List ClusterEvent :=
  demoCommit.map (.act 0) ++ demoTick 0 [] ++ [.act 0 (demoRead [])] ++ demoStart 0 "web-0" [] ++
    demoTick 1000000000 [demoReplica "web-0"]

def demoRestarted : List ClusterEvent :=
  demoCommit.map (.act 0) ++ demoTick 0 [] ++ demoTick 1000000000 [] ++ [.act 1 .proceed] ++
    [.act 2 (.text "x")] ++ demoStart 2 "web-x" [] ++
    [.act 0 (demoRead [demoReplica "web-x"])] ++ demoStart 0 "web-0" [demoReplica "web-x"]

lemma demoWorld_steady : Steady (demoWorld (some ⟨∅, ∅⟩)).fsm demoConfig := by
  intro name d hd
  refine ⟨fun h => ?_, fun _ => rfl⟩
  cases hd.symm.trans h.symm

theorem deploy_replicates_inTime : ∃ s, run (cluster demoCtx).step
        (watchedRollout demoCtx (demoWorld (some ⟨∅, ∅⟩)) demoConfig 2 ∅) demoWatched = some s ∧
      s.tasks.map (fun tp => tp.2.outcome) = [some (.ok true), some (.ok true)] ∧
      (s.world.fsm.runningFor "web").card = 1 := by
  refine exists_end (p := fun s => s.tasks.map (fun tp => (tp.1.halted, tp.2.outcome)) =
    [([], some (.ok true)), ([], some (.ok true))]) (by decide +kernel) fun s hs hend => ?_
  have htask (tp : ClusterTask) (htp : tp ∈ s.tasks) :
      tp.1.halted = [] ∧ tp.2.outcome = some (.ok true) := by
    have hmem := mem_map_of_mem (f := fun tp => (tp.1.halted, tp.2.outcome)) htp
    rw [hend] at hmem
    simpa using hmem
  have hdeploy : s.tasks[0]?.bind (fun tp => tp.2.outcome) = some (.ok true) := by
    have hfirst := congrArg (fun ends => ends[0]?.bind Prod.snd) hend
    simpa [List.getElem?_map, Option.bind_map] using hfirst
  refine ⟨?_, deploy_replicates demoCtx (demoWorld (some ⟨∅, ∅⟩)) demoConfig 2 ∅ demoWatched
    s (fun _ _ h => nomatch h) (demoWorld_nodesKeyed _) demoWorld_steady (by decide +kernel)
    (by decide +kernel) hs hdeploy (fun tp htp _ => by rw [(htask tp htp).2]; rfl)
    (fun tp htp id hid => by rw [(htask tp htp).1] at hid; cases hid) "web" demoDef
    (by decide +kernel)⟩
  have hmap := congrArg (List.map Prod.snd) hend
  rwa [map_map] at hmap

/-- Every container becomes healthy, and the service that was to have one replica has two. -/
theorem deploy_overreplicates :
    Steady (demoWorld (some ⟨∅, ∅⟩)).fsm demoConfig ∧ Guarded (cluster demoCtx).step AllHealthy
        (watchedRollout demoCtx (demoWorld (some ⟨∅, ∅⟩)) demoConfig 2 ∅) demoRestarted ∧
      ∃ s, run (cluster demoCtx).step
          (watchedRollout demoCtx (demoWorld (some ⟨∅, ∅⟩)) demoConfig 2 ∅) demoRestarted = some s ∧
        s.tasks.map (fun tp => (tp.1.halted, tp.2.outcome)) =
          [([], some (.ok true)), ([], some (.ok true)), ([], some (.ok true))] ∧
        demoConfig.services.lookup "web" = some demoDef ∧ demoDef.replicas = 1 ∧
        (s.world.fsm.runningFor "web").card = 2 := by
  exact ⟨demoWorld_steady, by decide +kernel, by decide +kernel⟩

end Mill
