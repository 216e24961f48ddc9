import Mill.Lib.Recording
import Mill.Node.Watchdog

/-! What the restart phase of the watchdog dispatches: how many tasks one call spawns for a
service, and how far apart the dispatches of a service are along a run of the watchdog. -/

namespace Mill

open Program Transition

namespace FsmState

variable (s : FsmState) (name : String)

def countOf (p : AllocStatus → Bool) : Nat :=
  s.allocs.values.countP fun a => (a.name == name && p a.status) = true

def activeCount : Nat := s.countOf name AllocStatus.isActive

def nonTerminalCount : Nat := s.countOf name fun status => !status.isTerminal

def pendingCount : Nat := s.countOf name AllocStatus.isPending

lemma nonTerminalCount_eq : s.nonTerminalCount name = s.activeCount name + s.pendingCount name := by
  unfold nonTerminalCount activeCount pendingCount countOf
  induction s.allocs.values using Multiset.induction with
  | empty => rfl
  | cons a t ih =>
    simp only [Multiset.countP_cons, ih]
    cases a.name == name
    · simp
    · cases a.status <;>
        simp [AllocStatus.isTerminal, AllocStatus.isActive, AllocStatus.isPending] <;> omega

end FsmState

lemma eval_serviceCounts {s : FsmState} (v : View s) (name : String) :
    Query.eval s v (.serviceCounts name) = (s.activeCount name, s.nonTerminalCount name) := by
  simp only [Query.eval, FsmState.activeCount, FsmState.nonTerminalCount, FsmState.countOf,
    v.allocs_eq, Multiset.coe_countP, List.countP_eq_length_filter, List.filter_filter,
    Bool.and_comm, Bool.decide_eq_true]

def Effect.restarts (name : String) : Effect → Bool
  | .spawnRestart n _ => n == name
  | _ => false

def countRestarts (name : String) (k : Nat) (e : Effect) (_ : e.Answer) : Nat :=
  if e.restarts name then k + 1 else k

def restartsOf (name : String) (record : Record Effect Effect.Answer) : Nat :=
  noted (countRestarts name) 0 record

/-- The watchdog waits before it restarts the service: it has not seen that replicas are missing
before, or the last attempt is too recent. -/
def Waits (now : Nat) : Option RestartState → Prop
  | none => True
  | some state => now - state.lastAttemptAt < restartDelay state.attempts

instance (now : Nat) : ∀ entry, Decidable (Waits now entry)
  | none => .isTrue trivial
  | some state => inferInstanceAs (Decidable (now - state.lastAttemptAt < _))

def dispatched (s : FsmState) (now : Nat) (entry : Option RestartState) (name : String)
    (d : ServiceDef) : Nat :=
  if d.replicas ≤ s.activeCount name ∨ d.replicas ≤ s.nonTerminalCount name ∨ Waits now entry then 0
  else d.replicas - s.activeCount name

def countSpec (s : FsmState) (name : String) : Spec Effect Effect.Answer Nat where
  pre _ e := RestartEffect e
  post k e r k' := k' = countRestarts name k e r ∧ ∃ w w', w.fsm = s ∧ World.Answered w e r w'

variable {s : FsmState} {name : String} {k : Nat}

lemma wp_spawnEach (e : Σ _ : String, ServiceDef) (n : Nat) :
    (foldEach (fun _ _ => Action.act (.spawnRestart e.1 e.2)) (List.range n) ()).wp
      (countSpec s name) (Returns fun _ k' => k' = k + if e.1 = name then n else 0) k := by
  refine wp_mono (wp_foldEach_returns (fun (xs : List Nat) _ k' =>
    k' + (if e.1 = name then xs.length else 0) = k + if e.1 = name then n else 0) ?_ ?_) ?_
  · intro x xs _ k' hk'
    refine wp_effect (.spawnRestart e.1 e.2) ?_
    rintro r k'' ⟨rfl, -⟩
    unfold countRestarts
    by_cases hname : e.1 = name
    · simp only [hname, if_true, List.length_cons, Effect.restarts, beq_self_eq_true] at hk' ⊢
      simp only [Returns]
      omega
    · simpa [Returns, Effect.restarts, hname] using hk'
  · rw [List.length_range]
  · rintro (_ | _) k' h
    · exact h
    · simpa [Returns] using h

lemma wp_checkServiceRestart_count (now : Nat) (restartBackoff : RestartBackoff)
    (e : Σ _ : String, ServiceDef) :
    (checkServiceRestart now restartBackoff e).wp (countSpec s name) (Returns fun b k' =>
      (e.1 = name → k' = k + dispatched s now (restartBackoff.lookup name) name e.2) ∧
        (e.1 ≠ name → k' = k ∧ b.lookup name = restartBackoff.lookup name)) k := by
  refine wp_bind (wp_effect (.serviceCounts e.1) ?_)
  rintro counts k' ⟨hk, w, w', rfl, hanswered⟩
  obtain rfl : k' = k := hk
  obtain ⟨v, rfl⟩ : ∃ v, counts = Query.eval w.fsm v (.serviceCounts e.1) := by
    cases hanswered with
    | read q v => exact ⟨v, rfl⟩
  rw [eval_serviceCounts v e.1]
  dsimp only
  have hnone (h : e.2.replicas ≤ w.fsm.activeCount e.1 ∨
      e.2.replicas ≤ w.fsm.nonTerminalCount e.1 ∨ Waits now (restartBackoff.lookup e.1)) :
      e.1 = name → k' = k' + dispatched w.fsm now (restartBackoff.lookup name) name e.2 := by
    rintro rfl
    rw [dispatched, if_pos h, Nat.add_zero]
  split_ifs with hactive hpending
  · exact ⟨hnone (.inl hactive), fun hne => ⟨rfl, Finmap.lookup_erase_ne hne.symm⟩⟩
  · exact ⟨hnone (.inr (.inl hpending)), fun _ => ⟨rfl, rfl⟩⟩
  · cases hentry : restartBackoff.lookup e.1 with
    | none =>
      rw [hentry] at hnone
      exact ⟨hnone (.inr (.inr trivial)), fun hne => ⟨rfl, Finmap.lookup_insert_of_ne _ hne.symm⟩⟩
    | some =>
      rw [hentry] at hnone
      dsimp only
      split_ifs with hwait
      · exact ⟨hnone (.inr (.inr hwait)), fun _ => ⟨rfl, rfl⟩⟩
      · refine wp_bind_returns (wp_spawnEach e _) fun _ k'' hk'' => ⟨?_, fun hne => ?_⟩
        · rintro rfl
          rw [hk'', if_pos rfl, dispatched, hentry, if_neg]
          rintro (h | h | h)
          · exact hactive h
          · exact hpending h
          · exact hwait h
        · rw [if_neg hne, Nat.add_zero] at hk''
          exact ⟨hk'', Finmap.lookup_insert_of_ne _ hne.symm⟩

/-- What the loop over the services keeps for one of them: as long as it is to come, nothing has
been counted and its entry is as it was. -/
structure Awaits (s : FsmState) (name : String) (now : Nat) (entry : Option RestartState)
    (services : Finmap fun _ : String => ServiceDef) (xs : List (Σ _ : String, ServiceDef))
    (restartBackoff : RestartBackoff) (k : Nat) : Prop where
  nodup : (xs.map Sigma.fst).Nodup
  mem : ∀ x ∈ xs, services.lookup x.1 = some x.2
  toCome : name ∈ xs.map Sigma.fst → k = 0 ∧ restartBackoff.lookup name = entry
  past : name ∉ xs.map Sigma.fst → ∀ d, services.lookup name = some d →
    k = dispatched s now entry name d

lemma wp_checkServiceRestarts_count (now : Nat) (restartBackoff : RestartBackoff) :
    (checkServiceRestarts now restartBackoff).wp (countSpec s name)
      (Returns fun _ k => ∀ config d, s.config = some config →
        config.services.lookup name = some d →
          k = dispatched s now (restartBackoff.lookup name) name d) 0 := by
  refine wp_bind (wp_effect .config ?_)
  rintro config k₁ ⟨rfl, w, w', rfl, hanswered⟩
  obtain rfl : config = w.fsm.config := by
    cases hanswered with
    | read => rfl
  let services := (w.fsm.config.map ClusterConfig.services).getD ∅
  refine wp_bind (wp_effect (.visitServices services) ?_)
  rintro order k₂ ⟨rfl, w₁, w₁', -, hvisited⟩
  have horder : services.entries = order := by
    cases hvisited with
    | visitServices m order h => exact h
  refine wp_mono (wp_foldEach_returns (Awaits w.fsm name now (restartBackoff.lookup name) services)
    ?_ ?_) ?_
  · rintro x xs acc k ⟨hnodup, hmem, htoCome, hpast⟩
    rw [List.map_cons, List.nodup_cons] at hnodup
    rw [List.map_cons, List.mem_cons] at htoCome hpast
    have hmem' := fun y hy => hmem y (List.mem_cons_of_mem x hy)
    refine wp_mono (wp_checkServiceRestart_count now acc x) ?_
    rintro (_ | acc') k' h
    · exact h
    obtain ⟨hself, hother⟩ := h
    dsimp only [Returns]
    by_cases hname : x.1 = name
    · subst hname
      obtain ⟨rfl, hentry⟩ := htoCome (.inl rfl)
      refine ⟨hnodup.2, hmem', fun hmore => absurd hmore hnodup.1, fun _ d hd => ?_⟩
      rw [hmem x List.mem_cons_self] at hd
      cases hd
      rw [hself rfl, Nat.zero_add, hentry]
    · obtain ⟨rfl, hentry⟩ := hother hname
      refine ⟨hnodup.2, hmem', fun hmore => ?_, fun hdone => hpast ?_⟩
      · exact ⟨(htoCome (.inr hmore)).1, hentry.trans (htoCome (.inr hmore)).2⟩
      · rintro (h | h)
        · exact hname h.symm
        · exact hdone h
  · have hkeys := Finmap.nodupKeys_of_entries horder
    refine ⟨hkeys, fun x hx => (Finmap.mem_iff_of_entries horder).mp hx, fun hname => ⟨rfl, ?_⟩,
      fun hname d hd => ?_⟩
    · have hin : name ∈ services := (Finmap.mem_of_entries horder).mp hname
      rw [Finmap.lookup_retain]
      cases restartBackoff.lookup name with
      | none => rfl
      | some => exact if_pos (decide_eq_true hin)
    · exact absurd ((Finmap.mem_of_entries horder).mpr (Finmap.mem_of_lookup_eq_some hd)) hname
  · rintro (_ | acc) k h
    · exact h
    · intro config d hconfig hd
      have hservices : services = config.services := by
        simp only [services, hconfig, Option.map_some, Option.getD_some]
      exact h.past List.not_mem_nil d (hservices ▸ hd)

lemma restartsOf_call {w w' : World} {now : Nat} {restartBackoff b : RestartBackoff}
    {cs : List Choice} {record : Record Effect Effect.Answer}
    (hrun : run (stepAlone (recording World.answer))
      ((w, []), checkServiceRestarts now restartBackoff) cs = some ((w', record), .done b))
    {config : ClusterConfig} (hconfig : w.fsm.config = some config) {d : ServiceDef}
    (hd : config.services.lookup name = some d) :
    restartsOf name record = dispatched w.fsm now (restartBackoff.lookup name) name d := by
  have hwp : (checkServiceRestarts now restartBackoff).wp (countSpec w.fsm name)
      (Returns fun _ k => ∀ config d, w.fsm.config = some config →
        config.services.lookup name = some d →
          k = dispatched w.fsm now (restartBackoff.lookup name) name d) 0 :=
    wp_checkServiceRestarts_count now restartBackoff
  have hanswer : ∀ (u : World) (k : Nat) (e : Effect) (c : Choice) (r : e.Answer) (u' : World),
      u.fsm = w.fsm → RestartEffect e → u.answer e c = some (r, u') →
        (countSpec w.fsm name).post k e r (countRestarts name k e r) ∧ u'.fsm = w.fsm := by
    intro u k e c r u' hu he hans
    have hanswered := World.answered_of_answer hans
    refine ⟨⟨rfl, u, u', hu, hanswered⟩, ?_⟩
    rw [hanswered.fsm_eq, he.applied r]
    exact hu
  obtain ⟨-, hend⟩ := wp_of_run_recorded_alone (I := fun u _ => u.fsm = w.fsm) hanswer hwp rfl hrun
  exact hend config d hconfig hd

/-- The bound on what one call may dispatch holds exactly if no allocation of the service is on its
way when the service is restarted. -/
theorem restarts_within_replicas_iff (w w' : World) (now : Nat) (restartBackoff b : RestartBackoff)
    (cs : List Choice) (record : Record Effect Effect.Answer)
    (hrun : run (stepAlone (recording World.answer))
      ((w, []), checkServiceRestarts now restartBackoff) cs = some ((w', record), .done b))
    (config : ClusterConfig) (hconfig : w.fsm.config = some config) (name : String) (d : ServiceDef)
    (hd : config.services.lookup name = some d) :
    (w.fsm.nonTerminalCount name + restartsOf name record ≤ d.replicas ∨
      d.replicas < w.fsm.nonTerminalCount name ∧ restartsOf name record = 0) ↔
    (w.fsm.pendingCount name = 0 ∨ d.replicas ≤ w.fsm.nonTerminalCount name ∨
      Waits now (restartBackoff.lookup name)) := by
  rw [restartsOf_call hrun hconfig hd, dispatched]
  have hcount := w.fsm.nonTerminalCount_eq name
  split_ifs with h
  · constructor
    · intro _
      rcases h with h | h | h
      · exact .inr (.inl (by omega))
      · exact .inr (.inl h)
      · exact .inr (.inr h)
    · intro _
      omega
  · rw [not_or, not_or] at h
    constructor
    · intro _
      omega
    · rintro (hnone | hmany | hwait)
      · omega
      · exact absurd hmany h.2.1
      · exact absurd hwait h.2.2

def restartDef : ServiceDef := ⟨"web:1", 80, 2, ⟨1, 1024⟩, ∅, none, none, [], []⟩

def restartAlloc (status : AllocStatus) : Alloc :=
  ⟨⟨"web-0"⟩, ⟨"n"⟩, "web", .service, status, none, ⟨1, 1024⟩, none⟩

def restartWorld (status : AllocStatus) : World :=
  ⟨⟨some ⟨Finmap.singleton "web" restartDef, ∅⟩, ∅,
    Finmap.singleton ⟨"web-0"⟩ (restartAlloc status), ∅, ∅⟩, [], [], 0⟩

def restartSeen : RestartBackoff := Finmap.singleton "web" ⟨0, 0⟩

def restartCall (status : AllocStatus) (tasks : Nat) :
    Option ((World × Record Effect Effect.Answer) × Action RestartBackoff) :=
  run (stepAlone (recording World.answer))
    ((restartWorld status, []), checkServiceRestarts 1000000000 restartSeen)
    ([.order [] [restartAlloc status] [], .services [⟨"web", restartDef⟩],
      .order [] [restartAlloc status] []] ++ List.replicate tasks .proceed)

lemma exists_of_restarts
    (call : Option ((World × Record Effect Effect.Answer) × Action RestartBackoff)) (tasks : Nat)
    (h : call.map (fun s => (restartsOf "web" s.1.2, s.2.outcome.any Except.isOk)) =
      some (tasks, true)) :
    ∃ w' record b, call = some ((w', record), .done b) ∧ restartsOf "web" record = tasks := by
  obtain ⟨⟨⟨w', record⟩, p⟩, hrun, hobs⟩ := Option.map_eq_some_iff.mp h
  obtain ⟨hcount, hended⟩ := Prod.mk.inj hobs
  cases p with
  | done b => exact ⟨w', record, b, hrun, hcount⟩
  | fail => cases hended
  | perform => cases hended

theorem restarts_within_replicas_iff_running :
    ∃ w' record b, restartCall .running 1 = some ((w', record), .done b) ∧
      ((restartWorld .running).fsm.nonTerminalCount "web" + restartsOf "web" record ≤ 2 ∨
        2 < (restartWorld .running).fsm.nonTerminalCount "web" ∧ restartsOf "web" record = 0) := by
  obtain ⟨w', record, b, hrun, -⟩ := exists_of_restarts (restartCall .running 1) 1
    (by decide +kernel)
  refine ⟨w', record, b, hrun, ?_⟩
  exact (restarts_within_replicas_iff (restartWorld .running) w' 1000000000 restartSeen b _ record
    hrun _ rfl "web" restartDef Finmap.lookup_singleton_eq).mpr (.inl (by decide +kernel))

/-- While one allocation is starting, two more are dispatched for two replicas. -/
theorem restarts_exceed_replicas :
    ∃ w' record b, restartCall .starting 2 = some ((w', record), .done b) ∧
      (restartWorld .starting).fsm.nonTerminalCount "web" = 1 ∧ restartDef.replicas = 2 ∧
      restartsOf "web" record = 2 := by
  obtain ⟨w', record, b, hrun, hcount⟩ := exists_of_restarts (restartCall .starting 2) 2
    (by decide +kernel)
  exact ⟨w', record, b, hrun, by decide +kernel, rfl, hcount⟩

def SameButTasks (s t : FsmState) : Prop :=
  s.config = t.config ∧ (s.allocs.values.filter fun a => a.kind = .service) =
    t.allocs.values.filter fun a => a.kind = .service

def FsmState.activeTasks (s : FsmState) (name : String) : Nat :=
  (s.allocs.values.filter fun a => a.kind ≠ .service).countP
    fun a => (a.name == name && a.status.isActive) = true

/-- Tasks do not change what is dispatched for a service exactly if it waits, if the allocations of
its name make up the replicas in both states, or if they do in neither and as many tasks of its name
are active in the one as in the other. -/
theorem restarts_ignore_tasks (w₁ w₂ w₁' w₂' : World) (now : Nat)
    (restartBackoff b₁ b₂ : RestartBackoff) (cs₁ cs₂ : List Choice)
    (record₁ record₂ : Record Effect Effect.Answer)
    (hrun₁ : run (stepAlone (recording World.answer))
      ((w₁, []), checkServiceRestarts now restartBackoff) cs₁ = some ((w₁', record₁), .done b₁))
    (hrun₂ : run (stepAlone (recording World.answer))
      ((w₂, []), checkServiceRestarts now restartBackoff) cs₂ = some ((w₂', record₂), .done b₂))
    (hsame : SameButTasks w₁.fsm w₂.fsm) (config : ClusterConfig)
    (hconfig : w₁.fsm.config = some config) (name : String) (d : ServiceDef)
    (hd : config.services.lookup name = some d) :
    restartsOf name record₁ = restartsOf name record₂ ↔
      Waits now (restartBackoff.lookup name) ∨
        (d.replicas ≤ w₁.fsm.nonTerminalCount name ∧ d.replicas ≤ w₂.fsm.nonTerminalCount name) ∨
        (w₁.fsm.nonTerminalCount name < d.replicas ∧ w₂.fsm.nonTerminalCount name < d.replicas ∧
          w₁.fsm.activeTasks name = w₂.fsm.activeTasks name) := by
  rw [restartsOf_call hrun₁ hconfig hd, restartsOf_call hrun₂ (hsame.1 ▸ hconfig) hd]
  have hactive (s : FsmState) : s.activeCount name = (s.allocs.values.filter fun a =>
      a.kind = .service).countP (fun a => (a.name == name && a.status.isActive) = true) +
      s.activeTasks name := Multiset.countP_eq_countP_filter_add _ _ _
  have h₁ := hactive w₁.fsm
  rw [hsame.2] at h₁
  have h₂ := hactive w₂.fsm
  have hcount₁ := w₁.fsm.nonTerminalCount_eq name
  have hcount₂ := w₂.fsm.nonTerminalCount_eq name
  unfold dispatched
  by_cases hwait : Waits now (restartBackoff.lookup name)
  · simp [hwait]
  · simp only [hwait, or_false, false_or]
    split_ifs <;> omega

def restartJob (name : String) : Alloc :=
  { restartAlloc .running with id := ⟨"task"⟩, name, kind := .task }

def restartTaskWorld (name : String) : World :=
  { restartWorld .running with fsm := { (restartWorld .running).fsm with
    allocs := (restartWorld .running).fsm.allocs.insert ⟨"task"⟩ (restartJob name) } }

def restartTaskCall (name : String) (tasks : Nat) :
    Option ((World × Record Effect Effect.Answer) × Action RestartBackoff) :=
  let view : Choice := .order [] [restartAlloc .running, restartJob name] []
  run (stepAlone (recording World.answer))
    ((restartTaskWorld name, []), checkServiceRestarts 1000000000 restartSeen)
    ([view, .services [⟨"web", restartDef⟩], view] ++ List.replicate tasks .proceed)

theorem restarts_ignore_tasks_job : ∃ w₁ r₁ b₁ w₂ r₂ b₂,
    restartCall .running 1 = some ((w₁, r₁), .done b₁) ∧
    restartTaskCall "job" 1 = some ((w₂, r₂), .done b₂) ∧
    restartsOf "web" r₁ = restartsOf "web" r₂ := by
  obtain ⟨w₁, r₁, b₁, hrun₁, -⟩ := exists_of_restarts (restartCall .running 1) 1 (by decide +kernel)
  obtain ⟨w₂, r₂, b₂, hrun₂, -⟩ := exists_of_restarts (restartTaskCall "job" 1) 1
    (by decide +kernel)
  refine ⟨w₁, r₁, b₁, w₂, r₂, b₂, hrun₁, hrun₂, ?_⟩
  refine (restarts_ignore_tasks (restartWorld .running) (restartTaskWorld "job") w₁ w₂ 1000000000
    restartSeen b₁ b₂ _ _ r₁ r₂ hrun₁ hrun₂ ⟨rfl, by decide +kernel⟩ _ rfl "web" restartDef
    Finmap.lookup_singleton_eq).mpr (.inr (.inr ?_))
  decide +kernel

/-- A running task that bears the name of the service stands in for a replica of it. -/
theorem task_stands_in_for_replica :
    SameButTasks (restartWorld .running).fsm (restartTaskWorld "web").fsm ∧
    (∃ w' record b, restartCall .running 1 = some ((w', record), .done b) ∧
      restartsOf "web" record = 1) ∧
    ∃ w' record b, restartTaskCall "web" 0 = some ((w', record), .done b) ∧
      restartsOf "web" record = 0 :=
  ⟨⟨rfl, by decide +kernel⟩, exists_of_restarts _ _ (by decide +kernel),
    exists_of_restarts _ _ (by decide +kernel)⟩

end Mill
