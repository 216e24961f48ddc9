import Mill.Node.PortOwnership

/-! What a Run is answered with. -/

namespace Mill

open List Transition

def NodeReport.answersRun (id : AllocId) : NodeReport → Bool
  | .runStarted i _ _ | .runFailed i _ => i = id
  | _ => false

namespace SecondaryEvent

def ofWaiter : SecondaryEvent → Bool
  | .exited _ _ | .waiter _ => true
  | _ => false

def ofLoop : SecondaryEvent → Bool
  | .loop | .pulled _ | .started _ | .stopped _ => true
  | _ => false

end SecondaryEvent

namespace LoopPc

def tries (id : AllocId) : LoopPc → Prop
  | .idle => True
  | .check i _ | .reportPulling i _ | .pull i _ | .reportStarting i _ | .allocatePort i _
  | .start i _ _ | .releaseFailed i _ _ | .reportFailed i _ | .insert i _ _ => i = id
  | _ => False

def finished : LoopPc → Bool
  | .idle | .spawnWaiter _ _ => true
  | _ => false

def held : LoopPc → Option Nat
  | .start _ _ hostPort | .releaseFailed _ _ hostPort | .insert _ _ hostPort => hostPort
  | _ => none

def left : LoopPc → Nat
  | .idle => 0
  | .spawnWaiter _ _ | .reportFailed _ _ | .reportStopped _ _ | .reportPulled _ => 1
  | .reportStarted _ _ | .releaseFailed _ _ _ | .removeStopped _ _ _ | .pullOnly _ => 2
  | .insert _ _ _ | .releaseStopped _ _ _ => 3
  | .start _ _ _ | .stop _ _ => 4
  | .allocatePort _ _ | .readPort _ => 5
  | .reportStarting _ _ => 6
  | .pull _ _ => 7
  | .reportPulling _ _ => 8
  | .check _ _ => 9

end LoopPc

namespace Secondary

def refusal (s : Secondary) : SecondaryEvent → List AllocId
  | .loop =>
    match s.loop with
    | .check id _ => if s.allocs.contains id then [id] else []
    | .allocatePort id spec =>
      if spec.port.isSome ∧ (s.ports.allocate id).isNone then [id] else []
    | _ => []
  | _ => []

def refusals (s : Secondary) (es : List SecondaryEvent) : List AllocId :=
  trace step refusal s es

lemma exists_idle (s : Secondary) : ∃ es t, (∀ e ∈ es, e.ofLoop = true) ∧
    run step s es = some t ∧ t.loop = .idle := by
  have hprogress (s : Secondary) (_ : True) (hs : s.loop.left ≠ 0) :
      ∃ e s', e.ofLoop = true ∧ s.step e = some s' ∧ True ∧ s'.loop.left < s.loop.left := by
    obtain ⟨nodeId, meshIp, ports, allocs, loop, waiters, beat, reports⟩ := s
    cases loop with
    | idle => exact absurd rfl hs
    | check id =>
      cases hin : allocs.contains id with
      | true => exact ⟨.loop, _, rfl, if_pos hin, trivial, by simp [LoopPc.left]⟩
      | false => exact ⟨.loop, _, rfl, if_neg (by simp [hin]), trivial, by simp [LoopPc.left]⟩
    | allocatePort id spec =>
      cases hport : spec.port.isSome with
      | false => exact ⟨.loop, _, rfl, if_neg (by simp [hport]), trivial, by simp [LoopPc.left]⟩
      | true =>
        cases halloc : ports.allocate id with
        | none | some claimed =>
          exact ⟨.loop, _, rfl, by simp only [step, loopStep, hport, halloc, if_true]; rfl, trivial,
            by simp [LoopPc.left]⟩
    | pull id spec | pullOnly image =>
      exact ⟨.pulled (.ok ()), _, rfl, rfl, trivial, by simp [LoopPc.left]⟩
    | start =>
      exact ⟨.started (.ok ()), _, rfl, rfl, trivial, by simp [LoopPc.left]⟩
    | stop => exact ⟨.stopped (.ok 0), _, rfl, rfl, trivial, by simp [LoopPc.left]⟩
    | _ => exact ⟨.loop, _, rfl, rfl, trivial, by simp [LoopPc.left]⟩
  obtain ⟨es, t, hes, hr, -, hend⟩ := exists_run_of_progress hprogress s trivial
  refine ⟨es, t, hes, hr, ?_⟩
  cases hloop : t.loop with
  | idle => rfl
  | _ => rw [hloop] at hend; cases hend

section

def givenBack (ports : PortPool) (hostPort : Option Nat) : PortPool :=
  hostPort.elim ports ports.release

lemma givenBack_comm (ports : PortPool) (h h' : Option Nat) :
    givenBack (givenBack ports h) h' = givenBack (givenBack ports h') h := by
  cases h with
  | none => rfl
  | some p =>
    cases h' with
    | none => rfl
    | some q => exact PortPool.release_comm ports p q

def Undone (s : Secondary) (as : List SecondaryEvent) (t : Secondary) : Prop :=
  ∃ u, run step s (as.filter SecondaryEvent.ofWaiter) = some u ∧ u.waiters = t.waiters ∧
    u.allocs = t.allocs ∧ u.ports = givenBack t.ports t.loop.held

variable {s t t' : Secondary} {as : List SecondaryEvent} {e : SecondaryEvent}

lemma Undone.loop (h : Undone s as t) (he : e.ofWaiter = false)
    (hwaiters : t'.waiters = t.waiters) (hallocs : t'.allocs = t.allocs)
    (hports : givenBack t'.ports t'.loop.held = givenBack t.ports t.loop.held) :
    Undone s (as ++ [e]) t' := by
  obtain ⟨u, hu, hw, ha, hp⟩ := h
  refine ⟨u, ?_, hw.trans hwaiters.symm, ha.trans hallocs.symm, hp.trans hports.symm⟩
  rw [filter_append, filter_cons_of_neg (by simp [he]), filter_nil, append_nil]
  exact hu

lemma Undone.waiter (h : Undone s as t) (he : e.ofWaiter = true) (hstep : t.step e = some t') :
    t'.loop = t.loop ∧ Undone s (as ++ [e]) t' := by
  obtain ⟨u, hu, hwaiters, hallocs, hports⟩ := h
  have hrun {v : Secondary} (hstep : u.step e = some v) :
      run step s ((as ++ [e]).filter SecondaryEvent.ofWaiter) = some v := by
    rw [filter_append, filter_cons_of_pos he]
    exact run_concat_eq_some.mpr ⟨u, hu, hstep⟩
  cases e with
  | exited i =>
    simp only [step] at hstep
    split at hstep
    · rename_i w hw
      split_ifs at hstep with hpc
      cases hstep
      have hw' : u.waiters[i]? = some w := by rw [hwaiters, hw]
      refine ⟨rfl, _, hrun (by simp only [step, hw', if_pos hpc]; rfl), ?_, ?_, ?_⟩
      · exact congrArg (List.set · i _) hwaiters
      · exact hallocs
      · exact hports
    · cases hstep
  | waiter i =>
    simp only [step] at hstep
    split at hstep
    · rename_i w hw
      obtain ⟨⟨w', v⟩, hv, rfl⟩ := Option.map_eq_some_iff.mp hstep
      replace hrun {v' : Secondary} (hstep : u.waiterStep w = some (w', v')) :=
        hrun (v := { v' with waiters := v'.waiters.set i w' })
          (by simp only [step, hwaiters, hw, hstep, Option.map_some])
      have hset : u.waiters.set i w' = t.waiters.set i w' := by rw [hwaiters]
      obtain ⟨allocId, hostPort, pc⟩ := w
      cases pc with
      | waiting => cases hv
      | done => cases hv
      | setStatus code =>
        cases hv
        exact ⟨rfl, _, hrun rfl, hset,
          congrArg (AllocationMap.setStatus · allocId (exitStatus code)) hallocs, hports⟩
      | release =>
        simp only [waiterStep, release_eq, Option.some.injEq, Prod.mk.injEq] at hv hrun
        obtain ⟨rfl, rfl⟩ := hv
        refine ⟨rfl, _, hrun ⟨rfl, rfl⟩, hset, hallocs, ?_⟩
        have hcomm := givenBack_comm t.ports t.loop.held hostPort
        rw [← hports] at hcomm
        exact hcomm
      | remove =>
        cases hv
        exact ⟨rfl, _, hrun rfl, hset, congrArg (AllocationMap.remove · allocId) hallocs, hports⟩
      | report =>
        cases hv
        exact ⟨rfl, _, hrun rfl, hset, hallocs, hports⟩
    · cases hstep
  | _ => cases he

end

section

inductive RunStage (id : AllocId) (s₀ : Secondary) (as : List SecondaryEvent)
    (sent : List NodeReport) (t : Secondary) : Prop
  | undone (hloop : t.loop.tries id) (h : Undone s₀ as t)
  | entered (hostPort : Option Nat) (hloop : t.loop = .reportStarted id hostPort)
  | started (hostPort : Option Nat) (address : Option SocketAddr)
      (hsent : .runStarted id hostPort address ∈ sent)
      (hloop : t.loop = .spawnWaiter id hostPort ∨ t.loop = .idle)

/-- Where a Run stands that was taken up in `s₀` and has led from `s` to `t`. -/
structure Ran (id : AllocId) (s₀ s : Secondary) (as : List SecondaryEvent) (sent : List NodeReport)
    (t : Secondary) : Prop where
  reports : t.reports = s₀.reports ++ sent
  answered : sent.countP (NodeReport.answersRun id) + (refusals s as).length = t.loop.finished.toNat
  stage : RunStage id s₀ as sent t

variable {id : AllocId} {s₀ s t t' : Secondary} {as : List SecondaryEvent} {e : SecondaryEvent}
  {sent rs : List NodeReport}

lemma reports_step (h : t.step e = some t') : ∃ rs, t'.reports = t.reports ++ rs := by
  cases does_of_step h with
  | release hw hpc | releaseFailed hloop | releaseStopped hloop =>
    rw [release_eq]
    exact ⟨[], (append_nil _).symm⟩
  | _ => first | exact ⟨[], (append_nil _).symm⟩ | exact ⟨_, rfl⟩

lemma answered_step (h : RunStage id s₀ as sent t) (he : ∀ cmd, e ≠ .command cmd)
    (hstep : t.step e = some t') : t.loop.finished.toNat +
      t'.reports.countP (NodeReport.answersRun id) + (refusal t e).length =
        t.reports.countP (NodeReport.answersRun id) + t'.loop.finished.toNat := by
  have hloop : t.loop.tries id ∨ (∃ hostPort, t.loop = .reportStarted id hostPort) ∨
      ∃ hostPort, t.loop = .spawnWaiter id hostPort := by
    rcases h with ⟨hloop, -⟩ | ⟨hostPort, hloop⟩ | ⟨hostPort, -, -, hloop | hloop⟩
    · exact .inl hloop
    · exact .inr (.inl ⟨hostPort, hloop⟩)
    · exact .inr (.inr ⟨hostPort, hloop⟩)
    · exact .inl (by rw [hloop]; trivial)
  cases does_of_step hstep <;>
    grind [LoopPc.tries, LoopPc.finished, refusal, NodeReport.answersRun, send,
      release_eq, AllocationMap.contains]

lemma stage_step (h : RunStage id s₀ as sent t) (he : ∀ cmd, e ≠ .command cmd)
    (hstep : t.step e = some t') (hrs : t'.reports = t.reports ++ rs) :
    RunStage id s₀ (as ++ [e]) (sent ++ rs) t' := by
  have hkeep {hostPort : Option Nat} {address : Option SocketAddr}
      (h : .runStarted id hostPort address ∈ sent) :
      .runStarted id hostPort address ∈ sent ++ rs := mem_append_left rs h
  cases h with
  | undone hpc hu =>
    cases hw : e.ofWaiter with
    | true =>
      obtain ⟨hloop, hu⟩ := hu.waiter hw hstep
      exact .undone (hloop ▸ hpc) hu
    | false =>
      cases does_of_step hstep with
      | insert hloop hout | duplicate hloop hin =>
        rw [hloop] at hpc
        cases hpc
        exact .entered _ rfl
      | claim hloop hport halloc =>
        refine .undone (by grind [LoopPc.tries]) (hu.loop hw rfl rfl ?_)
        rw [hloop]
        exact PortPool.release_of_allocate halloc
      | _ =>
        refine .undone ?_ (hu.loop hw ?_ ?_ ?_) <;>
          grind [LoopPc.tries, LoopPc.held, send, release_eq, givenBack,
            SecondaryEvent.ofWaiter]
  | entered hostPort hpc =>
    cases does_of_step hstep with
    | @reportStarted id hostPort address hloop =>
      cases hpc.symm.trans hloop
      have hnew := append_cancel_left hrs
      exact .started hostPort address (mem_append_right _ (by simp [← hnew])) (.inl rfl)
    | _ => exact .entered hostPort (by grind [send, release_eq])
  | started hostPort address hsent =>
    refine .started hostPort address (hkeep hsent) ?_
    cases does_of_step hstep <;> grind [send, release_eq]

lemma ran_step (h : Ran id s₀ s as sent t) (hrun : run step s as = some t)
    (he : ∀ cmd, e ≠ .command cmd) (hstep : t.step e = some t') :
    ∃ sent', Ran id s₀ s (as ++ [e]) sent' t' := by
  obtain ⟨rs, hrs⟩ := reports_step hstep
  have hanswered := h.answered
  have hcount := answered_step h.stage he hstep
  refine ⟨sent ++ rs, ?_, ?_, stage_step h.stage he hstep hrs⟩
  · rw [hrs, h.reports, append_assoc]
  · rw [refusals] at hanswered ⊢
    rw [trace_concat hrun, countP_append, length_append]
    rw [hrs, countP_append] at hcount
    omega

/-- However the exit waiters and the heartbeats go on beside a Run, and whatever the runtime says:
the loop can always come to its end with it, and then exactly one RunStarted or RunFailed was sent
for it unless the Run was dropped, where its allocation is in the map already or no port is left.
Without a RunStarted, the map and the pool are as the exit waiters alone leave them. -/
theorem run_answered (id : AllocId) (spec : ContainerSpec) (auth : Option RegistryCredentials)
    (s₀ s t : Secondary) (es : List SecondaryEvent)
    (hrun : s₀.step (.command (.run id spec auth)) = some s)
    (hes : ∀ e ∈ es, ∀ cmd, e ≠ .command cmd) (hr : run step s es = some t) :
    (∃ es' u, (∀ e ∈ es', e.ofLoop = true) ∧ run step t es' = some u ∧ u.loop = .idle) ∧
    (t.loop = .idle → ∃ sent, t.reports = s₀.reports ++ sent ∧
      (sent.countP (NodeReport.answersRun id) = 1 ↔ refusals s es = []) ∧
      ((∀ hostPort address, .runStarted id hostPort address ∉ sent) →
        ∃ u, run step s₀ (es.filter SecondaryEvent.ofWaiter) = some u ∧
          t.ports = u.ports ∧ t.allocs = u.allocs)) := by
  refine ⟨exists_idle t, fun hidle => ?_⟩
  have hstart : Ran id s₀ s [] [] s := by
    obtain ⟨nodeId, meshIp, ports, allocs, loop, waiters, beat, reports⟩ := s₀
    cases loop with
    | idle =>
      cases hrun
      exact ⟨(append_nil _).symm, rfl, .undone rfl ⟨_, rfl, rfl, rfl, rfl⟩⟩
    | _ => cases hrun
  have hinv : ∃ sent, Ran id s₀ s es sent t := by
    refine run_invariant_history (I := fun as t => ∃ sent, Ran id s₀ s as sent t)
      (P := fun _ e => ∀ cmd, e ≠ .command cmd) ?_ ⟨[], hstart⟩ ?_ hr
    · rintro as t e t' ht ⟨sent, h⟩ he hstep
      exact ran_step h ht he hstep
    · exact guarded_of_forall s fun e he _ => hes e he
  obtain ⟨sent, h⟩ := hinv
  refine ⟨sent, h.reports, ?_, fun hsent => ?_⟩
  · have hanswered := h.answered
    rw [hidle] at hanswered
    rw [← length_eq_zero_iff]
    simp only [LoopPc.finished, Bool.toNat_true] at hanswered
    omega
  · cases h.stage with
    | undone hpc hu =>
      obtain ⟨u, hu, -, hallocs, hports⟩ := hu
      rw [hidle] at hports
      exact ⟨u, hu, hports.symm, hallocs.symm⟩
    | entered hostPort hloop => cases hidle.symm.trans hloop
    | started hostPort address hmem => exact absurd hmem (hsent hostPort address)

end

def demoFailing : List SecondaryEvent :=
  [.loop, .loop, .pulled (.ok ()), .loop, .loop, .started (.error "boom"), .loop, .loop]

theorem run_answered_failed : ∃ s t,
    demoInit.step (.command (.run ⟨"a"⟩ (demoSpec ⟨"a"⟩) none)) = some s ∧
    run step s demoFailing = some t ∧ refusals s demoFailing = [] ∧
    ∃ sent, t.reports = sent ∧ sent.countP (NodeReport.answersRun ⟨"a"⟩) = 1 ∧
      t.ports = demoInit.ports ∧ t.allocs = demoInit.allocs := by
  refine ⟨_, _, rfl, rfl, rfl, ?_⟩
  obtain ⟨sent, hsent, hiff, hsame⟩ := (run_answered ⟨"a"⟩ (demoSpec ⟨"a"⟩) none demoInit _ _
    demoFailing rfl (by simp [demoFailing]) rfl).2 rfl
  refine ⟨sent, hsent, hiff.mpr rfl, ?_⟩
  cases hsent
  obtain ⟨u, hu, hports, hallocs⟩ := hsame (by simp)
  cases hu
  exact ⟨hports, hallocs⟩

/-- No port is left: the Run ends without an answer. -/
theorem run_unanswered : ∃ t, run step (init ⟨"n"⟩ none (.withRange 1 0 ∅))
      [.command (.run ⟨"a"⟩ (demoSpec ⟨"a"⟩) none), .loop, .loop, .pulled (.ok ()), .loop, .loop] =
        some t ∧ t.loop = .idle ∧
    t.reports = [.statusUpdate ⟨"a"⟩ .pulling, .statusUpdate ⟨"a"⟩ .starting] :=
  ⟨_, rfl, rfl, rfl⟩

end Secondary

end Mill
