import Mill.Lib.Account
import Mill.Node.ReportFrame

/-! The durations that the report processor records for tasks. -/

namespace Mill

open Transition

/-- What `process_report` reads for a Stopped: the name of a task and how long it ran. -/
def taskDuration (fsm : FsmState) (now : SystemTime) (allocId : AllocId) :
    Option (String × Duration) :=
  (fsm.allocs.lookup allocId).bind fun a =>
    if a.kind = .task then
      a.startedAt.bind fun started =>
        -- `duration_since` fails where the clock has gone back
        if started ≤ now then some (a.name, (now - started).toNat) else none
    else none

def ReportSystem.records (s : ReportSystem) : ReportEvent → List (AllocId × String × Duration)
  | .receive _ now =>
    match s.pending, s.sec.reports with
    | none, .stopped allocId _ :: _ => (taskDuration s.fsm now allocId).toList.map (allocId, ·)
    | _, _ => []
  | _ => []

def ReportSystem.durations (s : ReportSystem) (es : List ReportEvent) :
    List (AllocId × String × Duration) :=
  trace step records s es

section

def NodeReport.stops (id : AllocId) : NodeReport → Nat
  | .stopped i _ => if i = id then 1 else 0
  | _ => 0

def Waiter.owes (id : AllocId) (w : Waiter) : Nat :=
  if w.allocId = id ∧ w.pc ≠ .done then 1 else 0

def LoopPhase.owes (id : AllocId) : Option (AllocId × LoopPhase) → Nat
  | some (i, .up) | some (i, .stopping) | some (i, .stopped) => if i = id then 1 else 0
  | _ => 0

def SecondaryEvent.stops (id : AllocId) : SecondaryEvent → Nat
  | .command (.stop i) => if i = id then 1 else 0
  | _ => 0

namespace SecondaryView

def owed (v : SecondaryView) (id : AllocId) : Nat :=
  (v.reports.map (NodeReport.stops id)).sum + (v.waiters.map (Waiter.owes id)).sum +
    LoopPhase.owes id v.phase

def Trying (v : SecondaryView) (id : AllocId) : Prop :=
  v.phase = some (id, .checking) ∨ v.phase = some (id, .clearing) ∨ v.phase = some (id, .running)

end SecondaryView

variable {s s' : Secondary} {e : SecondaryEvent} {id : AllocId}

attribute [local grind] Secondary.view SecondaryView.Trying LoopPc.phase Secondary.send
  SecondaryView.owed LoopPhase.owes NodeReport.stops Waiter.owes SecondaryEvent.stops
attribute [local grind =] Secondary.release_eq List.sum_append List.map_append

lemma Secondary.trying_step (h : s.step e = some s') (hv : s'.view.Trying id) :
    s.view.Trying id ∨ ∃ spec auth, e = .command (.run id spec auth) := by
  cases does_of_step h <;> grind

lemma Secondary.owed_step (hs : s.Proper) (h : s.step e = some s')
    (htry : ¬ s.view.Trying id) : s'.view.owed id = s.view.owed id + e.stops id := by
  have hset : ∀ i w w', s.waiters[i]? = some w → ((s.waiters.set i w').map (Waiter.owes id)).sum +
      w.owes id = (s.waiters.map (Waiter.owes id)).sum + w'.owes id := fun i w w' =>
    List.sum_map_set (Waiter.owes id)
  cases does_of_step h with
  | @reportPulled r hloop =>
    have hr : r.stops id = 0 := by
      cases r with
      | stopped => cases hs _ hloop
      | _ => rfl
    grind
  | _ => grind

end

section

variable {fsm : FsmState} {id : AllocId} {name : String}

def FsmState.Started (fsm : FsmState) (id : AllocId) (name : String) : Prop :=
  ∃ a, fsm.allocs.lookup id = some a ∧ a.kind = .task ∧ a.name = name ∧ a.startedAt.isSome = true

lemma started_applied {r : NodeReport} {c : Command} (hc : Reported r c)
    (h : fsm.Started id name) : (applyCommand fsm c).1.Started id name := by
  obtain ⟨a, ha, hkind, hname, hat⟩ := h
  unfold FsmState.Started
  rw [lookup_allocs_applyCommand]
  cases hc with
  | heartbeat => grind [allocAfter, report_eq]
  | _ => grind [allocAfter, Alloc.run]

end

def ReportEvent.stops (id : AllocId) : ReportEvent → Nat
  | .secondary e => e.stops id
  | _ => 0

namespace ReportSystem

section

/-- The allocation is not run again, and the clock of the processor is not behind the start of the
task when it takes a report. -/
def Lived (id : AllocId) (s : ReportSystem) : ReportEvent → Prop
  | .secondary (.command (.run i _ _)) => i ≠ id
  | .receive _ now => ∀ started ∈ (s.fsm.allocs.lookup id).bind Alloc.startedAt, started ≤ now
  | _ => True

instance (id : AllocId) (s : ReportSystem) : DecidablePred (s.Lived id)
  | .secondary (.command (.run i _ _)) => inferInstanceAs (Decidable (i ≠ id))
  | .receive _ now => inferInstanceAs (Decidable (∀ started ∈ _, started ≤ now))
  | .secondary (.command (.stop _)) | .secondary (.command (.pull ..)) | .secondary .loop
  | .secondary (.pulled _) | .secondary (.started _) | .secondary (.stopped _)
  | .secondary (.exited ..) | .secondary (.waiter _) | .secondary .tick | .secondary .heartbeat
  | .commit | .otherHeartbeat .. => inferInstanceAs (Decidable True)

structure Counted (id : AllocId) (name : String) (s : ReportSystem) : Prop where
  proper : s.sec.Proper
  tried : ¬ s.sec.view.Trying id
  reported : ∀ c, s.pending = some c → ∃ r, Reported r c
  started : s.fsm.Started id name

variable {id : AllocId} {name : String} {s s' : ReportSystem}

lemma records_receive (h : s.fsm.Started id name) {r : NodeReport} {rs : List NodeReport}
    {order : List (Σ _ : Nat, FsmNode)} {now : SystemTime} (hpending : s.pending = none)
    (hreports : s.sec.reports = r :: rs) (hnow : s.Lived id (.receive order now)) :
    (s.records (.receive order now)).countP (·.1 = id) = r.stops id ∧
      ∀ x ∈ s.records (.receive order now), x.1 = id → x.2.1 = name := by
  obtain ⟨a, ha, hkind, hname, hstarted⟩ := h
  obtain ⟨started, hat⟩ := Option.isSome_iff_exists.mp hstarted
  cases r with
  | stopped i =>
    simp only [records, hpending, hreports]
    by_cases hi : i = id
    · subst hi
      have hle : started ≤ now := hnow started (by rw [ha]; exact hat)
      have hduration : taskDuration s.fsm now i = some (a.name, (now - started).toNat) := by
        simp [taskDuration, ha, hkind, hat, hle]
      simp [hduration, NodeReport.stops, hname]
    · cases taskDuration s.fsm now i with
      | none => simp [NodeReport.stops, hi]
      | some => simp [NodeReport.stops, hi]
  | _ =>
    simp only [records, hpending, hreports]
    exact ⟨rfl, fun x hx => absurd hx List.not_mem_nil⟩

lemma counted_step {e : ReportEvent} (h : s.Counted id name) (he : s.Lived id e)
    (hstep : s.step e = some s') : s'.Counted id name ∧
      (s.records e).countP (·.1 = id) + s'.sec.view.owed id = s.sec.view.owed id + e.stops id ∧
      ∀ x ∈ s.records e, x.1 = id → x.2.1 = name := by
  cases e with
  | secondary =>
    obtain ⟨sec, hsec, rfl⟩ := Option.map_eq_some_iff.mp hstep
    refine ⟨⟨Secondary.proper_step h.proper hsec, fun htry => ?_, h.reported, h.started⟩, ?_,
      fun x hx => absurd hx List.not_mem_nil⟩
    · obtain hold | ⟨spec, auth, rfl⟩ := Secondary.trying_step hsec htry
      · exact h.tried hold
      · exact he rfl
    · exact (Nat.zero_add _).trans (Secondary.owed_step h.proper hsec h.tried)
  | receive =>
    simp only [step] at hstep
    split at hstep
    · rename_i r rs hpending hreports
      split_ifs at hstep with horder
      cases hstep
      obtain ⟨hcount, hnames⟩ := records_receive h.started hpending hreports he
      refine ⟨⟨h.proper, h.tried, fun c hc => ⟨r, reported_of_processReport hc⟩, h.started⟩, ?_,
        hnames⟩
      rw [hcount]
      simp only [SecondaryView.owed, Secondary.view, hreports, List.map_cons, List.sum_cons,
        ReportEvent.stops]
      omega
    · cases hstep
  | commit =>
    obtain ⟨c, hc, rfl⟩ := Option.map_eq_some_iff.mp hstep
    obtain ⟨r, hr⟩ := h.reported c hc
    exact ⟨⟨h.proper, h.tried, nofun, started_applied hr h.started⟩,
      Nat.zero_add _, fun x hx => absurd hx List.not_mem_nil⟩
  | otherHeartbeat n statuses =>
    cases hstep
    have hr : Reported (.heartbeat ⟨⟨""⟩, statuses⟩) (.nodeHeartbeat n statuses) := .heartbeat _ n
    exact ⟨⟨h.proper, h.tried, h.reported, started_applied hr h.started⟩, Nat.zero_add _,
      fun x hx => absurd hx List.not_mem_nil⟩

/-- However the loop, the exit waiters, the heartbeats and the report processor interleave: a task
that has started has as many durations recorded as Stopped reports are owed and Stops are handled
for it. The container that runs owes one, so that it is one duration exactly if no Stop is. -/
theorem task_durations (id : AllocId) (name : String) (s s' : ReportSystem) (es : List ReportEvent)
    (h : s.Counted id name) (hes : Guarded step (Lived id) s es) (hr : run step s es = some s')
    (hend : s'.sec.view.owed id = 0) :
    (s.durations es).countP (·.1 = id) = s.sec.view.owed id + (es.map (ReportEvent.stops id)).sum ∧
    (s.sec.view.owed id = 1 → ((s.durations es).countP (·.1 = id) = 1 ↔ ∀ e ∈ es, e.stops id = 0)) ∧
    ∀ x ∈ s.durations es, x.1 = id → x.2.1 = name := by
  have hinv : s'.Counted id name ∧ (s.durations es).countP (·.1 = id) + s'.sec.view.owed id =
      s.sec.view.owed id + (es.map (ReportEvent.stops id)).sum ∧
      ∀ x ∈ s.durations es, x.1 = id → x.2.1 = name := by
    refine run_invariant_history (P := Lived id)
      (I := fun as t => t.Counted id name ∧ (s.durations as).countP (·.1 = id) +
        t.sec.view.owed id = s.sec.view.owed id + (as.map (ReportEvent.stops id)).sum ∧
        ∀ x ∈ s.durations as, x.1 = id → x.2.1 = name) ?_ ⟨h, by simp [durations, trace], nofun⟩
      hes hr
    rintro as t e t' ht ⟨hcounted, hsum, hnames⟩ he hstep
    obtain ⟨hcounted', hsum', hnames'⟩ := counted_step hcounted he hstep
    rw [durations] at hsum hnames ⊢
    refine ⟨hcounted', ?_, fun x hx => ?_⟩
    · rw [trace_concat ht, List.countP_append, List.map_append, List.sum_append, List.map_singleton,
        List.sum_singleton]
      omega
    · rw [trace_concat ht] at hx
      rcases List.mem_append.mp hx with hx | hx
      · exact hnames x hx
      · exact hnames' x hx
  obtain ⟨-, hsum, hnames⟩ := hinv
  rw [hend, Nat.add_zero] at hsum
  refine ⟨hsum, fun howed => ?_, hnames⟩
  rw [hsum, howed, Nat.add_eq_left, List.sum_eq_zero_iff]
  simp

end

def demoTask : Alloc :=
  { FsmState.makeAlloc ⟨"t"⟩ ⟨"n"⟩ "job" .task none ⟨1, 1⟩ with
    status := .running, startedAt := some 5 }

def demoRunning : ReportSystem where
  sec :=
    { Secondary.init ⟨"n"⟩ none (.withRange 1 1 ∅) with
      allocs := Finmap.singleton ⟨"t"⟩ ⟨⟨"t"⟩, Secondary.demoSpec ⟨"t"⟩, .running, none⟩
      waiters := [⟨⟨"t"⟩, none, .waiting⟩] }
  pending := none
  fsm := { (default : FsmState) with allocs := Finmap.singleton ⟨"t"⟩ demoTask }
  applied := []

lemma counted_demo : demoRunning.Counted ⟨"t"⟩ "job" where
  proper := nofun
  tried := by rintro (h | h | h) <;> cases h
  reported := nofun
  started := ⟨demoTask, rfl, rfl, rfl, rfl⟩

def demoExit (code : Int) : List ReportEvent :=
  [.secondary (.exited 0 (.ok code)), .secondary (.waiter 0), .secondary (.waiter 0),
    .secondary (.waiter 0), .secondary (.waiter 0), .receive [] 9, .commit]

def demoKill : List ReportEvent :=
  [.secondary (.command (.stop ⟨"t"⟩)), .secondary .loop, .secondary (.stopped (.ok 0)),
    .secondary .loop, .secondary .loop, .secondary .loop, .receive [] 8, .commit]

theorem task_durations_exit : demoRunning.durations (demoExit 0) = [(⟨"t"⟩, "job", 4)] ∧
    (demoRunning.durations (demoExit 0)).countP (·.1 = ⟨"t"⟩) = 1 := by
  refine ⟨by decide +kernel, ?_⟩
  exact ((task_durations ⟨"t"⟩ "job" demoRunning _ (demoExit 0) counted_demo (by decide) rfl
    rfl).2.1 rfl).mpr (by decide)

/-- A task that is killed has its duration recorded twice. -/
theorem killed_task_recorded_twice : ∃ s, run step demoRunning (demoKill ++ demoExit 0) = some s ∧
    demoRunning.durations (demoKill ++ demoExit 0) = [(⟨"t"⟩, "job", 3), (⟨"t"⟩, "job", 4)] := by
  refine ⟨_, rfl, by decide +kernel⟩

end ReportSystem

end Mill
