import Mill.Node.References
import Mill.Node.TaskDurations

/-! The status that an allocation ends with when its container exits on its own. -/

namespace Mill

open List Option Transition

namespace SecondaryView

def words (v : SecondaryView) : List NodeReport :=
  v.reports ++ (v.beat.map NodeReport.heartbeat).toList

def Silent (v : SecondaryView) (id : AllocId) : Prop :=
  ¬ { v with beat := none, reports := [] }.Knows id

end SecondaryView

namespace Secondary

variable {s : Secondary} {e : SecondaryEvent} {v : SecondaryView} {id : AllocId}

lemma Moves.silent (hs : s.Proper) (h : s.Moves e v) (hid : s.view.Silent id)
    (he : ∀ cmd, e = .command cmd → cmd.about ≠ some id) :
    v.Silent id ∧ ∃ as bs cs, s.view.words = as ++ cs ∧ v.words = as ++ bs ++ cs ∧
      ∀ r ∈ bs, ¬ r.mentions id := by
  let unsaid : Secondary := { s with pendingHeartbeat := none, reports := [] }
  -- the same move where nothing is on its way shows what is new
  have hmove {rs : List NodeReport} (hreports : v.reports = s.reports ++ rs)
      (hbeat : v.beat = s.pendingHeartbeat)
      (hmoves : unsaid.Moves e { v with beat := none, reports := rs }) :
      v.Silent id ∧ ∃ as bs cs, s.view.words = as ++ cs ∧ v.words = as ++ bs ++ cs ∧
        ∀ r ∈ bs, ¬ r.mentions id := by
    have hnew : ¬ { v with beat := none, reports := rs }.Knows id := by
      intro hknows
      rcases Moves.knows (s := unsaid) hs hmoves hknows with hknown | ⟨cmd, rfl, hcmd⟩
      · exact hid hknown
      · exact he cmd rfl hcmd
    refine ⟨fun h => hnew (.of_subset h nofun), s.reports, rs, _, rfl, ?_, fun r hr hm => ?_⟩
    · rw [SecondaryView.words, hreports, hbeat]
      rfl
    · exact hnew (.report r hr hm)
  cases h with
  | tick hbeat =>
    refine ⟨hid, s.reports, [.heartbeat ⟨s.nodeId, s.allocs.allStatuses⟩], [], ?_, ?_, ?_⟩
    · simp [SecondaryView.words, view, hbeat]
    · simp [SecondaryView.words, view]
    · intro r hr hm
      rw [mem_singleton.mp hr] at hm
      exact hid (.entry (AllocationMap.mem_allStatuses.mp hm))
  | @heartbeat hb hbeat =>
    refine ⟨hid, s.reports ++ [.heartbeat hb], [], [], ?_, ?_, nofun⟩
    · simp [SecondaryView.words, view, hbeat]
    · simp [SecondaryView.words, view, SecondaryView.send]
  | announce h => exact hmove rfl rfl (.announce h)
  | starting h => exact hmove rfl rfl (.starting h)
  | started h => exact hmove rfl rfl (.started h)
  | runFailed h => exact hmove rfl rfl (.runFailed h)
  | stopped h => exact hmove rfl rfl (.stopped h)
  | pulled h => exact hmove rfl rfl (.pulled h)
  | report h h' => exact hmove rfl rfl (.report h h')
  | exhausted h hport hnone => exact hmove (append_nil _).symm rfl (.exhausted h hport hnone)
  | _ =>
    refine hmove (append_nil _).symm rfl ?_
    constructor <;> assumption

end Secondary

namespace AllocStatus

/-- What a heartbeat that says `said` of the allocation, or nothing, makes of its status. -/
def beaten (status : AllocStatus) : Option AllocStatus → AllocStatus
  | some said => if status = .healthy ∧ said = .running then status else said
  | none => status

def run (status : AllocStatus) : AllocStatus := if status.isPending then .running else status

end AllocStatus

def NodeReport.turns (known : NodeId → Bool) (id : AllocId) (status : AllocStatus) :
    NodeReport → AllocStatus
  | .runStarted i _ _ => if id = i then status.run else status
  | .runFailed i reason => if id = i then .failed reason else status
  | .stopped i exitCode => if id = i then .stopped exitCode else status
  | .statusUpdate i said => if id = i then said else status
  | .heartbeat hb => if known hb.nodeId then status.beaten (hb.allocStatuses.lookup id) else status
  | .pullComplete _ | .pullFailed _ _ => status

def Command.turns (fsm : FsmState) (id : AllocId) (status : AllocStatus) : Command → AllocStatus
  | .allocRunning i _ _ => if id = i then status.run else status
  | .allocStatus i said => if id = i then said else status
  | .nodeHeartbeat n allocStatuses =>
    if n ∈ fsm.nodes then status.beaten (allocStatuses.lookup id) else status
  | _ => status

variable {fsm : FsmState} {c : Command} {r : NodeReport} {id : AllocId} {status : AllocStatus}

lemma NodeReport.turns_of_not_mentions {known : NodeId → Bool} (h : ¬ r.mentions id) :
    r.turns known id status = status := by
  cases r <;> grind [turns, mentions, AllocStatus.beaten, Finmap.lookup_eq_none]

lemma status_report (allocStatuses : Finmap fun _ : AllocId => AllocStatus) (a : Alloc) :
    (a.report allocStatuses id).status = a.status.beaten (allocStatuses.lookup id) := by
  unfold Alloc.report Alloc.heartbeat
  cases allocStatuses.lookup id <;> grind [AllocStatus.beaten]

lemma status_run (a : Alloc) (address : Option SocketAddr) (startedAt : Option SystemTime) :
    (a.run address startedAt).status = a.status.run := by
  unfold Alloc.run AllocStatus.run
  split_ifs <;> rfl

lemma status_applied (hc : c.ofReport = true) :
    ((applyCommand fsm c).1.allocs.lookup id).map Alloc.status =
      ((fsm.allocs.lookup id).map Alloc.status).map fun status => c.turns fsm id status := by
  rw [lookup_allocs_applyCommand]
  cases c <;> cases ha : fsm.allocs.lookup id <;>
    grind [allocAfter, Command.turns, Command.ofReport, status_report, status_run]

lemma registered_applied (hc : c.ofReport = true) :
    (applyCommand fsm c).1.registered = fsm.registered := by
  funext m
  refine FsmState.registered_applyCommand ?_ ?_ m
  · rintro _ _ _ _ _ _ _ _ rfl
    cases hc
  · rintro _ rfl
    cases hc

lemma turns_applied {c' : Command} (hc : c.ofReport = true) :
    c'.turns (applyCommand fsm c).1 id status = c'.turns fsm id status := by
  cases c' with
  | nodeHeartbeat n =>
    have hmem : n ∈ (applyCommand fsm c).1.nodes ↔ n ∈ fsm.nodes := by
      refine mem_nodes_applyCommand ?_ ?_
      · rintro _ _ _ _ _ _ _ rfl
        cases hc
      · rintro rfl
        cases hc
    simp only [Command.turns, hmem]
  | _ => rfl

lemma turns_processReport {order : List (Σ _ : Nat, FsmNode)} (horder : fsm.nodes.entries = order)
    {now : SystemTime} : (processReport fsm order now r).elim status (Command.turns fsm id status) =
      r.turns fsm.registered id status := by
  cases r with
  | heartbeat hb =>
    simp only [processReport, NodeReport.turns]
    cases hfind : order.find? fun n => n.2.millId == hb.nodeId with
    | none =>
      have hknown : fsm.registered hb.nodeId = false := by
        refine Finmap.any_eq_false.mpr fun k n hn => ?_
        have hmem := (Finmap.mem_iff_of_entries horder).mpr hn
        simpa using List.find?_eq_none.mp hfind _ hmem
      rw [hknown]
      rfl
    | some n =>
      have hlookup := (Finmap.mem_iff_of_entries horder).mp (List.mem_of_find?_eq_some hfind)
      have hknown : fsm.registered hb.nodeId = true :=
        Finmap.any_eq_true.mpr ⟨n.1, n.2, hlookup, by simpa using List.find?_some hfind⟩
      rw [hknown]
      exact if_pos (Finmap.mem_of_lookup_eq_some hlookup)
  | _ => rfl

namespace ReportSystem

variable {s s' : ReportSystem}

def outlook (s : ReportSystem) (id : AllocId) : Option AllocStatus :=
  ((s.fsm.allocs.lookup id).map Alloc.status).map fun status =>
    s.sec.view.words.foldl (NodeReport.turns s.fsm.registered id)
      (s.pending.elim status (Command.turns s.fsm id status))

structure Left (id : AllocId) (s : ReportSystem) : Prop where
  proper : s.sec.Proper
  silent : s.sec.view.Silent id
  ofReport : ∀ c, s.pending = some c → c.ofReport = true

def Leaves (id : AllocId) : ReportEvent → Prop
  | .secondary (.command cmd) => cmd.about ≠ some id
  | .otherHeartbeat _ allocStatuses => id ∉ allocStatuses
  | _ => True

lemma outlook_secondary (h : s.Left id) {e : SecondaryEvent} {sec : Secondary}
    (he : Leaves id (.secondary e)) (hsec : s.sec.step e = some sec) :
    sec.view.Silent id ∧ { s with sec }.outlook id = s.outlook id := by
  obtain ⟨hsilent, as, bs, cs, hwords, hwords', hbs⟩ :=
    (Secondary.moves_of_step hsec).silent h.proper h.silent (by rintro cmd rfl; exact he)
  refine ⟨hsilent, ?_⟩
  have hsame (status : AllocStatus) :
      bs.foldl (NodeReport.turns s.fsm.registered id) status = status := by
    clear hwords'
    induction bs with
    | nil => rfl
    | cons r bs ih =>
      rw [foldl_cons, NodeReport.turns_of_not_mentions (hbs r mem_cons_self)]
      exact ih fun r' hr' => hbs r' (mem_cons_of_mem r hr')
  simp only [outlook, hwords, hwords', foldl_append, hsame]

lemma outlook_step {e : ReportEvent} (h : s.Left id) (he : Leaves id e)
    (hstep : s.step e = some s') : s'.Left id ∧ s'.outlook id = s.outlook id := by
  cases e with
  | secondary =>
    obtain ⟨sec, hsec, rfl⟩ := map_eq_some_iff.mp hstep
    obtain ⟨hsilent, hout⟩ := outlook_secondary h he hsec
    exact ⟨⟨Secondary.proper_step h.proper hsec, hsilent, h.ofReport⟩, hout⟩
  | receive =>
    simp only [step] at hstep
    split at hstep
    · rename_i r rs hpending hreports
      split_ifs at hstep with horder
      cases hstep
      refine ⟨⟨h.proper, h.silent, fun c hc => ofReport_processReport hc⟩, ?_⟩
      simp only [outlook, hpending, SecondaryView.words, Secondary.view, hreports, cons_append,
        foldl_cons, turns_processReport horder, elim_none]
    · cases hstep
  | commit =>
    obtain ⟨c, hc, rfl⟩ := map_eq_some_iff.mp hstep
    have hof := h.ofReport c hc
    refine ⟨⟨h.proper, h.silent, by rintro _ ⟨⟩⟩, ?_⟩
    simp only [outlook, hc, status_applied hof, registered_applied hof, Option.map_map,
      Function.comp_def, elim_none, elim_some]
  | otherHeartbeat n allocStatuses =>
    cases hstep
    have hof : (Command.nodeHeartbeat n allocStatuses).ofReport = true := rfl
    have hsame (status : AllocStatus) :
        (Command.nodeHeartbeat n allocStatuses).turns s.fsm id status = status := by
      have hnone : allocStatuses.lookup id = none := Finmap.lookup_eq_none.mpr he
      simp only [Command.turns, hnone, AllocStatus.beaten, ite_self]
    refine ⟨⟨h.proper, h.silent, h.ofReport⟩, ?_⟩
    have hturns (status : AllocStatus) :
        Command.turns (applyCommand s.fsm (.nodeHeartbeat n allocStatuses)).1 id status =
          Command.turns s.fsm id status := funext fun c => turns_applied hof
    simp only [outlook, status_applied hof, registered_applied hof, hturns, hsame, Option.map_id']

structure Exiting (id : AllocId) (i : Nat) (s : ReportSystem) : Prop where
  proper : s.sec.Proper
  ofReport : ∀ c, s.pending = some c → c.ofReport = true
  gone : id ∉ s.sec.allocs
  idle : ∀ phase, s.sec.loop.phase ≠ some (id, phase)
  alone : ∀ j w, s.sec.waiters[j]? = some w → j ≠ i → w.allocId = id → w.pc = .done

def lateWord (s : ReportSystem) (id : AllocId) : Option AllocStatus :=
  s.sec.pendingHeartbeat.bind fun hb =>
    if s.fsm.registered hb.nodeId then hb.allocStatuses.lookup id else none

def Classified (exitCode : Int) : AllocStatus → Prop
  | .stopped _ => exitCode = 0
  | .failed _ => exitCode ≠ 0
  | _ => False

lemma left_of_exiting {i : Nat} {hostPort : Option Nat} {exitCode : Int} (h : s.Exiting id i)
    (hw : s.sec.waiters[i]? = some ⟨id, hostPort, .report exitCode⟩)
    (hstep : s.step (.secondary (.waiter i)) = some s') :
    s'.Left id ∧ s'.outlook id = (s.fsm.allocs.lookup id).map fun _ =>
      (s.lateWord id).getD (.stopped exitCode) := by
  obtain ⟨sec, hsec, rfl⟩ := map_eq_some_iff.mp hstep
  simp only [Secondary.step, hw, Secondary.waiterStep, map_some, Option.some.injEq] at hsec
  subst hsec
  refine ⟨⟨h.proper, ?_, h.ofReport⟩, ?_⟩
  · rintro (hin | ⟨phase, hphase⟩ | ⟨w, hmem, hid, hpc⟩ | ⟨hb, hhb, -⟩ | ⟨r, hr, -⟩)
    · exact h.gone hin
    · exact h.idle phase hphase
    · obtain ⟨j, hj⟩ := mem_iff_getElem?.mp hmem
      obtain ⟨-, rfl⟩ | ⟨hne, hold⟩ := List.of_getElem?_set hj
      · exact hpc rfl
      · exact hpc (h.alone j w hold hne hid)
    · cases hhb
    · cases hr
  · simp only [outlook, SecondaryView.words, Secondary.view, Secondary.send, foldl_append,
      foldl_cons, foldl_nil, Option.map_map, Function.comp_def, NodeReport.turns, if_true]
    congr 1
    funext a
    cases hbeat : s.sec.pendingHeartbeat with
    | none => simp [lateWord, hbeat]
    | some hb =>
      simp only [lateWord, hbeat, map_some, toList_some, foldl_cons,
        foldl_nil, bind_some, NodeReport.turns]
      split_ifs
      · cases hb.allocStatuses.lookup id with
        | none => rfl
        | some => simp [AllocStatus.beaten]
      · rfl

/-- However the heartbeats and the report processor go on beside an exit waiter that is about to
send its Stopped: in the end the status is the one that a heartbeat put together before and sent
after it says, and Stopped without such a heartbeat, whatever the exit code. So it is Stopped for
zero and Failed for the rest exactly if there is no such heartbeat or it says Stopped, or it says
Failed. -/
theorem exit_status_iff (id : AllocId) (i : Nat) (hostPort : Option Nat) (exitCode : Int)
    (s s₁ s' : ReportSystem) (a : Alloc) (es : List ReportEvent) (h : s.Exiting id i)
    (ha : s.fsm.allocs.lookup id = some a)
    (hw : s.sec.waiters[i]? = some ⟨id, hostPort, .report exitCode⟩)
    (hsent : s.step (.secondary (.waiter i)) = some s₁) (hes : ∀ e ∈ es, Leaves id e)
    (hr : run step s₁ es = some s') (hpending : s'.pending = none)
    (hwords : s'.sec.view.words = []) :
    ∃ a', s'.fsm.allocs.lookup id = some a' ∧ a'.status = (s.lateWord id).getD (.stopped exitCode) ∧
      (Classified exitCode a'.status ↔
        exitCode = 0 ∧ (∀ said, s.lateWord id = some said → ∃ code, said = .stopped code) ∨
        exitCode ≠ 0 ∧ ∃ reason, s.lateWord id = some (.failed reason)) := by
  obtain ⟨hleft, hout⟩ := left_of_exiting h hw hsent
  have hinv : s'.Left id ∧ s'.outlook id = s₁.outlook id := by
    refine run_invariant (P := fun _ e => Leaves id e)
      (I := fun t => t.Left id ∧ t.outlook id = s₁.outlook id) ?_ ⟨hleft, rfl⟩
      (guarded_of_forall s₁ fun e he _ => hes e he) hr
    rintro t e t' ⟨ht, hsame⟩ he hstep
    obtain ⟨ht', hsame'⟩ := outlook_step ht he hstep
    exact ⟨ht', hsame'.trans hsame⟩
  have hstatus : (s'.fsm.allocs.lookup id).map Alloc.status =
      some ((s.lateWord id).getD (.stopped exitCode)) := by
    rw [← map_some (f := fun _ : Alloc => (s.lateWord id).getD (.stopped exitCode)) (a := a),
      ← ha, ← hout, ← hinv.2]
    simp only [outlook, hpending, hwords, foldl_nil, elim_none, Option.map_id']
  obtain ⟨a', ha', hlast⟩ := map_eq_some_iff.mp hstatus
  refine ⟨a', ha', hlast, ?_⟩
  rw [hlast]
  cases s.lateWord id with
  | none => simp [Classified]
  | some said => cases said <;> simp [Classified]

def demoKnown : ReportSystem :=
  { demoRunning with
    fsm := { demoRunning.fsm with nodes := Finmap.singleton 1 (.demo 1 "n") } }

def demoExited (code : Int) : ReportSystem :=
  { demoKnown with
    sec := { demoKnown.sec with allocs := ∅, waiters := [⟨⟨"t"⟩, none, .report code⟩] } }

def demoTaken : List ReportEvent := [.receive [⟨1, .demo 1 "n"⟩] 9, .commit]

theorem exit_status_iff_zero : ∃ s₁ s' a', (demoExited 0).step (.secondary (.waiter 0)) = some s₁ ∧
    run step s₁ demoTaken = some s' ∧ s'.fsm.allocs.lookup ⟨"t"⟩ = some a' ∧
    Classified 0 a'.status := by
  have h : (demoExited 0).Exiting ⟨"t"⟩ 0 := by
    refine ⟨nofun, nofun, Finmap.notMem_empty,
      nofun, fun j w hj hne _ => ?_⟩
    cases j with
    | zero => exact absurd rfl hne
    | succ => cases hj
  obtain ⟨a', ha', -, hiff⟩ := exit_status_iff ⟨"t"⟩ 0 none 0 (demoExited 0) _ _ demoTask demoTaken
    h rfl rfl rfl (by simp [demoTaken, Leaves]) rfl rfl rfl
  exact ⟨_, _, a', rfl, rfl, ha', hiff.mpr (.inl ⟨rfl, nofun⟩)⟩

/-- A task that exits with code 1 ends as Stopped; and one that exits with code 0 ends as Running
where the heartbeat was put together before and is sent after its Stopped. -/
theorem exited_task_misclassified :
    (∃ s a, run step demoKnown ((demoExit 1).take 5 ++ demoTaken) = some s ∧
      s.fsm.allocs.lookup ⟨"t"⟩ = some a ∧ a.status = .stopped 1) ∧
    ∃ s a, run step demoKnown (.secondary .tick :: (demoExit 0).take 5 ++
        .secondary .heartbeat :: demoTaken ++ demoTaken) = some s ∧
      s.fsm.allocs.lookup ⟨"t"⟩ = some a ∧ a.status = .running := by
  exact ⟨⟨_, _, rfl, rfl, rfl⟩, ⟨_, _, rfl, rfl, rfl⟩⟩

end ReportSystem

end Mill
