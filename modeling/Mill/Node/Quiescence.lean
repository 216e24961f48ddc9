import Mill.Node.Accounts
import Mill.Node.Restart

/-! One node beside the replicated state, with nothing lost between them. -/

namespace Mill

open Finmap Option Transition

def FsmState.standing (fsm : FsmState) (node : NodeId) (id : AllocId) : Option Bool :=
  (fsm.allocs.lookup id).bind fun a => if a.node = node then some a.status.isTerminal else none

def FsmState.verdict (fsm : FsmState) (node : NodeId) (id : AllocId) : Verdict :=
  if fsm.standing node id = some false then .live else .dead

section

variable {fsm fsm' : FsmState} {node : NodeId} {id : AllocId} {a : Alloc}

lemma standing_of_lookup (h : fsm.allocs.lookup id = some a) (ha : a.node = node) :
    fsm.standing node id = some a.status.isTerminal := by
  rw [FsmState.standing, h, bind_some, if_pos ha]

lemma standing_eq_some {ended : Bool} : fsm.standing node id = some ended ↔
    ∃ a, fsm.allocs.lookup id = some a ∧ a.node = node ∧ a.status.isTerminal = ended := by
  cases h : fsm.allocs.lookup id <;> grind [FsmState.standing]

lemma liveOn_iff_verdict : LiveOn fsm node id ↔ fsm.verdict node id = .live := by
  unfold FsmState.verdict
  split_ifs with h
  · exact iff_of_true (standing_eq_some.mp h) rfl
  · exact iff_of_false (fun hlive => h (standing_eq_some.mpr hlive)) not_false

lemma verdict_congr (h : fsm'.standing node id = fsm.standing node id) :
    fsm'.verdict node id = fsm.verdict node id := by
  rw [FsmState.verdict, FsmState.verdict, h]

end

section

def Command.word (id : AllocId) : Command → Word
  | .allocStatus i status => if i = id then .surely (.ofStatus status) else .silent
  | .nodeHeartbeat _ allocStatuses =>
    match allocStatuses.lookup id with
    | some status => .perhaps (.ofStatus status)
    | none => .silent
  | _ => .silent

variable {fsm : FsmState} {order : List (Σ _ : Nat, FsmNode)} {now : SystemTime} {r : NodeReport}
  {c : Command} {id : AllocId} {node : NodeId}

lemma word_processReport (h : processReport fsm order now r = some c) (id : AllocId) :
    c.word id = r.word id := by
  cases reported_of_processReport h <;> rfl

lemma refines_of_dropped (h : processReport fsm order now r = none) (v : Verdict) (id : AllocId) :
    v.Refines (v.hear (r.word id)) := by
  cases r with
  | heartbeat hb =>
    rw [NodeReport.word]
    cases hb.allocStatuses.lookup id with
    | none => exact .inr rfl
    | some => exact Verdict.refines_hear_perhaps v _
  | pullComplete image | pullFailed image reason => exact .inr rfl
  | _ => cases h

lemma isTerminal_run (a : Alloc) (address : Option SocketAddr) (startedAt : Option SystemTime) :
    (a.run address startedAt).status.isTerminal = a.status.isTerminal := by
  obtain ⟨i, node, name, kind, status, addr, resources, started⟩ := a
  cases status with
  | _ => rfl

lemma isTerminal_heartbeat (a : Alloc) (status : AllocStatus) :
    (a.heartbeat status).status.isTerminal = status.isTerminal := by
  unfold Alloc.heartbeat
  split_ifs with h
  · rw [h.1, h.2]
    rfl
  · rfl

lemma node_applied (hc : c.ofReport = true) :
    ((applyCommand fsm c).1.allocs.lookup id).map Alloc.node =
      (fsm.allocs.lookup id).map Alloc.node := by
  rw [lookup_allocs_applyCommand]
  refine map_allocAfter (fun _ _ _ _ => rfl) id ?_ ?_
  · rintro _ _ _ _ _ rfl
    cases hc
  · rintro _ rfl
    cases hc

lemma verdict_applied (hc : c.ofReport = true)
    (hplace : c.mentions id → ∃ a, fsm.allocs.lookup id = some a ∧ a.node = node) :
    ((applyCommand fsm c).1.verdict node id).Refines ((fsm.verdict node id).hear (c.word id)) := by
  have hafter := lookup_allocs_applyCommand fsm c id
  cases c with
  | nodeHeartbeat n allocStatuses =>
    cases hst : allocStatuses.lookup id <;> cases ha : fsm.allocs.lookup id <;>
      grind [FsmState.verdict, FsmState.standing, Command.word, Verdict.hear,
        Verdict.Refines, Verdict.ofStatus, allocAfter, Alloc.report, isTerminal_heartbeat,
        report_eq, Command.mentions, mem_of_lookup_eq_some]
  | allocStatus =>
    cases ha : fsm.allocs.lookup id <;>
      grind [FsmState.verdict, FsmState.standing, Command.word, Verdict.hear,
        Verdict.Refines, Verdict.ofStatus, allocAfter, Command.mentions]
  | allocRunning =>
    cases ha : fsm.allocs.lookup id <;>
      grind [FsmState.verdict, FsmState.standing, Command.word, Verdict.hear,
        Verdict.Refines, allocAfter, isTerminal_run, run_eq]
  | _ => cases hc

end

/-- A node, the proposal that the report processor is at and the replicated state. `delivered` are
the allocations whose Run has reached the node since they were last scheduled. -/
structure NodeSystem where
  link : NodeLink
  pending : Option Command
  fsm : FsmState
  delivered : Finset AllocId

inductive NodeSystemEvent
  | secondary (e : SecondaryEvent)
  | send (cmd : NodeCommand)
  | deliver
  | receive (order : List (Σ _ : Nat, FsmNode)) (now : SystemTime)
  | commitReport
  | commit (c : Command)

namespace NodeSystem

section

variable (w : NodeSystem)

def Places (id : AllocId) : Prop :=
  (w.fsm.allocs.lookup id).map Alloc.node = some w.link.sec.nodeId

instance (id : AllocId) : Decidable (w.Places id) :=
  inferInstanceAs (Decidable (_ = _))

def deliveredAfter : NodeCommand → Finset AllocId
  | .run id _ _ => insert id w.delivered
  | _ => w.delivered

def scheduledAfter : Command → Finset AllocId
  | .allocScheduled id raftId _ _ _ _ =>
    if raftId ∈ w.fsm.nodes then w.delivered.erase id else w.delivered
  | _ => w.delivered

def step : NodeSystemEvent → Option NodeSystem
  | .secondary (.command _) => none
  | .secondary e => (w.link.sec.step e).map fun sec => { w with link := { w.link with sec } }
  | .send cmd =>
    if ∀ id ∈ cmd.about, w.Places id then
      some { w with link := { w.link with commands := w.link.commands ++ [cmd] } }
    else none
  | .deliver =>
    match w.link.commands with
    | [] => none
    | cmd :: commands => (w.link.sec.step (.command cmd)).map fun sec =>
      { w with link := ⟨sec, commands⟩, delivered := w.deliveredAfter cmd }
  | .receive order now =>
    match w.pending, w.link.sec.reports with
    | none, report :: reports =>
      if w.fsm.nodes.entries = order then
        some { w with
          link := { w.link with sec := { w.link.sec with reports } }
          pending := processReport w.fsm order now report }
      else none
    | _, _ => none
  | .commitReport =>
    w.pending.map fun c => { w with pending := none, fsm := (applyCommand w.fsm c).1 }
  | .commit c =>
    some { w with fsm := (applyCommand w.fsm c).1, delivered := w.scheduledAfter c }

@[mk_iff] structure Quiet : Prop where
  commands : w.link.commands = []
  reports : w.link.sec.reports = []
  pending : w.pending = none
  loop : w.link.sec.loop = .idle
  beat : w.link.sec.pendingHeartbeat = none
  waiters : ∀ x ∈ w.link.sec.waiters, x.pc = .waiting ∨ x.pc = .done

instance : Decidable w.Quiet := decidable_of_iff _ (quiet_iff w).symm

def Agrees : Prop :=
  ∀ id, LiveOn w.fsm w.link.sec.nodeId id ∧ id ∈ w.delivered ↔ id ∈ w.link.sec.allocs

def Knows (id : AllocId) : Prop :=
  w.link.Knows id ∨ ∃ c ∈ w.pending, c.mentions id

instance (id : AllocId) : Decidable (w.Knows id) :=
  inferInstanceAs (Decidable (_ ∨ ∃ c ∈ w.pending, _))

/-- The command leaves it as it was whether the allocation is on the node, over and delivered, or
the node has nothing to do with it and is yet to be told to run it. -/
def Spares (c : Command) (id : AllocId) : Prop :=
  ((applyCommand w.fsm c).1.standing w.link.sec.nodeId id = w.fsm.standing w.link.sec.nodeId id ∧
    (id ∈ w.scheduledAfter c ↔ id ∈ w.delivered)) ∨ ¬ w.Knows id ∧ id ∉ w.scheduledAfter c

instance (c : Command) (id : AllocId) : Decidable (w.Spares c id) :=
  inferInstanceAs (Decidable ((_ = _ ∧ (_ ↔ _)) ∨ ¬ _ ∧ _))

/-- The steps of the secondary are steady, and nobody else ends, revives, moves or reschedules an
allocation that the node is still at. -/
def Steady : NodeSystemEvent → Prop
  | .secondary e => w.link.sec.Steady e
  | .commit c => ∀ id ∈ w.fsm.allocs.keys ∪ (applyCommand w.fsm c).1.allocs.keys, w.Spares c id
  | _ => True

instance : ∀ e, Decidable (w.Steady e) := fun e => by
  unfold Steady
  split <;> infer_instance

def heard (id : AllocId) : Verdict :=
  (w.fsm.verdict w.link.sec.nodeId id).hear (w.pending.elim .silent (Command.word id))

structure Consistent : Prop where
  proper : w.link.sec.Proper
  ofReport : ∀ c, w.pending = some c → c.ofReport = true
  places : ∀ id, w.Knows id → w.Places id
  accounted : Accounted w.link.sec.loop.phase w.link.sec.allocs w.link.sec.waiters
    (told w.heard w.link.sec.reports) w.delivered

end

variable {w w' : NodeSystem} {sec : Secondary} {cmd : NodeCommand} {id : AllocId} {c : Command}

lemma Consistent.agrees (h : w.Consistent) (hq : w.Quiet) : w.Agrees := by
  obtain ⟨hlive, hexiting, -, -, hsettled, hdelivered⟩ := h.accounted
  have hverdict (id : AllocId) : told w.heard w.link.sec.reports id =
      w.fsm.verdict w.link.sec.nodeId id := by
    rw [hq.reports, told, List.foldl_nil, heard, hq.pending]
    rfl
  have hwaiters (x : Waiter) (hx : x ∈ w.link.sec.waiters) :
      x.pc.leaving = false ∧ x.pc.reporting = false := by
    rcases hq.waiters x hx with hpc | hpc <;> simp [hpc, WaiterPc.leaving, WaiterPc.reporting]
  have hloop := hq.loop
  intro id
  rw [liveOn_iff_verdict, Finmap.mem_iff]
  cases hl : w.link.sec.allocs.lookup id with
  | none => grind [LoopPc.phase]
  | some l =>
    have hin := hdelivered id (mem_of_lookup_eq_some hl)
    cases ht : l.status.isTerminal <;> grind

lemma step_secondary {e : SecondaryEvent} (h : w.step (.secondary e) = some w') :
    (∀ cmd, e ≠ .command cmd) ∧ ∃ sec, w.link.sec.step e = some sec ∧
      w' = { w with link := { w.link with sec } } := by
  have hstep : (w.link.sec.step e).map (fun sec => { w with link := { w.link with sec } }) =
      some w' ∧ ∀ cmd, e ≠ .command cmd := by
    cases e with
    | command => cases h
    | _ => exact ⟨h, fun _ => SecondaryEvent.noConfusion⟩
  obtain ⟨sec, hsec, rfl⟩ := map_eq_some_iff.mp hstep.1
  exact ⟨hstep.2, sec, hsec, rfl⟩

lemma Consistent.moved {commands : List NodeCommand} {delivered : Finset AllocId}
    (h : w.Consistent) (hname : sec.nodeId = w.link.sec.nodeId) (hproper : sec.Proper)
    (hknown : ∀ id, NodeLink.Knows ⟨sec, commands⟩ id → w.link.Knows id ∨ w.Places id)
    (hacc : Accounted sec.loop.phase sec.allocs sec.waiters (told w.heard sec.reports) delivered) :
    { w with link := ⟨sec, commands⟩, delivered }.Consistent := by
  have hheard : heard { w with link := ⟨sec, commands⟩, delivered } = w.heard := by
    funext id
    rw [heard, heard, hname]
  refine ⟨hproper, h.ofReport, fun id hid => ?_, ?_⟩
  · have hplaces : w.Places id := by
      rcases hid with hid | hid
      · exact (hknown id hid).elim (fun hold => h.places id (.inl hold)) fun hnew => hnew
      · exact h.places id (.inr hid)
    rw [Places, hname]
    exact hplaces
  · rw [hheard]
    exact hacc

lemma consistent_secondary {e : SecondaryEvent} (h : w.Consistent)
    (hcmd : ∀ cmd, e ≠ .command cmd) (he : w.link.sec.Steady e)
    (hsec : w.link.sec.step e = some sec) : { w with link := { w.link with sec } }.Consistent := by
  have hmoves := Secondary.moves_of_step hsec
  refine h.moved (Secondary.nodeId_step hsec) (Secondary.proper_step h.proper hsec)
    (fun id hid => .inl ?_) (hmoves.accounted h.proper hcmd he h.accounted)
  rcases hid with hid | hid
  · rcases hmoves.knows h.proper hid with hold | ⟨cmd, heq, -⟩
    · exact .inl hold
    · exact absurd heq (hcmd cmd)
  · exact .inr hid

lemma accounted_command {s s' : Secondary} {verdict : AllocId → Verdict}
    (hstep : s.step (.command cmd) = some s')
    (hacc : Accounted s.loop.phase s.allocs s.waiters (told verdict s.reports) w.delivered) :
    Accounted s'.loop.phase s'.allocs s'.waiters (told verdict s'.reports)
      (w.deliveredAfter cmd) := by
  obtain ⟨nodeId, meshIp, ports, allocs, loop, waiters, beat, reports⟩ := s
  cases loop with
  | idle =>
    cases cmd with
    | run id =>
      cases hstep
      exact hacc.run id
    | stop id =>
      cases hstep
      exact hacc.stop id
    | pull =>
      cases hstep
      exact hacc
  | _ => cases hstep

lemma consistent_deliver {commands : List NodeCommand}
    (h : w.Consistent) (hcommands : w.link.commands = cmd :: commands)
    (hsec : w.link.sec.step (.command cmd) = some sec) :
    { w with link := ⟨sec, commands⟩, delivered := w.deliveredAfter cmd }.Consistent := by
  have hmem (cmd' : NodeCommand) (h' : cmd' ∈ cmd :: commands) : cmd' ∈ w.link.commands := by
    rwa [hcommands]
  refine h.moved (Secondary.nodeId_step hsec) (Secondary.proper_step h.proper hsec)
    (fun id hid => .inl ?_) (accounted_command hsec h.accounted)
  rcases hid with hid | ⟨cmd', hcmd', habout⟩
  · rcases (Secondary.moves_of_step hsec).knows h.proper hid with hold | ⟨cmd', heq, habout⟩
    · exact .inl hold
    · cases heq
      exact .inr ⟨cmd, hmem cmd List.mem_cons_self, habout⟩
  · exact .inr ⟨cmd', hmem cmd' (List.mem_cons_of_mem cmd hcmd'), habout⟩

lemma consistent_send (h : w.Consistent) (hcmd : ∀ id ∈ cmd.about, w.Places id) :
    { w with link := { w.link with commands := w.link.commands ++ [cmd] } }.Consistent := by
  refine h.moved rfl h.proper (fun id hid => ?_) h.accounted
  rcases hid with hid | ⟨cmd', hcmd', habout⟩
  · exact .inl (.inl hid)
  · grind [NodeLink.Knows]

lemma consistent_receive {r : NodeReport} {reports : List NodeReport}
    {order : List (Σ _ : Nat, FsmNode)} {now : SystemTime} (h : w.Consistent)
    (hpending : w.pending = none) (hreports : w.link.sec.reports = r :: reports) :
    Consistent { w with
      link := { w.link with sec := { w.link.sec with reports } }
      pending := processReport w.fsm order now r } := by
  have hsub : reports ⊆ w.link.sec.reports := by
    rw [hreports]
    exact List.subset_cons_self r reports
  refine ⟨h.proper, fun c hc => ofReport_processReport hc, fun id hid => h.places id (.inl ?_), ?_⟩
  · rcases hid with (hid | hid) | ⟨c, hc, hid⟩
    · exact .inl (hid.of_subset hsub)
    · exact .inr hid
    · refine .inl (.report r ?_ (mentions_processReport hc hid))
      change r ∈ w.link.sec.reports
      rw [hreports]
      exact List.mem_cons_self
  · have hacc := h.accounted
    rw [hreports] at hacc
    refine hacc.of_refines (told_refines reports fun id => ?_)
    -- the report has become the proposal, or was dropped
    change Verdict.Refines ((w.fsm.verdict w.link.sec.nodeId id).hear
      ((processReport w.fsm order now r).elim .silent (Command.word id)))
      ((w.heard id).hear (r.word id))
    have hheard : w.heard id = w.fsm.verdict w.link.sec.nodeId id := by
      rw [heard, hpending]
      rfl
    rw [hheard]
    cases hc : processReport w.fsm order now r with
    | none => exact refines_of_dropped hc _ id
    | some =>
      refine .inr ?_
      rw [← word_processReport hc id]
      rfl

lemma Places.exists_alloc (h : w.Places id) :
    ∃ a, w.fsm.allocs.lookup id = some a ∧ a.node = w.link.sec.nodeId :=
  map_eq_some_iff.mp h

lemma places_iff_standing : w.Places id ↔ (w.fsm.standing w.link.sec.nodeId id).isSome = true := by
  rw [isSome_iff_exists]
  constructor
  · intro h
    obtain ⟨a, ha, hnode⟩ := h.exists_alloc
    exact ⟨_, standing_of_lookup ha hnode⟩
  · rintro ⟨ended, h⟩
    obtain ⟨a, ha, hnode, -⟩ := standing_eq_some.mp h
    exact map_eq_some_iff.mpr ⟨a, ha, hnode⟩

lemma consistent_commitReport (h : w.Consistent) (hc : w.pending = some c) :
    { w with pending := none, fsm := (applyCommand w.fsm c).1 }.Consistent := by
  have hof := h.ofReport c hc
  refine ⟨h.proper, fun c' hc' => ?_, fun id hid => ?_, ?_⟩
  · cases hc'
  · have hknown : w.Knows id := by
      rcases hid with hid | ⟨c', hc', -⟩
      · exact .inl hid
      · cases hc'
    exact (node_applied hof).trans (h.places id hknown)
  · refine h.accounted.of_refines (told_refines _ fun id => ?_)
    have hplace (hid : c.mentions id) : ∃ a, w.fsm.allocs.lookup id = some a ∧
        a.node = w.link.sec.nodeId := (h.places id (.inr ⟨c, hc, hid⟩)).exists_alloc
    have hverdict := verdict_applied hof hplace
    change ((applyCommand w.fsm c).1.verdict w.link.sec.nodeId id).Refines (w.heard id)
    rw [heard, hc]
    exact hverdict

lemma spares_of_notMem (h : id ∉ w.fsm.allocs)
    (h' : id ∉ (applyCommand w.fsm c).1.allocs) : w.Spares c id := by
  have hnone := lookup_eq_none.mpr h
  have hnone' := lookup_eq_none.mpr h'
  refine .inl ⟨?_, ?_⟩
  · rw [FsmState.standing, FsmState.standing, hnone, hnone']
  · cases c with
    | allocScheduled i =>
      rw [lookup_allocs_applyCommand] at hnone'
      simp only [scheduledAfter]
      split_ifs with hn
      · obtain ⟨node, hnode⟩ := Finmap.mem_iff.mp hn
        have hne : id ≠ i := by
          rintro rfl
          simp only [allocAfter, hnode, if_pos] at hnone'
          cases hnone'
        rw [Finset.mem_erase, and_iff_right hne]
      · rfl
    | _ => rfl

lemma consistent_commit (h : w.Consistent) (hc : w.Steady (.commit c)) :
    { w with fsm := (applyCommand w.fsm c).1, delivered := w.scheduledAfter c }.Consistent := by
  have hspares (id : AllocId) : w.Spares c id := by
    by_cases hid : id ∈ w.fsm.allocs ∨ id ∈ (applyCommand w.fsm c).1.allocs
    · exact hc id (Finset.mem_union.mpr (hid.imp mem_keys.mpr mem_keys.mpr))
    · obtain ⟨hbefore, hafter⟩ := not_or.mp hid
      exact spares_of_notMem hbefore hafter
  refine ⟨h.proper, h.ofReport, fun id hid => ?_, h.accounted.congr fun id hid => ?_⟩
  · rcases hspares id with ⟨hstanding, -⟩ | ⟨hno, -⟩
    · rw [places_iff_standing]
      change ((applyCommand w.fsm c).1.standing w.link.sec.nodeId id).isSome = true
      rw [hstanding]
      exact places_iff_standing.mp (h.places id hid)
    · exact absurd hid hno
  · have hkept : (applyCommand w.fsm c).1.standing w.link.sec.nodeId id =
        w.fsm.standing w.link.sec.nodeId id ∧ (id ∈ w.scheduledAfter c ↔ id ∈ w.delivered) := by
      rcases hspares id with hkept | ⟨hno, hout⟩
      · exact hkept
      · rcases hid with hin | ⟨ph, hph⟩ | hin
        · exact absurd (.inl (.inl (.entry hin))) hno
        · exact absurd (.inl (.inl (.loop ph hph))) hno
        · exact absurd hin hout
    refine ⟨told_congr _ ?_, hkept.2⟩
    rw [heard, heard, verdict_congr hkept.1]

lemma consistent_step {e : NodeSystemEvent} (h : w.Consistent) (he : w.Steady e)
    (hstep : w.step e = some w') : w'.Consistent := by
  cases e with
  | secondary =>
    obtain ⟨hcmd, sec, hsec, rfl⟩ := step_secondary hstep
    exact consistent_secondary h hcmd he hsec
  | send =>
    simp only [step] at hstep
    split_ifs at hstep with hcmd
    cases hstep
    exact consistent_send h hcmd
  | deliver =>
    simp only [step] at hstep
    split at hstep
    · cases hstep
    · rename_i cmd commands hcommands
      obtain ⟨sec, hsec, rfl⟩ := map_eq_some_iff.mp hstep
      exact consistent_deliver h hcommands hsec
  | receive =>
    simp only [step] at hstep
    split at hstep
    · rename_i r reports hpending hreports
      split_ifs at hstep
      cases hstep
      exact consistent_receive h hpending hreports
    · cases hstep
  | commitReport =>
    obtain ⟨c, hc, rfl⟩ := map_eq_some_iff.mp hstep
    exact consistent_commitReport h hc
  | commit =>
    cases hstep
    exact consistent_commit h he

def start (fsm : FsmState) (nodeId : NodeId) (meshIp : Option IpAddr) (ports : PortPool) :
    NodeSystem := ⟨⟨.init nodeId meshIp ports, []⟩, none, fsm, ∅⟩

lemma consistent_start (fsm : FsmState) (nodeId : NodeId) (meshIp : Option IpAddr)
    (ports : PortPool) : (start fsm nodeId meshIp ports).Consistent := by
  have hempty (id : AllocId) : id ∉ (∅ : AllocationMap) := notMem_empty
  refine ⟨nofun, nofun, ?_, ?_, ?_, ?_, ?_, ?_, ?_⟩
  rotate_left
  · exact fun id l h => absurd (mem_of_lookup_eq_some h) (hempty id)
  · exact fun id l h => absurd (mem_of_lookup_eq_some h) (hempty id)
  · exact fun _ h => absurd h List.not_mem_nil
  · exact nofun
  · exact fun id h => absurd h (Finset.notMem_empty id)
  · exact fun id h => absurd h (hempty id)
  rintro id ((hid | ⟨cmd, hcmd, -⟩) | ⟨c, hc, -⟩)
  · exact absurd hid Secondary.not_knows_init
  · cases hcmd
  · cases hc

/-- However the node, its reports and everything else interleave: if every container that is asked
for gets its port, none is started over while an exit waiter has yet to finish, heartbeats are sent
while they are true and nobody else interferes with what the node is at, the state and the node
agree whenever nothing is under way. -/
theorem quiescent_agreement {fsm : FsmState} {nodeId : NodeId} {meshIp : Option IpAddr}
    {ports : PortPool} {es : List NodeSystemEvent}
    (hsteady : Guarded step Steady (start fsm nodeId meshIp ports) es)
    (hrun : run step (start fsm nodeId meshIp ports) es = some w) (hquiet : w.Quiet) :
    w.Agrees := by
  have hconsistent : w.Consistent := by
    refine run_invariant (I := Consistent) ?_ (consistent_start fsm nodeId meshIp ports) hsteady
      hrun
    intro w e w' hw he hstep
    exact consistent_step hw he hstep
  exact hconsistent.agrees hquiet

def demoOrder : List (Σ _ : Nat, FsmNode) := [⟨1, .demo 1 "a"⟩]

def demoFsm : FsmState :=
  applyAll { (default : FsmState) with nodes := Finmap.singleton 1 (.demo 1 "a") }
    [.allocScheduled ⟨"web-0"⟩ 1 "web" .service none ⟨1, 1⟩,
      .allocScheduled ⟨"web-1"⟩ 1 "web" .service none ⟨1, 1⟩]

def demoStart : NodeSystem := start demoFsm ⟨"a"⟩ none (.withRange 50000 50000 ∅)

def demoRun (id : AllocId) : List NodeSystemEvent :=
  [.send (.run id (Secondary.demoSpec id) none), .deliver,
    .secondary .loop, .secondary .loop, .secondary (.pulled (.ok ())), .secondary .loop,
    .receive demoOrder 1, .commitReport, .receive demoOrder 2, .commitReport]

def demoUp : List NodeSystemEvent :=
  demoRun ⟨"web-0"⟩ ++
    [.secondary .loop, .secondary (.started (.ok ())), .secondary .loop, .secondary .loop,
      .secondary .loop, .receive demoOrder 3, .commitReport, .secondary .tick,
      .secondary .heartbeat, .receive demoOrder 4, .commitReport]

def demoExhausted : List NodeSystemEvent := demoUp ++ demoRun ⟨"web-1"⟩ ++ [.secondary .loop]

theorem quiescent_agreement_one_up : ∃ w, run step demoStart demoUp = some w ∧ w.Quiet ∧
    w.link.sec.allocs.keys = {⟨"web-0"⟩} ∧ w.Agrees := by
  refine exists_end (p := fun w => w.Quiet ∧ w.link.sec.allocs.keys = {⟨"web-0"⟩})
    (by decide +kernel) fun w hw ⟨hquiet, hkeys⟩ => ?_
  exact ⟨hquiet, hkeys, quiescent_agreement (by decide +kernel) hw hquiet⟩

/-- When the ports have run out, the node gives an allocation up without a word: nothing is under
way any more, and the state has it at Starting for good. -/
theorem exhausted_port_not_reported : ∃ w a, run step demoStart demoExhausted = some w ∧
    w.Quiet ∧ w.fsm.allocs.lookup ⟨"web-1"⟩ = some a ∧ a.node = w.link.sec.nodeId ∧
    a.status = .starting ∧ ⟨"web-1"⟩ ∈ w.delivered ∧ w.link.sec.allocs.keys = {⟨"web-0"⟩} ∧
    ¬ w.Agrees := by
  have hrun : (run step demoStart demoExhausted).bind (fun w =>
      (w.fsm.allocs.lookup ⟨"web-1"⟩).map fun a => (decide w.Quiet,
        decide (a.node = w.link.sec.nodeId), a.status, decide (⟨"web-1"⟩ ∈ w.delivered),
        w.link.sec.allocs.keys)) = some (true, true, .starting, true, {⟨"web-0"⟩}) := by
    decide +kernel
  obtain ⟨w, hw, h⟩ := bind_eq_some_iff.mp hrun
  obtain ⟨a, ha, heq⟩ := map_eq_some_iff.mp h
  simp only [Prod.mk.injEq, decide_eq_true_eq] at heq
  obtain ⟨hquiet, hnode, hstatus, hdelivered, hkeys⟩ := heq
  refine ⟨w, a, hw, hquiet, ha, hnode, hstatus, hdelivered, hkeys, fun hagrees => ?_⟩
  have hin := (hagrees ⟨"web-1"⟩).mp ⟨⟨a, ha, hnode, by rw [hstatus]; rfl⟩, hdelivered⟩
  rw [← mem_keys, hkeys] at hin
  exact absurd hin (by decide)

end NodeSystem

end Mill
