import Mill.Node.Report
import Mill.Node.SecondaryView

/-! Whose allocations a report changes. -/

namespace Mill

open List Option Transition

section

def Command.mentions (id : AllocId) : Command → Prop
  | .nodeHeartbeat _ allocStatuses => id ∈ allocStatuses
  | .allocStatus i _ | .allocRunning i _ _ => i = id
  | _ => False

instance (id : AllocId) : DecidablePred (Command.mentions id)
  | .nodeHeartbeat _ allocStatuses => inferInstanceAs (Decidable (id ∈ allocStatuses))
  | .allocStatus i _ | .allocRunning i _ _ => inferInstanceAs (Decidable (i = id))
  | .deploy _ | .nodeRegister .. | .nodeDown _ | .allocScheduled .. | .secretSet ..
  | .secretDelete _ | .volumeCreated .. | .volumeAttached .. | .volumeDetached _
  | .volumeDestroyed _ | .nodeDrain _ | .nodeRemove _ => inferInstanceAs (Decidable False)

def Command.ofReport : Command → Bool
  | .nodeHeartbeat .. | .allocStatus .. | .allocRunning .. => true
  | _ => false

variable {fsm : FsmState} {order : List (Σ _ : Nat, FsmNode)} {now : SystemTime} {r : NodeReport}
  {c : Command} {id : AllocId}

lemma ofReport_processReport (h : processReport fsm order now r = some c) : c.ofReport = true := by
  cases reported_of_processReport h <;> rfl

lemma mentions_processReport (h : processReport fsm order now r = some c)
    (hid : c.mentions id) : r.mentions id := by
  cases reported_of_processReport h <;> exact hid

lemma of_lookup_ne (hc : c.ofReport = true)
    (hne : (applyCommand fsm c).1.allocs.lookup id ≠ fsm.allocs.lookup id) :
    c.mentions id ∧ ∃ a, fsm.allocs.lookup id = some a := by
  rw [lookup_allocs_applyCommand] at hne
  cases c with
  | nodeHeartbeat n allocStatuses =>
    cases ha : fsm.allocs.lookup id <;> cases hst : allocStatuses.lookup id <;>
      grind [allocAfter, Command.mentions, Alloc.report, Finmap.mem_iff]
  | _ =>
    cases ha : fsm.allocs.lookup id <;>
      grind [allocAfter, Command.mentions, Command.ofReport]

end

section

variable {running : List AllocId} {recover : AllocId → Except String RecoveredContainer}
  {sec : Secondary} {id i : AllocId}

lemma Secondary.knows_rehydrate (h : (sec.rehydrate running recover id).view.Knows i) :
    sec.view.Knows i ∨ i = id := by
  rw [SecondaryView.knows_iff] at h ⊢
  unfold Secondary.rehydrate at h
  grind [Secondary.view, Secondary.send, NodeReport.mentions, AllocationMap.insertNew,
    Finmap.mem_insert]

lemma Secondary.nodeId_rehydrate (running : List AllocId)
    (recover : AllocId → Except String RecoveredContainer) (sec : Secondary) (id : AllocId) :
    (rehydrate running recover sec id).nodeId = sec.nodeId ∧
      (rehydrate running recover sec id).loop = sec.loop := by
  unfold Secondary.rehydrate
  dsimp only
  split_ifs
  · split
    · exact ⟨rfl, rfl⟩
    · split <;> exact ⟨rfl, rfl⟩
  · exact ⟨rfl, rfl⟩

end

structure NodeLink where
  sec : Secondary
  commands : List NodeCommand

def NodeLink.Knows (link : NodeLink) (id : AllocId) : Prop :=
  link.sec.view.Knows id ∨ ∃ cmd ∈ link.commands, cmd.about = some id

instance (link : NodeLink) (id : AllocId) : Decidable (link.Knows id) :=
  inferInstanceAs (Decidable (_ ∨ ∃ cmd ∈ link.commands, _))

/-- A node whose daemon may start anew; `expected` is what its reconcile pass has still to go
through. -/
structure ReportNode extends NodeLink where
  expected : List AllocId

def ReportNode.Knows (link : ReportNode) (id : AllocId) : Prop :=
  link.toNodeLink.Knows id ∨ id ∈ link.expected

instance (link : ReportNode) (id : AllocId) : Decidable (link.Knows id) :=
  inferInstanceAs (Decidable (_ ∨ _))

/-- The nodes of a cluster beside the replicated state. `pending` is the proposal that the report
processor is at, with the node whose report it took. -/
structure ReportCluster where
  nodes : List ReportNode
  pending : Option (NodeId × Command)
  fsm : FsmState

inductive ReportClusterEvent
  | secondary (node : Nat) (e : SecondaryEvent)
  | send (node : Nat) (cmd : NodeCommand)
  | deliver (node : Nat)
  | receive (node : Nat) (order : List (Σ _ : Nat, FsmNode)) (now : SystemTime)
  | commitReport
  | commit (c : Command)
  | drop (node : Nat)
  /-- The daemon of the node starts anew; `expected` is what its own copy of the state, which may be
  an old one, has on the node. -/
  | restart (node : Nat) (ports : PortPool) (expected : List AllocId)
  | rehydrate (node : Nat) (running : List AllocId)
      (recover : AllocId → Except String RecoveredContainer)

namespace ReportCluster

def step (w : ReportCluster) : ReportClusterEvent → Option ReportCluster
  | .secondary _ (.command _) => none
  | .secondary i e => do
    let link ← w.nodes[i]?
    let sec ← link.sec.step e
    some { w with nodes := w.nodes.set i { link with sec } }
  | .send i cmd => do
    let link ← w.nodes[i]?
    some { w with nodes := w.nodes.set i { link with commands := link.commands ++ [cmd] } }
  | .deliver i => do
    let link ← w.nodes[i]?
    -- the command loop starts after the reconcile pass
    match link.expected, link.commands with
    | [], cmd :: commands =>
      let sec ← link.sec.step (.command cmd)
      some { w with nodes := w.nodes.set i ⟨⟨sec, commands⟩, []⟩ }
    | _, _ => none
  | .receive i order now => do
    let link ← w.nodes[i]?
    match w.pending, link.sec.reports with
    | none, report :: reports =>
      if w.fsm.nodes.entries = order then
        some { w with
          nodes := w.nodes.set i { link with sec := { link.sec with reports } }
          pending := (processReport w.fsm order now report).map fun c => (link.sec.nodeId, c) }
      else none
    | _, _ => none
  | .commitReport =>
    w.pending.map fun p => { w with pending := none, fsm := (applyCommand w.fsm p.2).1 }
  | .commit c => some { w with fsm := (applyCommand w.fsm c).1 }
  | .drop i => do
    let link ← w.nodes[i]?
    let sec := { link.sec with reports := [] }
    some { w with nodes := w.nodes.set i { link with sec, commands := [] } }
  | .restart i ports expected => do
    let link ← w.nodes[i]?
    let sec := Secondary.init link.sec.nodeId link.sec.meshIp ports
    some { w with nodes := w.nodes.set i ⟨⟨sec, []⟩, expected⟩ }
  | .rehydrate i running recover => do
    let link ← w.nodes[i]?
    match link.expected with
    | [] => none
    | id :: expected =>
      let sec := link.sec.rehydrate running recover id
      some { w with nodes := w.nodes.set i { link with sec, expected } }

def OwnReports (w : ReportCluster) : Prop :=
  ∀ n c, w.pending = some (n, c) → ∀ id,
    (applyCommand w.fsm c).1.allocs.lookup id ≠ w.fsm.allocs.lookup id →
      ∃ a, w.fsm.allocs.lookup id = some a ∧ a.node = n

/-- A command for an allocation goes to its own node only, an id is given to a node only when no
other node has anything to do with it and no report of another node about it is being processed, and
a daemon that starts anew does not take an allocation of another node for its own. -/
def IdsFree (w : ReportCluster) : ReportClusterEvent → Prop
  | .send i cmd => ∀ link ∈ w.nodes[i]?, ∀ id ∈ cmd.about, ∀ a ∈ w.fsm.allocs.lookup id,
    a.node = link.sec.nodeId
  | .commit (.allocScheduled id raftId _ _ _ _) => ∀ n ∈ w.fsm.nodes.lookup raftId,
    (∀ link ∈ w.nodes, link.Knows id → link.sec.nodeId = n.millId) ∧
      ∀ p ∈ w.pending, p.2.mentions id → p.1 = n.millId
  | .restart i _ expected => ∀ link ∈ w.nodes[i]?, ∀ id ∈ expected, ∀ a ∈ w.fsm.allocs.lookup id,
    a.node = link.sec.nodeId
  | _ => True

instance (w : ReportCluster) : ∀ e, Decidable (w.IdsFree e) := fun e => by
  unfold IdsFree
  split <;> infer_instance

structure Placed (w : ReportCluster) : Prop where
  proper : ∀ link ∈ w.nodes, link.sec.Proper
  known : ∀ link ∈ w.nodes, ∀ id, link.Knows id → ∀ a, w.fsm.allocs.lookup id = some a →
    a.node = link.sec.nodeId
  ofReport : ∀ p, w.pending = some p → p.2.ofReport = true
  pending : ∀ p, w.pending = some p → ∀ id, p.2.mentions id → ∀ a,
    w.fsm.allocs.lookup id = some a → a.node = p.1

variable {w w' : ReportCluster} {i : Nat} {link : ReportNode} {c : Command}

lemma Placed.ownReports (h : w.Placed) : w.OwnReports := by
  intro n c hpending id hne
  obtain ⟨hid, a, ha⟩ := of_lookup_ne (h.ofReport _ hpending) hne
  exact ⟨a, ha, h.pending _ hpending id hid a ha⟩

lemma Placed.set (h : w.Placed) (link' : ReportNode)
    (hi : w.nodes[i]? = some link) (hname : link'.sec.nodeId = link.sec.nodeId)
    (hproper : link'.sec.Proper) (hknown : ∀ id, link'.Knows id → link.Knows id ∨
      ∀ a, w.fsm.allocs.lookup id = some a → a.node = link.sec.nodeId) :
    { w with nodes := w.nodes.set i link' }.Placed := by
  have hmem := mem_of_getElem? hi
  obtain ⟨hp, hk, ho, hpending⟩ := h
  refine ⟨List.forall_mem_set hp hproper, List.forall_mem_set hk ?_, ho, hpending⟩
  grind

lemma step_secondary {e : SecondaryEvent} (h : w.step (.secondary i e) = some w') :
    (∀ cmd, e ≠ .command cmd) ∧ ∃ link sec, w.nodes[i]? = some link ∧ link.sec.step e = some sec ∧
      w' = { w with nodes := w.nodes.set i { link with sec } } := by
  have hcmd (cmd : NodeCommand) : e ≠ .command cmd := by
    rintro rfl
    cases h
  have hstep : (w.nodes[i]?).bind (fun link => (link.sec.step e).bind fun sec =>
      some { w with nodes := w.nodes.set i { link with sec } }) = some w' := by
    cases e with
    | command => cases h
    | _ => exact h
  obtain ⟨link, hi, hstep⟩ := bind_eq_some_iff.mp hstep
  obtain ⟨sec, hsec, heq⟩ := bind_eq_some_iff.mp hstep
  cases heq
  exact ⟨hcmd, link, sec, hi, hsec, rfl⟩

lemma placed_secondary (h : w.Placed) {e : SecondaryEvent}
    {sec : Secondary} (he : ∀ cmd, e ≠ .command cmd) (hi : w.nodes[i]? = some link)
    (hsec : link.sec.step e = some sec) :
    { w with nodes := w.nodes.set i { link with sec } }.Placed := by
  have hproper := h.proper link (mem_of_getElem? hi)
  have hknows := fun id => @Secondary.Moves.knows _ _ _ id hproper (Secondary.moves_of_step hsec)
  refine h.set _ hi (Secondary.nodeId_step hsec) (Secondary.proper_step hproper hsec) ?_
  grind [ReportNode.Knows, NodeLink.Knows]

lemma placed_deliver (h : w.Placed) {sec sec' : Secondary} {cmd : NodeCommand}
    {commands : List NodeCommand} (hi : w.nodes[i]? = some ⟨⟨sec, cmd :: commands⟩, []⟩)
    (hsec : sec.step (.command cmd) = some sec') :
    { w with nodes := w.nodes.set i ⟨⟨sec', commands⟩, []⟩ }.Placed := by
  have hproper := h.proper _ (mem_of_getElem? hi)
  have hknows := fun id => @Secondary.Moves.knows _ _ _ id hproper (Secondary.moves_of_step hsec)
  refine h.set _ hi (Secondary.nodeId_step hsec) (Secondary.proper_step hproper hsec) ?_
  grind [ReportNode.Knows, NodeLink.Knows]

lemma placed_receive (h : w.Placed) {r : NodeReport}
    {reports : List NodeReport} {order : List (Σ _ : Nat, FsmNode)} {now : SystemTime}
    (hi : w.nodes[i]? = some link) (hreports : link.sec.reports = r :: reports) :
    Placed { w with
      nodes := w.nodes.set i { link with sec := { link.sec with reports } }
      pending := (processReport w.fsm order now r).map fun c => (link.sec.nodeId, c) } := by
  have hmem := mem_of_getElem? hi
  have hset := h.set { link with sec := { link.sec with reports } } hi rfl (h.proper link hmem) ?_
  · refine ⟨hset.proper, hset.known, fun p hp => ?_, fun p hp id hid a ha => ?_⟩
    · obtain ⟨c, hc, rfl⟩ := map_eq_some_iff.mp hp
      exact ofReport_processReport hc
    · obtain ⟨c, hc, rfl⟩ := map_eq_some_iff.mp hp
      refine h.known link hmem id (.inl (.inl (.report r ?_ (mentions_processReport hc hid)))) a ha
      change r ∈ link.sec.reports
      rw [hreports]
      exact mem_cons_self
  · rintro id ((hid | hid) | hid)
    · refine .inl (.inl (.inl (hid.of_subset ?_)))
      change reports ⊆ link.sec.reports
      rw [hreports]
      exact subset_cons_self r reports
    · exact .inl (.inl (.inr hid))
    · exact .inl (.inr hid)

lemma placed_rehydrate (h : w.Placed) {sec : Secondary} {commands : List NodeCommand}
    {id : AllocId} {expected : List AllocId} {running : List AllocId}
    {recover : AllocId → Except String RecoveredContainer}
    (hi : w.nodes[i]? = some ⟨⟨sec, commands⟩, id :: expected⟩) :
    let sec := sec.rehydrate running recover id
    { w with nodes := w.nodes.set i ⟨⟨sec, commands⟩, expected⟩ }.Placed := by
  obtain ⟨hname, hloop⟩ := Secondary.nodeId_rehydrate running recover sec id
  refine h.set _ hi hname ?_ ?_
  · intro r hr
    exact h.proper _ (mem_of_getElem? hi) r (hloop.symm.trans hr)
  · rintro i' ((hid | hid) | hid)
    · rcases Secondary.knows_rehydrate hid with hid | rfl
      · exact .inl (.inl (.inl hid))
      · exact .inl (.inr mem_cons_self)
    · exact .inl (.inl (.inr hid))
    · exact .inl (.inr (mem_cons_of_mem _ hid))

lemma Placed.applied (h : w.Placed)
    (hc : ∀ id a', (applyCommand w.fsm c).1.allocs.lookup id = some a' →
      (∃ a, w.fsm.allocs.lookup id = some a ∧ a'.node = a.node) ∨
      (∀ link ∈ w.nodes, link.Knows id → a'.node = link.sec.nodeId) ∧
        ∀ p, w.pending = some p → p.2.mentions id → a'.node = p.1) :
    { w with fsm := (applyCommand w.fsm c).1 }.Placed := by
  refine ⟨h.proper, fun link hlink id hid a' ha' => ?_, h.ofReport, fun p hp id hid a' ha' => ?_⟩
  · rcases hc id a' ha' with ⟨a, ha, heq⟩ | ⟨hnodes, -⟩
    · exact heq.trans (h.known link hlink id hid a ha)
    · exact hnodes link hlink hid
  · rcases hc id a' ha' with ⟨a, ha, heq⟩ | ⟨-, hpending⟩
    · exact heq.trans (h.pending p hp id hid a ha)
    · exact hpending p hp hid

lemma node_of_applyCommand {fsm : FsmState} {id : AllocId} {a' : Alloc}
    (h : (applyCommand fsm c).1.allocs.lookup id = some a') :
    (∃ a, fsm.allocs.lookup id = some a ∧ a'.node = a.node) ∨
      ∃ raftId name kind address resources n,
        c = .allocScheduled id raftId name kind address resources ∧
        fsm.nodes.lookup raftId = some n ∧ a'.node = n.millId := by
  rw [lookup_allocs_applyCommand] at h
  by_cases hc : ∃ raftId name kind address resources,
      c = .allocScheduled id raftId name kind address resources
  · obtain ⟨raftId, name, kind, address, resources, rfl⟩ := hc
    simp only [allocAfter, if_pos] at h
    split at h
    · rename_i n hn
      cases h
      exact .inr ⟨raftId, name, kind, address, resources, n, rfl, hn, rfl⟩
    · exact .inl ⟨a', h, rfl⟩
  · simp only [not_exists] at hc
    obtain ⟨a, ha, heq⟩ := alloc_of_allocAfter hc h
    exact .inl ⟨a, ha, by rw [heq]⟩

lemma placed_commit (h : w.Placed) (hc : w.IdsFree (.commit c)) :
    { w with fsm := (applyCommand w.fsm c).1 }.Placed := by
  refine h.applied fun id a' ha' => ?_
  rcases node_of_applyCommand ha' with hold | ⟨raftId, _, _, _, _, n, rfl, hn, heq⟩
  · exact .inl hold
  · obtain ⟨hnodes, hpending⟩ := hc n hn
    refine .inr ⟨fun link hlink hid => heq.trans (hnodes link hlink hid).symm,
      fun p hp hid => heq.trans (hpending p hp hid).symm⟩

lemma placed_step {e : ReportClusterEvent} (h : w.Placed) (he : w.IdsFree e)
    (hstep : w.step e = some w') : w'.Placed := by
  cases e with
  | secondary =>
    obtain ⟨he, link, sec, hi, hsec, rfl⟩ := step_secondary hstep
    exact placed_secondary h he hi hsec
  | send =>
    obtain ⟨link, hi, heq⟩ := bind_eq_some_iff.mp hstep
    cases heq
    refine h.set _ hi rfl (h.proper link (mem_of_getElem? hi)) ?_
    rintro id ((hid | ⟨cmd', hcmd', habout⟩) | hid)
    · exact .inl (.inl (.inl hid))
    · rcases mem_append.mp hcmd' with hold | hnew
      · exact .inl (.inl (.inr ⟨cmd', hold, habout⟩))
      · rw [mem_singleton.mp hnew] at habout
        exact .inr fun a ha => he link hi id habout a ha
    · exact .inl (.inr hid)
  | deliver =>
    obtain ⟨⟨⟨sec, commands⟩, expected⟩, hi, hstep⟩ := bind_eq_some_iff.mp hstep
    dsimp only at hstep
    split at hstep
    · obtain ⟨sec', hsec, heq⟩ := bind_eq_some_iff.mp hstep
      cases heq
      exact placed_deliver h hi hsec
    · cases hstep
  | receive =>
    obtain ⟨link, hi, hstep⟩ := bind_eq_some_iff.mp hstep
    dsimp only at hstep
    split at hstep
    · rename_i r reports hnone hreports
      split_ifs at hstep with horder
      cases hstep
      exact placed_receive h hi hreports
    · cases hstep
  | commitReport =>
    obtain ⟨⟨n, c⟩, hp, rfl⟩ := map_eq_some_iff.mp hstep
    have happlied : { w with fsm := (applyCommand w.fsm c).1 }.Placed := by
      refine h.applied fun id a' ha' => ?_
      rcases node_of_applyCommand ha' with hold | ⟨_, _, _, _, _, _, rfl, _⟩
      · exact .inl hold
      · cases h.ofReport _ hp
    refine ⟨happlied.proper, happlied.known, fun p hp => ?_, fun p hp => ?_⟩
    · cases hp
    · cases hp
  | commit =>
    cases hstep
    exact placed_commit h he
  | drop =>
    obtain ⟨link, hi, heq⟩ := bind_eq_some_iff.mp hstep
    cases heq
    refine h.set _ hi rfl (h.proper link (mem_of_getElem? hi)) ?_
    rintro id ((hid | ⟨cmd, hcmd, -⟩) | hid)
    · exact .inl (.inl (.inl (hid.of_subset (nil_subset _))))
    · cases hcmd
    · exact .inl (.inr hid)
  | restart =>
    obtain ⟨link, hi, heq⟩ := bind_eq_some_iff.mp hstep
    cases heq
    refine h.set _ hi rfl (fun r hr => ?_) ?_
    · cases hr
    rintro id ((hid | ⟨cmd, hcmd, -⟩) | hid)
    · exact absurd hid Secondary.not_knows_init
    · cases hcmd
    · exact .inr fun a ha => he link hi id hid a ha
  | rehydrate =>
    obtain ⟨⟨⟨sec, commands⟩, expected⟩, hi, hstep⟩ := bind_eq_some_iff.mp hstep
    cases expected with
    | nil => cases hstep
    | cons id expected =>
      cases hstep
      exact placed_rehydrate h hi

def start (fsm : FsmState) (nodes : List (NodeId × Option IpAddr × PortPool)) : ReportCluster :=
  ⟨nodes.map fun n => ⟨⟨.init n.1 n.2.1 n.2.2, []⟩, []⟩, none, fsm⟩

lemma placed_start (fsm : FsmState) (nodes : List (NodeId × Option IpAddr × PortPool)) :
    (start fsm nodes).Placed := by
  constructor
  case proper =>
    intro link hlink r hr
    obtain ⟨n, -, rfl⟩ := List.mem_map.mp hlink
    cases hr
  case known =>
    intro link hlink id hid
    obtain ⟨n, -, rfl⟩ := List.mem_map.mp hlink
    rcases hid with (hid | ⟨cmd, hcmd, -⟩) | hid
    · exact absurd hid Secondary.not_knows_init
    · cases hcmd
    · cases hid
  case ofReport | pending =>
    intro c hc
    cases hc

/-- However the nodes, their reports and everything else interleave: if a command for an allocation
goes to its own node only and ids are given to a node when the other nodes are done with them, a
report changes only allocations of the node that it comes from. -/
theorem reports_touch_own_node {fsm : FsmState} {nodes : List (NodeId × Option IpAddr × PortPool)}
    {es : List ReportClusterEvent} (hfree : Guarded step IdsFree (start fsm nodes) es)
    (hrun : run step (start fsm nodes) es = some w) : w.OwnReports := by
  have hplaced : w.Placed := by
    refine run_invariant (I := Placed) ?_ (placed_start fsm nodes) hfree hrun
    intro w e w' hw he hstep
    exact placed_step hw he hstep
  exact hplaced.ownReports

def demoOrder : List (Σ _ : Nat, FsmNode) := [⟨1, .demo 1 "a"⟩, ⟨2, .demo 2 "b"⟩]

def demoScheduled (raftId : Nat) : Command :=
  .allocScheduled ⟨"web-0"⟩ raftId "web" .service none ⟨1, 1⟩

def demoFsm : FsmState :=
  (applyCommand { (default : FsmState) with
    nodes := (Finmap.singleton 1 (.demo 1 "a")).insert 2 (.demo 2 "b") } (demoScheduled 1)).1

def demoStart : ReportCluster :=
  start demoFsm [(⟨"a"⟩, none, .withRange 1 1 ∅), (⟨"b"⟩, none, .withRange 1 1 ∅)]

def demoStopped : List ReportClusterEvent :=
  [.send 0 (.stop ⟨"web-0"⟩), .deliver 0, .secondary 0 .loop, .secondary 0 (.stopped (.ok 0)),
    .secondary 0 .loop, .secondary 0 .loop, .secondary 0 .loop]

def demoInTime : List ReportClusterEvent :=
  demoStopped ++ [.receive 0 demoOrder 1, .commitReport, .commit (demoScheduled 2),
    .restart 1 (.withRange 1 1 ∅) [⟨"web-0"⟩], .rehydrate 1 [] fun _ => .error "no labels",
    .receive 1 demoOrder 2]

def demoLate : List ReportClusterEvent :=
  demoStopped ++ [.commit (demoScheduled 2), .receive 0 demoOrder 1]

theorem reports_touch_own_node_in_time : ∃ w, run step demoStart demoInTime = some w ∧
    w.pending = some (⟨"b"⟩, .allocStatus ⟨"web-0"⟩ (.stopped (-1))) ∧ w.OwnReports := by
  exact exists_end_and (by decide +kernel) fun w hw _ =>
    reports_touch_own_node (by decide +kernel) hw

/-- The Stopped of the first node marks the allocation of the second as stopped. -/
theorem late_report_touches_other_node : ∃ w a b, run step demoStart demoLate = some w ∧
    w.pending = some (⟨"a"⟩, .allocStatus ⟨"web-0"⟩ (.stopped 0)) ∧
    w.fsm.allocs.lookup ⟨"web-0"⟩ = some a ∧ a.node = ⟨"b"⟩ ∧ a.status = .pulling ∧
    (applyCommand w.fsm (.allocStatus ⟨"web-0"⟩ (.stopped 0))).1.allocs.lookup ⟨"web-0"⟩ = some b ∧
    b.node = ⟨"b"⟩ ∧ b.status = .stopped 0 ∧ ¬ w.OwnReports := by
  have hrun : (run step demoStart demoLate).bind (fun w =>
      (w.fsm.allocs.lookup ⟨"web-0"⟩).bind fun a =>
        ((applyCommand w.fsm (.allocStatus ⟨"web-0"⟩ (.stopped 0))).1.allocs.lookup ⟨"web-0"⟩).map
          fun b => (w.pending, a.node, a.status, b.node, b.status)) =
      some (some (⟨"a"⟩, .allocStatus ⟨"web-0"⟩ (.stopped 0)), ⟨"b"⟩, .pulling, ⟨"b"⟩,
        .stopped 0) := by
    decide +kernel
  obtain ⟨w, hw, h⟩ := bind_eq_some_iff.mp hrun
  obtain ⟨a, ha, h⟩ := bind_eq_some_iff.mp h
  obtain ⟨b, hb, heq⟩ := map_eq_some_iff.mp h
  simp only [Prod.mk.injEq] at heq
  obtain ⟨hpending, hanode, hastatus, hbnode, hbstatus⟩ := heq
  refine ⟨w, a, b, hw, hpending, ha, hanode, hastatus, hb, hbnode, hbstatus, fun hown => ?_⟩
  obtain ⟨a', ha', hnode⟩ := hown _ _ hpending ⟨"web-0"⟩ (by
    rw [hb, ha, ne_eq, Option.some.injEq]
    rintro rfl
    rw [hastatus] at hbstatus
    cases hbstatus)
  cases ha.symm.trans ha'
  rw [hanode] at hnode
  exact absurd hnode (by decide)

end ReportCluster

end Mill
