import Mill.Node.Report

/-! A container that starts is reported twice: as Running in the next heartbeat, since the entry
is in the map before `RunStarted` is sent, and by `RunStarted` itself. -/

namespace Mill

open List Option Transition

inductive Note
  | update
  | beat
  | started
  | other
  | foreign
deriving DecidableEq

namespace Note

def ofStatus : AllocStatus → Note
  | .pulling | .starting => update
  | _ => foreign

def ofBeat : Option AllocStatus → Note
  | none => other
  | some .running => beat
  | some _ => foreign

@[grind =]
lemma ofStatus_eq (st : AllocStatus) :
    ofStatus st = if st.isPending = true then update else foreign := by
  cases st <;> rfl

@[grind =]
lemma ofBeat_eq (o : Option AllocStatus) :
    ofBeat o = if o = none then other else if o = some .running then beat else foreign := by
  cases o with
  | none => rfl
  | some st => cases st <;> rfl

/-- `y` may be sent after `x`: the status updates come first, and there is one
`RunStarted`. -/
def Follows (x y : Note) : Prop :=
  (y = update → x = update ∨ x = other) ∧ (y = started → x ≠ started)

lemma follows_other_left (y : Note) : Follows other y :=
  ⟨fun _ => .inr rfl, nofun⟩

lemma follows_other_right (x : Note) : Follows x other :=
  ⟨nofun, nofun⟩

lemma follows_update {x : Note} (h : x = update ∨ x = other) : Follows x update :=
  ⟨fun _ => h, Note.noConfusion⟩

lemma of_follows_started {y : Note} (h : Follows started y) (hy : y ≠ foreign) :
    y = beat ∨ y = other := by
  cases y <;> grind [Follows]

end Note

namespace LoopPc

/-- The allocation of a `run_container` that has not put it into the map yet. -/
def starts : LoopPc → Option AllocId
  | check id _ | reportPulling id _ | pull id _ | reportStarting id _ | allocatePort id _ => some id
  | start id _ _ | insert id _ _ => some id
  | _ => none

def reported : LoopPc → Bool
  | spawnWaiter _ _ | idle => true
  | _ => false

end LoopPc

def Command.note (a : AllocId) : Command → Note
  | .allocStatus id status => if id = a then .ofStatus status else .other
  | .nodeHeartbeat _ allocStatuses => .ofBeat (allocStatuses.lookup a)
  | .allocRunning id _ _ => if id = a then .started else .other
  | _ => .foreign

def NodeReport.note (a : AllocId) : NodeReport → Note
  | .statusUpdate id status => if id = a then .ofStatus status else .other
  | .heartbeat hb => .ofBeat (hb.allocStatuses.lookup a)
  | .runStarted id _ _ => if id = a then .started else .other
  | .runFailed id _ | .stopped id _ => if id = a then .foreign else .other
  | .pullComplete _ | .pullFailed _ _ => .other

lemma note_processReport {fsm : FsmState} {order : List (Σ _ : Nat, FsmNode)} {now : SystemTime}
    {a : AllocId} {r : NodeReport} {c : Command} (h : processReport fsm order now r = some c)
    (hr : r.note a ≠ .foreign) : c.note a = r.note a := by
  cases reported_of_processReport h <;> grind [NodeReport.note, Command.note]

namespace ReportSystem

def notes (a : AllocId) (s : ReportSystem) : List Note :=
  (s.applied ++ s.pending.toList).map (Command.note a) ++ s.sec.reports.map (NodeReport.note a)

/-- How far `run_container` for `a` has come, and what can have been said by
then. -/
@[mk_iff]
inductive Stage (a : AllocId) (sec : Secondary) (notes : List Note) : Prop
  | starting (hloop : sec.loop.starts = some a) (habsent : sec.allocs.lookup a = none)
      (hpending : ∀ hb ∈ sec.pendingHeartbeat, hb.allocStatuses.lookup a = none)
      (hnotes : ∀ x ∈ notes, x = .update ∨ x = .other)
  | inserted (hostPort : Option Nat) (hloop : sec.loop = .reportStarted a hostPort)
      (hnotes : Note.started ∉ notes)
  | reported (hloop : sec.loop.reported = true)

structure Sequenced (a : AllocId) (f₀ : FsmState) (s : ReportSystem) : Prop where
  fsm : s.fsm = applyAll f₀ s.applied
  nodes : ∀ id, id ∈ s.fsm.nodes ↔ id ∈ f₀.nodes
  order : (s.notes a).Pairwise Note.Follows
  ours : Note.foreign ∉ s.notes a
  stage : Stage a s.sec (s.notes a)
  local_running : ∀ l ∈ s.sec.allocs.lookup a, l.status = .running
  beat_running : ∀ hb ∈ s.sec.pendingHeartbeat, ∀ st ∈ hb.allocStatuses.lookup a, st = .running
  registered : ∀ id sts, .nodeHeartbeat id sts ∈ s.applied ++ s.pending.toList →
    sts.lookup a = some .running → id ∈ f₀.nodes

/-- The heartbeat loop and a `run_container` that succeeds, the processor, and
heartbeats of other nodes. -/
def Interleaves (a : AllocId) : ReportEvent → Prop
  | .secondary .loop | .secondary (.pulled (.ok ())) | .secondary (.started (.ok ())) => True
  | .secondary .tick | .secondary .heartbeat => True
  | .receive _ _ | .commit => True
  | .otherHeartbeat _ allocStatuses => allocStatuses.lookup a = none
  | _ => False

variable {a : AllocId} {f₀ : FsmState} {s s' : ReportSystem}

lemma notes_sec {sec : Secondary} (rs : List NodeReport)
    (hreports : sec.reports = s.sec.reports ++ rs) :
    notes a { s with sec } = s.notes a ++ rs.map (NodeReport.note a) := by
  simp only [notes, hreports, map_append, append_assoc]

lemma Sequenced.still (h : Sequenced a f₀ s) {sec : Secondary}
    (hreports : sec.reports = s.sec.reports) (hstage : Stage a sec (s.notes a))
    (hlocal : ∀ l ∈ sec.allocs.lookup a, l.status = .running)
    (hbeat : ∀ hb ∈ sec.pendingHeartbeat, ∀ st ∈ hb.allocStatuses.lookup a, st = .running) :
    Sequenced a f₀ { s with sec } := by
  have hnotes : notes a { s with sec } = s.notes a := by
    rw [notes_sec [] (by rw [hreports, append_nil]), map_nil, append_nil]
  exact ⟨h.fsm, h.nodes, hnotes ▸ h.order, hnotes ▸ h.ours, hnotes ▸ hstage, hlocal, hbeat,
    h.registered⟩

lemma Sequenced.sends (h : Sequenced a f₀ s) {sec : Secondary} {r : NodeReport}
    (hreports : sec.reports = s.sec.reports ++ [r]) (hallocs : sec.allocs = s.sec.allocs)
    (hnew : r.note a ≠ .foreign) (hfollows : ∀ x ∈ s.notes a, Note.Follows x (r.note a))
    (hstage : Stage a sec (s.notes a ++ [r.note a]))
    (hbeat : ∀ hb ∈ sec.pendingHeartbeat, ∀ st ∈ hb.allocStatuses.lookup a, st = .running) :
    Sequenced a f₀ { s with sec } := by
  have hnotes : notes a { s with sec } = s.notes a ++ [r.note a] := notes_sec [r] hreports
  refine ⟨h.fsm, h.nodes, ?_, ?_, hnotes ▸ hstage, hallocs ▸ h.local_running, hbeat, h.registered⟩
  · rw [hnotes, pairwise_append]
    exact ⟨h.order, pairwise_singleton _ _, by simpa using hfollows⟩
  · rw [hnotes, mem_append, mem_singleton]
    exact not_or.mpr ⟨h.ours, hnew.symm⟩

attribute [local grind] Note.Follows LoopPc.starts LoopPc.reported NodeReport.note
attribute [local grind =] stage_iff

lemma sequenced_tick (h : Sequenced a f₀ s) {sec : Secondary}
    (hs : s.sec.step .tick = some sec) : Sequenced a f₀ { s with sec } := by
  have hstat : s.sec.allocs.allStatuses.lookup a =
      (s.sec.allocs.lookup a).map LocalAlloc.status := Finmap.lookup_mapVals ..
  have hstage := h.stage
  have hlocal := h.local_running
  rw [Secondary.step] at hs
  split at hs
  · cases hs
    refine h.still rfl ?_ hlocal ?_ <;> cases hl : s.sec.allocs.lookup a <;> grind
  · cases hs

lemma sequenced_heartbeat (h : Sequenced a f₀ s) {sec : Secondary}
    (hs : s.sec.step .heartbeat = some sec) : Sequenced a f₀ { s with sec } := by
  obtain ⟨hb, hhb, rfl⟩ := map_eq_some_iff.mp hs
  have hstage := h.stage
  have hnote : NodeReport.note a (.heartbeat hb) = .other ∨
      NodeReport.note a (.heartbeat hb) = .beat := by
    rcases hst : hb.allocStatuses.lookup a with - | st
    · grind
    · cases h.beat_running hb hhb st hst
      grind
  refine h.sends (r := .heartbeat hb) rfl rfl ?_ ?_ ?_ nofun <;> grind [Secondary.send]

lemma Sequenced.starting_of (h : Sequenced a f₀ s) {id : AllocId}
    (hl : s.sec.loop.starts = some id) : id = a ∧ s.sec.allocs.lookup a = none ∧
      (∀ hb ∈ s.sec.pendingHeartbeat, hb.allocStatuses.lookup a = none) ∧
      ∀ x ∈ s.notes a, x = .update ∨ x = .other := by
  cases h.stage with
  | starting hloop habsent hpending hnotes =>
    exact ⟨Option.some.inj (hl.symm.trans hloop), habsent, hpending, hnotes⟩
  | inserted hostPort hloop =>
    rw [hloop] at hl
    cases hl
  | reported hloop =>
    cases hp : s.sec.loop <;> simp [hp, LoopPc.starts, LoopPc.reported] at hl hloop

lemma Sequenced.onward (h : Sequenced a f₀ s) {id : AllocId} (hl : s.sec.loop.starts = some id)
    {ports : PortPool} {loop : LoopPc} (hnext : loop.starts = some id ∨ loop.reported = true) :
    Sequenced a f₀ { s with sec := { s.sec with ports, loop } } := by
  obtain ⟨rfl, habsent, hpending, hnotes⟩ := h.starting_of hl
  refine h.still rfl ?_ h.local_running h.beat_running
  rcases hnext with hnext | hnext
  · exact .starting hnext habsent hpending hnotes
  · exact .reported hnext

lemma Sequenced.update (h : Sequenced a f₀ s) {id : AllocId} (hl : s.sec.loop.starts = some id)
    {status : AllocStatus} {loop : LoopPc} (hstatus : Note.ofStatus status = .update)
    (hnext : loop.starts = some id) :
    Sequenced a f₀ { s with sec := { s.sec.send (.statusUpdate id status) with loop } } := by
  obtain ⟨rfl, habsent, hpending, hnotes⟩ := h.starting_of hl
  have hnote : NodeReport.note id (.statusUpdate id status) = .update := (if_pos rfl).trans hstatus
  refine h.sends rfl rfl (by rw [hnote]; decide) ?_ ?_ h.beat_running
  · rw [hnote]
    exact fun x hx => Note.follows_update (hnotes x hx)
  · refine .starting hnext habsent hpending (forall_mem_append.mpr ⟨hnotes, ?_⟩)
    simp [hnote]

lemma sequenced_insert (h : Sequenced a f₀ s) {id : AllocId} {spec : ContainerSpec}
    {hostPort : Option Nat} {sec : Secondary} (hl : s.sec.loop = .insert id spec hostPort)
    (hsec : s.sec.loopStep = some sec) : Sequenced a f₀ { s with sec } := by
  have hstarts : s.sec.loop.starts = some id := by rw [hl]; rfl
  obtain ⟨rfl, habsent, -, hnotes⟩ := h.starting_of hstarts
  simp only [Secondary.loopStep, hl, AllocationMap.insertNew, habsent, isSome_none,
    Bool.false_eq_true, if_false, Option.some.injEq] at hsec
  subst hsec
  refine h.still rfl (.inserted hostPort rfl fun hn => ?_) ?_ h.beat_running
  · rcases hnotes _ hn with hn | hn <;> cases hn
  · intro l hlook
    rw [mem_def, Finmap.lookup_insert, Option.some.injEq] at hlook
    rw [← hlook]

lemma sequenced_started (h : Sequenced a f₀ s) {id : AllocId} {hostPort : Option Nat}
    {address : Option SocketAddr} (hl : s.sec.loop = .reportStarted id hostPort) :
    Sequenced a f₀ { s with
      sec := { s.sec.send (.runStarted id hostPort address) with
        loop := .spawnWaiter id hostPort } } := by
  cases h.stage with
  | starting hloop _ _ _ | reported hloop =>
    rw [hl] at hloop
    cases hloop
  | inserted hp hloop hnotes =>
    rw [hl] at hloop
    cases hloop
    have hnote : NodeReport.note a (.runStarted a hostPort address) = .started := if_pos rfl
    refine h.sends rfl rfl (by rw [hnote]; decide) ?_ (.reported rfl) h.beat_running
    rw [hnote]
    exact fun x hx => ⟨nofun, fun _ hx' => hnotes (hx' ▸ hx)⟩

lemma Sequenced.loop_cases (h : Sequenced a f₀ s) : s.sec.loop.starts = some a ∨
    (∃ hostPort, s.sec.loop = .reportStarted a hostPort) ∨ s.sec.loop.reported = true := by
  cases h.stage with
  | starting hloop => exact .inl hloop
  | inserted hostPort hloop => exact .inr (.inl ⟨hostPort, hloop⟩)
  | reported hloop => exact .inr (.inr hloop)

lemma sequenced_loop (h : Sequenced a f₀ s) {sec : Secondary}
    (hsec : s.sec.loopStep = some sec) : Sequenced a f₀ { s with sec } := by
  have honward := @Sequenced.onward a f₀ s h
  cases hl : s.sec.loop with
  | insert => exact sequenced_insert h hl hsec
  | reportPulling id spec | reportStarting id spec =>
    simp only [Secondary.loopStep, hl, Option.some.injEq] at hsec
    subst hsec
    exact h.update (by rw [hl]; rfl) rfl rfl
  | reportStarted =>
    simp only [Secondary.loopStep, hl, Option.some.injEq] at hsec
    subst hsec
    exact sequenced_started h hl
  | spawnWaiter =>
    simp only [Secondary.loopStep, hl, Option.some.injEq] at hsec
    subst hsec
    exact h.still rfl (.reported rfl) h.local_running h.beat_running
  | _ =>
    have hloop := h.loop_cases
    simp only [Secondary.loopStep, hl] at hsec
    grind

lemma sequenced_pulled (h : Sequenced a f₀ s) {sec : Secondary}
    (hsec : s.sec.step (.pulled (.ok ())) = some sec) : Sequenced a f₀ { s with sec } := by
  have honward := @Sequenced.onward a f₀ s h
  have hloop := h.loop_cases
  rw [Secondary.step.eq_def] at hsec
  grind

lemma sequenced_start (h : Sequenced a f₀ s) {sec : Secondary}
    (hsec : s.sec.step (.started (.ok ())) = some sec) : Sequenced a f₀ { s with sec } := by
  cases hl : s.sec.loop with
  | start =>
    simp only [Secondary.step, hl, Option.some.injEq] at hsec
    subst hsec
    exact h.onward (by rw [hl]; rfl) (.inl rfl)
  | _ => simp [Secondary.step, hl] at hsec

lemma Stage.mono {sec sec' : Secondary} {notes notes' : List Note} (h : Stage a sec notes)
    (hloop : sec'.loop = sec.loop) (hallocs : sec'.allocs = sec.allocs)
    (hbeat : sec'.pendingHeartbeat = sec.pendingHeartbeat)
    (hsub : ∀ x ∈ notes', x ∈ notes ∨ x = .other) : Stage a sec' notes' := by
  cases h with
  | starting hl habsent hpending hnotes =>
    refine .starting (hloop ▸ hl) (hallocs ▸ habsent) (hbeat ▸ hpending) fun x hx => ?_
    exact (hsub x hx).elim (hnotes x) .inr
  | inserted hostPort hl hnotes =>
    refine .inserted hostPort (hloop.trans hl) fun hn => ?_
    exact (hsub _ hn).elim hnotes nofun
  | reported hl => exact .reported (hloop ▸ hl)

lemma mem_nodes_of_note {f : FsmState} {c : Command} (hc : c.note a ≠ .foreign) (id : Nat) :
    id ∈ (applyCommand f c).1.nodes ↔ id ∈ f.nodes := by
  refine mem_nodes_applyCommand ?_ ?_
  · rintro _ _ _ _ _ _ _ rfl
    exact hc rfl
  · rintro rfl
    exact hc rfl

lemma sequenced_commit (h : Sequenced a f₀ s) (hs : s.step .commit = some s') :
    Sequenced a f₀ s' := by
  simp only [step, map_eq_some_iff] at hs
  obtain ⟨c, hc, rfl⟩ := hs
  have hpend : s.applied ++ s.pending.toList = s.applied ++ [c] := by rw [hc]; rfl
  have hnotes : s.notes a = (s.applied ++ [c]).map (Command.note a) ++
      s.sec.reports.map (NodeReport.note a) := by rw [notes, hpend]
  have hown : c.note a ≠ .foreign := by
    intro hn
    refine h.ours ?_
    rw [hnotes, mem_append, ← hn]
    exact .inl (List.mem_map_of_mem (by simp))
  have hsame : notes a ⟨s.sec, none, (applyCommand s.fsm c).1, s.applied ++ [c]⟩ = s.notes a := by
    rw [hnotes, notes, toList_none, append_nil]
  refine ⟨?_, ?_, hsame ▸ h.order, hsame ▸ h.ours, hsame ▸ h.stage, h.local_running,
    h.beat_running, ?_⟩
  · rw [applyAll_append, ← h.fsm]
    rfl
  · intro id
    rw [← h.nodes]
    exact mem_nodes_of_note hown id
  · intro id sts hmem
    rw [toList_none, append_nil, ← hpend] at hmem
    exact h.registered id sts hmem

lemma sequenced_receive (h : Sequenced a f₀ s) {order : List (Σ _ : Nat, FsmNode)}
    {now : SystemTime} (hs : s.step (.receive order now) = some s') : Sequenced a f₀ s' := by
  simp only [step] at hs
  split at hs
  · rename_i report reports hpend hrep
    split_ifs at hs with horder
    simp only [Option.some.injEq] at hs
    subst hs
    have hnotes : s.notes a = s.applied.map (Command.note a) ++
        report.note a :: reports.map (NodeReport.note a) := by
      simp only [notes, hpend, hrep, toList_none, append_nil, map_cons]
    have hown : report.note a ≠ .foreign := by
      intro hn
      refine h.ours ?_
      rw [hnotes, hn]
      simp
    cases hc : processReport s.fsm order now report with
    | none =>
      have hsub : List.Sublist (s.applied.map (Command.note a) ++
          reports.map (NodeReport.note a)) (s.notes a) := by
        rw [hnotes]
        exact List.Sublist.append_left (sublist_cons_self _ _) _
      refine ⟨h.fsm, h.nodes, ?_, ?_, ?_, h.local_running, h.beat_running, ?_⟩
      · simpa [notes] using h.order.sublist hsub
      · simpa [notes] using fun hn => h.ours (hsub.subset hn)
      · refine h.stage.mono rfl rfl rfl fun x hx => .inl (hsub.subset ?_)
        simpa [notes] using hx
      · intro id sts hmem
        refine h.registered id sts ?_
        simpa [hpend] using hmem
    | some c =>
      have hnote := note_processReport hc hown
      have hsame : notes a ⟨{ s.sec with reports }, some c, s.fsm, s.applied⟩ = s.notes a := by
        rw [hnotes, ← hnote]
        simp [notes]
      refine ⟨h.fsm, h.nodes, hsame ▸ h.order, hsame ▸ h.ours, ?_, h.local_running,
        h.beat_running, ?_⟩
      · exact hsame ▸ h.stage.mono rfl rfl rfl fun x hx => .inl hx
      · intro id sts hmem hsts
        simp only [toList_some, mem_append, mem_singleton] at hmem
        rcases hmem with hmem | rfl
        · refine h.registered id sts ?_ hsts
          simp [hmem]
        · -- the id comes from the state, where the node is registered
          cases report with
          | heartbeat =>
            simp only [processReport, map_eq_some_iff] at hc
            obtain ⟨n, hn, hcmd⟩ := hc
            cases hcmd
            rw [← h.nodes]
            exact Finmap.mem_of_lookup_eq_some
              ((Finmap.mem_iff_of_entries horder).mp (List.mem_of_find?_eq_some hn))
          | _ => cases hc
  · cases hs

lemma sequenced_otherHeartbeat (h : Sequenced a f₀ s) {id : Nat}
    {statuses : Finmap fun _ : AllocId => AllocStatus} (hother : statuses.lookup a = none)
    (hs : s.step (.otherHeartbeat id statuses) = some s') : Sequenced a f₀ s' := by
  simp only [step, Option.some.injEq] at hs
  subst hs
  set c := Command.nodeHeartbeat id statuses with hcdef
  have hnote : c.note a = .other := by
    rw [hcdef, Command.note, hother]
    rfl
  set rest := s.pending.toList.map (Command.note a) ++ s.sec.reports.map (NodeReport.note a)
    with hrest
  have hnotes : s.notes a = s.applied.map (Command.note a) ++ rest := by
    simp [notes, hrest]
  have hnotes' : notes a { s with fsm := (applyCommand s.fsm c).1, applied := s.applied ++ [c] } =
      s.applied.map (Command.note a) ++ .other :: rest := by
    simp [notes, hrest, hnote]
  have horder := h.order
  rw [hnotes, pairwise_append] at horder
  obtain ⟨hleft, hright, hcross⟩ := horder
  refine ⟨?_, ?_, ?_, ?_, ?_, h.local_running, h.beat_running, ?_⟩
  · rw [applyAll_append, ← h.fsm]
    rfl
  · intro id'
    rw [← h.nodes]
    exact mem_nodes_of_note (by rw [hnote]; decide) id'
  · rw [hnotes', pairwise_append, pairwise_cons]
    refine ⟨hleft, ⟨fun y _ => Note.follows_other_left y, hright⟩, ?_⟩
    intro x hx y hy
    rcases mem_cons.mp hy with rfl | hy
    · exact Note.follows_other_right x
    · exact hcross x hx y hy
  · rw [hnotes']
    have hours := h.ours
    rw [hnotes] at hours
    simpa using hours
  · refine h.stage.mono rfl rfl rfl ?_
    rw [hnotes', hnotes]
    intro x hx
    simp only [mem_append, mem_cons] at hx ⊢
    tauto
  · intro id' sts hmem hsts
    rw [append_assoc, mem_append, singleton_append, mem_cons] at hmem
    rcases hmem with hmem | hmem | hmem
    · exact h.registered id' sts (mem_append_left _ hmem) hsts
    · have hcmd := hmem.trans hcdef
      cases hcmd
      rw [hother] at hsts
      cases hsts
    · exact h.registered id' sts (mem_append_right _ hmem) hsts

lemma sequenced_step {e : ReportEvent} (h : Sequenced a f₀ s) (he : Interleaves a e)
    (hs : s.step e = some s') : Sequenced a f₀ s' := by
  cases e with
  | receive => exact sequenced_receive h hs
  | commit => exact sequenced_commit h hs
  | otherHeartbeat => exact sequenced_otherHeartbeat h he hs
  | secondary e =>
    obtain ⟨sec, hsec, rfl⟩ := map_eq_some_iff.mp hs
    cases e with
    | loop => exact sequenced_loop h hsec
    | tick => exact sequenced_tick h hsec
    | heartbeat => exact sequenced_heartbeat h hsec
    | pulled result =>
      cases result with
      | ok => exact sequenced_pulled h hsec
      | error => cases he
    | started result =>
      cases result with
      | ok => exact sequenced_start h hsec
      | error => cases he
    | command cmd | stopped result | exited i result | waiter i => cases he

instance (a : AllocId) : DecidablePred (Interleaves a) := by
  intro e
  unfold Interleaves
  split <;> infer_instance

end ReportSystem

section

variable {a : AllocId} {f : FsmState} {al : Alloc} {c : Command}

lemma effect_other (ha : f.allocs.lookup a = some al) (hc : c.note a = .other) :
    (applyCommand f c).1.allocs.lookup a = some al := by
  rw [lookup_allocs_applyCommand]
  cases c with
  | nodeHeartbeat id statuses =>
    cases hst : statuses.lookup a <;> grind [Command.note, allocAfter, Alloc.report]
  | _ => grind [Command.note, allocAfter]

lemma effect_update (ha : f.allocs.lookup a = some al) (hc : c.note a = .update) :
    ∃ status, status.isPending = true ∧
      (applyCommand f c).1.allocs.lookup a = some { al with status } := by
  rw [lookup_allocs_applyCommand]
  cases c <;> grind [Command.note, allocAfter]

lemma effect_beat (ha : f.allocs.lookup a = some al) (hne : al.status ≠ .healthy)
    (hreg : ∀ id sts, c = .nodeHeartbeat id sts → id ∈ f.nodes) (hc : c.note a = .beat) :
    (applyCommand f c).1.allocs.lookup a = some { al with status := .running } := by
  rw [lookup_allocs_applyCommand]
  cases c <;> grind [Command.note, allocAfter, Alloc.report, Alloc.heartbeat]

lemma effect_started (ha : f.allocs.lookup a = some al) (address : Option SocketAddr)
    (startedAt : Option SystemTime) :
    (applyCommand f (.allocRunning a address startedAt)).1.allocs.lookup a =
      some (al.run address startedAt) := by
  rw [lookup_allocs_applyCommand, allocAfter, if_pos rfl, ha, map_some]

lemma run_status (h : al.status.isPending = true ∨ al.status = .running)
    {address : Option SocketAddr} {startedAt : Option SystemTime} :
    (al.run address startedAt).status = .running := by
  unfold Alloc.run
  split_ifs with hp
  · rfl
  · exact h.resolve_left hp

lemma mem_nodes_applyAll {cs : List Command} (hown : ∀ c ∈ cs, c.note a ≠ .foreign) (id : Nat) :
    id ∈ (applyAll f cs).nodes ↔ id ∈ f.nodes := by
  induction cs generalizing f with
  | nil => rfl
  | cons c cs ih =>
    rw [applyAll_cons, ih fun c' hc' => hown c' (mem_cons_of_mem _ hc')]
    exact ReportSystem.mem_nodes_of_note (hown c mem_cons_self) id

def Registered (a : AllocId) (f : FsmState) (cs : List Command) : Prop :=
  ∀ id sts, .nodeHeartbeat id sts ∈ cs → sts.lookup a = some .running → id ∈ f.nodes

lemma effect_before (ha : f.allocs.lookup a = some al) (hp : al.status.isPending = true)
    (cs : List Command) (hown : ∀ c ∈ cs, c.note a ≠ .foreign)
    (hstarted : ∀ c ∈ cs, c.note a ≠ .started)
    (hord : (cs.map (Command.note a)).Pairwise Note.Follows) (hreg : Registered a f cs) :
    ∃ al', (applyAll f cs).allocs.lookup a = some al' ∧ al'.address = al.address ∧
      al'.startedAt = al.startedAt ∧
      ((∀ c ∈ cs, c.note a ≠ .beat) ∧ al'.status.isPending = true ∨
        (∃ c ∈ cs, c.note a = .beat) ∧ al'.status = .running) := by
  induction cs using List.reverseRecOn with
  | nil => exact ⟨al, ha, rfl, rfl, .inl ⟨nofun, hp⟩⟩
  | append_singleton cs c ih =>
    have hown' : ∀ c' ∈ cs, c'.note a ≠ .foreign := fun c' hc' => hown c' (by simp [hc'])
    rw [map_append, pairwise_append] at hord
    obtain ⟨hord, -, hlast⟩ := hord
    obtain ⟨al', hal, haddr, htime, hstatus⟩ := ih hown' (fun c' hc' => hstarted c' (by simp [hc']))
      hord (fun id sts hmem => hreg id sts (by simp [hmem]))
    have hstep : applyAll f (cs ++ [c]) = (applyCommand (applyAll f cs) c).1 := applyAll_append ..
    rw [hstep]
    cases hc : c.note a with
    | foreign => exact absurd hc (hown c (by simp))
    | started => exact absurd hc (hstarted c (by simp))
    | other =>
      refine ⟨al', effect_other hal hc, haddr, htime, ?_⟩
      rcases hstatus with ⟨hno, hpend⟩ | ⟨⟨b, hb, hbeat⟩, hrun⟩
      · refine .inl ⟨fun c' hc' => ?_, hpend⟩
        rcases mem_append.mp hc' with hc' | hc'
        · exact hno c' hc'
        · rw [mem_singleton.mp hc', hc]
          decide
      · exact .inr ⟨⟨b, by simp [hb], hbeat⟩, hrun⟩
    | update =>
      obtain ⟨status, hpend, heff⟩ := effect_update hal hc
      refine ⟨_, heff, haddr, htime, .inl ⟨fun c' hc' hbeat => ?_, hpend⟩⟩
      -- a heartbeat cannot come before a status update
      rcases mem_append.mp hc' with hc' | hc'
      · have hf := (hlast (c'.note a) (List.mem_map_of_mem hc') (c.note a) (by simp)).1 hc
        rw [hbeat] at hf
        rcases hf with hf | hf <;> cases hf
      · rw [mem_singleton.mp hc', hc] at hbeat
        cases hbeat
    | beat =>
      have hne : al'.status ≠ .healthy := by
        intro h
        rcases hstatus with ⟨-, hpend⟩ | ⟨-, hrun⟩
        · rw [h] at hpend
          cases hpend
        · rw [h] at hrun
          cases hrun
      have hid : ∀ id sts, c = .nodeHeartbeat id sts → id ∈ (applyAll f cs).nodes := by
        rintro id sts rfl
        rw [mem_nodes_applyAll hown']
        exact hreg id sts (by simp) ((by grind [Command.note]))
      exact ⟨_, effect_beat hal hne hid hc, haddr, htime, .inr ⟨⟨c, by simp, hc⟩, rfl⟩⟩

lemma effect_after (ha : f.allocs.lookup a = some al) (hrun : al.status = .running)
    (cs : List Command) (hcs : ∀ c ∈ cs, c.note a = .beat ∨ c.note a = .other)
    (hreg : Registered a f cs) : (applyAll f cs).allocs.lookup a = some al := by
  induction cs using List.reverseRecOn with
  | nil => exact ha
  | append_singleton cs c ih =>
    have hcs' : ∀ c' ∈ cs, c'.note a = .beat ∨ c'.note a = .other := fun c' hc' =>
      hcs c' (by simp [hc'])
    have hal := ih hcs' fun id sts hmem => hreg id sts (by simp [hmem])
    have hstep : applyAll f (cs ++ [c]) = (applyCommand (applyAll f cs) c).1 := applyAll_append ..
    rw [hstep]
    rcases hcs c (by simp) with hc | hc
    · have hne : al.status ≠ .healthy := by
        rw [hrun]
        decide
      have hown : ∀ c' ∈ cs, c'.note a ≠ .foreign := by
        intro c' hc' h
        rcases hcs' c' hc' with h' | h' <;> rw [h] at h' <;> cases h'
      have hid : ∀ id sts, c = .nodeHeartbeat id sts → id ∈ (applyAll f cs).nodes := by
        rintro id sts rfl
        rw [mem_nodes_applyAll hown]
        exact hreg id sts (by simp) ((by grind [Command.note]))
      rw [effect_beat hal hne hid hc, ← hrun]
    · exact effect_other hal hc

end

namespace ReportSystem

def CarriesRunning (a : AllocId) (c : Command) : Prop :=
  ∃ id sts, c = .nodeHeartbeat id sts ∧ sts.lookup a = some .running

lemma carriesRunning_iff {a : AllocId} {c : Command} : CarriesRunning a c ↔ c.note a = .beat := by
  cases c <;> grind [CarriesRunning, Command.note]

lemma sequenced_init {a : AllocId} {spec : ContainerSpec} {sec₀ : Secondary} {f₀ : FsmState}
    (hloop : sec₀.loop = .check a spec) (habsent : sec₀.allocs.lookup a = none)
    (hreports : ∀ r ∈ sec₀.reports, r.note a = .other)
    (hbeat : ∀ hb ∈ sec₀.pendingHeartbeat, hb.allocStatuses.lookup a = none) :
    Sequenced a f₀ ⟨sec₀, none, f₀, []⟩ := by
  have hnotes : ∀ x ∈ notes a ⟨sec₀, none, f₀, []⟩, x = .other := by
    intro x hx
    simp only [notes, toList_none, append_nil, map_nil, nil_append] at hx
    obtain ⟨r, hr, rfl⟩ := List.mem_map.mp hx
    exact hreports r hr
  refine ⟨rfl, fun _ => Iff.rfl, ?_, ?_, ?_, ?_, ?_, ?_⟩
  · refine pairwise_of_forall_mem_list ?_
    intro x hx y _
    rw [hnotes x hx]
    exact Note.follows_other_left y
  · intro h
    cases hnotes _ h
  · refine .starting (by rw [hloop]; rfl) habsent hbeat ?_
    exact fun x hx => .inr (hnotes x hx)
  · intro l hl
    rw [habsent] at hl
    cases hl
  · intro hb hhb st hst
    rw [hbeat hb hhb] at hst
    cases hst
  · intro id sts hmem
    cases hmem

/-- However the heartbeat loop and `run_container` interleave, the allocation
ends up Running with the address and the start time of its `AllocRunning` exactly
if no heartbeat that reports it Running is applied before, or it had them
already. -/
theorem allocRunning_applied_iff (a : AllocId) (spec : ContainerSpec) (sec₀ : Secondary)
    (f₀ : FsmState) (al₀ : Alloc) (hloop : sec₀.loop = .check a spec)
    (habsent : sec₀.allocs.lookup a = none) (hreports : ∀ r ∈ sec₀.reports, r.note a = .other)
    (hbeat : ∀ hb ∈ sec₀.pendingHeartbeat, hb.allocStatuses.lookup a = none)
    (hal : f₀.allocs.lookup a = some al₀) (hpending : al₀.status.isPending = true)
    (es : List ReportEvent) (s : ReportSystem) (hes : ∀ e ∈ es, Interleaves a e)
    (hrun : run step ⟨sec₀, none, f₀, []⟩ es = some s) (pre post : List Command)
    (address : Option SocketAddr) (startedAt : Option SystemTime)
    (happ : s.applied = pre ++ .allocRunning a address startedAt :: post) :
    (∃ al, s.fsm.allocs.lookup a = some al ∧ al.status = .running ∧ al.address = address ∧
      al.startedAt = startedAt) ↔
    (∀ c ∈ pre, ¬ CarriesRunning a c) ∨ al₀.address = address ∧ al₀.startedAt = startedAt := by
  have h : Sequenced a f₀ s := run_invariant (P := fun _ e => Interleaves a e)
    (fun _ _ _ h he hs => sequenced_step h he hs) (sequenced_init hloop habsent hreports hbeat)
    (guarded_of_forall _ fun e he _ => hes e he) hrun
  set started := Command.allocRunning a address startedAt with hstarted
  have hnote : started.note a = .started := if_pos rfl
  have hsub : List.Sublist (s.applied.map (Command.note a)) (s.notes a) := by
    rw [notes, map_append, append_assoc]
    exact sublist_append_left _ _
  have hord := h.order.sublist hsub
  have hown : ∀ c ∈ s.applied, c.note a ≠ .foreign := fun c hc hn =>
    h.ours (hsub.subset (hn ▸ List.mem_map_of_mem hc))
  rw [happ, map_append, map_cons, pairwise_append, pairwise_cons] at hord
  obtain ⟨hpre, ⟨hafter, -⟩, hcross⟩ := hord
  have hreg : Registered a f₀ s.applied := fun id sts hmem =>
    h.registered id sts (mem_append_left _ hmem)
  -- up to the command
  obtain ⟨al₁, hal₁, haddr, htime, hstatus⟩ := effect_before hal hpending pre
    (fun c hc => hown c (by simp [happ, hc]))
    (fun c hc hn => (hcross _ (List.mem_map_of_mem hc) _ mem_cons_self).2 hnote hn) hpre
    (fun id sts hmem => hreg id sts (by simp [happ, hmem]))
  have hal₂ := effect_started hal₁ address startedAt
  have hrun₂ : (al₁.run address startedAt).status = .running :=
    run_status (hstatus.imp And.right And.right)
  -- and after it
  have hpost : ∀ c ∈ post, c.note a = .beat ∨ c.note a = .other := by
    intro c hc
    have hf : Note.Follows .started (c.note a) := hnote ▸ hafter _ (List.mem_map_of_mem hc)
    exact Note.of_follows_started hf (hown c (by simp [happ, hc]))
  have hfinal : s.fsm.allocs.lookup a = some (al₁.run address startedAt) := by
    have hsplit : s.fsm = applyAll (applyCommand (applyAll f₀ pre) started).1 post := by
      rw [h.fsm, happ, applyAll_append, applyAll_cons]
    rw [hsplit]
    refine effect_after hal₂ hrun₂ post hpost fun id sts hmem hsts => ?_
    have hmem' : Command.nodeHeartbeat id sts ∈ s.applied := by simp [happ, hmem]
    have hown₁ : ∀ c ∈ pre ++ [started], c.note a ≠ .foreign := fun c hc =>
      hown c (by rw [happ]; simp at hc ⊢; tauto)
    have hkeep := mem_nodes_applyAll (f := f₀) hown₁ id
    rw [applyAll_append] at hkeep
    exact hkeep.mpr (hreg id sts hmem' hsts)
  simp only [hfinal, Option.some.injEq, exists_eq_left', hrun₂, true_and, carriesRunning_iff]
  rcases hstatus with ⟨hno, hp⟩ | ⟨⟨b, hb, hbeat⟩, hr⟩
  · refine iff_of_true ?_ (.inl hno)
    rw [Alloc.run, if_pos hp]
    exact ⟨rfl, rfl⟩
  · have hnotPending : ¬ al₁.status.isPending = true := by
      rw [hr]
      decide
    have hcarried : ¬ ∀ c ∈ pre, ¬ c.note a = .beat := fun hno => hno b hb hbeat
    rw [Alloc.run, if_neg hnotPending, haddr, htime, or_iff_right hcarried]

def demoAlloc : Alloc := FsmState.makeAlloc ⟨"a"⟩ ⟨"n"⟩ "web" .service none ⟨1, 1⟩

def demoFsm : FsmState :=
  { (default : FsmState) with
    nodes := Finmap.singleton 1 (.demo 1 "n")
    allocs := Finmap.singleton ⟨"a"⟩ demoAlloc }

def demoSecondary : Secondary :=
  { Secondary.init ⟨"n"⟩ none (.withRange 49152 49153 ∅) with
    loop := .check ⟨"a"⟩ (Secondary.demoSpec ⟨"a"⟩) }

def demoInserted : List ReportEvent :=
  [.secondary .loop, .secondary .loop, .secondary (.pulled (.ok ())), .secondary .loop,
    .secondary .loop, .secondary (.started (.ok ())), .secondary .loop]

def demoProcess : List ReportEvent := [.receive [⟨1, .demo 1 "n"⟩] 7, .commit]

theorem allocRunning_applied_iff_first : ∃ s, run step ⟨demoSecondary, none, demoFsm, []⟩
        (demoInserted ++ [.secondary .loop, .secondary .tick, .secondary .heartbeat] ++
          demoProcess ++ demoProcess ++ demoProcess ++ demoProcess) = some s ∧
      ∃ al, s.fsm.allocs.lookup ⟨"a"⟩ = some al ∧ al.status = .running ∧
        al.address = some ⟨.v4 0x0A630001, 49152⟩ ∧ al.startedAt = some 7 := by
  refine ⟨_, rfl, ?_⟩
  refine (allocRunning_applied_iff ⟨"a"⟩ (Secondary.demoSpec ⟨"a"⟩) demoSecondary demoFsm
    demoAlloc rfl rfl (nofun) (nofun) rfl rfl
    (demoInserted ++ [.secondary .loop, .secondary .tick, .secondary .heartbeat] ++
      demoProcess ++ demoProcess ++ demoProcess ++ demoProcess) _ ?_ rfl
    [.allocStatus ⟨"a"⟩ .pulling, .allocStatus ⟨"a"⟩ .starting]
    [.nodeHeartbeat 1 (Finmap.singleton ⟨"a"⟩ .running)] _ _ rfl).mpr (.inl ?_)
  · decide
  · intro c hc
    rw [carriesRunning_iff]
    revert c
    decide

/-- The heartbeat gets in before `RunStarted`: the allocation is Running and
stays without an address. -/
theorem allocRunning_ignored : ∃ s al, run step ⟨demoSecondary, none, demoFsm, []⟩
        (demoInserted ++ [.secondary .tick, .secondary .heartbeat, .secondary .loop] ++
          demoProcess ++ demoProcess ++ demoProcess ++ demoProcess) = some s ∧
      s.applied = [.allocStatus ⟨"a"⟩ .pulling, .allocStatus ⟨"a"⟩ .starting,
        .nodeHeartbeat 1 (Finmap.singleton ⟨"a"⟩ .running),
        .allocRunning ⟨"a"⟩ (some ⟨.v4 0x0A630001, 49152⟩) (some 7)] ∧
      s.fsm.allocs.lookup ⟨"a"⟩ = some al ∧ al.status = .running ∧ al.address = none ∧
      al.startedAt = none := by
  refine ⟨_, _, rfl, ?_, rfl, ?_, ?_, ?_⟩ <;> decide

end ReportSystem

end Mill
