import Mill.Node.Secondary
import Mill.Raft.Lifecycle
import Mill.Raft.Open

/-! The restart of a daemon: the state machine is opened from the last snapshot on
disk, the allocations expected on the node are read from it, and the reconcile
pass stops every managed container that is not among them. -/

namespace Mill

open FileSystem List

namespace Secondary

def reconcile (expectedAllocIds : List AllocId) (listManaged : Except String (List AllocId))
    (recover : AllocId → Except String RecoveredContainer) (s : Secondary) :
    List AllocId × Secondary :=
  match listManaged with
  | .error _ => ([], s)
  | .ok running =>
    (running.filter (· ∉ expectedAllocIds), expectedAllocIds.foldl (rehydrate running recover) s)

lemma mem_reconcile {expected : List AllocId} {listManaged : Except String (List AllocId)}
    {recover : AllocId → Except String RecoveredContainer} {s : Secondary} {id : AllocId} :
    id ∈ (reconcile expected listManaged recover s).1 ↔
      ∃ running, listManaged = .ok running ∧ id ∈ running ∧ id ∉ expected := by
  unfold reconcile
  cases listManaged with
  | error => simp
  | ok => simp

variable (running : List AllocId) (recover : AllocId → Except String RecoveredContainer)

def reconcileReport (meshIp : Option IpAddr) (id : AllocId) : Option NodeReport :=
  if id ∉ running then some (.stopped id (-1))
  else
    match recover id with
    | .error _ => none
    | .ok r => some (.runStarted id r.hostPort
        (meshIp.bind fun ip => r.hostPort.map fun port => ⟨ip, port⟩))

structure ReconciledEntry (id : AllocId) (entry : Option LocalAlloc) : Prop where
  managed : ∀ alloc, entry = some alloc → id ∈ running ∧ ∃ r, recover id = .ok r
  recovered : ∀ r, id ∈ running → recover id = .ok r →
    ∃ alloc, entry = some alloc ∧ alloc.allocId = id ∧ alloc.status = .running ∧
      alloc.hostPort = r.hostPort

lemma rehydrate_spec {s : Secondary} {id : AllocId} (habsent : s.allocs.lookup id = none) :
    (rehydrate running recover s id).meshIp = s.meshIp ∧
    (rehydrate running recover s id).reports =
      s.reports ++ (reconcileReport running recover s.meshIp id).toList ∧
    (∀ i, i ≠ id → (rehydrate running recover s id).allocs.lookup i = s.allocs.lookup i) ∧
    ReconciledEntry running recover id ((rehydrate running recover s id).allocs.lookup id) := by
  unfold rehydrate reconcileReport
  by_cases hmanaged : id ∈ running
  · rw [if_neg (not_not.mpr hmanaged), if_neg (not_not.mpr hmanaged)]
    cases hrecover : recover id with
    | error =>
      refine ⟨rfl, (append_nil _).symm, fun _ _ => rfl, ⟨fun alloc h => ?_, fun r _ h => ?_⟩⟩
      · rw [habsent] at h
        cases h
      · rw [hrecover] at h
        cases h
    | ok r =>
      simp only [AllocationMap.insertNew, habsent, Option.isSome_none, Bool.false_eq_true, if_false]
      refine ⟨rfl, rfl, fun i hi => Finmap.lookup_insert_of_ne _ hi,
        ⟨fun _ _ => ⟨hmanaged, r, hrecover⟩, fun r' _ h => ?_⟩⟩
      rw [hrecover] at h
      cases h
      exact ⟨_, Finmap.lookup_insert _, rfl, rfl, rfl⟩
  · rw [if_pos hmanaged, if_pos hmanaged]
    refine ⟨rfl, rfl, fun _ _ => rfl, ⟨fun alloc h => ?_, fun _ h => absurd h hmanaged⟩⟩
    rw [send, habsent] at h
    cases h

lemma foldl_rehydrate_spec {ids : List AllocId} (hnodup : ids.Nodup) {s : Secondary}
    (habsent : ∀ id ∈ ids, s.allocs.lookup id = none) :
    (ids.foldl (rehydrate running recover) s).reports =
      s.reports ++ ids.filterMap (reconcileReport running recover s.meshIp) ∧
    (∀ i ∉ ids, (ids.foldl (rehydrate running recover) s).allocs.lookup i = s.allocs.lookup i) ∧
    ∀ i ∈ ids, ReconciledEntry running recover i
      ((ids.foldl (rehydrate running recover) s).allocs.lookup i) := by
  induction ids generalizing s with
  | nil => exact ⟨(append_nil _).symm, fun _ _ => rfl, by simp⟩
  | cons id ids ih =>
    obtain ⟨hid, hnodup⟩ := nodup_cons.mp hnodup
    obtain ⟨hmesh, hreports, hother, hentry⟩ :=
      rehydrate_spec running recover (habsent id mem_cons_self)
    have hrest : ∀ i ∈ ids, (rehydrate running recover s id).allocs.lookup i = none := by
      intro i hi
      rw [hother i (ne_of_mem_of_not_mem hi hid)]
      exact habsent i (mem_cons_of_mem id hi)
    obtain ⟨hreports', hother', hentry'⟩ := ih hnodup hrest
    refine ⟨?_, fun i hi => ?_, forall_mem_cons.mpr ⟨?_, hentry'⟩⟩
    · rw [foldl_cons, hreports', hreports, hmesh, append_assoc, filterMap_cons]
      cases reconcileReport running recover s.meshIp id with
      | none => rfl
      | some => rfl
    · rw [mem_cons, not_or] at hi
      rw [foldl_cons, hother' i hi.2, hother i hi.1]
    · rw [foldl_cons, hother' id hid]
      exact hentry

/-- The expected and the managed allocations are told apart. No report is sent twice, and the pass
puts nothing else in the map. -/
theorem reconcile_partition (expected : List AllocId) (hnodup : expected.Nodup) (s : Secondary)
    (hempty : s.allocs = ∅) : ∃ reports,
    (reconcile expected (.ok running) recover s).1 = running.filter (· ∉ expected) ∧
    (reconcile expected (.ok running) recover s).2.reports = s.reports ++ reports ∧
    reports.Nodup ∧
    (∀ report, report ∈ reports ↔ ∃ id ∈ expected, (id ∉ running ∧ report = .stopped id (-1)) ∨
      (id ∈ running ∧ ∃ r, recover id = .ok r ∧ report = .runStarted id r.hostPort
        (s.meshIp.bind fun ip => r.hostPort.map fun port => ⟨ip, port⟩))) ∧
    (∀ id ∈ expected, id ∈ running → ∀ r, recover id = .ok r →
      ∃ alloc, (reconcile expected (.ok running) recover s).2.allocs.lookup id = some alloc ∧
        alloc.allocId = id ∧ alloc.status = .running ∧ alloc.hostPort = r.hostPort) ∧
    ∀ id alloc, (reconcile expected (.ok running) recover s).2.allocs.lookup id = some alloc →
      id ∈ expected ∧ id ∈ running ∧ ∃ r, recover id = .ok r := by
  have habsent (id : AllocId) : s.allocs.lookup id = none := by
    rw [hempty]
    exact Finmap.lookup_empty id
  obtain ⟨hreports, hother, hentry⟩ := foldl_rehydrate_spec running recover hnodup
    fun id _ => habsent id
  have hreport {id : AllocId} {report : NodeReport} :
      reconcileReport running recover s.meshIp id = some report ↔
        (id ∉ running ∧ report = .stopped id (-1)) ∨
        (id ∈ running ∧ ∃ r, recover id = .ok r ∧ report = .runStarted id r.hostPort
          (s.meshIp.bind fun ip => r.hostPort.map fun port => ⟨ip, port⟩)) := by
    unfold reconcileReport
    cases recover id <;> by_cases hmanaged : id ∈ running <;> simp [hmanaged, eq_comm]
  refine ⟨_, rfl, hreports, hnodup.filterMap fun id id' report hid hid' => ?_, fun report => ?_,
    fun id hid hmanaged r hr => (hentry id hid).recovered r hmanaged hr, fun id alloc hid => ?_⟩
  · rcases hreport.mp hid with ⟨-, rfl⟩ | ⟨-, r, -, rfl⟩ <;>
      rcases hreport.mp hid' with ⟨-, heq⟩ | ⟨-, r', -, heq⟩ <;>
      simp only [reduceCtorEq, NodeReport.stopped.injEq, NodeReport.runStarted.injEq] at heq <;>
      exact heq.1
  · rw [mem_filterMap]
    exact exists_congr fun id => and_congr_right fun _ => hreport
  · have hexpected : id ∈ expected := by
      by_contra hnot
      have hnone := (hother id hnot).trans (habsent id)
      exact absurd (hid.symm.trans hnone) (Option.some_ne_none alloc)
    exact ⟨hexpected, (hentry id hexpected).managed alloc hid⟩

def demoRecovered (id : AllocId) : RecoveredContainer :=
  ⟨id, .service, none, none, some 1, 1, 1, "web", []⟩

theorem reconcile_partition_three : ∃ reports,
    (reconcile [⟨"gone"⟩, ⟨"kept"⟩] (.ok [⟨"kept"⟩, ⟨"orphan"⟩]) (fun id => .ok (demoRecovered id))
      (init ⟨"n"⟩ none (.withRange 1 2 ∅))).2.reports = reports ∧ reports.Nodup ∧
    .stopped ⟨"gone"⟩ (-1) ∈ reports ∧ .runStarted ⟨"kept"⟩ (some 1) none ∈ reports := by
  obtain ⟨reports, -, hreports, hnodup, hmem, -⟩ := reconcile_partition
    [⟨"kept"⟩, ⟨"orphan"⟩] (fun id => .ok (demoRecovered id)) [⟨"gone"⟩, ⟨"kept"⟩] (by decide)
    (init ⟨"n"⟩ none (.withRange 1 2 ∅)) rfl
  exact ⟨reports, hreports, hnodup, (hmem _).mpr ⟨_, mem_cons_self, .inl ⟨by decide, rfl⟩⟩,
    (hmem _).mpr ⟨⟨"kept"⟩, by decide, .inr ⟨by decide, _, rfl, rfl⟩⟩⟩

end Secondary

/-- The allocations that a restarted node expects, the state visited in the order
`allocs`. -/
def expectedAllocs (millId : NodeId) (allocs : List Alloc) : List AllocId :=
  (allocs.filter fun a => a.node == millId && !a.status.isTerminal).map Alloc.id

def LiveOn (s : FsmState) (millId : NodeId) (i : AllocId) : Prop :=
  ∃ a, s.allocs.lookup i = some a ∧ a.node = millId ∧ a.status.isTerminal = false

def Live (s : FsmState) (i : AllocId) : Prop :=
  ∃ a, s.allocs.lookup i = some a ∧ a.status.isTerminal = false

lemma mem_expectedAllocs {s : FsmState} (hs : KeyedById s) {allocs : List Alloc}
    (horder : s.allocs.values = allocs) {millId : NodeId} {i : AllocId} :
    i ∈ expectedAllocs millId allocs ↔ LiveOn s millId i := by
  have hmem : ∀ a, a ∈ allocs ↔ ∃ k, s.allocs.lookup k = some a := by
    intro a
    rw [← Finmap.mem_values, horder, Multiset.mem_coe]
  simp only [expectedAllocs, mem_map, mem_filter, Bool.and_eq_true, beq_iff_eq, Bool.not_eq_true']
  constructor
  · rintro ⟨a, ⟨ha, hnode, hlive⟩, rfl⟩
    obtain ⟨k, hk⟩ := (hmem a).mp ha
    have hid := hs k a hk
    exact ⟨a, hid ▸ hk, hnode, hlive⟩
  · rintro ⟨a, ha, hnode, hlive⟩
    exact ⟨a, ⟨(hmem a).mpr ⟨i, ha⟩, hnode, hlive⟩, hs i a ha⟩

section

variable {B : Type} {serde : Serde B} {d : RaftDir B}

/-- The last snapshot written to the directory is of the log up to `entries`. -/
inductive LastSnapshot (serde : Serde B) (d : RaftDir B) : List Entry → Prop
  | never (hmeta : d "snapshot-meta.json" = none) : LastSnapshot serde d []
  | taken (entries : List Entry) (b : SnapshotBuilder) (data : B)
      (hb : b.replica = Replica.empty.replay entries)
      (hencode : serde.encode b.fsmSnapshot = .ok data)
      (hbin : d "snapshot.bin" = some ⟨data, true⟩)
      (hmeta : d "snapshot-meta.json" = some ⟨serde.metaToJson b.snapMeta, true⟩) :
      LastSnapshot serde d entries

lemma openDir_lastSnapshot {entries : List Entry} (h : LastSnapshot serde d entries)
    {vote : Option Vote} (hvote : d "vote.json" = vote.map fun v => ⟨serde.voteToJson v, true⟩)
    (lost : String → Option B) :
    ∃ r, MillRaft.openDir serde (crash lost d) = .ok r ∧
      r.sm.state.fsm = (Replica.empty.replay entries).fsm := by
  have hread : Disk.readVote serde (crash lost d) = .ok vote := by
    apply Disk.readVote_of_file
    rw [crash_of_synced hvote, hvote]
  cases h with
  | never hmeta =>
    have hsnap : Disk.readSnapshot serde (crash lost d) = .ok none := by
      apply Disk.readSnapshot_of_no_meta
      rw [crash_of_synced (o := none) (g := serde.metaToJson) hmeta, hmeta]
    exact ⟨_, MillRaft.openDir_of_no_snapshot hread hsnap, rfl⟩
  | taken entries b data hb hencode hbin hmeta =>
    have hsnap : Disk.readSnapshot serde (crash lost d) = .ok (some (data, b.snapMeta)) := by
      apply Disk.readSnapshot_of_files
      · rw [crash_of_synced (o := some data) (g := id) hbin, hbin]
      · rw [crash_of_synced (o := some b.snapMeta) (g := serde.metaToJson) hmeta, hmeta]
    refine ⟨_, MillRaft.openDir_of_snapshot hread hsnap (serde.decode_encode _ _ hencode), ?_⟩
    exact congrArg Replica.fsm hb

lemma keyedById_replay (log : List Entry) : KeyedById (Replica.empty.replay log).fsm := by
  induction log using List.reverseRecOn with
  | nil =>
    intro i a ha
    cases ha
  | append_singleton log e ih =>
    rw [Replica.replay_append]
    obtain ⟨logId, payload⟩ := e
    cases payload with
    | normal cmd => exact keyedById_applyCommand ih cmd
    | blank => exact ih
    | membership => exact ih

/-- A node restarts with its last snapshot taken after `entries` and `later`
committed since. The pass stops only what is dead in the committed state exactly
if everything that is managed and alive there was alive on the node in the
snapshot. -/
theorem reconcile_stops_only_dead_iff (serde : Serde B) (entries later : List Entry)
    (d : RaftDir B) (hlast : LastSnapshot serde d entries) (vote : Option Vote)
    (hvote : d "vote.json" = vote.map fun v => ⟨serde.voteToJson v, true⟩)
    (lost : String → Option B) (n : NodeId) (listManaged : Except String (List AllocId))
    (recover : AllocId → Except String RecoveredContainer) (sec : Secondary) :
    ∃ r, MillRaft.openDir serde (crash lost d) = .ok r ∧
      ∀ allocs : List Alloc, r.sm.state.fsm.allocs.values = allocs →
        ((∀ i ∈ (sec.reconcile (expectedAllocs n allocs) listManaged recover).1,
            ¬ Live (Replica.empty.replay (entries ++ later)).fsm i) ↔
          ∀ running, listManaged = .ok running → ∀ i ∈ running,
            Live (Replica.empty.replay (entries ++ later)).fsm i →
              LiveOn (Replica.empty.replay entries).fsm n i) := by
  obtain ⟨r, hopen, hfsm⟩ := openDir_lastSnapshot hlast hvote lost
  refine ⟨r, hopen, fun allocs horder => ?_⟩
  have hexpected : ∀ i, i ∈ expectedAllocs n allocs ↔
      LiveOn (Replica.empty.replay entries).fsm n i := by
    intro i
    rw [← hfsm]
    exact mem_expectedAllocs (hfsm ▸ keyedById_replay entries) horder
  simp only [Secondary.mem_reconcile, hexpected]
  constructor
  · intro hstop running hlist i hi hlive
    by_contra hnot
    exact hstop i ⟨running, hlist, hi, hnot⟩ hlive
  · rintro hlive i ⟨running, hlist, hi, hnot⟩ halive
    exact hnot (hlive running hlist i hi halive)

end

def demoRegistered : Entry := StateMachineStore.demoEntry 1 (.normal (.demoRegister 1 "n"))

def demoSchedule : Entry :=
  StateMachineStore.demoEntry 2 (.normal (.allocScheduled ⟨"a"⟩ 1 "web" .service none ⟨1, 1⟩))

def demoDir (entries : List Entry) : RaftDir Contents :=
  let r := Replica.empty.replay entries
  let b : SnapshotBuilder := ⟨r.fsm, r.lastApplied, r.lastMembership⟩
  attempt ⟨6, none⟩ (Disk.writeSnapshot Contents.serde (.state r.fsm) b.snapMeta)
    (RaftDir.empty Contents)

/-- When a build has gone through, the two files are of the state after exactly the applied entries,
whatever was in the directory before. -/
theorem files_of_buildSnapshot {B : Type} {serde : Serde B} {batches : List (List Entry)}
    {st st' : StateMachineStore B} {d d' : RaftDir B} {snap : Snapshot B} {io : Io B}
    (hio : 6 ≤ io.steps)
    (h : ((StateMachineStore.withPersistence : StateMachineStore B).applyBatches
      batches).getSnapshotBuilder.buildSnapshot serde io st d = .ok (snap, st', d')) :
    ∃ data snapMeta, serde.encode (Replica.empty.replay batches.flatten).fsm = .ok data ∧
      snapMeta.lastLogId = (Replica.empty.replay batches.flatten).lastApplied ∧
      snapMeta.lastMembership = (Replica.empty.replay batches.flatten).lastMembership ∧
      d' "snapshot.bin" = some ⟨data, true⟩ ∧
      d' "snapshot-meta.json" = some ⟨serde.metaToJson snapMeta, true⟩ := by
  set b := ((StateMachineStore.withPersistence : StateMachineStore B).applyBatches
    batches).getSnapshotBuilder with hbdef
  have hb : b.replica = Replica.empty.replay batches.flatten :=
    StateMachineStore.applyBatches_replica .withPersistence batches
  rw [← hb]
  unfold SnapshotBuilder.buildSnapshot at h
  cases hencode : serde.encode b.fsmSnapshot with
  | error =>
    rw [hencode] at h
    cases h
  | ok data =>
    rw [hencode] at h
    simp only [Except.ok.injEq, Prod.mk.injEq] at h
    obtain ⟨-, -, rfl⟩ := h
    have h3 : ¬ io.steps < 3 := by omega
    have h6 : ¬ io.steps < 6 := by omega
    refine ⟨data, b.snapMeta, hencode, rfl, rfl, ?_, ?_⟩
    · rw [Disk.writeSnapshot_bin, if_neg h3]
    · rw [Disk.writeSnapshot_meta, if_neg h6]

theorem files_of_buildSnapshot_scheduled :
    ∃ snap st d, ((StateMachineStore.withPersistence : StateMachineStore Contents).applyBatches
        [[demoRegistered], [demoSchedule]]).getSnapshotBuilder.buildSnapshot Contents.serde
          ⟨6, none⟩ .withPersistence (demoDir [demoRegistered]) = .ok (snap, st, d) ∧
      ∃ data snapMeta,
        Contents.serde.encode (Replica.empty.replay [demoRegistered, demoSchedule]).fsm = .ok data ∧
        snapMeta.lastLogId = some ⟨⟨1, 1⟩, 2⟩ ∧ d "snapshot.bin" = some ⟨data, true⟩ ∧
        d "snapshot-meta.json" = some ⟨Contents.serde.metaToJson snapMeta, true⟩ := by
  refine ⟨_, _, _, (and_iff_left_of_imp fun h => ?_).mpr rfl⟩
  obtain ⟨data, snapMeta, hdata, hlast, -, hfiles⟩ := files_of_buildSnapshot le_rfl h
  exact ⟨data, snapMeta, hdata, hlast, hfiles⟩

lemma lastSnapshot_demoDir (entries : List Entry) :
    LastSnapshot Contents.serde (demoDir entries) entries :=
  .taken entries ⟨_, _, _⟩ _ rfl rfl rfl rfl

theorem reconcile_stops_only_dead_iff_covered : ∃ r, MillRaft.openDir Contents.serde
        (crash (fun _ => none) (demoDir [demoRegistered, demoSchedule])) = .ok r ∧
      ∀ allocs : List Alloc, r.sm.state.fsm.allocs.values = allocs →
        ∀ i ∈ ((Secondary.init ⟨"n"⟩ none (.withRange 1 2 ∅)).reconcile
            (expectedAllocs ⟨"n"⟩ allocs) (.ok [⟨"a"⟩]) (fun _ => .error "gone")).1,
          ¬ Live (Replica.empty.replay ([demoRegistered, demoSchedule] ++ [])).fsm i := by
  obtain ⟨r, hopen, hiff⟩ := reconcile_stops_only_dead_iff Contents.serde
    [demoRegistered, demoSchedule] [] (demoDir [demoRegistered, demoSchedule])
    (lastSnapshot_demoDir _) none rfl (fun _ => none) ⟨"n"⟩ (.ok [⟨"a"⟩]) (fun _ => .error "gone")
    (Secondary.init ⟨"n"⟩ none (.withRange 1 2 ∅))
  refine ⟨r, hopen, fun allocs horder => (hiff allocs horder).mpr ?_⟩
  intro running hlist i hi _
  cases hlist
  rw [mem_singleton.mp hi]
  exact ⟨_, rfl, rfl, rfl⟩

/-- An allocation placed after the last snapshot: its container runs, and the
restart stops it. -/
theorem reconcile_stops_live_container :
    ∃ r, MillRaft.openDir Contents.serde (crash (fun _ => none) (demoDir [demoRegistered])) =
        .ok r ∧
      r.sm.state.fsm.allocs.values = ([] : List Alloc) ∧
      ((Secondary.init ⟨"n"⟩ none (.withRange 1 2 ∅)).reconcile (expectedAllocs ⟨"n"⟩ [])
        (.ok [⟨"a"⟩]) (fun _ => .error "gone")).1 = [⟨"a"⟩] ∧
      LiveOn (Replica.empty.replay [demoRegistered, demoSchedule]).fsm ⟨"n"⟩ ⟨"a"⟩ :=
  ⟨_, rfl, rfl, rfl, _, rfl, rfl, rfl⟩

end Mill
