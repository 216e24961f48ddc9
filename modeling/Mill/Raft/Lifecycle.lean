import Mill.Lib.Run
import Mill.Raft.Effect

/-! Which commands may overwrite a terminal status, and how long an allocation stays Healthy. -/

namespace Mill

open Transition

def fsmStep (s : FsmState) (c : Command) : Option FsmState := some (applyCommand s c).1

lemma run_fsmStep (s : FsmState) (cs : List Command) : run fsmStep s cs = some (applyAll s cs) := by
  induction cs generalizing s with
  | nil => rfl
  | cons c cs ih => exact ih _

lemma guarded_fsmStep_iff {I : FsmState → Prop} {P : FsmState → Command → Prop}
    (hstep : ∀ s c, I s → (I (applyCommand s c).1 ↔ P s c)) {s : FsmState} (hs : I s)
    (cs : List Command) : Guarded fsmStep P s cs ↔ ∀ ds, ds <+: cs → I (applyAll s ds) := by
  have hsome : ∀ s c s', I s → fsmStep s c = some s' → (I s' ↔ P s c) := by
    intro s c s' hs h
    cases h
    exact hstep s c hs
  rw [guarded_iff_forall_reached hsome hs (run_fsmStep s cs)]
  refine forall_congr' fun ds => ?_
  simp only [run_fsmStep, Option.some.injEq]
  exact ⟨fun h hds => h _ hds rfl, fun h _ hds ht => ht ▸ h hds⟩

def statusOf (s : FsmState) (i : AllocId) : Option AllocStatus :=
  (s.allocs.lookup i).map Alloc.status

def Reuses (i : AllocId) : Command → Prop
  | .allocScheduled allocId .. => allocId = i
  | _ => False

def Deletes (s : FsmState) (i : AllocId) (c : Command) : Prop :=
  (∃ id, c = .nodeRemove id) ∧ statusOf (applyCommand s c).1 i = none

/-- The command carries a status for the allocation other than `st`: an
`AllocStatus`, or the heartbeat of a registered node. -/
def Overwrites (s : FsmState) (i : AllocId) (st : AllocStatus) : Command → Prop
  | .allocStatus allocId status => allocId = i ∧ status ≠ st
  | .nodeHeartbeat id allocStatuses =>
    id ∈ s.nodes ∧ ∃ status, allocStatuses.lookup i = some status ∧ status ≠ st
  | _ => False

lemma report_status_of_terminal {a : Alloc} (ht : a.status.isTerminal = true)
    (allocStatuses : Finmap fun _ : AllocId => AllocStatus) (i : AllocId) :
    (a.report allocStatuses i).status = (allocStatuses.lookup i).getD a.status := by
  have hne : a.status ≠ .healthy := by
    intro h
    rw [h] at ht
    exact absurd ht (by decide)
  unfold Alloc.report
  cases allocStatuses.lookup i with
  | none => rfl
  | some => simp [Alloc.heartbeat, hne]

lemma run_of_terminal {a : Alloc} (ht : a.status.isTerminal = true) (address : Option SocketAddr)
    (startedAt : Option SystemTime) : a.run address startedAt = a := by
  have hp : a.status.isPending = false := by
    cases h : a.status <;> rw [h] at ht <;> first | rfl | exact absurd ht (by decide)
  simp [Alloc.run, hp]

lemma allocAfter_nodeRemove (s : FsmState) (i : AllocId) (id : Nat) :
    allocAfter s i (.nodeRemove id) = s.allocs.lookup i ∨
      allocAfter s i (.nodeRemove id) = none := by
  simp only [allocAfter]
  cases s.nodes.lookup id with
  | none => exact .inl rfl
  | some node =>
    dsimp only
    split_ifs
    · exact .inl rfl
    · cases s.allocs.lookup i with
      | none => exact .inl rfl
      | some a => by_cases h : a.node = node.millId <;> simp [h]

lemma terminal_step_iff {s : FsmState} {i : AllocId} {st : AllocStatus}
    (hs : statusOf s i = some st) (ht : st.isTerminal = true) (c : Command)
    (hreuse : ¬ Reuses i c) (hdel : ¬ Deletes s i c) :
    statusOf (applyCommand s c).1 i = some st ↔ ¬ Overwrites s i st c := by
  obtain ⟨a, ha, rfl⟩ := Option.map_eq_some_iff.mp hs
  have hafter : statusOf (applyCommand s c).1 i = (allocAfter s i c).map Alloc.status := by
    rw [statusOf, lookup_allocs_applyCommand]
  have hsame (h : allocAfter s i c = some a) (hc : ¬ Overwrites s i a.status c) :
      statusOf (applyCommand s c).1 i = some a.status ↔ ¬ Overwrites s i a.status c := by
    rw [hafter, h]
    exact iff_of_true rfl hc
  cases c with
  | nodeHeartbeat id allocStatuses =>
    by_cases hid : id ∈ s.nodes
    · rw [hafter, allocAfter, if_pos hid, ha, Option.map_some, Option.map_some,
        report_status_of_terminal ht]
      simp only [Overwrites, hid, true_and]
      cases allocStatuses.lookup i <;> simp
    · exact hsame (by rw [allocAfter, if_neg hid, ha]) fun h => hid h.1
  | allocScheduled allocId =>
    have hne : i ≠ allocId := fun h => hreuse h.symm
    refine hsame ?_ id
    simp only [allocAfter, if_neg hne, ha]
    split <;> rfl
  | allocStatus allocId =>
    by_cases hi : i = allocId
    · subst hi
      rw [hafter, allocAfter, if_pos rfl, ha]
      simp [Overwrites]
    · exact hsame (by rw [allocAfter, if_neg hi, ha]) fun h => hi h.1.symm
  | allocRunning =>
    refine hsame ?_ id
    simp only [allocAfter, ha, Option.map_some, run_of_terminal ht]
    split_ifs <;> rfl
  | nodeRemove id =>
    rcases allocAfter_nodeRemove s i id with h | h
    · exact hsame (h.trans ha) fun h => h
    · exact absurd ⟨⟨id, rfl⟩, by rw [hafter, h, Option.map_none]⟩ hdel
  | _ => exact hsame ha id

def Leaves (i : AllocId) (st : AllocStatus) (s : FsmState) (c : Command) : Prop :=
  ¬ Reuses i c ∧ ¬ Deletes s i c ∧ ¬ Overwrites s i st c

lemma terminal_run {s : FsmState} {i : AllocId} {st : AllocStatus} (hs : statusOf s i = some st)
    (ht : st.isTerminal = true) {cs : List Command} (hcs : Guarded fsmStep (Leaves i st) s cs) :
    statusOf (applyAll s cs) i = some st := by
  refine run_invariant (I := fun s => statusOf s i = some st) ?_ hs hcs (run_fsmStep s cs)
  intro s c s' h hc hstep
  rw [fsmStep, Option.some.injEq] at hstep
  rw [← hstep]
  exact (terminal_step_iff h ht c hc.1 hc.2.1).mpr hc.2.2

/-- In every reachable state a command keeps a terminal status exactly when it
does not carry another status for the allocation, and along every run of such
commands the status stays what it was. -/
theorem terminal_absorbing (cs : List Command) (i : AllocId) (st : AllocStatus)
    (hs : statusOf (applyAll default cs) i = some st) (ht : st.isTerminal = true) :
    (∀ c, ¬ Reuses i c → ¬ Deletes (applyAll default cs) i c →
      (statusOf (applyCommand (applyAll default cs) c).1 i = some st ↔
        ¬ Overwrites (applyAll default cs) i st c)) ∧
    ∀ ds, Guarded fsmStep (Leaves i st) (applyAll default cs) ds →
      statusOf (applyAll default (cs ++ ds)) i = some st := by
  refine ⟨fun c hreuse hdel => terminal_step_iff hs ht c hreuse hdel, fun ds hds => ?_⟩
  rw [applyAll_append]
  exact terminal_run hs ht hds

/-- A node falls silent while it runs `web-0`: the watchdog takes it down and
fails its allocation. -/
def silentNodeLog : List Command :=
  [.nodeRegister 1 ⟨"node-1"⟩ ⟨.v4 0x0A630001, 4400⟩ ⟨4, 4, 8192, 8192⟩ none none none none,
    .allocScheduled ⟨"web-0"⟩ 1 "web" .service none ⟨1, 256⟩,
    .allocRunning ⟨"web-0"⟩ (some ⟨.v4 0x0A630001, 49152⟩) (some 100),
    .nodeDown 1,
    .allocStatus ⟨"web-0"⟩ (.failed "node down")]

theorem terminal_absorbing_silentNode :
    statusOf (applyAll default (silentNodeLog ++ [.allocRunning ⟨"web-0"⟩ none (some 200)]))
      ⟨"web-0"⟩ = some (.failed "node down") := by
  refine (terminal_absorbing silentNodeLog ⟨"web-0"⟩ (.failed "node down") (by decide)
    (by decide)).2 _ ⟨⟨id, ?_, id⟩, fun _ _ => trivial⟩
  rintro ⟨⟨id, h⟩, -⟩
  exact Command.noConfusion h

def returnHeartbeat : Command := .nodeHeartbeat 1 (Finmap.singleton ⟨"web-0"⟩ .running)

/-- The node comes back: its next heartbeat makes the failed allocation run
again. -/
theorem terminal_revived :
    statusOf (applyAll default silentNodeLog) ⟨"web-0"⟩ = some (.failed "node down") ∧
    ¬ Reuses ⟨"web-0"⟩ returnHeartbeat ∧
    ¬ Deletes (applyAll default silentNodeLog) ⟨"web-0"⟩ returnHeartbeat ∧
    statusOf (applyAll default (silentNodeLog ++ [returnHeartbeat])) ⟨"web-0"⟩ = some .running := by
  refine ⟨by decide, id, ?_, by decide⟩
  rintro ⟨⟨id, h⟩, -⟩
  exact Command.noConfusion h

/-- Where no command schedules its id again, an allocation was there before, and its node, name,
kind and resources are what they were. -/
theorem identity_kept (s : FsmState) {i : AllocId} {cs : List Command} {a : Alloc}
    (hcs : ∀ c ∈ cs, ¬ Reuses i c) (ha : (applyAll s cs).allocs.lookup i = some a) :
    ∃ b, s.allocs.lookup i = some b ∧
      a = { b with status := a.status, address := a.address, startedAt := a.startedAt } := by
  induction cs generalizing s with
  | nil => exact ⟨a, ha, rfl⟩
  | cons c cs ih =>
    obtain ⟨hc, hcs⟩ := List.forall_mem_cons.mp hcs
    obtain ⟨b, hb, hab⟩ := ih _ hcs ha
    rw [lookup_allocs_applyCommand] at hb
    obtain ⟨b', hb', hbb⟩ := alloc_of_allocAfter (by rintro _ _ _ _ _ rfl; exact hc rfl) hb
    exact ⟨b', hb', by rw [hab, hbb]⟩

theorem identity_kept_silentNode : ∃ b,
    (applyAll default (silentNodeLog.take 2)).allocs.lookup ⟨"web-0"⟩ = some b ∧
      b.name = "web" := by
  obtain ⟨a, ha⟩ : ∃ a, (applyAll (applyAll default (silentNodeLog.take 2))
      (silentNodeLog.drop 2)).allocs.lookup ⟨"web-0"⟩ = some a ∧ a.name = "web" :=
    ⟨_, rfl, rfl⟩
  obtain ⟨b, hb, hab⟩ := identity_kept _ (by simp [silentNodeLog, Reuses]) ha.1
  exact ⟨b, hb, by rw [← ha.2, hab]⟩

/-- What nodes and the watchdog have to say while nothing is deployed: heartbeats of a secondary,
which knows no other statuses than these, starts, and nodes that go. -/
def Observation : Command → Prop
  | .nodeHeartbeat _ allocStatuses =>
    ∀ i status, allocStatuses.lookup i = some status → status = .running ∨ status.isTerminal = true
  | .allocRunning .. | .nodeDown _ | .nodeDrain _ => True
  | _ => False

def ReportsEnd (i : AllocId) : Command → Prop
  | .nodeHeartbeat _ allocStatuses =>
    ∃ status, allocStatuses.lookup i = some status ∧ status.isTerminal = true
  | _ => False

lemma report_of_healthy {a : Alloc} (ha : a.status = .healthy)
    {allocStatuses : Finmap fun _ : AllocId => AllocStatus} {i : AllocId}
    (h : ∀ status, allocStatuses.lookup i = some status → status = .running) :
    a.report allocStatuses i = a := by
  unfold Alloc.report
  cases hi : allocStatuses.lookup i with
  | none => rfl
  | some status =>
    obtain rfl := h status hi
    exact if_pos ⟨ha, rfl⟩

lemma run_of_healthy {a : Alloc} (ha : a.status = .healthy) (address : Option SocketAddr)
    (startedAt : Option SystemTime) : a.run address startedAt = a := by
  unfold Alloc.run
  rw [ha]
  exact if_neg Bool.false_ne_true

lemma healthy_step {s : FsmState} {i : AllocId} {a : Alloc} (hi : s.allocs.lookup i = some a)
    (ha : a.status = .healthy) {c : Command} (hc : Observation c) (hend : ¬ ReportsEnd i c) :
    (applyCommand s c).1.allocs.lookup i = some a := by
  rw [lookup_allocs_applyCommand]
  cases c with
  | nodeHeartbeat id allocStatuses =>
    have hrunning : ∀ status, allocStatuses.lookup i = some status → status = .running := by
      intro status hstatus
      rcases hc i status hstatus with h | h
      · exact h
      · exact absurd ⟨status, hstatus, h⟩ hend
    simp only [allocAfter, hi, Option.map_some, report_of_healthy ha hrunning, ite_self]
  | allocRunning =>
    simp only [allocAfter, hi, Option.map_some, run_of_healthy ha, ite_self]
  | nodeDown => exact hi
  | nodeDrain => exact hi
  | _ => exact hc.elim

/-- A Healthy allocation stays as it is up to the first heartbeat that reports its end. -/
theorem healthy_until_end (s : FsmState) (i : AllocId) (a : Alloc) (hi : s.allocs.lookup i = some a)
    (ha : a.status = .healthy) (cs : List Command) (hcs : ∀ c ∈ cs, Observation c)
    (ds : List Command) (hds : ds <+: cs) (hend : ∀ c ∈ ds, ¬ ReportsEnd i c) :
    ∃ b, (applyAll s ds).allocs.lookup i = some b ∧ b.status = .healthy ∧
      b.address = a.address ∧ b.startedAt = a.startedAt := by
  have hguard : Guarded fsmStep (fun _ c => Observation c ∧ ¬ ReportsEnd i c) s ds :=
    guarded_of_forall s fun c hc _ => ⟨hcs c (hds.subset hc), hend c hc⟩
  have hsame : (applyAll s ds).allocs.lookup i = some a := by
    refine run_invariant (I := fun s => s.allocs.lookup i = some a) ?_ hi hguard (run_fsmStep s ds)
    intro s c s' hi hc hstep
    cases hstep
    exact healthy_step hi ha hc.1 hc.2
  exact ⟨a, hsame, ha, rfl, rfl⟩

def healthyLog : List Command :=
  [.nodeHeartbeat 1 (Finmap.singleton ⟨"web-0"⟩ .running),
    .allocRunning ⟨"web-0"⟩ (some ⟨.v4 0x0A630002, 50000⟩) (some 300),
    .nodeDown 1]

def healthyState : FsmState :=
  applyAll default
    [.nodeRegister 1 ⟨"node-1"⟩ ⟨.v4 0x0A630001, 4400⟩ ⟨4, 4, 8192, 8192⟩ none none none none,
      .allocScheduled ⟨"web-0"⟩ 1 "web" .service none ⟨1, 256⟩,
      .allocRunning ⟨"web-0"⟩ (some ⟨.v4 0x0A630001, 49152⟩) (some 100),
      .allocStatus ⟨"web-0"⟩ .healthy]

theorem healthy_until_end_exit :
    ∃ b, (applyAll healthyState healthyLog).allocs.lookup ⟨"web-0"⟩ = some b ∧
      b.status = .healthy ∧ b.address = some ⟨.v4 0x0A630001, 49152⟩ ∧ b.startedAt = some 100 := by
  have hstate : healthyState.allocs.lookup ⟨"web-0"⟩ = some ⟨⟨"web-0"⟩, ⟨"node-1"⟩, "web", .service,
      .healthy, some ⟨.v4 0x0A630001, 49152⟩, ⟨1, 256⟩, some 100⟩ := by decide +kernel
  have hobserved : ∀ c ∈ healthyLog ++ [Command.nodeHeartbeat 1
      (Finmap.singleton ⟨"web-0"⟩ (.stopped 0))], Observation c := by
    intro c hc
    simp only [healthyLog, List.cons_append, List.nil_append, List.mem_cons, List.not_mem_nil,
      or_false] at hc
    rcases hc with rfl | rfl | rfl | rfl
    · rintro i status hi
      exact .inl (Finmap.of_lookup_singleton hi).2
    · trivial
    · trivial
    · rintro i status hi
      rw [(Finmap.of_lookup_singleton hi).2]
      exact .inr rfl
  refine healthy_until_end healthyState ⟨"web-0"⟩ _ hstate rfl _ hobserved healthyLog
    (List.prefix_append _ _) ?_
  intro c hc
  simp only [healthyLog, List.mem_cons, List.not_mem_nil, or_false] at hc
  rcases hc with rfl | rfl | rfl
  · rintro ⟨status, hi, hend⟩
    rw [(Finmap.of_lookup_singleton hi).2] at hend
    cases hend
  · exact id
  · exact id

end Mill
