import Mill.Raft.Open

/-! A persistent node under any sequence of storage operations and restarts. -/

namespace Mill

open FileSystem Transition

variable {B : Type}

/-- A node and its raft directory. `acked` are the entries whose append was
reported flushed and that were not truncated since; `persisted` is the metadata
of the last snapshot whose write to disk was complete. -/
structure PersistentNode (B : Type) where
  raft : MillRaft B
  builders : List SnapshotBuilder
  dir : RaftDir B
  acked : List Entry
  persisted : Option SnapshotMeta

inductive StorageOp (B : Type)
  | saveVote (vote : Vote) (io : Io B)
  | append (es : List Entry)
  | truncate (logId : LogId)
  | purge (logId : LogId)
  | apply (es : List Entry)
  | getSnapshotBuilder
  | buildSnapshot (builder : Nat) (io : Io B)
  | installSnapshot (io : Io B) (m : SnapshotMeta) (data : B)
  | restart (lost : String → Option B)

namespace PersistentNode

def fresh : PersistentNode B where
  raft := ⟨.withPersistence none, .withPersistence⟩
  builders := []
  dir := RaftDir.empty B
  acked := []
  persisted := none

def writeDone (io : Io B) (m : SnapshotMeta) (old : Option SnapshotMeta) : Option SnapshotMeta :=
  if io.steps < 6 then old else some m

def step (serde : Serde B) (n : PersistentNode B) : StorageOp B → Option (PersistentNode B)
  | .saveVote vote io =>
    let (_, logStore, dir) := n.raft.logStore.saveVote serde io vote n.dir
    some { n with raft := { n.raft with logStore }, dir }
  | .append es =>
    let (flushed, logStore) := n.raft.logStore.append es
    let acked :=
      match flushed with
      | .ok () => n.acked ++ es
      | .error _ => n.acked
    some { n with raft := { n.raft with logStore }, acked }
  | .truncate logId =>
    some { n with
      raft := { n.raft with logStore := n.raft.logStore.truncate logId }
      acked := n.acked.filter fun e => e.logId.index < logId.index }
  | .purge logId =>
    some { n with raft := { n.raft with logStore := n.raft.logStore.purge logId } }
  | .apply es => some { n with raft := { n.raft with sm := (n.raft.sm.apply es).1 } }
  | .getSnapshotBuilder =>
    some { n with builders := n.builders ++ [n.raft.sm.getSnapshotBuilder] }
  | .buildSnapshot i io =>
    match n.builders[i]? with
    | none => none
    | some b =>
      match b.buildSnapshot serde io n.raft.sm n.dir with
      | .error _ => some { n with builders := n.builders.eraseIdx i }
      | .ok (_, sm, dir) =>
        some { n with
          raft := { n.raft with sm }
          builders := n.builders.eraseIdx i
          dir
          persisted := writeDone io b.snapMeta n.persisted }
  | .installSnapshot io m data =>
    match n.raft.sm.installSnapshot serde io m data n.dir with
    | .error _ => some n
    | .ok (sm, dir) =>
      some { n with raft := { n.raft with sm }, dir, persisted := writeDone io m n.persisted }
  | .restart lost =>
    match MillRaft.openDir serde (crash lost n.dir) with
    | .error _ => none
    | .ok raft => some { n with raft, builders := [], dir := crash lost n.dir }

/-- What is on disk: the metadata is that of the last complete write, with it
there is a state that can be decoded, and the vote file can be read. -/
structure OnDisk (serde : Serde B) (d : RaftDir B) (persisted : Option SnapshotMeta) : Prop where
  snapMeta : d "snapshot-meta.json" = persisted.map fun m => ⟨serde.metaToJson m, true⟩
  bin : persisted.isSome →
    ∃ data fsm, d "snapshot.bin" = some ⟨data, true⟩ ∧ serde.decode data = .ok fsm
  vote : ∃ vote : Option Vote, d "vote.json" = vote.map fun v => ⟨serde.voteToJson v, true⟩

namespace OnDisk

variable {serde : Serde B} {d : RaftDir B} {persisted : Option SnapshotMeta}

lemma fresh : OnDisk serde (RaftDir.empty B) none :=
  ⟨rfl, Bool.noConfusion, none, rfl⟩

lemma crash (h : OnDisk serde d persisted) (lost : String → Option B) :
    OnDisk serde (FileSystem.crash lost d) persisted := by
  obtain ⟨vote, hvote⟩ := h.vote
  refine ⟨?_, ?_, vote, ?_⟩
  · rw [crash_of_synced h.snapMeta, h.snapMeta]
  · intro hp
    obtain ⟨data, fsm, hbin, hdata⟩ := h.bin hp
    refine ⟨data, fsm, ?_, hdata⟩
    rw [crash_of_synced (o := some data) (g := id) hbin, hbin]
  · rw [crash_of_synced hvote, hvote]

lemma writeVote (h : OnDisk serde d persisted) (io : Io B) (v : Vote) :
    OnDisk serde (attempt io (Disk.writeVote serde v) d) persisted := by
  have hbin := Disk.writeVote_other serde io d v (n := "snapshot.bin") (by decide) (by decide)
  have hmeta := Disk.writeVote_other serde io d v (n := "snapshot-meta.json") (by decide)
    (by decide)
  refine ⟨by rw [hmeta, h.snapMeta], by rw [hbin]; exact h.bin, ?_⟩
  rw [Disk.writeVote_vote]
  split_ifs
  · exact h.vote
  · exact ⟨some v, rfl⟩

lemma writeSnapshot (h : OnDisk serde d persisted) (io : Io B) (m : SnapshotMeta) {data : B}
    {fsm : FsmState} (hdata : serde.decode data = .ok fsm) :
    OnDisk serde (attempt io (Disk.writeSnapshot serde data m) d) (writeDone io m persisted) := by
  have hmeta := Disk.writeSnapshot_meta serde io d data m
  have hbin := Disk.writeSnapshot_bin serde io d data m
  refine ⟨?_, ?_, ?_⟩
  · rw [hmeta, writeDone]
    split_ifs
    · exact h.snapMeta
    · rfl
  · intro hp
    rw [hbin]
    split_ifs with h3
    · have h6 : io.steps < 6 := by omega
      rw [writeDone, if_pos h6] at hp
      exact h.bin hp
    · exact ⟨data, fsm, rfl, hdata⟩
  · rw [Disk.writeSnapshot_vote]
    exact h.vote

lemma openDir (h : OnDisk serde d persisted) :
    ∃ r, MillRaft.openDir serde d = .ok r ∧ (∃ vote, r.logStore = .withPersistence vote) ∧
      r.sm.getCurrentSnapshot.map Snapshot.snapMeta = persisted := by
  obtain ⟨vote, hv⟩ := h.vote
  have hvote : Disk.readVote serde d = .ok vote := Disk.readVote_of_file hv
  cases persisted with
  | none =>
    have hsnap : Disk.readSnapshot serde d = .ok none := Disk.readSnapshot_of_no_meta h.snapMeta
    exact ⟨_, MillRaft.openDir_of_no_snapshot hvote hsnap, ⟨vote, rfl⟩, rfl⟩
  | some m =>
    obtain ⟨data, fsm, hbin, hdata⟩ := h.bin rfl
    have hsnap : Disk.readSnapshot serde d = .ok (some (data, m)) :=
      Disk.readSnapshot_of_files hbin h.snapMeta
    exact ⟨_, MillRaft.openDir_of_snapshot hvote hsnap hdata, ⟨vote, rfl⟩, rfl⟩

end OnDisk

variable {serde : Serde B}

lemma onDisk_step {n n' : PersistentNode B} {op : StorageOp B}
    (h : OnDisk serde n.dir n.persisted) (hs : n.step serde op = some n') :
    OnDisk serde n'.dir n'.persisted := by
  cases op with
  | saveVote vote io =>
    cases hs
    exact h.writeVote io vote
  | append es | truncate logId | purge logId | apply es | getSnapshotBuilder =>
    cases hs
    exact h
  | buildSnapshot i io =>
    simp only [step] at hs
    split at hs
    · cases hs
    · rename_i b hb
      unfold SnapshotBuilder.buildSnapshot at hs
      cases henc : serde.encode b.fsmSnapshot with
      | error =>
        rw [henc] at hs
        cases hs
        exact h
      | ok =>
        rw [henc] at hs
        cases hs
        exact h.writeSnapshot io b.snapMeta (serde.decode_encode _ _ henc)
  | installSnapshot io m data =>
    simp only [step, StateMachineStore.installSnapshot] at hs
    cases hdec : serde.decode data with
    | error =>
      rw [hdec] at hs
      cases hs
      exact h
    | ok =>
      rw [hdec] at hs
      cases hs
      exact h.writeSnapshot io m hdec
  | restart lost =>
    simp only [step] at hs
    split at hs
    · cases hs
    · cases hs
      exact h.crash lost

lemma onDisk_run {n : PersistentNode B} {ops : List (StorageOp B)}
    (hrun : run (step serde) fresh ops = some n) : OnDisk serde n.dir n.persisted :=
  run_invariant (I := fun n => OnDisk serde n.dir n.persisted)
    (fun _ _ _ h _ hs => onDisk_step h hs) OnDisk.fresh
    (guarded_of_forall (P := fun _ _ => True) _ fun _ _ _ => trivial) hrun

def Readable (r : MillRaft B) (e : Entry) : Prop := ∃ range, e ∈ r.logStore.tryGetLogEntries range

def Covered (r : MillRaft B) (e : Entry) : Prop :=
  ∃ snap id, r.sm.getCurrentSnapshot = some snap ∧ snap.snapMeta.lastLogId = some id ∧ e.logId ≤ id

/-- After any history and a crash the node opens, its log is empty, and of the
acknowledged entries it has those up to the last snapshot written to the end. -/
theorem acked_recovered_iff (serde : Serde B) (ops : List (StorageOp B)) (n : PersistentNode B)
    (hrun : run (step serde) fresh ops = some n) (lost : String → Option B) :
    ∃ r, MillRaft.openDir serde (crash lost n.dir) = .ok r ∧
      (∀ range, r.logStore.tryGetLogEntries range = []) ∧
      ∀ e ∈ n.acked, (Readable r e ∨ Covered r e) ↔
        ∃ m id, n.persisted = some m ∧ m.lastLogId = some id ∧ e.logId ≤ id := by
  obtain ⟨r, hopen, ⟨vote, hlog⟩, hsnap⟩ := ((onDisk_run hrun).crash lost).openDir
  have hempty : ∀ range, r.logStore.tryGetLogEntries range = [] := by
    intro range
    rw [hlog, List.eq_nil_iff_forall_not_mem]
    intro e he
    obtain ⟨k, -, hk⟩ := LogStore.mem_tryGetLogEntries.mp he
    cases hk
  refine ⟨r, hopen, hempty, fun e _ => ?_⟩
  have hread : ¬ Readable r e := by
    rintro ⟨range, he⟩
    rw [hempty] at he
    cases he
  rw [← hsnap, or_iff_right hread]
  constructor
  · rintro ⟨snap, id, hs, hid, hle⟩
    exact ⟨snap.snapMeta, id, by rw [hs]; rfl, hid, hle⟩
  · rintro ⟨m, id, hm, hid, hle⟩
    obtain ⟨snap, hs, rfl⟩ := Option.map_eq_some_iff.mp hm
    exact ⟨snap, id, hs, hid, hle⟩

theorem acked_recovered_iff_two :
    let e₁ : Entry := ⟨⟨⟨1, 1⟩, 1⟩, .blank⟩
    let e₂ : Entry := ⟨⟨⟨1, 1⟩, 2⟩, .blank⟩
    ∃ n : PersistentNode Contents,
      run (step Contents.serde) fresh [.append [e₁], .apply [e₁], .getSnapshotBuilder,
        .append [e₂], .buildSnapshot 0 ⟨6, none⟩] = some n ∧ n.acked = [e₁, e₂] ∧
      ∃ r, MillRaft.openDir Contents.serde (crash (fun _ => none) n.dir) = .ok r ∧
        Covered r e₁ ∧ ¬ Readable r e₂ ∧ ¬ Covered r e₂ := by
  intro e₁ e₂
  refine ⟨_, rfl, rfl, ?_⟩
  obtain ⟨r, hopen, hempty, hiff⟩ := acked_recovered_iff Contents.serde
    [.append [e₁], .apply [e₁], .getSnapshotBuilder, .append [e₂], .buildSnapshot 0 ⟨6, none⟩] _ rfl
    (fun _ => none)
  have hnot : ∀ e, ¬ Readable r e := by
    rintro e ⟨range, he⟩
    rw [hempty] at he
    cases he
  have h₁ := (hiff e₁ (by simp [e₁])).mpr ⟨_, _, rfl, rfl, le_rfl⟩
  have h₂ : ¬ (Readable r e₂ ∨ Covered r e₂) := by
    rw [hiff e₂ (by simp [e₂])]
    rintro ⟨m, id, hm, hid, hle⟩
    cases hm
    cases hid
    exact absurd hle (by decide)
  exact ⟨r, hopen, h₁.resolve_left (hnot e₁), hnot e₂, fun h => h₂ (.inr h)⟩

theorem acked_entry_lost :
    let e : Entry := ⟨⟨⟨1, 1⟩, 1⟩, .blank⟩
    ∃ n : PersistentNode Contents, run (step Contents.serde) fresh [.append [e]] = some n ∧
      e ∈ n.acked ∧ ∃ r, MillRaft.openDir Contents.serde (crash (fun _ => none) n.dir) = .ok r ∧
        ¬ Readable r e ∧ ¬ Covered r e := by
  intro e
  refine ⟨_, rfl, List.mem_singleton_self e, _, rfl, ?_, ?_⟩
  · rintro ⟨range, he⟩
    obtain ⟨k, -, hk⟩ := LogStore.mem_tryGetLogEntries.mp he
    cases hk
  · rintro ⟨snap, id, hs, -⟩
    cases hs

end PersistentNode

end Mill
