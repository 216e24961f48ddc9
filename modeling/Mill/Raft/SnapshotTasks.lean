import Mill.Lib.List
import Mill.Raft.Open

/-! Snapshots under concurrency: builders that run on tasks of their own and
`install_snapshot` share one slot and one directory. Every lock section and
every file-system call is a step of its own. -/

namespace Mill

open FileSystem List Option Transition

variable {B : Type}

/-- Where a task stands; `disk k` is inside `write_snapshot` with `k` of its six
file-system steps done. -/
inductive SnapshotPhase
  | writeState
  | setSlot
  | notify
  | disk (k : Nat)
  | done
deriving DecidableEq

/-- A running `build_snapshot`, or `install_snapshot` of a decoded state. -/
structure SnapshotTask (B : Type) where
  install : Option FsmState
  snap : Snapshot B
  version : Nat
  phase : SnapshotPhase

structure SnapshotSystem (B : Type) where
  store : StateMachineStore B
  dir : RaftDir B
  builders : List SnapshotBuilder
  tasks : List (SnapshotTask B)

/-- `fail` is a file-system call of the task that fails; when it was a write,
`torn` is what it left in the file. -/
inductive SnapshotEvent (B : Type)
  | apply (es : List Entry)
  | getSnapshotBuilder
  | buildSnapshot (builder : Nat)
  | installSnapshot (m : SnapshotMeta) (data : B)
  | advance (task : Nat)
  | fail (task : Nat) (torn : Option B)

namespace SnapshotTask

variable (serde : Serde B) (t : SnapshotTask B)

def afterSlot : SnapshotTask B :=
  { t with phase := if t.install.isSome then .notify else .done }

/-- A failed write is only logged, so both ends of `write_snapshot` go on here. -/
def afterDisk : SnapshotTask B :=
  { t with phase := if t.install.isSome then .done else .setSlot }

def ops : List (Op String B) :=
  Disk.writeSnapshot serde t.snap.data t.snap.snapMeta

def advance (store : StateMachineStore B) (d : RaftDir B) :
    Option (SnapshotTask B × StateMachineStore B × RaftDir B) :=
  match t.phase with
  | .writeState =>
    t.install.map fun fsm =>
      let version := store.state.version + 1
      let state := ⟨fsm, t.snap.snapMeta.lastLogId, t.snap.snapMeta.lastMembership, version⟩
      ({ t with version, phase := .setSlot }, { store with state }, d)
  | .setSlot => some (t.afterSlot, { store with currentSnapshot := some t.snap }, d)
  | .notify => some ({ t with phase := .disk 0 }, { store with changeTx := t.version }, d)
  | .disk k =>
    (t.ops serde)[k]?.map fun op =>
      match op.exec d with
      | some d => (if k = 5 then t.afterDisk else { t with phase := .disk (k + 1) }, store, d)
      | none => (t.afterDisk, store, d)
  | .done => none

def fail (torn : Option B) (d : RaftDir B) : Option (SnapshotTask B × RaftDir B) :=
  match t.phase with
  | .disk k =>
    (t.ops serde)[k]?.map fun op =>
      match op, torn with
      | .write n _, some b => (t.afterDisk, Function.update d n (some ⟨b, false⟩))
      | _, _ => (t.afterDisk, d)
  | _ => none

end SnapshotTask

namespace SnapshotSystem

def start (raft : MillRaft B) (d : RaftDir B) : SnapshotSystem B := ⟨raft.sm, d, [], []⟩

def step (serde : Serde B) (s : SnapshotSystem B) : SnapshotEvent B → Option (SnapshotSystem B)
  | .apply es => some { s with store := (s.store.apply es).1 }
  | .getSnapshotBuilder =>
    some { s with builders := s.builders ++ [s.store.getSnapshotBuilder] }
  | .buildSnapshot i =>
    match s.builders[i]? with
    | none => none
    | some b =>
      let s := { s with builders := s.builders.eraseIdx i }
      match serde.encode b.fsmSnapshot with
      | .error _ => some s
      | .ok data => some { s with tasks := s.tasks ++ [⟨none, ⟨b.snapMeta, data⟩, 0, .disk 0⟩] }
  | .installSnapshot m data =>
    match serde.decode data with
    | .error _ => some s
    | .ok fsm => some { s with tasks := s.tasks ++ [⟨some fsm, ⟨m, data⟩, 0, .writeState⟩] }
  | .advance i =>
    match s.tasks[i]? with
    | none => none
    | some t =>
      (t.advance serde s.store s.dir).map fun (t, store, dir) =>
        { s with store, dir, tasks := s.tasks.set i t }
  | .fail i torn =>
    match s.tasks[i]? with
    | none => none
    | some t =>
      (t.fail serde torn s.dir).map fun (t, dir) => { s with dir, tasks := s.tasks.set i t }

/-- The last log id of the snapshot that `get_current_snapshot` returns. -/
def slotId (s : SnapshotSystem B) : Option LogId :=
  s.store.getCurrentSnapshot.bind fun snap => snap.snapMeta.lastLogId

def diskId (serde : Serde B) (d : RaftDir B) : Option LogId :=
  match Disk.readSnapshot serde d with
  | .ok (some (_, m)) => m.lastLogId
  | _ => none

def metaId (serde : Serde B) (d : RaftDir B) : Option LogId :=
  ((readFile d "snapshot-meta.json").bind serde.metaFromJson).bind SnapshotMeta.lastLogId

end SnapshotSystem

def SnapshotPhase.Writing (p : SnapshotPhase) : Prop := ∃ k, p = .disk (k + 1)

def SnapshotPhase.BetweenRenames (p : SnapshotPhase) : Prop := ∃ k, p = .disk (k + 3)

instance : DecidablePred SnapshotPhase.Writing
  | .disk (k + 1) => .isTrue ⟨k, rfl⟩
  | .disk 0 | .writeState | .setSlot | .notify | .done => .isFalse fun ⟨_, h⟩ => nomatch h

instance : DecidablePred SnapshotPhase.BetweenRenames
  | .disk (k + 3) => .isTrue ⟨k, rfl⟩
  | .disk 0 | .disk 1 | .disk 2 | .writeState | .setSlot | .notify | .done =>
    .isFalse fun ⟨_, h⟩ => nomatch h

namespace SnapshotSystem

/-- The discipline that the tasks do not follow of themselves: a snapshot goes
into the slot, or starts on its way to the disk, only if it is not older than
what is there; disk writes do not overlap; and none fails between its renames
over an earlier pair. -/
def Ordered (serde : Serde B) (s : SnapshotSystem B) : SnapshotEvent B → Prop
  | .advance i => ∀ t ∈ s.tasks[i]?,
    (t.phase = .setSlot → LogId.AtLeast t.snap.snapMeta.lastLogId s.slotId) ∧
    (t.phase = .disk 0 → (∀ t' ∈ s.tasks, ¬ t'.phase.Writing) ∧
      LogId.AtLeast t.snap.snapMeta.lastLogId (metaId serde s.dir))
  | .fail i _ => ∀ t ∈ s.tasks[i]?, (t.phase = .disk 0 → ∀ t' ∈ s.tasks, ¬ t'.phase.Writing) ∧
    (t.phase.BetweenRenames → s.dir "snapshot-meta.json" = none)
  | _ => True

instance (serde : Serde B) (s : SnapshotSystem B) : DecidablePred (Ordered serde s) := fun e => by
  unfold Ordered
  split <;> infer_instance

section

variable {serde : Serde B} {d d' : RaftDir B}

lemma diskId_eq (serde : Serde B) (d : RaftDir B) :
    diskId serde d = if (d "snapshot.bin").isSome then metaId serde d else none := by
  unfold diskId metaId Disk.readSnapshot readFile
  cases hb : d "snapshot.bin" with
  | none => rfl
  | some =>
    cases hm : d "snapshot-meta.json" with
    | none => rfl
    | some j =>
      cases hj : serde.metaFromJson j.contents with
      | none => simp [hj]
      | some => simp [hj]

lemma metaId_congr (h : d' "snapshot-meta.json" = d "snapshot-meta.json") :
    metaId serde d' = metaId serde d := by
  unfold metaId readFile
  rw [h]

lemma metaId_atLeast_diskId (serde : Serde B) (d : RaftDir B) :
    LogId.AtLeast (metaId serde d) (diskId serde d) := by
  rw [diskId_eq]
  split_ifs
  · exact .refl _
  · exact LogId.atLeast_none _

lemma diskId_atLeast_of_bin (hmeta : d' "snapshot-meta.json" = d "snapshot-meta.json")
    (hbin : d' "snapshot.bin" = d "snapshot.bin" ∨ ( d' "snapshot.bin").isSome) :
    LogId.AtLeast (diskId serde d') (diskId serde d) := by
  rcases hbin with hbin | hbin
  · rw [diskId, diskId, Disk.readSnapshot_congr hbin hmeta]
    exact .refl _
  · have hnew : diskId serde d' = metaId serde d := by
      rw [diskId_eq, if_pos hbin, metaId_congr hmeta]
    rw [hnew]
    exact metaId_atLeast_diskId serde d

end

section

variable (serde : Serde B) (restored : Option (Snapshot B)) (s : SnapshotSystem B)

def Origin (snap : Snapshot B) : Prop :=
  restored = some snap ∨ ∃ t ∈ s.tasks, t.snap = snap

def Paired (d : RaftDir B) : Prop :=
  ∀ data m, Disk.readSnapshot serde d = .ok (some (data, m)) → Origin restored s ⟨m, data⟩

/-- Either no disk write is under way, or exactly one is, and the directory is
what its steps so far made of a directory with a pair of one snapshot. -/
inductive Consistent : Prop
  | quiet (hquiet : ∀ t ∈ s.tasks, ¬ t.phase.Writing) (hpair : Paired serde restored s s.dir)
  | writing (i : Nat) (t : SnapshotTask B) (k : Nat) (ht : s.tasks[i]? = some t) (hk : k < 5)
      (hphase : t.phase = .disk (k + 1))
      (hothers : ∀ j t', s.tasks[j]? = some t' → t'.phase.Writing → j = i)
      (d₀ : RaftDir B) (hpair : Paired serde restored s d₀)
      (hle : LogId.AtLeast t.snap.snapMeta.lastLogId (metaId serde d₀))
      (hdir : s.dir = attempt ⟨k + 1, none⟩ (t.ops serde) d₀)

def Mixed : Prop :=
  ∃ t ∈ s.tasks, t.phase.BetweenRenames ∧
    ∃ m, (readFile s.dir "snapshot-meta.json").bind serde.metaFromJson = some m ∧
      ¬ Origin restored s ⟨m, t.snap.data⟩

end

variable {serde : Serde B} {restored : Option (Snapshot B)} {s s' : SnapshotSystem B} {i : Nat}
  {t t' : SnapshotTask B}

lemma Paired.mono {d : RaftDir B} (h : Paired serde restored s d)
    (hsnaps : ∀ t ∈ s.tasks, ∃ t' ∈ s'.tasks, t'.snap = t.snap) : Paired serde restored s' d := by
  intro data m hread
  rcases h data m hread with hr | ⟨t, ht, hsnap⟩
  · exact .inl hr
  · obtain ⟨t', ht', hsnap'⟩ := hsnaps t ht
    exact .inr ⟨t', ht', hsnap'.trans hsnap⟩

lemma Consistent.of_same_writers (h : Consistent serde restored s) (hdir : s'.dir = s.dir)
    (hold : ∀ (j : Nat) (t : SnapshotTask B), s.tasks[j]? = some t → t.phase.Writing →
      s'.tasks[j]? = some t)
    (hnew : ∀ (j : Nat) (t : SnapshotTask B), s'.tasks[j]? = some t → t.phase.Writing →
      s.tasks[j]? = some t)
    (hsnaps : ∀ t ∈ s.tasks, ∃ t' ∈ s'.tasks, t'.snap = t.snap) :
    Consistent serde restored s' := by
  cases h with
  | quiet hquiet hpair =>
    refine .quiet ?_ (hdir ▸ hpair.mono hsnaps)
    intro t ht hw
    obtain ⟨j, hj⟩ := mem_iff_getElem?.mp ht
    exact hquiet t (mem_of_getElem? (hnew j t hj hw)) hw
  | writing i t k ht hk hphase hothers d₀ hpair hle hd =>
    refine .writing i t k (hold i t ht ⟨k, hphase⟩) hk hphase ?_ d₀ (hpair.mono hsnaps) hle ?_
    · grind
    · exact hdir.trans hd

lemma exists_snap_set {tasks : List (SnapshotTask B)} (hi : tasks[i]? = some t)
    (hsnap : t'.snap = t.snap) : ∀ u ∈ tasks, ∃ u' ∈ tasks.set i t', u'.snap = u.snap := by
  intro u hu
  by_cases hut : u.snap = t.snap
  · exact ⟨t', List.mem_set_self hi, hsnap.trans hut.symm⟩
  · have hne : u ≠ t := fun h => hut (congrArg SnapshotTask.snap h)
    exact ⟨u, List.mem_set_of_ne hi hu hne, rfl⟩

lemma Consistent.set_idle (h : Consistent serde restored s)
    (hi : s.tasks[i]? = some t) (ht : ¬ t.phase.Writing) (ht' : ¬ t'.phase.Writing)
    (hsnap : t'.snap = t.snap) (hdir : s'.dir = s.dir) (htasks : s'.tasks = s.tasks.set i t') :
    Consistent serde restored s' := by
  refine h.of_same_writers hdir ?_ ?_ (htasks ▸ exists_snap_set hi hsnap) <;> grind

lemma Consistent.frame (h : Consistent serde restored s) (hdir : s'.dir = s.dir)
    (htasks : s'.tasks = s.tasks) : Consistent serde restored s' := by
  refine h.of_same_writers hdir ?_ ?_ ?_ <;> grind

lemma Consistent.append_idle (h : Consistent serde restored s)
    (ht : ¬ t.phase.Writing) (hdir : s'.dir = s.dir) (htasks : s'.tasks = s.tasks ++ [t]) :
    Consistent serde restored s' := by
  refine h.of_same_writers hdir ?_ ?_ ?_ <;> grind

def Forward (serde : Serde B) (s s' : SnapshotSystem B) : Prop :=
  LogId.AtLeast s'.slotId s.slotId ∧ LogId.AtLeast (diskId serde s'.dir) (diskId serde s.dir)

lemma forward_of_eq (hslot : s'.store.currentSnapshot = s.store.currentSnapshot)
    (hdir : s'.dir = s.dir) : Forward serde s s' := by
  unfold Forward slotId StateMachineStore.getCurrentSnapshot
  rw [hslot, hdir]
  exact ⟨.refl _, .refl _⟩

lemma not_writing_afterSlot (t : SnapshotTask B) : ¬ t.afterSlot.phase.Writing := by
  grind [SnapshotTask.afterSlot, SnapshotPhase.Writing]

lemma not_writing_afterDisk (t : SnapshotTask B) : ¬ t.afterDisk.phase.Writing := by
  grind [SnapshotTask.afterDisk, SnapshotPhase.Writing]

lemma Consistent.writer (h : Consistent serde restored s) {k : Nat} (hi : s.tasks[i]? = some t)
    (hphase : t.phase = .disk k) (hstart : k = 0 → ∀ t' ∈ s.tasks, ¬ t'.phase.Writing) :
    k < 6 ∧ (∀ j t', s.tasks[j]? = some t' → t'.phase.Writing → j = i) ∧
      ∃ d₀, Paired serde restored s d₀ ∧ s.dir = attempt ⟨k, none⟩ (t.ops serde) d₀ ∧
        (k ≠ 0 → LogId.AtLeast t.snap.snapMeta.lastLogId (metaId serde d₀)) := by
  cases h with
  | quiet hquiet hpair =>
    have hk : k = 0 := by
      cases k with
      | zero => rfl
      | succ k => exact absurd ⟨k, hphase⟩ (hquiet t (mem_of_getElem? hi))
    subst hk
    refine ⟨by omega, ?_, s.dir, hpair, rfl, fun h => absurd rfl h⟩
    intro j t' hj hw
    exact absurd hw (hquiet t' (mem_of_getElem? hj))
  | writing i' t' k' ht' hk' hphase' hothers d₀ hpair hle hdir =>
    have hk : k ≠ 0 := fun hk => hstart hk t' (mem_of_getElem? ht') ⟨k', hphase'⟩
    obtain ⟨k₁, rfl⟩ := Nat.exists_eq_succ_of_ne_zero hk
    have hii : i = i' := hothers i t hi ⟨k₁, hphase⟩
    obtain ⟨rfl, rfl⟩ : t' = t ∧ k' = k₁ := by grind
    exact ⟨by omega, hii ▸ hothers, d₀, hpair, hdir, fun _ => hle⟩

lemma not_writing_set
    (hothers : ∀ (j : Nat) (u : SnapshotTask B), s.tasks[j]? = some u → u.phase.Writing → j = i)
    (ht' : ¬ t'.phase.Writing) : ∀ u ∈ s.tasks.set i t', ¬ u.phase.Writing := by
  intro u hu hw
  obtain ⟨j, hj⟩ := mem_iff_getElem?.mp hu
  grind

section

variable (serde : Serde B) (t : SnapshotTask B) (d₀ : RaftDir B)

lemma attempt_ops_bin (io : Io B) :
    attempt io (t.ops serde) d₀ "snapshot.bin" =
      if io.steps < 3 then d₀ "snapshot.bin" else some ⟨t.snap.data, true⟩ :=
  Disk.writeSnapshot_bin serde io d₀ t.snap.data t.snap.snapMeta

lemma attempt_ops_meta (io : Io B) :
    attempt io (t.ops serde) d₀ "snapshot-meta.json" = if io.steps < 6 then d₀ "snapshot-meta.json"
      else some ⟨serde.metaToJson t.snap.snapMeta, true⟩ :=
  Disk.writeSnapshot_meta serde io d₀ t.snap.data t.snap.snapMeta

lemma attempt_ops_meta_of_lt {io : Io B} (h : io.steps < 6) :
    attempt io (t.ops serde) d₀ "snapshot-meta.json" = d₀ "snapshot-meta.json" := by
  rw [attempt_ops_meta, if_pos h]

lemma readSnapshot_written :
    Disk.readSnapshot serde (attempt ⟨6, none⟩ (t.ops serde) d₀) =
      .ok (some (t.snap.data, t.snap.snapMeta)) := by
  apply Disk.readSnapshot_of_files
  · exact attempt_ops_bin serde t d₀ ⟨6, none⟩
  · exact attempt_ops_meta serde t d₀ ⟨6, none⟩

variable {serde t d₀} {i k : Nat}

lemma diskId_forward_of_lt (hk : k < 5) :
    LogId.AtLeast (diskId serde (attempt ⟨k + 1, none⟩ (t.ops serde) d₀))
      (diskId serde (attempt ⟨k, none⟩ (t.ops serde) d₀)) := by
  apply diskId_atLeast_of_bin
  · grind [attempt_ops_meta]
  · grind [attempt_ops_bin]

lemma diskId_forward_last (hle : LogId.AtLeast t.snap.snapMeta.lastLogId (metaId serde d₀)) :
    LogId.AtLeast (diskId serde (attempt ⟨6, none⟩ (t.ops serde) d₀))
      (diskId serde (attempt ⟨5, none⟩ (t.ops serde) d₀)) := by
  have hnew : diskId serde (attempt ⟨6, none⟩ (t.ops serde) d₀) = t.snap.snapMeta.lastLogId := by
    rw [diskId, readSnapshot_written]
  have hmeta : metaId serde (attempt ⟨5, none⟩ (t.ops serde) d₀) = metaId serde d₀ :=
    metaId_congr (attempt_ops_meta_of_lt serde t d₀ (show 5 < 6 by decide))
  rw [hnew]
  exact hle.trans (hmeta ▸ metaId_atLeast_diskId serde _)

lemma Consistent.advance_disk (h : Consistent serde restored s) (hi : s.tasks[i]? = some t)
    (hphase : t.phase = .disk k)
    (hstart : k = 0 → (∀ t' ∈ s.tasks, ¬ t'.phase.Writing) ∧
      LogId.AtLeast t.snap.snapMeta.lastLogId (metaId serde s.dir))
    (hs : s.step serde (.advance i) = some s') :
    Consistent serde restored s' ∧ Forward serde s s' := by
  obtain ⟨hk, hothers, d₀, hpair, hdir, hle⟩ :=
    h.writer hi hphase fun hk => (hstart hk).1
  have hle' : LogId.AtLeast t.snap.snapMeta.lastLogId (metaId serde d₀) := by
    by_cases hk0 : k = 0
    · have hd : metaId serde s.dir = metaId serde d₀ := by
        rw [hdir]
        exact metaId_congr (attempt_ops_meta_of_lt serde t d₀ hk)
      exact hd ▸ (hstart hk0).2
    · exact hle hk0
  obtain ⟨op, hop, hexec⟩ := Disk.exec_writeSnapshot serde d₀ t.snap.data t.snap.snapMeta hk
  have hop' : (t.ops serde)[k]? = some op := hop
  have hexec' : op.exec s.dir = some (attempt ⟨k + 1, none⟩ (t.ops serde) d₀) := by
    rw [hdir]
    exact hexec
  have hadv : t.advance serde s.store s.dir =
      some (if k = 5 then t.afterDisk else { t with phase := .disk (k + 1) }, s.store,
        attempt ⟨k + 1, none⟩ (t.ops serde) d₀) := by
    simp only [SnapshotTask.advance, hphase, hop', hexec', map_some]
  simp only [step, hi, hadv, map_some, Option.some.injEq] at hs
  subst hs
  have hlt : i < s.tasks.length := (List.getElem?_eq_some_iff.mp hi).1
  by_cases h5 : k = 5
  · subst h5
    simp only [if_true]
    refine ⟨.quiet (not_writing_set hothers (not_writing_afterDisk t)) ?_, .refl _, ?_⟩
    · intro data m hread
      rw [readSnapshot_written] at hread
      cases hread
      exact .inr ⟨t.afterDisk, mem_of_getElem? (List.getElem?_set_self hlt), rfl⟩
    · rw [hdir]
      exact diskId_forward_last hle'
  · have hk5 : k < 5 := by omega
    simp only [if_neg h5]
    refine ⟨.writing i { t with phase := .disk (k + 1) } k (List.getElem?_set_self hlt) hk5 rfl ?_
      d₀ (hpair.mono (exists_snap_set hi rfl)) hle' rfl, .refl _, ?_⟩
    · intro j u hj hw
      by_cases hij : i = j
      · exact hij.symm
      · rw [List.getElem?_set_ne hij] at hj
        exact hothers j u hj hw
    · rw [hdir]
      exact diskId_forward_of_lt hk5

lemma Consistent.fail_disk (h : Consistent serde restored s) (hi : s.tasks[i]? = some t)
    {torn : Option B} (hphase : t.phase = .disk k)
    (hstart : k = 0 → ∀ t' ∈ s.tasks, ¬ t'.phase.Writing)
    (hmid : 3 ≤ k → s.dir "snapshot-meta.json" = none)
    (hs : s.step serde (.fail i torn) = some s') :
    Consistent serde restored s' ∧ Forward serde s s' := by
  obtain ⟨hk, hothers, d₀, hpair, hdir, -⟩ := h.writer hi hphase hstart
  obtain ⟨op, hop, -⟩ := Disk.exec_writeSnapshot serde d₀ t.snap.data t.snap.snapMeta hk
  have hop' : (t.ops serde)[k]? = some op := hop
  have hfail : t.fail serde torn s.dir =
      some (t.afterDisk, attempt ⟨k, torn⟩ (t.ops serde) d₀) := by
    rw [attempt_torn, ← hdir, hop']
    simp only [SnapshotTask.fail, hphase, hop', map_some]
    cases op <;> cases torn <;> rfl
  simp only [step, hi, hfail, map_some, Option.some.injEq] at hs
  subst hs
  have hbin : attempt ⟨k, torn⟩ (t.ops serde) d₀ "snapshot.bin" = s.dir "snapshot.bin" := by
    rw [hdir, attempt_ops_bin, attempt_ops_bin]
  have hmeta : attempt ⟨k, torn⟩ (t.ops serde) d₀ "snapshot-meta.json" =
      s.dir "snapshot-meta.json" := by
    rw [hdir, attempt_ops_meta, attempt_ops_meta]
  refine ⟨.quiet (not_writing_set hothers (not_writing_afterDisk t)) ?_, .refl _,
    diskId_atLeast_of_bin hmeta (.inl hbin)⟩
  -- before the first rename nothing has changed, after it there is no metadata to go with
  intro data m hread
  by_cases hk3 : k < 3
  · have hsame : Disk.readSnapshot serde (attempt ⟨k, torn⟩ (t.ops serde) d₀) =
        Disk.readSnapshot serde d₀ := by
      apply Disk.readSnapshot_congr
      · rw [attempt_ops_bin, if_pos hk3]
      · exact attempt_ops_meta_of_lt serde t d₀ hk
    have hsnaps := exists_snap_set hi (show t.afterDisk.snap = t.snap from rfl)
    exact hpair.mono hsnaps data m (hsame ▸ hread)
  · have hnone : attempt ⟨k, torn⟩ (t.ops serde) d₀ "snapshot-meta.json" = none :=
      hmeta.trans (hmid (by omega))
    rw [Disk.readSnapshot_of_no_meta hnone] at hread
    cases hread

end

lemma consistent_step {e : SnapshotEvent B} (h : Consistent serde restored s)
    (ho : Ordered serde s e) (hs : s.step serde e = some s') :
    Consistent serde restored s' ∧ Forward serde s s' := by
  have hdisk0 : ¬ (SnapshotPhase.disk 0).Writing := by decide
  have hstate : ¬ SnapshotPhase.writeState.Writing := by decide
  have hset : ¬ SnapshotPhase.setSlot.Writing := by decide
  have hnotify : ¬ SnapshotPhase.notify.Writing := by decide
  cases e with
  | apply es | getSnapshotBuilder =>
    cases hs
    exact ⟨h.frame rfl rfl, forward_of_eq rfl rfl⟩
  | buildSnapshot =>
    simp only [step] at hs
    split at hs
    · cases hs
    · split at hs <;> cases hs
      · exact ⟨h.frame rfl rfl, forward_of_eq rfl rfl⟩
      · exact ⟨h.append_idle hdisk0 rfl rfl, forward_of_eq rfl rfl⟩
  | installSnapshot =>
    simp only [step] at hs
    split at hs <;> cases hs
    · exact ⟨h, forward_of_eq rfl rfl⟩
    · exact ⟨h.append_idle hstate rfl rfl, forward_of_eq rfl rfl⟩
  | advance i =>
    cases hi : s.tasks[i]? with
    | none => simp [step, hi] at hs
    | some t =>
      obtain ⟨hslot, hdisk⟩ := ho t hi
      cases hphase : t.phase with
      | disk => exact h.advance_disk hi hphase (fun hk => hdisk (hk ▸ hphase)) hs
      | done => simp [step, hi, SnapshotTask.advance, hphase] at hs
      | writeState =>
        simp only [step, hi, SnapshotTask.advance, hphase, Option.map_map, map_eq_some_iff] at hs
        obtain ⟨fsm, -, rfl⟩ := hs
        refine ⟨h.set_idle hi (hphase ▸ hstate) ?_ ?_ rfl rfl, forward_of_eq rfl rfl⟩
        · exact hset
        · rfl
      | setSlot =>
        simp only [step, hi, SnapshotTask.advance, hphase] at hs
        cases hs
        exact ⟨h.set_idle hi (hphase ▸ hset) (not_writing_afterSlot t) rfl rfl rfl,
          hslot hphase, .refl _⟩
      | notify =>
        simp only [step, hi, SnapshotTask.advance, hphase] at hs
        cases hs
        refine ⟨h.set_idle hi (hphase ▸ hnotify) ?_ ?_ rfl rfl, forward_of_eq rfl rfl⟩
        · exact hdisk0
        · rfl
  | fail i =>
    cases hi : s.tasks[i]? with
    | none => simp [step, hi] at hs
    | some t =>
      obtain ⟨hfirst, hmid⟩ := ho t hi
      cases hphase : t.phase with
      | disk k =>
        refine h.fail_disk hi hphase (fun hk => hfirst (hk ▸ hphase)) (fun hk => ?_) hs
        exact hmid ⟨k - 3, by rw [hphase]; congr 1; omega⟩
      | writeState | setSlot | notify | done => simp [step, hi, SnapshotTask.fail, hphase] at hs

lemma consistent_start {raft : MillRaft B} {d : RaftDir B}
    (h : MillRaft.openDir serde d = .ok raft) :
    Consistent serde raft.sm.getCurrentSnapshot (start raft d) := by
  refine .quiet (fun t ht => nomatch ht) ?_
  intro data m hread
  have hread' : Disk.readSnapshot serde d = .ok (some (data, m)) := hread
  obtain ⟨-, -, -, ⟨hs, -⟩ | ⟨data', m', fsm, hs, -, hsm⟩⟩ := MillRaft.openDir_eq_ok h
  · rw [hs] at hread'
    cases hread'
  · rw [hs] at hread'
    cases hread'
    exact .inl (by rw [hsm]; rfl)

lemma writing_of_betweenRenames {p : SnapshotPhase} (h : p.BetweenRenames) : p.Writing := by
  obtain ⟨k, rfl⟩ := h
  exact ⟨k + 2, rfl⟩

lemma Consistent.paired_iff (h : Consistent serde restored s) :
    Paired serde restored s s.dir ↔ ¬ Mixed serde restored s := by
  cases h with
  | quiet hquiet hpair =>
    refine iff_of_true hpair ?_
    rintro ⟨t, ht, hb, -⟩
    exact hquiet t ht (writing_of_betweenRenames hb)
  | writing i t k ht hk hphase hothers d₀ hpair _ hdir =>
    have honly : ∀ t' ∈ s.tasks, t'.phase.BetweenRenames → t' = t := by
      intro t' ht' hb
      obtain ⟨j, hj⟩ := mem_iff_getElem?.mp ht'
      have hji := hothers j t' hj (writing_of_betweenRenames hb)
      exact Option.some.inj (hj.symm.trans (hji ▸ ht))
    have hbin := attempt_ops_bin serde t d₀ ⟨k + 1, none⟩
    have hmeta : attempt ⟨k + 1, none⟩ (t.ops serde) d₀ "snapshot-meta.json" =
        d₀ "snapshot-meta.json" :=
      attempt_ops_meta_of_lt serde t d₀ (show k + 1 < 6 by omega)
    rw [← hdir] at hbin
    by_cases hk3 : k + 1 < 3
    · -- before its first rename the writer has not touched the pair
      refine iff_of_true ?_ ?_
      · intro data m hread
        have hsame : Disk.readSnapshot serde s.dir = Disk.readSnapshot serde d₀ :=
          Disk.readSnapshot_congr (hbin.trans (if_pos hk3)) (hdir ▸ hmeta)
        exact hpair data m (hsame ▸ hread)
      · rintro ⟨t', ht', hb, -⟩
        rw [honly t' ht' hb] at hb
        obtain ⟨k', hk'⟩ := hb
        rw [hphase] at hk'
        have := SnapshotPhase.disk.inj hk'
        omega
    · have hdata : readFile s.dir "snapshot.bin" = some t.snap.data := by
        rw [readFile, hbin, if_neg hk3]
        rfl
      have hbetween : t.phase.BetweenRenames := ⟨k - 2, by rw [hphase]; congr 1; omega⟩
      constructor
      · rintro hp ⟨t', ht', hb, m, hm, hno⟩
        rw [honly t' ht' hb] at hno
        exact hno (hp _ m (Disk.readSnapshot_eq_some.mpr ⟨hdata, hm⟩))
      · intro hmix data m hread
        obtain ⟨hd, hm⟩ := Disk.readSnapshot_eq_some.mp hread
        rw [hdata, Option.some.injEq] at hd
        by_contra hno
        exact hmix ⟨t, mem_of_getElem? ht, hbetween, m, hm, hd ▸ hno⟩

/-- In a run that keeps the discipline, from any node as it was opened, neither
the slot nor the disk goes back from one state to a later one, and the disk has
a pair of one snapshot unless a write stands between its renames over another's
metadata. -/
theorem ordered_run_forward (serde : Serde B) (raft : MillRaft B) (d : RaftDir B)
    (hopen : MillRaft.openDir serde d = .ok raft) (es₁ es₂ : List (SnapshotEvent B))
    (s s' : SnapshotSystem B)
    (hord : Guarded (step serde) (Ordered serde) (start raft d) (es₁ ++ es₂))
    (hs : run (step serde) (start raft d) es₁ = some s) (hs' : run (step serde) s es₂ = some s') :
    LogId.AtLeast s'.slotId s.slotId ∧
    LogId.AtLeast (diskId serde s'.dir) (diskId serde s.dir) ∧
    (Paired serde raft.sm.getCurrentSnapshot s' s'.dir ↔
      ¬ Mixed serde raft.sm.getCurrentSnapshot s') := by
  obtain ⟨hord₁, hord₂⟩ := guarded_append.mp hord
  have hc : Consistent serde raft.sm.getCurrentSnapshot s :=
    run_invariant (fun _ _ _ hi ho hst => (consistent_step hi ho hst).1)
      (consistent_start hopen) hord₁ hs
  have hcf : Consistent serde raft.sm.getCurrentSnapshot s' ∧ Forward serde s s' := by
    refine run_invariant (I := fun u => Consistent serde raft.sm.getCurrentSnapshot u ∧
      Forward serde s u) ?_ ⟨hc, .refl _, .refl _⟩ (hord₂ s hs) hs'
    rintro u e u' ⟨hu, hf⟩ ho hst
    obtain ⟨hu', hf'⟩ := consistent_step hu ho hst
    exact ⟨hu', hf'.1.trans hf.1, hf'.2.trans hf.2⟩
  exact ⟨hcf.2.1, hcf.2.2, hcf.1.paired_iff⟩

def demoStart : SnapshotSystem Contents :=
  start ⟨.withPersistence none, .withPersistence⟩ (RaftDir.empty Contents)

def demoBuilders : List (SnapshotEvent Contents) :=
  [.apply [⟨⟨⟨1, 1⟩, 1⟩, .normal (.secretSet "a" [1] [1])⟩], .getSnapshotBuilder,
    .apply [⟨⟨⟨1, 1⟩, 2⟩, .normal (.secretSet "b" [2] [2])⟩], .getSnapshotBuilder]

theorem ordered_run_forward_builders : ∃ s s', run (step Contents.serde) demoStart
        (demoBuilders ++ [.buildSnapshot 0] ++ List.replicate 7 (.advance 0)) = some s ∧
      run (step Contents.serde) s ([.buildSnapshot 0] ++ List.replicate 7 (.advance 1)) = some s' ∧
      s.slotId = some ⟨⟨1, 1⟩, 1⟩ ∧ s'.slotId = some ⟨⟨1, 1⟩, 2⟩ ∧
      LogId.AtLeast s'.slotId s.slotId := by
  have hrun : ((run (step Contents.serde) demoStart
      (demoBuilders ++ [.buildSnapshot 0] ++ List.replicate 7 (.advance 0))).bind fun s =>
        (run (step Contents.serde) s
          ([.buildSnapshot 0] ++ List.replicate 7 (.advance 1))).map fun s' =>
            (s.slotId, s'.slotId)) = some (some ⟨⟨1, 1⟩, 1⟩, some ⟨⟨1, 1⟩, 2⟩) := by
    decide +kernel
  obtain ⟨s, hs, hrun⟩ := bind_eq_some_iff.mp hrun
  obtain ⟨s', hs', hslots⟩ := map_eq_some_iff.mp hrun
  simp only [Prod.mk.injEq] at hslots
  have hforward := ordered_run_forward Contents.serde ⟨.withPersistence none, .withPersistence⟩
    (RaftDir.empty Contents) rfl _ _ s s' (by decide +kernel) hs hs'
  exact ⟨s, s', hs, hs', hslots.1, hslots.2, hforward.1⟩

/-- A builder that was overtaken puts its older snapshot into the slot and on
disk; and two builders that write at the same time leave the state of one beside
the metadata of the other, with every call done and no error reported. -/
theorem snapshot_goes_back_and_mixes : (∃ s s', run (step Contents.serde) demoStart
        (demoBuilders ++ [.buildSnapshot 1] ++ List.replicate 7 (.advance 0)) = some s ∧
      run (step Contents.serde) s ([.buildSnapshot 0] ++ List.replicate 7 (.advance 1)) = some s' ∧
      s.slotId = some ⟨⟨1, 1⟩, 2⟩ ∧ s'.slotId = some ⟨⟨1, 1⟩, 1⟩ ∧
      diskId Contents.serde s.dir = some ⟨⟨1, 1⟩, 2⟩ ∧
      diskId Contents.serde s'.dir = some ⟨⟨1, 1⟩, 1⟩) ∧
    ∃ s, run (step Contents.serde) demoStart
        (demoBuilders ++ [.buildSnapshot 0, .buildSnapshot 0, .advance 0, .advance 1, .advance 0,
          .advance 0, .advance 1, .advance 0, .advance 0, .advance 0, .advance 0, .advance 1]) =
        some s ∧
      (∀ t ∈ s.tasks, t.phase = .done) ∧ ¬ Paired Contents.serde none s s.dir := by
  constructor
  · have hrun : ((run (step Contents.serde) demoStart
        (demoBuilders ++ [.buildSnapshot 1] ++ List.replicate 7 (.advance 0))).bind fun s =>
          (run (step Contents.serde) s
            ([.buildSnapshot 0] ++ List.replicate 7 (.advance 1))).map fun s' =>
              (s.slotId, s'.slotId, diskId Contents.serde s.dir, diskId Contents.serde s'.dir)) =
        some (some ⟨⟨1, 1⟩, 2⟩, some ⟨⟨1, 1⟩, 1⟩, some ⟨⟨1, 1⟩, 2⟩, some ⟨⟨1, 1⟩, 1⟩) := by
      decide +kernel
    obtain ⟨s, hs, hrun⟩ := bind_eq_some_iff.mp hrun
    obtain ⟨s', hs', hids⟩ := map_eq_some_iff.mp hrun
    simp only [Prod.mk.injEq] at hids
    exact ⟨s, s', hs, hs', hids⟩
  refine ⟨_, rfl, by decide, ?_⟩
  intro h
  rcases h _ _ rfl with hr | ⟨t, ht, hsnap⟩
  · cases hr
  · rcases mem_cons.mp ht with rfl | ht
    · exact absurd (congrArg Snapshot.data hsnap) (by decide)
    · rw [mem_singleton.mp ht] at hsnap
      exact absurd (congrArg (fun snap => snap.snapMeta.lastLogId) hsnap) (by decide)

end SnapshotSystem

end Mill
