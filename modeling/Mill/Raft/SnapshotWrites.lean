import Mill.Lib.List
import Mill.Raft.Disk

/-! Sequences of `write_snapshot` calls, each of which may be cut off by a crash
or an I/O error after any of its file-system steps. -/

namespace Mill

open FileSystem Disk

structure SnapshotWrite (B : Type) where
  data : B
  snapMeta : SnapshotMeta
  io : Io B
  crash : Option (String → Option B)

namespace SnapshotWrite

variable {B : Type} (serde : Serde B)

def perform (w : SnapshotWrite B) (d : RaftDir B) : RaftDir B :=
  let written := attempt w.io (writeSnapshot serde w.data w.snapMeta) d
  match w.crash with
  | some lost => FileSystem.crash lost written
  | none => written

def performAll (ws : List (SnapshotWrite B)) : RaftDir B :=
  ws.foldl (fun d w => w.perform serde d) (RaftDir.empty B)

/-- The last call that got at least `n` steps far. Step three renames
`snapshot.bin` into place, step six `snapshot-meta.json`. -/
def lastWith (n : Nat) (ws : List (SnapshotWrite B)) : Option (SnapshotWrite B) :=
  ws.lastWhere fun w => n ≤ w.io.steps

lemma lastWith_append (n : Nat) (ws : List (SnapshotWrite B)) (w : SnapshotWrite B) :
    lastWith n (ws ++ [w]) = if n ≤ w.io.steps then some w else lastWith n ws := by
  rw [lastWith, List.lastWhere_concat]
  simp only [decide_eq_true_eq]
  rfl

lemma performAll_append (ws : List (SnapshotWrite B)) (w : SnapshotWrite B) :
    performAll serde (ws ++ [w]) = w.perform serde (performAll serde ws) := by
  simp [performAll]

lemma perform_of_settled (w : SnapshotWrite B) (d : RaftDir B) {n : String}
    (h : Settled (attempt w.io (writeSnapshot serde w.data w.snapMeta) d) n) :
    w.perform serde d n = attempt w.io (writeSnapshot serde w.data w.snapMeta) d n := by
  unfold perform
  cases w.crash with
  | none => rfl
  | some lost => exact crash_of_settled h lost

lemma performAll_files (ws : List (SnapshotWrite B)) :
    performAll serde ws "snapshot.bin" = (lastWith 3 ws).map (fun w => ⟨w.data, true⟩) ∧
    performAll serde ws "snapshot-meta.json" =
      (lastWith 6 ws).map fun w => ⟨serde.metaToJson w.snapMeta, true⟩ := by
  induction ws using List.reverseRecOn with
  | nil => exact ⟨rfl, rfl⟩
  | append_singleton ws w ih =>
    obtain ⟨hbin, hmeta⟩ := ih
    have hb := writeSnapshot_bin serde w.io (performAll serde ws) w.data w.snapMeta
    have hm := writeSnapshot_meta serde w.io (performAll serde ws) w.data w.snapMeta
    rw [hbin] at hb
    rw [hmeta] at hm
    have hsettled {o : Option (SnapshotWrite B)} {g : SnapshotWrite B → B} {f : File B}
        (h : o.map (fun w => (⟨g w, true⟩ : File B)) = some f) : f.synced = true := by
      obtain ⟨v, -, rfl⟩ := Option.map_eq_some_iff.mp h
      rfl
    rw [performAll_append, perform_of_settled, perform_of_settled, hb, hm, lastWith_append,
      lastWith_append]
    · constructor
      · by_cases h : w.io.steps < 3
        · rw [if_pos h, if_neg (by omega)]
        · rw [if_neg h, if_pos (by omega), Option.map_some]
      · by_cases h : w.io.steps < 6
        · rw [if_pos h, if_neg (by omega)]
        · rw [if_neg h, if_pos (by omega), Option.map_some]
    · intro f hf
      rw [hm] at hf
      split_ifs at hf
      · exact hsettled hf
      · cases hf
        rfl
    · intro f hf
      rw [hb] at hf
      split_ifs at hf
      · exact hsettled hf
      · cases hf
        rfl

lemma readSnapshot_performAll (ws : List (SnapshotWrite B)) :
    readSnapshot serde (performAll serde ws) =
      .ok ((lastWith 3 ws).bind fun w => (lastWith 6 ws).map fun m => (w.data, m.snapMeta)) := by
  obtain ⟨hbin, hmeta⟩ := performAll_files serde ws
  unfold readSnapshot readFile
  rw [hbin, hmeta]
  cases lastWith 3 ws with
  | none => rfl
  | some =>
    cases lastWith 6 ws with
    | none => rfl
    | some => simp [serde.metaFromJson_toJson]

/-- A call that got as far as its second rename also made the first one, so it
is the last to have written the data as well unless a later call was cut off
between its two renames. -/
lemma lastWith_six {ws : List (SnapshotWrite B)} {w m : SnapshotWrite B}
    (hw : lastWith 3 ws = some w) (hm : lastWith 6 ws = some m) (h : 6 ≤ w.io.steps) : w = m := by
  induction ws using List.reverseRecOn with
  | nil => cases hw
  | append_singleton ws v ih =>
    rw [lastWith_append] at hw hm
    by_cases h6 : 6 ≤ v.io.steps
    · rw [if_pos (by omega)] at hw
      rw [if_pos h6] at hm
      exact Option.some.inj (hw.symm.trans hm)
    · rw [if_neg h6] at hm
      by_cases h3 : 3 ≤ v.io.steps
      · rw [if_pos h3, Option.some.injEq] at hw
        exact absurd (hw ▸ h) h6
      · rw [if_neg h3] at hw
        exact ih hw hm

/-- Reading back gives nothing or a pair that one call was given, exactly when
no call was cut off between its two renames over the metadata of an earlier one
(or that very mixture of data and metadata was itself the input of a call). -/
theorem readSnapshot_pair_iff (ws : List (SnapshotWrite B)) :
    (readSnapshot serde (performAll serde ws) = .ok none ∨
      ∃ v ∈ ws, readSnapshot serde (performAll serde ws) = .ok (some (v.data, v.snapMeta))) ↔
    ∀ w m, lastWith 3 ws = some w → lastWith 6 ws = some m → w.io.steps < 6 →
      ∃ v ∈ ws, v.data = w.data ∧ v.snapMeta = m.snapMeta := by
  rw [readSnapshot_performAll]
  constructor
  · rintro (h | ⟨v, hv, h⟩) w m hw hm -
    · rw [hw, hm] at h
      cases h
    · rw [hw, hm, Option.bind_some, Option.map_some, Except.ok.injEq, Option.some.injEq,
        Prod.mk.injEq] at h
      exact ⟨v, hv, h.1.symm, h.2.symm⟩
  · intro h
    cases hw : lastWith 3 ws with
    | none => exact .inl rfl
    | some w =>
      cases hm : lastWith 6 ws with
      | none => exact .inl rfl
      | some m =>
        right
        by_cases h6 : w.io.steps < 6
        · obtain ⟨v, hv, hdata, hmeta⟩ := h w m hw hm h6
          exact ⟨v, hv, by rw [hdata, hmeta]; rfl⟩
        · have hwm : w = m := lastWith_six hw hm (by omega)
          exact ⟨m, (List.mem_of_lastWhere hm).1, by rw [hwm]; rfl⟩

def demoWrite (version steps : Nat) : SnapshotWrite Contents where
  data := .state { (default : FsmState) with
    secrets := Finmap.singleton "version" ⟨[UInt8.ofNat version], []⟩ }
  snapMeta := ⟨some ⟨⟨1, 1⟩, version⟩, default, s!"snapshot-{version}"⟩
  io := ⟨steps, none⟩
  crash := some fun _ => none

/-- A crash right after the second call renamed its data: the new data stand
beside the metadata of the first call. -/
theorem readSnapshot_mixed_pair :
    ¬ (readSnapshot Contents.serde (performAll Contents.serde [demoWrite 1 6, demoWrite 2 3]) =
        .ok none ∨
      ∃ v ∈ [demoWrite 1 6, demoWrite 2 3],
        readSnapshot Contents.serde (performAll Contents.serde [demoWrite 1 6, demoWrite 2 3]) =
          .ok (some (v.data, v.snapMeta))) := by
  have hread : readSnapshot Contents.serde
      (performAll Contents.serde [demoWrite 1 6, demoWrite 2 3]) =
        .ok (some ((demoWrite 2 3).data, (demoWrite 1 6).snapMeta)) :=
    readSnapshot_performAll Contents.serde _
  have hdata : (demoWrite 2 3).data ≠ (demoWrite 1 6).data := by decide
  have hmeta : (demoWrite 1 6).snapMeta ≠ (demoWrite 2 3).snapMeta := by decide
  rw [hread]
  rintro (h | ⟨v, hv, h⟩)
  · cases h
  · simp only [Except.ok.injEq, Option.some.injEq, Prod.mk.injEq] at h
    rcases List.mem_pair.mp hv with rfl | rfl
    · exact hdata h.1
    · exact hmeta h.2

end SnapshotWrite

end Mill
