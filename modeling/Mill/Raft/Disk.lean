import Mathlib.Tactic.IntervalCases
import Mill.Lib.FileSystem
import Mill.Raft.Types

/-! The files of the raft directory. `Serde` stands for the serialisers of the
source (MessagePack with zstd for the state, JSON for metadata and votes); the
one thing assumed of them is that reading back what was written gives it
again. -/

namespace Mill

open FileSystem

inductive SnapshotError
  | encode
  | decode
  | io
deriving DecidableEq

structure Serde (B : Type) where
  encode : FsmState → Except SnapshotError B
  decode : B → Except SnapshotError FsmState
  decode_encode : ∀ s b, encode s = .ok b → decode b = .ok s
  metaToJson : SnapshotMeta → B
  metaFromJson : B → Option SnapshotMeta
  metaFromJson_toJson : ∀ m, metaFromJson (metaToJson m) = some m
  voteToJson : Vote → B
  voteFromJson : B → Option Vote
  voteFromJson_toJson : ∀ v, voteFromJson (voteToJson v) = some v

inductive Contents
  | state (s : FsmState)
  | snapshotMeta (m : SnapshotMeta)
  | vote (v : Vote)
  | torn
deriving DecidableEq

def Contents.serde : Serde Contents where
  encode s := .ok (.state s)
  decode
    | .state s => .ok s
    | _ => .error .decode
  decode_encode s b h := by
    cases h
    rfl
  metaToJson := .snapshotMeta
  metaFromJson
    | .snapshotMeta m => some m
    | _ => none
  metaFromJson_toJson _ := rfl
  voteToJson := .vote
  voteFromJson
    | .vote v => some v
    | _ => none
  voteFromJson_toJson _ := rfl

abbrev RaftDir (B : Type) := Dir String B

def RaftDir.empty (B : Type) : RaftDir B := fun _ => none

namespace Disk

variable {B : Type} {serde : Serde B} {d : RaftDir B}

def atomicWrite (filename : String) (data : B) : List (Op String B) :=
  replace (filename ++ ".tmp") filename data

def writeSnapshot (serde : Serde B) (data : B) (m : SnapshotMeta) : List (Op String B) :=
  atomicWrite "snapshot.bin" data ++ atomicWrite "snapshot-meta.json" (serde.metaToJson m)

def readSnapshot (serde : Serde B) (d : RaftDir B) :
    Except SnapshotError (Option (B × SnapshotMeta)) :=
  match readFile d "snapshot.bin", readFile d "snapshot-meta.json" with
  | some data, some json =>
    match serde.metaFromJson json with
    | some m => .ok (some (data, m))
    | none => .error .decode
  | _, _ => .ok none

def writeVote (serde : Serde B) (vote : Vote) : List (Op String B) :=
  atomicWrite "vote.json" (serde.voteToJson vote)

def readVote (serde : Serde B) (d : RaftDir B) : Except SnapshotError (Option Vote) :=
  match readFile d "vote.json" with
  | some json =>
    match serde.voteFromJson json with
    | some vote => .ok (some vote)
    | none => .error .decode
  | none => .ok none

lemma readSnapshot_congr {d' : RaftDir B} (hbin : d' "snapshot.bin" = d "snapshot.bin")
    (hmeta : d' "snapshot-meta.json" = d "snapshot-meta.json") :
    readSnapshot serde d' = readSnapshot serde d := by
  unfold readSnapshot readFile
  rw [hbin, hmeta]

lemma readSnapshot_eq_some {data : B} {m : SnapshotMeta} :
    readSnapshot serde d = .ok (some (data, m)) ↔ readFile d "snapshot.bin" = some data ∧
        (readFile d "snapshot-meta.json").bind serde.metaFromJson = some m := by
  unfold readSnapshot
  cases readFile d "snapshot.bin" with
  | none => simp
  | some =>
    cases readFile d "snapshot-meta.json" with
    | none => simp
    | some j => cases hj : serde.metaFromJson j <;> simp [hj]

lemma readSnapshot_of_files {data : B} {m : SnapshotMeta}
    (hbin : d "snapshot.bin" = some ⟨data, true⟩)
    (hmeta : d "snapshot-meta.json" = some ⟨serde.metaToJson m, true⟩) :
    readSnapshot serde d = .ok (some (data, m)) := by
  rw [readSnapshot_eq_some, readFile, readFile, hbin, hmeta]
  exact ⟨rfl, serde.metaFromJson_toJson m⟩

lemma readSnapshot_of_no_meta
    (h : d "snapshot-meta.json" = none) : readSnapshot serde d = .ok none := by
  unfold readSnapshot readFile
  rw [h]
  cases d "snapshot.bin" <;> rfl

lemma readVote_of_file {vote : Option Vote}
    (h : d "vote.json" = vote.map fun v => ⟨serde.voteToJson v, true⟩) :
    readVote serde d = .ok vote := by
  unfold readVote readFile
  rw [h]
  cases vote with
  | none => rfl
  | some => simp only [Option.map_some, serde.voteFromJson_toJson]

variable (serde : Serde B) (io : Io B) (d : RaftDir B)

lemma writeSnapshot_bin (data : B) (m : SnapshotMeta) :
    attempt io (writeSnapshot serde data m) d "snapshot.bin" =
      if io.steps < 3 then d "snapshot.bin" else some ⟨data, true⟩ := by
  rw [writeSnapshot, atomicWrite, attempt_replace_append]
  split_ifs with h
  · rw [attempt_replace_path (by decide), if_pos h]
  · rw [atomicWrite, attempt_replace_other (by decide) (by decide)]
    exact Function.update_self ..

lemma writeSnapshot_meta (data : B) (m : SnapshotMeta) :
    attempt io (writeSnapshot serde data m) d "snapshot-meta.json" =
      if io.steps < 6 then d "snapshot-meta.json" else some ⟨serde.metaToJson m, true⟩ := by
  rw [writeSnapshot, atomicWrite, attempt_replace_append]
  have hbefore : replaced ("snapshot.bin" ++ ".tmp") "snapshot.bin" data d "snapshot-meta.json" =
      d "snapshot-meta.json" := by
    rw [replaced, Function.update_of_ne (by decide), Function.update_of_ne (by decide)]
  split_ifs with h h' h'
  · exact attempt_replace_other (by decide) (by decide) io data d
  · omega
  · have h3 : io.steps - 3 < 3 := by omega
    rw [atomicWrite, attempt_replace_path (by decide), if_pos h3, hbefore]
  · have h3 : ¬ io.steps - 3 < 3 := by omega
    rw [atomicWrite, attempt_replace_path (by decide), if_neg h3]

lemma writeSnapshot_vote (data : B) (m : SnapshotMeta) :
    attempt io (writeSnapshot serde data m) d "vote.json" = d "vote.json" := by
  rw [writeSnapshot, atomicWrite, attempt_replace_append]
  split_ifs with h
  · exact attempt_replace_other (by decide) (by decide) io data d
  · rw [atomicWrite, attempt_replace_other (by decide) (by decide), replaced,
      Function.update_of_ne (by decide), Function.update_of_ne (by decide)]

lemma exec_writeSnapshot (data : B) (m : SnapshotMeta) {k : Nat} (hk : k < 6) :
    ∃ op, (writeSnapshot serde data m)[k]? = some op ∧
      op.exec (attempt ⟨k, none⟩ (writeSnapshot serde data m) d) =
        some (attempt ⟨k + 1, none⟩ (writeSnapshot serde data m) d) := by
  interval_cases k <;> refine ⟨_, rfl, ?_⟩ <;>
    simp [attempt, writeSnapshot, atomicWrite, replace, perform, Op.exec]

lemma writeVote_vote (vote : Vote) : attempt io (writeVote serde vote) d "vote.json" =
      if io.steps < 3 then d "vote.json" else some ⟨serde.voteToJson vote, true⟩ :=
  attempt_replace_path (by decide) io _ d

lemma writeVote_other (vote : Vote) {n : String} (ht : n ≠ "vote.json.tmp")
    (hn : n ≠ "vote.json") : attempt io (writeVote serde vote) d n = d n :=
  attempt_replace_other ht hn io _ d

end Disk

end Mill
