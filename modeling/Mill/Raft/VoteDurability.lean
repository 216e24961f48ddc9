import Mill.Lib.List
import Mill.Raft.Open

/-! Votes across a crash. -/

namespace Mill

open FileSystem List Option

variable {B : Type}

structure SaveVote (B : Type) where
  vote : Vote
  io : Io B

def saveVotes (serde : Serde B) : List (SaveVote B) → LogStore → RaftDir B →
    List (Vote × Except SnapshotError Unit) × LogStore × RaftDir B
  | [], s, d => ([], s, d)
  | c :: cs, s, d =>
    let (r, s, d) := s.saveVote serde c.io c.vote d
    let (rs, s, d) := saveVotes serde cs s d
    ((c.vote, r) :: rs, s, d)

/-- The directory of a node that crashes after the calls, or in the one given by
`cut`, which then has not returned. -/
def crashedDir (serde : Serde B) (calls : List (SaveVote B)) (cut : Option (SaveVote B))
    (lost : String → Option B) (s : LogStore) (d : RaftDir B) : RaftDir B :=
  crash lost (saveVotes serde (calls ++ cut.toList) s d).2.2

variable {serde : Serde B}

def lastWritten (calls : List (SaveVote B)) : Option (SaveVote B) :=
  calls.lastWhere fun c => 3 ≤ c.io.steps

lemma saveVotes_append (cs : List (SaveVote B)) (c : SaveVote B) (s : LogStore)
    (d : RaftDir B) : (saveVotes serde (cs ++ [c]) s d).2.2 =
      attempt c.io (Disk.writeVote serde c.vote) (saveVotes serde cs s d).2.2 := by
  induction cs generalizing s d with
  | nil => rfl
  | cons c' cs ih => exact ih _ _

lemma mem_saveVotes {cs : List (SaveVote B)} {s : LogStore} {d : RaftDir B} {v : Vote} :
    (v, .ok ()) ∈ (saveVotes serde cs s d).1 ↔ ∃ c ∈ cs, c.vote = v := by
  induction cs generalizing s d with
  | nil => simp [saveVotes]
  | cons c cs ih =>
    simp only [saveVotes, LogStore.saveVote, mem_cons, Prod.mk.injEq, and_true, ih]
    constructor
    · rintro (rfl | ⟨c', hc', hv⟩)
      · exact ⟨c, .inl rfl, rfl⟩
      · exact ⟨c', .inr hc', hv⟩
    · rintro ⟨c', rfl | hc', hv⟩
      · exact .inl hv.symm
      · exact .inr ⟨c', hc', hv⟩

lemma saveVotes_other (serde : Serde B) (cs : List (SaveVote B)) (s : LogStore) (d : RaftDir B)
    {n : String} (ht : n ≠ "vote.json.tmp") (hn : n ≠ "vote.json") :
    (saveVotes serde cs s d).2.2 n = d n := by
  induction cs generalizing s d with
  | nil => rfl
  | cons c cs ih =>
    have hc := Disk.writeVote_other serde c.io d c.vote ht hn
    exact (ih _ _).trans hc

lemma saveVotes_vote (serde : Serde B) (cs : List (SaveVote B)) (s : LogStore) (d : RaftDir B) :
    (saveVotes serde cs s d).2.2 "vote.json" = match lastWritten cs with
      | some c => some ⟨serde.voteToJson c.vote, true⟩
      | none => d "vote.json" := by
  induction cs using List.reverseRecOn with
  | nil => rfl
  | append_singleton cs c ih =>
    rw [saveVotes_append, Disk.writeVote_vote, lastWritten, List.lastWhere_concat]
    by_cases hc : 3 ≤ c.io.steps
    · have hlt : ¬ c.io.steps < 3 := by omega
      rw [if_neg hlt, if_pos (decide_eq_true hc)]
    · have hlt : c.io.steps < 3 := by omega
      have hf : ¬ decide (3 ≤ c.io.steps) = true := by simpa using hlt
      rw [if_pos hlt, if_neg hf]
      exact ih

lemma lastWritten_concat (cs : List (SaveVote B)) (c : SaveVote B) :
    lastWritten (cs ++ [c]) = if 3 ≤ c.io.steps then some c else lastWritten cs := by
  rw [lastWritten, List.lastWhere_concat]
  simp only [decide_eq_true_eq]
  rfl

variable {d₀ : RaftDir B} {r₀ : MillRaft B}

/-- The vote on disk after the crash, of a node that started with `vote₀`. -/
def survivingVote (vote₀ : Option Vote) (calls : List (SaveVote B)) : Option Vote :=
  ((lastWritten calls).map SaveVote.vote).or vote₀

lemma readVote_crashedDir (hset : Settled d₀ "vote.json") {vote₀ : Option Vote}
    (hvote : Disk.readVote serde d₀ = .ok vote₀) (calls : List (SaveVote B))
    (cut : Option (SaveVote B)) (lost : String → Option B) (s : LogStore) :
    Disk.readVote serde (crashedDir serde calls cut lost s d₀) =
      .ok (survivingVote vote₀ (calls ++ cut.toList)) := by
  have hfile := saveVotes_vote serde (calls ++ cut.toList) s d₀
  unfold survivingVote
  cases hlast : lastWritten (calls ++ cut.toList) with
  | some c =>
    rw [hlast] at hfile
    have hkept : crashedDir serde calls cut lost s d₀ "vote.json" =
        (some c.vote).map fun v => ⟨serde.voteToJson v, true⟩ := by
      rw [crashedDir, crash_of_synced (o := some c.vote) (g := serde.voteToJson) hfile, hfile]
      rfl
    exact Disk.readVote_of_file hkept
  | none =>
    rw [hlast] at hfile
    have hkept : crashedDir serde calls cut lost s d₀ "vote.json" = d₀ "vote.json" := by
      rw [crashedDir, crash_of_settled, hfile]
      intro f hf
      exact hset f (hfile.symm.trans hf)
    rw [map_none, none_or, ← hvote]
    simp only [Disk.readVote, readFile, hkept]

lemma crashedDir_other (serde : Serde B) {n : String} (ht : n ≠ "vote.json.tmp")
    (hn : n ≠ "vote.json") (hset : Settled d₀ n) (calls : List (SaveVote B))
    (cut : Option (SaveVote B)) (lost : String → Option B) (s : LogStore) :
    crashedDir serde calls cut lost s d₀ n = d₀ n := by
  have hfile := saveVotes_other serde (calls ++ cut.toList) s d₀ ht hn
  rw [crashedDir, crash_of_settled, hfile]
  intro f hf
  exact hset f (hfile.symm.trans hf)

lemma openDir_crashedDir (hopen : MillRaft.openDir serde d₀ = .ok r₀)
    (hset : ∀ n ∈ ["snapshot.bin", "snapshot-meta.json", "vote.json"], Settled d₀ n)
    (calls : List (SaveVote B)) (cut : Option (SaveVote B)) (lost : String → Option B) :
    MillRaft.openDir serde (crashedDir serde calls cut lost r₀.logStore d₀) =
      .ok ⟨.withPersistence (survivingVote r₀.logStore.vote (calls ++ cut.toList)), r₀.sm⟩ := by
  obtain ⟨vote₀, hvote, hlog, -⟩ := MillRaft.openDir_eq_ok hopen
  have hvote₀ : r₀.logStore.vote = vote₀ := by rw [hlog]; rfl
  have hread := readVote_crashedDir (hset _ (by simp)) hvote calls cut lost r₀.logStore
  have hbin := crashedDir_other serde (n := "snapshot.bin") (by decide) (by decide)
    (hset _ (by simp)) calls cut lost r₀.logStore
  have hmeta := crashedDir_other serde (n := "snapshot-meta.json") (by decide)
    (by decide) (hset _ (by simp)) calls cut lost r₀.logStore
  have hsnap : Disk.readSnapshot serde (crashedDir serde calls cut lost r₀.logStore d₀) =
      Disk.readSnapshot serde d₀ := Disk.readSnapshot_congr hbin hmeta
  rw [hvote₀]
  exact MillRaft.openDir_of_readVote hopen hsnap hread

lemma survivingVote_covers_iff (vote₀ : Option Vote) (cs : List (SaveVote B))
    (c : SaveVote B) (cut : Option (SaveVote B))
    (hinc : (((cs ++ [c]) ++ cut.toList).map SaveVote.vote).Pairwise (· < ·)) :
    (∃ w, survivingVote vote₀ ((cs ++ [c]) ++ cut.toList) = some w ∧ c.vote ≤ w) ↔
      3 ≤ c.io.steps ∨ (∃ c', cut = some c' ∧ 3 ≤ c'.io.steps) ∨
        (∀ c' ∈ (cs ++ [c]) ++ cut.toList, c'.io.steps < 3) ∧ ∃ w, vote₀ = some w ∧ c.vote ≤ w := by
  simp only [map_append, pairwise_append, mem_append, List.mem_map] at hinc
  obtain ⟨⟨-, -, hbefore⟩, -, hcut⟩ := hinc
  unfold survivingVote
  cases hlast : lastWritten ((cs ++ [c]) ++ cut.toList) with
  | none =>
    have hnone := List.lastWhere_eq_none hlast
    have hlt : ∀ c' ∈ (cs ++ [c]) ++ cut.toList, c'.io.steps < 3 := by
      intro c' hc'
      simpa using hnone c' hc'
    have hc := hlt c (by simp)
    have hcut' : ¬ ∃ c', cut = some c' ∧ 3 ≤ c'.io.steps := by
      rintro ⟨c', rfl, h⟩
      have := hlt c' (by simp)
      omega
    rw [map_none, none_or]
    simp only [hcut', Nat.not_le.mpr hc, false_or]
    exact ⟨fun h => ⟨hlt, h⟩, And.right⟩
  | some x =>
    obtain ⟨hx, hsteps⟩ := List.mem_of_lastWhere hlast
    simp only [decide_eq_true_eq] at hsteps
    simp only [map_some, some_or, Option.some.injEq, exists_eq_left']
    constructor
    · intro hle
      simp only [mem_append, mem_singleton, mem_toList] at hx
      rcases hx with (hx | rfl) | hx
      · -- an earlier call has a lower vote
        have := hbefore _ ⟨x, hx, rfl⟩ _ ⟨c, by simp, rfl⟩
        exact absurd hle (not_le.mpr this)
      · exact .inl hsteps
      · exact .inr (.inl ⟨x, hx, hsteps⟩)
    · rintro (h | ⟨c', rfl, h⟩ | ⟨h, -⟩)
      · cases cut with
        | none =>
          simp only [toList_none, append_nil, lastWritten_concat, if_pos h] at hlast
          cases hlast
          exact le_rfl
        | some =>
          simp only [toList_some, lastWritten_concat, if_pos h] at hlast
          split_ifs at hlast with h'
          · cases hlast
            exact (hcut _ (.inr ⟨c, by simp, rfl⟩) _ ⟨x, by simp, rfl⟩).le
          · cases hlast
            exact le_rfl
      · simp only [toList_some, lastWritten_concat, if_pos h] at hlast
        cases hlast
        exact (hcut _ (.inr ⟨c, by simp, rfl⟩) _ ⟨x, by simp, rfl⟩).le
      · have := h x hx
        omega

/-- Every vote that was acknowledged is covered by the vote restored after the
crash exactly if the last of them is. -/
theorem restored_vote_covers_iff (serde : Serde B) (d₀ : RaftDir B) (r₀ : MillRaft B)
    (hopen : MillRaft.openDir serde d₀ = .ok r₀)
    (hset : ∀ n ∈ ["snapshot.bin", "snapshot-meta.json", "vote.json"], Settled d₀ n)
    (calls : List (SaveVote B)) (cut : Option (SaveVote B))
    (hinc : ((calls ++ cut.toList).map SaveVote.vote).Pairwise (· < ·)) (lost : String → Option B) :
    (∀ v, (v, .ok ()) ∈ (saveVotes serde calls r₀.logStore d₀).1 →
      ∃ r w, MillRaft.openDir serde (crashedDir serde calls cut lost r₀.logStore d₀) = .ok r ∧
        r.logStore.readVote = some w ∧ v ≤ w) ↔
    ∀ c, calls.getLast? = some c → 3 ≤ c.io.steps ∨ (∃ c', cut = some c' ∧ 3 ≤ c'.io.steps) ∨
        (∀ c' ∈ calls ++ cut.toList, c'.io.steps < 3) ∧
          ∃ w, r₀.logStore.readVote = some w ∧ c.vote ≤ w := by
  have hreopen := openDir_crashedDir hopen hset calls cut lost
  -- the reopened node is the same whichever call is asked about
  have hrestored : ∀ v, (∃ r w,
      MillRaft.openDir serde (crashedDir serde calls cut lost r₀.logStore d₀) = .ok r ∧
        r.logStore.readVote = some w ∧ v ≤ w) ↔
      ∃ w, survivingVote r₀.logStore.vote (calls ++ cut.toList) = some w ∧ v ≤ w := by
    intro v
    rw [hreopen]
    constructor
    · rintro ⟨r, w, hr, hw, hv⟩
      cases hr
      exact ⟨w, hw, hv⟩
    · rintro ⟨w, hw, hv⟩
      exact ⟨_, w, rfl, hw, hv⟩
  simp only [hrestored, mem_saveVotes]
  rcases eq_nil_or_concat' calls with rfl | ⟨cs, c, rfl⟩
  · simp
  · have hcov := survivingVote_covers_iff r₀.logStore.vote cs c cut hinc
    have hlast : (cs ++ [c]).getLast? = some c := by simp
    simp only [hlast, Option.some.injEq, forall_eq']
    refine Iff.trans ⟨fun h => h c.vote ⟨c, by simp, rfl⟩, ?_⟩ hcov
    rintro ⟨w, hw, hcw⟩ v ⟨c', hc', rfl⟩
    refine ⟨w, hw, ?_⟩
    rcases mem_append.mp hc' with hc' | hc'
    · simp only [map_append, pairwise_append, mem_append, List.mem_map] at hinc
      have hlt := hinc.1.2.2 _ ⟨c', hc', rfl⟩ _ ⟨c, by simp, rfl⟩
      exact hlt.le.trans hcw
    · rw [mem_singleton.mp hc']
      exact hcw

theorem restored_vote_covers_iff_cut :
    let v₁ : Vote := ⟨⟨1, 1⟩, false⟩
    let v₂ : Vote := ⟨⟨2, 1⟩, false⟩
    ∃ r w, MillRaft.openDir Contents.serde (crashedDir Contents.serde [⟨v₁, ⟨3, none⟩⟩]
        (some ⟨v₂, ⟨2, none⟩⟩) (fun _ => none) (.withPersistence none) (RaftDir.empty _)) = .ok r ∧
      r.logStore.readVote = some w ∧ v₁ ≤ w := by
  intro v₁ v₂
  refine (restored_vote_covers_iff Contents.serde (RaftDir.empty _)
    ⟨.withPersistence none, .withPersistence⟩ rfl ?_ [⟨v₁, ⟨3, none⟩⟩] (some ⟨v₂, ⟨2, none⟩⟩)
    ?_ _).mpr ?_ v₁ (mem_saveVotes.mpr ⟨_, mem_singleton_self _, rfl⟩)
  · intro n _ f hf
    cases hf
  · decide
  · intro c hc
    cases hc
    exact .inl le_rfl

/-- A vote for the second term is acknowledged though its rename failed; the
node comes back with the vote of the first. -/
theorem acknowledged_vote_lost :
    let v₁ : Vote := ⟨⟨1, 1⟩, false⟩
    let v₂ : Vote := ⟨⟨2, 1⟩, false⟩
    let calls : List (SaveVote Contents) := [⟨v₁, ⟨3, none⟩⟩, ⟨v₂, ⟨2, none⟩⟩]
    let s := LogStore.withPersistence none
    (v₂, .ok ()) ∈ (saveVotes Contents.serde calls s (RaftDir.empty _)).1 ∧
      MillRaft.openDir Contents.serde
          (crashedDir Contents.serde calls none (fun _ => none) s (RaftDir.empty _)) =
        .ok ⟨.withPersistence (some v₁), .withPersistence⟩ ∧ v₁ < v₂ := by
  intro v₁ v₂ calls s
  exact ⟨mem_saveVotes.mpr ⟨⟨v₂, ⟨2, none⟩⟩, by simp [calls], rfl⟩, rfl, by decide⟩

end Mill
