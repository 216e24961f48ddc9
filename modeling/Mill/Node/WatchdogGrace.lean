import Mill.Node.Watchdog

/-! What one watchdog has heard when it proposes NodeDown: it has looked at the node, and at that
time it had processed no heartbeat of it within the timeout. -/

namespace Mill

open Program

section

/-- What matters of one daemon: its tracker, the heartbeats that it has processed, the time,
and the heartbeats of a node that it had processed when it last looked at the node. -/
structure GraceView where
  tracker : HeartbeatTracker
  heard : List (Nat × Nat)
  clock : Nat
  looked : Option (Nat × List Nat)

def heardOf (heard : List (Nat × Nat)) (raftId : Nat) : List Nat :=
  (heard.filter fun b => b.1 = raftId).map Prod.snd

lemma mem_heardOf {heard : List (Nat × Nat)} {raftId t : Nat} :
    t ∈ heardOf heard raftId ↔ (raftId, t) ∈ heard := by
  simp only [heardOf, List.mem_map, List.mem_filter, decide_eq_true_eq]
  constructor
  · rintro ⟨⟨id, t'⟩, ⟨hmem, rfl⟩, rfl⟩
    exact hmem
  · intro hmem
    exact ⟨(raftId, t), ⟨hmem, rfl⟩, rfl⟩

inductive GraceStep (φ : GraceView) : GraceView → Prop
  | record (raftId : Nat) : GraceStep φ { φ with
      tracker := φ.tracker.record raftId φ.clock, heard := (raftId, φ.clock) :: φ.heard }
  | wait (t : Nat) (h : φ.clock ≤ t) : GraceStep φ { φ with clock := t }

abbrev GraceEnv : GraceView → GraceView → Prop := Relation.ReflTransGen GraceStep

def graceAfter (φ : GraceView) : (e : WatchdogEffect) → e.Answer → GraceView → Prop
  | .now, t, φ' => φ.clock ≤ t ∧ φ' = { φ with clock := t }
  | .coord .tick, t, φ' => φ.clock ≤ t ∧ φ' = { φ with clock := t }
  | .lastSeen raftId, r, φ' => r = φ.tracker.lastSeen raftId ∧
      φ' = { φ with looked := some (raftId, heardOf φ.heard raftId) }
  | .untrack raftId, _, φ' => φ' = { φ with tracker := φ.tracker.remove raftId }
  | _, _, φ' => φ' = φ

variable {heartbeatTimeout : Nat} {φ φ' : GraceView}

/-- A node is marked down only when all that had been heard of it, when the watchdog looked,
is at least the timeout ago. -/
def graceSpec (heartbeatTimeout : Nat) : Spec WatchdogEffect WatchdogEffect.Answer GraceView where
  pre φ e := ∀ raftId, e = .coord (.propose (.nodeDown raftId)) → ∃ times,
    φ.looked = some (raftId, times) ∧ ∀ t ∈ times, t + heartbeatTimeout ≤ φ.clock
  post := graceAfter

structure Heeds (nodeDiscovered : Instants) (φ : GraceView) : Prop where
  past : ∀ b ∈ φ.heard, b.2 ≤ φ.clock
  tracked : ∀ b ∈ φ.heard, ∀ t, φ.tracker.lastSeen b.1 = some t → b.2 ≤ t
  untracked : ∀ b ∈ φ.heard, φ.tracker.lastSeen b.1 = none →
    ∀ t, nodeDiscovered.lookup b.1 = some t → b.2 ≤ t

lemma Heeds.step {nodeDiscovered : Instants} (hφ : Heeds nodeDiscovered φ)
    (h : GraceStep φ φ') : Heeds nodeDiscovered φ' := by
  cases h with
  | wait t ht => exact ⟨fun b hb => (hφ.past b hb).trans ht, hφ.tracked, hφ.untracked⟩
  | record raftId =>
    have hpast : ∀ b ∈ (raftId, φ.clock) :: φ.heard, b.2 ≤ φ.clock := by
      intro b hb
      rcases List.mem_cons.mp hb with rfl | hb
      · exact le_rfl
      · exact hφ.past b hb
    refine ⟨hpast, fun b hb t ht => ?_, fun b hb hnone t ht => ?_⟩
    · rw [HeartbeatTracker.lastSeen_record] at ht
      split_ifs at ht with hk
      · cases ht
        exact hpast b hb
      · rcases List.mem_cons.mp hb with rfl | hb
        · exact absurd rfl hk
        · exact hφ.tracked b hb t ht
    · rw [HeartbeatTracker.lastSeen_record] at hnone
      split_ifs at hnone with hk
      rcases List.mem_cons.mp hb with rfl | hb
      · exact absurd rfl hk
      · exact hφ.untracked b hb hnone t ht

lemma Heeds.env {nodeDiscovered : Instants} (hφ : Heeds nodeDiscovered φ)
    (h : GraceEnv φ φ') : Heeds nodeDiscovered φ' := by
  induction h with
  | refl => exact hφ
  | tail _ hstep ih => exact ih.step hstep

lemma GraceEnv.clock_le (h : GraceEnv φ φ') : φ.clock ≤ φ'.clock := by
  induction h with
  | refl => exact le_rfl
  | tail _ hstep ih =>
    cases hstep with
    | record => exact ih
    | wait t ht => exact ih.trans ht

lemma GraceEnv.looked_eq (h : GraceEnv φ φ') : φ'.looked = φ.looked := by
  induction h with
  | refl => rfl
  | tail _ hstep ih =>
    cases hstep with
    | record => exact ih
    | wait => exact ih

/-- A heartbeat of a node that is not tracked was processed before `now`. -/
def HeardBefore (now : Nat) (φ : GraceView) : Prop :=
  ∀ b ∈ φ.heard, φ.tracker.lastSeen b.1 = none → b.2 ≤ now

lemma HeardBefore.env {now : Nat} (hφ : HeardBefore now φ)
    (h : GraceEnv φ φ') : HeardBefore now φ' := by
  induction h with
  | refl => exact hφ
  | tail _ hstep ih =>
    cases hstep with
    | wait => exact ih
    | record =>
      intro b hb hnone
      rw [HeartbeatTracker.lastSeen_record] at hnone
      split_ifs at hnone with hk
      rcases List.mem_cons.mp hb with rfl | hb
      · exact absurd rfl hk
      · exact ih b hb hnone

end

variable {heartbeatTimeout now : Nat} {φ : GraceView} {nodeDiscovered : Instants}

structure Unlooking (e : WatchdogEffect) : Prop where
  keeps : ∀ raftId, e ≠ .coord (.propose (.nodeDown raftId))
  after : ∀ φ r φ', graceAfter φ e r φ' → GraceEnv φ φ'

lemma unlooking_of_eq {e : WatchdogEffect}
    (hkeeps : ∀ raftId, e ≠ .coord (.propose (.nodeDown raftId)))
    (hafter : ∀ φ r φ', graceAfter φ e r φ' → φ' = φ) : Unlooking e :=
  ⟨hkeeps, fun φ r φ' h => hafter φ r φ' h ▸ .refl⟩

lemma unlooking_now : Unlooking .now :=
  ⟨by simp, fun _ t _ h => h.2 ▸ .single (.wait t h.1)⟩

lemma unlooking_restart {e : Effect} (he : RestartEffect e) : Unlooking (.coord e) := by
  cases he <;> exact unlooking_of_eq (by simp) fun _ _ _ h => h

lemma wp_unlooking {α : Type} {p : WatchdogAction α} (hp : p.Only Unlooking fun _ => False) :
    p.wp ((graceSpec heartbeatTimeout).beside GraceEnv) (Returns fun _ φ' => GraceEnv φ φ') φ := by
  refine wp_of_only (I := fun ψ => GraceEnv φ ψ) hp .refl ?_ (fun _ ψ (h : GraceEnv φ ψ) => h)
    fun _ _ h _ => h
  intro e ψ he hψ
  refine ⟨fun raftId h => absurd h (he.keeps raftId), ?_⟩
  rintro r ψ'' ⟨ψ', hbefore, hafter⟩
  exact (hψ.trans hbefore).trans (he.after ψ' r ψ'' hafter)

structure Looking (nodeDiscovered : Instants) (now : Nat) (φ : GraceView) : Prop where
  heeds : Heeds nodeDiscovered φ
  begun : now ≤ φ.clock

lemma Looking.env {φ' : GraceView} (hφ : Looking nodeDiscovered now φ)
    (h : GraceEnv φ φ') : Looking nodeDiscovered now φ' :=
  ⟨hφ.heeds.env h, hφ.begun.trans h.clock_le⟩

lemma wp_lastSeen (hφ : Looking nodeDiscovered now φ) {raftId : Nat}
    (hdiscovered : raftId ∈ nodeDiscovered) :
    (watch (.lastSeen raftId)).wp ((graceSpec heartbeatTimeout).beside GraceEnv)
      (Returns fun lastSeen φ' => Looking nodeDiscovered now φ' ∧ ∃ times,
        φ'.looked = some (raftId, times) ∧ ∀ t ∈ times, t ≤ φ'.clock ∧
          t ≤ lastSeen.getD ((nodeDiscovered.lookup raftId).getD now)) φ := by
  refine ⟨by simp [Spec.beside, graceSpec], ?_⟩
  rintro r φ'' ⟨φ₁, hbefore, rfl, rfl⟩
  obtain ⟨hheeds, hbegun⟩ := hφ.env hbefore
  refine ⟨⟨⟨hheeds.past, hheeds.tracked, hheeds.untracked⟩, hbegun⟩, _, rfl, fun t ht => ?_⟩
  have hmem : (raftId, t) ∈ φ₁.heard := mem_heardOf.mp ht
  refine ⟨hheeds.past _ hmem, ?_⟩
  cases hseen : φ₁.tracker.lastSeen raftId with
  | some t' => exact hheeds.tracked _ hmem t' hseen
  | none =>
    obtain ⟨d, hd⟩ := Finmap.mem_iff.mp hdiscovered
    rw [Option.getD_none, hd, Option.getD_some]
    exact hheeds.untracked _ hmem hseen d hd

lemma wp_checkHeartbeat_grace (hφ : Looking nodeDiscovered now φ) (wireguard : Bool)
    (restartBackoff : RestartBackoff) {n : Nat × NodeId × NodeStatus} (hn : n.1 ∈ nodeDiscovered) :
    (checkHeartbeat wireguard heartbeatTimeout now nodeDiscovered restartBackoff n).wp
      ((graceSpec heartbeatTimeout).beside GraceEnv)
      (Returns fun _ φ' => Looking nodeDiscovered now φ') φ := by
  unfold checkHeartbeat
  split_ifs with hready
  · refine wp_bind_returns (wp_lastSeen hφ hn) ?_
    rintro lastSeen φ ⟨hφ, times, hlooked, htimes⟩
    dsimp only
    split_ifs with hrecent
    · exact hφ
    -- the node has been silent, as far as the watchdog knows
    · have hold : ∀ t ∈ times, t + heartbeatTimeout ≤ φ.clock := by
        intro t ht
        have hbegun := hφ.begun
        obtain ⟨hpast, hheard⟩ := htimes t ht
        omega
      have hpubkey : (watch (.pubkey n.1)).wp ((graceSpec heartbeatTimeout).beside GraceEnv)
          (Returns fun _ φ' => GraceEnv φ φ') φ :=
        wp_unlooking (.effect (unlooking_of_eq (by simp) fun _ _ _ h => h))
      refine wp_bind_returns hpubkey fun wgPubkey φ' hbeside => ?_
      refine wp_bind_returns (I := fun _ ψ => GraceEnv φ' ψ) ⟨?_, ?_⟩ fun r ψ hψ => ?_
      · intro raftId h
        cases h
        refine ⟨times, hbeside.looked_eq.trans hlooked, fun t ht => ?_⟩
        exact (hold t ht).trans hbeside.clock_le
      · rintro r ψ ⟨ψ₁, hbefore, rfl⟩
        exact hbefore
      · have hψ : Looking nodeDiscovered now ψ := hφ.env (hbeside.trans hψ)
        cases r with
        | error => exact hψ
        | ok =>
          have hpeer := only_removeMeshPeer (fun _ => unlooking_of_eq (by simp) fun _ _ _ h => h)
            wireguard wgPubkey
          have hallocs := only_markNodeAllocsFailed
            (fun _ => unlooking_of_eq (by simp) fun _ _ _ h => h)
            (fun _ _ => unlooking_of_eq (by simp) fun _ _ _ h => h) n.2.1 restartBackoff
          refine wp_bind_returns (wp_unlooking hpeer) fun _ ψ₁ hψ₁ => ?_
          refine wp_mono (wp_unlooking hallocs) ?_
          rintro (_ | _) ψ₂ hψ₂
          · exact hψ₂
          · exact hψ.env (hψ₁.trans hψ₂)
  · exact hφ

lemma Heeds.discover (hφ : Heeds nodeDiscovered φ)
    (hbefore : HeardBefore now φ) (nodes : List (Nat × NodeId × NodeStatus)) (p : Nat → Bool) :
    Heeds ((Mill.discover now nodes nodeDiscovered).retain fun raftId _ => p raftId) φ := by
  refine ⟨hφ.past, hφ.tracked, fun b hb hnone t ht => ?_⟩
  have hlookup := (Finmap.lookup_retain_eq_some.mp ht).1
  have ht' := lookup_discover now nodes nodeDiscovered b.1
  rw [hlookup, Option.getD_some] at ht'
  cases hd : nodeDiscovered.lookup b.1 with
  | none =>
    rw [hd, Option.getD_none] at ht'
    rw [ht']
    exact hbefore b hb hnone
  | some d =>
    rw [hd, Option.getD_some] at ht'
    rw [ht']
    exact hφ.untracked b hb hnone d hd

lemma Heeds.untrack (hφ : Heeds nodeDiscovered φ) {raftId : Nat} (hgone : raftId ∉ nodeDiscovered) :
    Heeds nodeDiscovered { φ with tracker := φ.tracker.remove raftId } := by
  refine ⟨hφ.past, fun b hb t ht => ?_, fun b hb hnone t ht => ?_⟩
  · rw [HeartbeatTracker.lastSeen_remove] at ht
    split_ifs at ht
    exact hφ.tracked b hb t ht
  · rw [HeartbeatTracker.lastSeen_remove] at hnone
    split_ifs at hnone with hk
    · exact absurd (hk ▸ Finmap.mem_of_lookup_eq_some ht) hgone
    · exact hφ.untracked b hb hnone t ht

lemma wp_untrackEach_grace (hφ : Looking nodeDiscovered now φ)
    {gone : List Nat} (hgone : ∀ raftId ∈ gone, raftId ∉ nodeDiscovered) :
    (foldEach (fun _ raftId => watch (.untrack raftId)) gone ()).wp
      ((graceSpec heartbeatTimeout).beside GraceEnv)
      (Returns fun _ φ' => Looking nodeDiscovered now φ') φ := by
  refine wp_mono (wp_foldEach_returns (fun xs _ φ => (∀ raftId ∈ xs, raftId ∉ nodeDiscovered) ∧
    Looking nodeDiscovered now φ) ?_ ⟨hgone, hφ⟩) ?_
  · rintro x xs _ φ ⟨hxs, hφ⟩
    refine ⟨by simp [Spec.beside, graceSpec], ?_⟩
    rintro r φ'' ⟨φ₁, hbefore, rfl⟩
    obtain ⟨hheeds, hbegun⟩ := hφ.env hbefore
    exact ⟨fun y hy => hxs y (List.mem_cons_of_mem x hy),
      hheeds.untrack (hxs x List.mem_cons_self), hbegun⟩
  · rintro (_ | _) φ' h
    · exact h
    · exact h.2

lemma wp_checkHeartbeats_grace (hφ : Heeds nodeDiscovered φ)
    (wireguard : Bool) (restartBackoff : RestartBackoff) :
    (checkHeartbeats wireguard heartbeatTimeout nodeDiscovered restartBackoff).wp
      ((graceSpec heartbeatTimeout).beside GraceEnv) (Returns fun r φ' => Heeds r.1 φ') φ := by
  refine wp_bind_returns (I := fun now φ => Heeds nodeDiscovered φ ∧ HeardBefore now φ ∧
    now ≤ φ.clock) ⟨by simp [Spec.beside, graceSpec], ?_⟩ ?_
  · rintro now φ'' ⟨φ₁, hbefore, hnow, rfl⟩
    have hφ₁ := hφ.env hbefore
    exact ⟨⟨fun b hb => (hφ₁.past b hb).trans hnow, hφ₁.tracked, hφ₁.untracked⟩,
      fun b hb _ => (hφ₁.past b hb).trans hnow, le_rfl⟩
  rintro now φ ⟨hφ, hheard, hbegun⟩
  refine wp_bind_returns (wp_unlooking (.effect (unlooking_of_eq (by simp) fun _ _ _ h => h)))
    fun nodes φ₁ hφ₁ => ?_
  refine wp_bind_returns (wp_unlooking (.effect (unlooking_of_eq (by simp) fun _ _ _ h => h)))
    fun order φ₂ hφ₂ => ?_
  have henv : GraceEnv φ φ₂ := hφ₁.trans hφ₂
  let discovered := (discover now nodes nodeDiscovered).retain fun raftId _ =>
    decide (raftId ∈ nodes.map fun n => n.1)
  have hlook : Looking discovered now φ₂ :=
    ⟨(hφ.env henv).discover (hheard.env henv) nodes _, hbegun.trans henv.clock_le⟩
  refine wp_bind_returns (wp_untrackEach_grace hlook ?_) fun _ φ hφ => ?_
  · intro raftId hgone hmem
    obtain ⟨t, ht⟩ := Finmap.mem_iff.mp hmem
    have hcurrent := of_decide_eq_true (Finmap.lookup_retain_eq_some.mp ht).2
    exact of_decide_eq_true (List.mem_filter.mp hgone).2 hcurrent
  refine wp_bind_returns (wp_foldEach_returns (fun xs _ φ => (∀ n ∈ xs, n.1 ∈ discovered) ∧
    Looking discovered now φ) ?_ ⟨?_, hφ⟩) fun _ φ hφ => hφ.2.heeds
  · rintro n xs acc φ ⟨hxs, hφ⟩
    refine wp_mono (wp_checkHeartbeat_grace hφ wireguard acc (hxs n List.mem_cons_self)) ?_
    rintro (_ | _) φ' h
    · exact h
    · exact ⟨fun m hm => hxs m (List.mem_cons_of_mem n hm), h⟩
  · intro n hn
    have hcurrent : n.1 ∈ nodes.map fun n => n.1 := List.mem_map_of_mem hn
    have hmem : n.1 ∈ discover now nodes nodeDiscovered := mem_discover (Or.inr hcurrent)
    obtain ⟨t, ht⟩ := Finmap.mem_iff.mp hmem
    exact Finmap.mem_of_lookup_eq_some
      (Finmap.lookup_retain_eq_some.mpr ⟨ht, decide_eq_true hcurrent⟩)

lemma wp_watchdogTick_grace (wireguard : Bool) {st : WatchdogState}
    (hφ : Heeds st.nodeDiscovered φ) :
    (watchdogTick wireguard heartbeatTimeout st).wp ((graceSpec heartbeatTimeout).beside GraceEnv)
      (Returns fun st' φ' => Heeds st'.nodeDiscovered φ') φ := by
  refine wp_bind_returns (wp_checkHeartbeats_grace hφ wireguard st.restartBackoff) fun r φ hφ => ?_
  have hreconcile := only_reconcileWireguardPeers
    (fun _ => unlooking_of_eq (by simp) fun _ _ _ h => h)
    (fun _ => unlooking_of_eq (by simp) fun _ _ _ h => h)
    (unlooking_of_eq (by simp) fun _ _ _ h => h) wireguard st.prevStatuses
  refine wp_bind_returns (wp_unlooking hreconcile) fun _ φ₁ hφ₁ => ?_
  refine wp_bind_returns (wp_unlooking (.effect unlooking_now)) fun now φ₂ hφ₂ => ?_
  refine wp_bind_returns (wp_unlooking ((only_checkServiceRestarts now r.2).lift
    fun e he => unlooking_restart he)) fun _ φ₃ hφ₃ => ?_
  exact hφ.env ((hφ₁.trans hφ₂).trans hφ₃)

lemma wp_spawnWatchdog_grace (wireguard : Bool) (ticks : Nat) {st : WatchdogState}
    (hφ : Heeds st.nodeDiscovered φ) :
    (spawnWatchdog wireguard heartbeatTimeout ticks st).wp
      ((graceSpec heartbeatTimeout).beside GraceEnv) (fun _ _ => True) φ := by
  induction ticks generalizing st φ with
  | zero => trivial
  | succ ticks ih =>
    refine wp_bind_returns (I := fun _ φ => Heeds st.nodeDiscovered φ)
      ⟨by simp [Spec.beside, graceSpec], ?_⟩ fun _ φ hφ => ?_
    · rintro t φ'' ⟨φ₁, hbefore, ht, rfl⟩
      exact (hφ.env hbefore).step (.wait t ht)
    exact wp_bind_returns (wp_watchdogTick_grace wireguard hφ) fun st' φ' hφ' => ih hφ'

end Mill
