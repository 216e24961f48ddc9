import Mill.Node.WatchdogGrace

/-! NodeDown and the heartbeats that a leader has processed. -/

namespace Mill

open Function List Program Transition

/-- One daemon: how much of the log it has applied, its tracker, its peers, and the
heartbeats that its report processor has processed so far. -/
structure WatchdogInstance where
  applied : Nat
  tracker : HeartbeatTracker
  peers : Finmap fun _ : String => PeerInfo
  heard : List (Nat × Nat)

instance : Inhabited WatchdogInstance := ⟨⟨0, ∅, ∅, []⟩⟩

/-- A NodeDown that was committed: the node, when it was proposed, and the times of the
heartbeats of the node that leaders had processed by then. -/
structure CommittedDown where
  raftId : Nat
  proposedAt : Nat
  beats : List Nat

structure FailoverWorld where
  log : List Command
  started : Nat
  daemon : Nat → WatchdogInstance
  leader : Option (Nat × Nat)
  clock : Nat
  beats : List (Nat × Nat × Nat)
  downs : List CommittedDown

namespace FailoverWorld

instance : Inhabited FailoverWorld := ⟨⟨[], 0, default, none, 0, [], []⟩⟩

variable (w : FailoverWorld)

def seenBy (i : Nat) : WatchdogWorld :=
  { fsm := applyAll default (w.log.take (w.daemon i).applied), sent := [], cloud := [],
    clock := w.clock, tracker := (w.daemon i).tracker, peers := (w.daemon i).peers }

def beatsOf (raftId : Nat) : List Nat :=
  (w.beats.filter fun b => b.1 = raftId).map fun b => b.2.1

def downed : Command → List CommittedDown
  | .nodeDown raftId => [⟨raftId, w.clock, w.beatsOf raftId⟩]
  | _ => []

def commit (i : Nat) (c : Command) : FailoverWorld :=
  { w with
    log := w.log ++ [c]
    daemon := Function.update w.daemon i { w.daemon i with applied := w.log.length + 1 }
    downs := w.downed c ++ w.downs }

/-- What an effect of the watchdog of daemon `i` other than a proposal leaves behind. -/
def withSeen (i : Nat) (w' : WatchdogWorld) : FailoverWorld :=
  { w with
    clock := w'.clock
    daemon := Function.update w.daemon i
      { w.daemon i with tracker := w'.tracker, peers := w'.peers } }

def answer (i : Nat) :
    (e : WatchdogEffect) → WatchdogChoice → Option (e.Answer × FailoverWorld)
  | .coord (.propose c), .coord .proceed =>
    if w.leader.map Prod.fst = some i then
      some (.ok (applyCommand (applyAll default w.log) c).2, w.commit i c)
    else none
  | .coord (.propose _), .coord (.raftError message) => some (.error message, w)
  | .coord (.propose _), _ => none
  | e, c => ((w.seenBy i).answer e c).map fun a => (a.1, w.withSeen i a.2)

lemma daemon_commit (i j : Nat) (c : Command) : (w.commit i c).daemon j =
      if j = i then { w.daemon i with applied := w.log.length + 1 } else w.daemon j :=
  update_apply ..

lemma daemon_withSeen (i j : Nat) (w' : WatchdogWorld) : (w.withSeen i w').daemon j =
      if j = i then { w.daemon i with tracker := w'.tracker, peers := w'.peers } else w.daemon j :=
  update_apply ..

def boot : FailoverWorld :=
  { w with
    started := w.started + 1
    daemon := Function.update w.daemon w.started default }

def hear (i raftId : Nat) : FailoverWorld :=
  { w with
    daemon := Function.update w.daemon i { w.daemon i with
      tracker := (w.daemon i).tracker.record raftId w.clock
      heard := (raftId, w.clock) :: (w.daemon i).heard }
    beats := if w.leader.map Prod.fst = some i then (raftId, w.clock, i) :: w.beats else w.beats }

lemma daemon_boot : w.boot.daemon w.started = default :=
  update_self ..

lemma daemon_hear (i raftId k : Nat) :
    (w.hear i raftId).daemon k = if k = i then { w.daemon i with
      tracker := (w.daemon i).tracker.record raftId w.clock
      heard := (raftId, w.clock) :: (w.daemon i).heard } else w.daemon k :=
  update_apply ..

variable {w}

lemma daemon_boot_of_lt {k : Nat} (hk : k < w.started) :
    w.boot.daemon k = w.daemon k := update_of_ne (Nat.ne_of_lt hk) ..

lemma mem_beats_hear {i raftId : Nat} {b : Nat × Nat × Nat}
    (hb : b ∈ (w.hear i raftId).beats) : b ∈ w.beats ∨
      b = (raftId, w.clock, i) ∧ ∃ since, w.leader = some (i, since) := by
  cases hl : w.leader <;> grind [hear]

end FailoverWorld

inductive FailoverEvent
  | start (wireguard : Bool) (ticks : Nat)
  | elect (i : Nat)
  | stepDown
  | heartbeat (i raftId : Nat)
  | commit (c : Command)
  | apply (i : Nat)
  | wait (t : Nat)

abbrev FailoverTask :=
  Program (Nat × WatchdogEffect) (fun e => e.2.Answer) DeployError Unit

def watchdogOf (i : Nat) (p : WatchdogAction Unit) : FailoverTask :=
  p.lift (fun e => (i, e)) fun _ r => r

namespace FailoverWorld

def outside (heartbeatTimeout : Nat) (w : FailoverWorld) : FailoverEvent →
    Option (FailoverWorld × List (Option (Nat × List Nat) × FailoverTask))
  | .start wireguard ticks =>
    some (w.boot,
      [(none, watchdogOf w.started (spawnWatchdog wireguard heartbeatTimeout ticks default))])
  | .elect i => if i < w.started then some ({ w with leader := some (i, w.clock) }, []) else none
  | .stepDown => some ({ w with leader := none }, [])
  | .heartbeat i raftId => some (w.hear i raftId, [])
  | .commit c =>
    match c with
    -- only the watchdogs propose it
    | .nodeDown _ => none
    | c => some ({ w with log := w.log ++ [c] }, [])
  | .apply i =>
    let d := w.daemon i
    let applied := min w.log.length (d.applied + 1)
    some ({ w with daemon := Function.update w.daemon i { d with applied } }, [])
  | .wait t => if w.clock ≤ t then some ({ w with clock := t }, []) else none

end FailoverWorld

def lookedAfter (heard : List (Nat × Nat)) (looked : Option (Nat × List Nat)) :
    WatchdogEffect → Option (Nat × List Nat)
  | .lastSeen raftId => some (raftId, heardOf heard raftId)
  | _ => looked

/-- The daemons and their watchdogs. The tag of a watchdog says which node it last looked at
and what had been heard of the node then. -/
def failover (heartbeatTimeout : Nat) :
    Machine (Nat × WatchdogEffect) (fun e => e.2.Answer) DeployError Unit FailoverWorld
      WatchdogChoice FailoverEvent (Option (Nat × List Nat)) where
  answer w e := w.answer e.1 e.2
  starts _ := []
  outside := FailoverWorld.outside heartbeatTimeout
  track w looked e _ := lookedAfter (w.daemon e.1).heard looked e.2

abbrev Failover :=
  Machine.State (Nat × WatchdogEffect) (fun e => e.2.Answer) DeployError Unit FailoverWorld
    (Option (Nat × List Nat))

def Failover.init : Failover := ⟨default, []⟩

def Failover.Graceful (heartbeatTimeout : Nat) (s : Failover) : Prop :=
  ∀ d ∈ s.world.downs, ∀ t ∈ d.beats, t + heartbeatTimeout ≤ d.proposedAt

def Failover.proposesDown (s : Failover) (k : Nat) : Option (Option (Nat × List Nat) × Nat × Nat) :=
  match s.next k with
  | some (looked, i, .coord (.propose (.nodeDown raftId))) => some (looked, i, raftId)
  | _ => none

def Failover.commitsDown (s : Failover) : Machine.Event WatchdogChoice FailoverEvent →
    Option (Option (Nat × List Nat) × Nat × Nat)
  | .act k (.coord .proceed) => s.proposesDown k
  | _ => none

/-- NodeDown is committed only by a daemon that has been the leader for at least the timeout
and that has heard nothing of the node since it looked. -/
def LedLong (heartbeatTimeout : Nat) (s : Failover)
    (e : Machine.Event WatchdogChoice FailoverEvent) : Prop :=
  ∀ d ∈ s.commitsDown e, ∀ l ∈ s.world.leader, l.2 + heartbeatTimeout ≤ s.world.clock ∧
    d.1 = some (d.2.2, heardOf (s.world.daemon d.2.1).heard d.2.2)

instance (heartbeatTimeout : Nat) (s : Failover)
    (e : Machine.Event WatchdogChoice FailoverEvent) : Decidable (LedLong heartbeatTimeout s e) :=
  inferInstanceAs (Decidable (∀ d ∈ s.commitsDown e, ∀ l ∈ _, _))

section

variable {heartbeatTimeout : Nat} {w : FailoverWorld} {e : WatchdogEffect} {i k : Nat}
  {c : WatchdogChoice}

def FailoverWorld.viewOf (w : FailoverWorld) (i : Nat) (looked : Option (Nat × List Nat)) :
    GraceView := ⟨(w.daemon i).tracker, (w.daemon i).heard, w.clock, looked⟩

lemma graceAfter_of_answered {w w' : WatchdogWorld} {r : e.Answer}
    (h : w.Answered e r w') (heard : List (Nat × Nat)) (looked : Option (Nat × List Nat)) :
    graceAfter ⟨w.tracker, heard, w.clock, looked⟩ e r
      ⟨w'.tracker, heard, w'.clock, lookedAfter heard looked e⟩ := by
  cases h with
  | coord e r w' h =>
    cases h with
    | tick now hnow => exact ⟨hnow, rfl⟩
    | _ => rfl
  | now t ht => exact ⟨ht, rfl⟩
  | lastSeen => exact ⟨rfl, rfl⟩
  | _ => rfl

namespace FailoverWorld

inductive Answered (w : FailoverWorld) (i : Nat) :
    (e : WatchdogEffect) → e.Answer → FailoverWorld → Prop
  | committed (c : Command) (response : Response) (hleader : w.leader.map Prod.fst = some i) :
      Answered w i (.coord (.propose c)) (.ok response) (w.commit i c)
  | refused (c : Command) (message : String) : Answered w i (.coord (.propose c)) (.error message) w
  | seen (e : WatchdogEffect) (r : e.Answer) (w' : WatchdogWorld)
      (hpropose : ∀ c, e ≠ .coord (.propose c)) (h : (w.seenBy i).Answered e r w') :
      Answered w i e r (w.withSeen i w')

lemma answered_of_answer {w w' : FailoverWorld} {i : Nat} {e : WatchdogEffect}
    {c : WatchdogChoice} {r : e.Answer} (h : w.answer i e c = some (r, w')) :
    Answered w i e r w' := by
  unfold answer at h
  split at h
  · split_ifs at h with hleader
    cases h
    exact .committed _ _ hleader
  · cases h
    exact .refused _ _
  · cases h
  · obtain ⟨a, ha, heq⟩ := Option.map_eq_some_iff.mp h
    cases heq
    exact .seen _ _ _ (by assumption) (WatchdogWorld.answered_of_answer ha)

variable {w w' : FailoverWorld} {i : Nat} {e : WatchdogEffect} {r : e.Answer}

lemma Answered.clock_le (h : Answered w i e r w') : w.clock ≤ w'.clock := by
  cases h with
  | committed => exact le_rfl
  | refused => exact le_rfl
  | seen e r w' hpropose h => exact h.clock_le

lemma Answered.daemon_of_ne (h : Answered w i e r w') {j : Nat} (hj : j ≠ i) :
    w'.daemon j = w.daemon j := by
  cases h <;> grind [daemon_commit, daemon_withSeen]

lemma Answered.heard_eq (h : Answered w i e r w') (j : Nat) :
    (w'.daemon j).heard = (w.daemon j).heard := by
  cases h <;> grind [daemon_commit, daemon_withSeen]

lemma Answered.started_eq (h : Answered w i e r w') : w'.started = w.started := by
  cases h <;> rfl

lemma Answered.leader_eq (h : Answered w i e r w') : w'.leader = w.leader := by
  cases h <;> rfl

lemma Answered.beats_eq (h : Answered w i e r w') : w'.beats = w.beats := by
  cases h <;> rfl

lemma Answered.after (h : Answered w i e r w') (looked : Option (Nat × List Nat)) :
    graceAfter (w.viewOf i looked) e r
      (w'.viewOf i (lookedAfter (w'.daemon i).heard looked e)) := by
  cases h with
  | refused => rfl
  | committed =>
    change _ = _
    rw [viewOf, daemon_commit, if_pos rfl]
    rfl
  | seen e r w' hpropose h =>
    unfold viewOf
    rw [daemon_withSeen, if_pos rfl]
    exact graceAfter_of_answered h (w.daemon i).heard looked

end FailoverWorld

lemma wp_graceEnv {p : WatchdogAction Unit} {φ φ' : GraceView}
    (hp : p.wp ((graceSpec heartbeatTimeout).beside GraceEnv) (fun _ _ => True) φ)
    (h : GraceEnv φ φ') :
    p.wp ((graceSpec heartbeatTimeout).beside GraceEnv) (fun _ _ => True) φ' := by
  refine wp_rely hp h .trans ?_ fun _ _ => trivial
  intro a b e hab hpre raftId he
  obtain ⟨times, hlooked, hold⟩ := hpre raftId he
  exact ⟨times, hab.looked_eq.trans hlooked, fun t ht => (hold t ht).trans hab.clock_le⟩

lemma viewOf_env {w' : FailoverWorld} (hdaemon : w'.daemon i = w.daemon i)
    (hclock : w.clock ≤ w'.clock) (looked : Option (Nat × List Nat)) :
    GraceEnv (w.viewOf i looked) (w'.viewOf i looked) := by
  have hview : w'.viewOf i looked = { w.viewOf i looked with clock := w'.clock } := by
    rw [FailoverWorld.viewOf, hdaemon]
    rfl
  rw [hview]
  exact .single (.wait w'.clock hclock)

/-- Every watchdog keeps to its specification, and a heartbeat that a leader has processed is
one that the present leader has processed itself or one from before its time. -/
structure Attentive (heartbeatTimeout : Nat) (s : Failover) : Prop where
  count : s.tasks.length = s.world.started
  tasks : ∀ k looked q, s.tasks[k]? = some (looked, q) → ∃ p, q = watchdogOf k p ∧
    p.wp ((graceSpec heartbeatTimeout).beside GraceEnv) (fun _ _ => True) (s.world.viewOf k looked)
  led : ∀ i since, s.world.leader = some (i, since) → i < s.world.started ∧ since ≤ s.world.clock
  beats : ∀ b ∈ s.world.beats, b.2.1 ≤ s.world.clock ∧ b.2.2 < s.world.started ∧
    (b.1, b.2.1) ∈ (s.world.daemon b.2.2).heard
  tenure : ∀ b ∈ s.world.beats, ∀ i since, s.world.leader = some (i, since) →
    b.2.2 = i ∨ b.2.1 ≤ since
  graceful : s.Graceful heartbeatTimeout

variable {s s' : Failover}

lemma attentive_init : Attentive heartbeatTimeout Failover.init where
  count := rfl
  tasks _ _ _ h := nomatch h
  led _ _ h := nomatch h
  beats _ h := nomatch h
  tenure _ h := nomatch h
  graceful _ h := nomatch h

lemma proceed_of_committed {w' : FailoverWorld} {cmd : Command} {response : Response}
    (h : w.answer i (.coord (.propose cmd)) c = some (.ok response, w')) : c = .coord .proceed := by
  cases c with
  | coord c => cases c <;> first | rfl | cases h
  | _ => cases h

section

variable (hs : Attentive heartbeatTimeout s)

include hs

lemma Attentive.tasks_env
    (h : ∀ k looked, k < s.world.started → GraceEnv (s.world.viewOf k looked) (w.viewOf k looked))
    (k : Nat) (looked : Option (Nat × List Nat)) (q : FailoverTask)
    (hk : s.tasks[k]? = some (looked, q)) : ∃ p, q = watchdogOf k p ∧
      p.wp ((graceSpec heartbeatTimeout).beside GraceEnv) (fun _ _ => True)
        (w.viewOf k looked) := by
  obtain ⟨p, rfl, hp⟩ := hs.tasks k looked q hk
  have hlt : k < s.world.started := by
    obtain ⟨hlt, _⟩ := List.getElem?_eq_some_iff.mp hk
    exact hs.count ▸ hlt
  exact ⟨p, rfl, wp_graceEnv hp (h k looked hlt)⟩

lemma Attentive.beats_old {since raftId : Nat}
    (hleader : s.world.leader = some (k, since)) (hlong : since + heartbeatTimeout ≤ s.world.clock)
    (hold : ∀ t ∈ heardOf (s.world.daemon k).heard raftId, t + heartbeatTimeout ≤ s.world.clock) :
    ∀ t ∈ s.world.beatsOf raftId, t + heartbeatTimeout ≤ s.world.clock := by
  intro t ht
  obtain ⟨b, hb, rfl⟩ := mem_map.mp ht
  obtain ⟨hmem, hid⟩ := mem_filter.mp hb
  have hid : b.1 = raftId := of_decide_eq_true hid
  rcases hs.tenure b hmem k since hleader with howner | hbefore
  · apply hold
    rw [mem_heardOf, ← hid, ← howner]
    exact (hs.beats b hmem).2.2
  · omega

lemma graceful_act (hlong : LedLong heartbeatTimeout s (.act k c))
    {looked : Option (Nat × List Nat)} {next : e.Answer → WatchdogAction Unit} {r : e.Answer}
    (htask : s.tasks[k]? = some (looked, watchdogOf k (.perform e next)))
    (hp : (graceSpec heartbeatTimeout).pre (s.world.viewOf k looked) e)
    (hans : s.world.answer k e c = some (r, w)) :
    ∀ d ∈ w.downs, ∀ t ∈ d.beats, t + heartbeatTimeout ≤ d.proposedAt := by
  cases FailoverWorld.answered_of_answer hans with
  | refused => exact hs.graceful
  | seen => exact hs.graceful
  | committed cmd response hleader =>
    intro d hd
    rcases mem_append.mp hd with hnew | hold
    · cases cmd with
      | nodeDown raftId =>
        cases mem_singleton.mp hnew
        obtain ⟨⟨i, since⟩, hl, rfl⟩ := Option.map_eq_some_iff.mp hleader
        have hnext : s.next i = some (looked, (i, .coord (.propose (.nodeDown raftId)))) :=
          Machine.next_eq_some.mpr ⟨_, htask⟩
        have hdown : s.proposesDown i = some (looked, i, raftId) := by
          rw [Failover.proposesDown, hnext]
        rw [proceed_of_committed hans] at hlong
        obtain ⟨hsince, hsame⟩ := hlong _ hdown _ hl
        obtain ⟨times, hlooked, hold⟩ := hp raftId rfl
        have htimes : looked = some (raftId, times) := hlooked
        rw [show looked = _ from hsame, Option.some.injEq, Prod.mk.injEq] at htimes
        refine hs.beats_old hl hsince fun t ht => hold t ?_
        rw [← htimes.2]
        exact ht
      | _ => cases hnew
    · exact hs.graceful d hold

lemma attentive_act (hlong : LedLong heartbeatTimeout s (.act k c))
    (hstep : (failover heartbeatTimeout).step s (.act k c) = some s') :
    Attentive heartbeatTimeout s' := by
  obtain ⟨looked, e, next, r, w, htask, hans, rfl⟩ := Machine.step_act_eq_some.mp hstep
  obtain ⟨p, hq, hp⟩ := hs.tasks k looked _ htask
  cases p with
  | done => cases hq
  | fail => cases hq
  | perform e' next' =>
    cases hq
    have hanswered : FailoverWorld.Answered s.world k e' r w :=
      FailoverWorld.answered_of_answer hans
    have hmono := hanswered.clock_le
    have hstarted := hanswered.started_eq
    have hleader := hanswered.leader_eq
    have hheard := hanswered.heard_eq
    have hgraceful := graceful_act hs hlong htask hp.1 hans
    obtain ⟨hcount, htasks, hled, hbeats, htenure, -⟩ := hs
    rw [← hanswered.beats_eq] at hbeats htenure
    change Attentive heartbeatTimeout ⟨w, s.tasks.set k (_, watchdogOf k (next' r)) ++ []⟩
    rw [append_nil]
    refine ⟨by grind, ?_, by grind, by grind, by grind,
      hgraceful⟩
    intro j looked' q hj
    rcases List.of_getElem?_set hj with ⟨rfl, hnew⟩ | ⟨hjk, hold⟩
    · cases hnew
      exact ⟨next' r, rfl, hp.2 r _ ⟨_, .refl, hanswered.after looked⟩⟩
    · obtain ⟨q', rfl, hq'⟩ := htasks j looked' q hold
      exact ⟨q', rfl, wp_graceEnv hq' (viewOf_env (hanswered.daemon_of_ne hjk) hmono looked')⟩

lemma Attentive.frame
    (hdaemon : ∀ i, (w.daemon i).tracker = (s.world.daemon i).tracker ∧
      (w.daemon i).heard = (s.world.daemon i).heard)
    (hstarted : w.started = s.world.started) (hbeats : w.beats = s.world.beats)
    (hdowns : w.downs = s.world.downs) (hclock : s.world.clock ≤ w.clock)
    (hleader : ∀ i since, w.leader = some (i, since) → s.world.leader = some (i, since) ∨
      i < s.world.started ∧ since = s.world.clock) : Attentive heartbeatTimeout ⟨w, s.tasks⟩ := by
  have htasks : ∀ k looked q, s.tasks[k]? = some (looked, q) → _ :=
    hs.tasks_env (w := w) fun k looked _ => by
      have hview : w.viewOf k looked = { s.world.viewOf k looked with clock := w.clock } := by
        rw [FailoverWorld.viewOf, (hdaemon k).1, (hdaemon k).2]
        rfl
      rw [hview]
      exact .single (.wait w.clock hclock)
  obtain ⟨hcount, -, hled, hbeats', htenure, hgraceful⟩ := hs
  rw [← hbeats] at hbeats' htenure
  exact ⟨hcount.trans hstarted.symm, htasks, by grind, by grind,
    by grind, fun d hd => hgraceful d (hdowns ▸ hd)⟩

lemma attentive_start (wireguard : Bool) (ticks : Nat) :
    Attentive heartbeatTimeout ⟨s.world.boot, s.tasks ++ [(none, watchdogOf s.world.started
      (spawnWatchdog wireguard heartbeatTimeout ticks default))]⟩ where
  count := by
    rw [length_append, hs.count]
    rfl
  tasks := by
    intro k looked q hk
    rcases List.of_getElem?_concat hk with hold | ⟨hnew, heq⟩
    · refine hs.tasks_env (fun j looked' hj => ?_) k looked q hold
      exact viewOf_env (FailoverWorld.daemon_boot_of_lt hj) le_rfl looked'
    · cases heq
      rw [hs.count] at hnew
      subst hnew
      -- the new daemon has heard nothing yet
      have hheard : (s.world.boot.viewOf s.world.started none).heard = [] := by
        rw [FailoverWorld.viewOf, FailoverWorld.daemon_boot]
        rfl
      refine ⟨_, rfl, wp_spawnWatchdog_grace wireguard ticks ⟨?_, ?_, ?_⟩⟩
      · simp [hheard]
      · simp [hheard]
      · simp [hheard]
  led := by
    intro i since hl
    obtain ⟨hlt, hsince⟩ := hs.led i since hl
    exact ⟨Nat.lt_succ_of_lt hlt, hsince⟩
  beats := by
    intro b hb
    obtain ⟨hpast, hlt, hheard⟩ := hs.beats b hb
    exact ⟨hpast, Nat.lt_succ_of_lt hlt, FailoverWorld.daemon_boot_of_lt hlt ▸ hheard⟩
  tenure := hs.tenure
  graceful := hs.graceful

lemma attentive_heartbeat (i raftId : Nat) :
    Attentive heartbeatTimeout ⟨s.world.hear i raftId, s.tasks⟩ := by
  have htasks : ∀ k looked q, s.tasks[k]? = some (looked, q) → _ :=
    hs.tasks_env (w := s.world.hear i raftId) fun k looked _ => by
      by_cases hk : k = i
      · subst hk
        unfold FailoverWorld.viewOf
        rw [FailoverWorld.daemon_hear, if_pos rfl]
        exact .single (.record raftId)
      · have hdaemon : (s.world.hear i raftId).daemon k = s.world.daemon k := by
          rw [FailoverWorld.daemon_hear, if_neg hk]
        exact viewOf_env hdaemon le_rfl looked
  have hsame : (s.world.hear i raftId).clock = s.world.clock ∧
      (s.world.hear i raftId).started = s.world.started ∧
        (s.world.hear i raftId).leader = s.world.leader := ⟨rfl, rfl, rfl⟩
  have hnew := fun b => @FailoverWorld.mem_beats_hear s.world i raftId b
  obtain ⟨hcount, -, hled, hbeats, htenure, hgraceful⟩ := hs
  refine ⟨hcount, htasks, hled, ?_, ?_, hgraceful⟩ <;>
    grind [FailoverWorld.daemon_hear]

lemma attentive_outside {v : FailoverEvent}
    (hstep : (failover heartbeatTimeout).step s (.outside v) = some s') :
    Attentive heartbeatTimeout s' := by
  obtain ⟨w, new, hout, rfl⟩ := Machine.step_outside_eq_some.mp hstep
  cases v with
  | start wireguard ticks =>
    cases hout
    exact attentive_start hs wireguard ticks
  | elect =>
    simp only [failover, FailoverWorld.outside, Option.ite_none_right_eq_some, Option.some.injEq,
      Prod.mk.injEq] at hout
    obtain ⟨hlt, rfl, rfl⟩ := hout
    rw [append_nil]
    refine hs.frame (fun _ => ⟨rfl, rfl⟩) rfl rfl rfl le_rfl fun j since hl => ?_
    cases hl
    exact .inr ⟨hlt, rfl⟩
  | stepDown =>
    cases hout
    rw [append_nil]
    exact hs.frame (fun _ => ⟨rfl, rfl⟩) rfl rfl rfl le_rfl fun j since hl => nomatch hl
  | heartbeat i raftId =>
    cases hout
    rw [append_nil]
    exact attentive_heartbeat hs i raftId
  | commit c =>
    cases c with
    | nodeDown => cases hout
    | _ =>
      cases hout
      rw [append_nil]
      exact hs.frame (fun _ => ⟨rfl, rfl⟩) rfl rfl rfl le_rfl fun j since hl => .inl hl
  | apply i =>
    cases hout
    rw [append_nil]
    refine hs.frame (fun j => ?_) rfl rfl rfl le_rfl fun j since hl => .inl hl
    dsimp only
    by_cases hj : j = i
    · subst hj
      rw [update_self]
      exact ⟨rfl, rfl⟩
    · rw [update_of_ne hj]
      exact ⟨rfl, rfl⟩
  | wait =>
    simp only [failover, FailoverWorld.outside, Option.ite_none_right_eq_some, Option.some.injEq,
      Prod.mk.injEq] at hout
    obtain ⟨hle, rfl, rfl⟩ := hout
    rw [append_nil]
    exact hs.frame (fun _ => ⟨rfl, rfl⟩) rfl rfl rfl hle fun j since hl => .inl hl

end

/-- In every run in which NodeDown is committed only by a daemon that has been the leader for
at least the timeout and has heard nothing of the node since it looked, no leader had heard of
the node within the timeout. -/
theorem failover_grace {es : List (Machine.Event WatchdogChoice FailoverEvent)}
    (hlong : Guarded (failover heartbeatTimeout).step (LedLong heartbeatTimeout) Failover.init es)
    (hrun : run (failover heartbeatTimeout).step Failover.init es = some s) :
    s.Graceful heartbeatTimeout := by
  have hinv := run_invariant (I := Attentive heartbeatTimeout) ?_ attentive_init hlong hrun
  · exact hinv.graceful
  · rintro s (⟨k, c⟩ | v) s' hs hP hstep
    · exact attentive_act hs hP hstep
    · exact attentive_outside hs hstep

end

def demoMember : FsmNode :=
  ⟨1, ⟨"n"⟩, ⟨.v4 0x0A630001, 4400⟩, ⟨4, 4, 8192, 8192⟩, .ready, none, none, none, none⟩

def demoLed (i : Nat) : List (Machine.Event WatchdogChoice FailoverEvent) :=
  [.outside (.start false 2), .outside (.start false 2),
    .outside (.commit (.nodeRegister 1 ⟨"n"⟩ ⟨.v4 0x0A630001, 4400⟩ ⟨4, 4, 8192, 8192⟩
      none none none none)),
    .outside (.apply i), .outside (.elect 0)]

def demoDiscovers (i : Nat) : List (Machine.Event WatchdogChoice FailoverEvent) :=
  [.coord (.time 0), .time 0, .nodes [demoMember], .discovered [⟨1, 0⟩], .proceed,
    .nodes [demoMember], .time 0, .coord (.order [demoMember] [] []),
    .coord (.services [])].map (.act i)

def demoDowns (i now : Nat) : List (Machine.Event WatchdogChoice FailoverEvent) :=
  [.coord (.time now), .time now, .nodes [demoMember], .discovered [⟨1, 0⟩], .proceed, .proceed,
    .coord .proceed].map (.act i)

def demoCommitted (s : Failover) : List (Nat × Nat × List Nat) :=
  s.world.downs.map fun d => (d.raftId, d.proposedAt, d.beats)

theorem failover_grace_ledLong : ∃ s : Failover, run (failover 10).step Failover.init
        (demoLed 0 ++ demoDiscovers 0 ++ [.outside (.heartbeat 0 1)] ++ demoDowns 0 30) = some s ∧
      demoCommitted s = [(1, 30, [0])] ∧ s.Graceful 10 := by
  exact exists_end_and (by decide +kernel) fun s hs _ =>
    failover_grace (by decide +kernel) hs

/-- A daemon that has just been elected marks a node down whose heartbeat the leader before it
processed a moment ago. -/
theorem failover_marks_heard_node_down : ∃ s : Failover, run (failover 10).step Failover.init
        (demoLed 1 ++ demoDiscovers 1 ++ [.outside (.wait 20), .outside (.heartbeat 0 1),
          .outside (.wait 21), .outside (.elect 1)] ++ demoDowns 1 21) = some s ∧
      demoCommitted s = [(1, 21, [20])] ∧ ¬ s.Graceful 10 := by
  refine exists_end_and (by decide +kernel) fun s _ hdown hgraceful => ?_
  have hmem : (1, 21, [20]) ∈ demoCommitted s := by simp [hdown]
  obtain ⟨d, hd, heq⟩ := mem_map.mp hmem
  have hold := hgraceful d hd 20
  simp only [Prod.mk.injEq] at heq
  rw [heq.2.1, heq.2.2] at hold
  exact absurd (hold (by simp)) (by decide)

end Mill
