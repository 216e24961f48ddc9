import Mathlib.Algebra.BigOperators.Group.Finset.Basic
import Mathlib.Tactic.Ring
import Mill.Node.Logs

/-! Several clients that follow the logs of one allocation. -/

namespace Mill

open Finset List Option Transition

namespace LogClient

def started (c : LogClient) : Bool :=
  c.pc = .streaming || c.pc = .leaving || c.pc = .closing || c.pc = .done

lemma started_iff {c : LogClient} :
    c.started = true ↔ c.pc ≠ .absent ∧ c.pc ≠ .subscribed ∧ c.pc ≠ .tailed := by
  cases hpc : c.pc <;> simp [started, hpc]

lemma streaming_of_following {c : LogClient} (h : c.following = true) : c.pc = .streaming :=
  of_decide_eq_true (Bool.and_eq_true_iff.mp h).2

end LogClient

namespace LogSystem

variable {s s' : LogSystem} {e : LogEvent} {c : Nat}

def Subscribed (s : LogSystem) (c : Nat) : Prop :=
  (s.clients c).pc ≠ .absent → (s.clients c).pc ≠ .done → c ∈ s.subscribers

def Asks (s : LogSystem) (c : Nat) : Prop :=
  .follow c ∈ s.commands ∨ s.loop = .follow c ∨ (s.clients c).since.isSome = true

structure Standing (s : LogSystem) (c : Nat) : Prop where
  subscribed : s.Subscribed c
  asks : s.Asks c → (s.clients c).started = true ∧ (s.clients c).follow = true

lemma Standing.mem (h : s.Standing c) {pc : ClientPc} (hpc : (s.clients c).pc = pc)
    (habsent : pc ≠ .absent) (hdone : pc ≠ .done) : c ∈ s.subscribers :=
  h.subscribed (hpc ▸ habsent) (hpc ▸ hdone)

@[grind =] lemma mem_openSubscribers :
    c ∈ s.openSubscribers ↔ c ∈ s.subscribers ∧ (s.clients c).pc ≠ .done := by
  simp [openSubscribers, LogClient.closed]

lemma Standing.not_asks (h : s.Standing c) (hpc : (s.clients c).started = false) : ¬ s.Asks c := by
  intro ha
  rw [(h.asks ha).1] at hpc
  cases hpc

lemma Standing.step (h : s.Standing c) (hs : s.Moves e s') : s'.Standing c := by
  have htaken := fun d rest => clients_taken s d rest c
  obtain ⟨hsubscribed, hasks⟩ := h
  cases hs <;> constructor <;>
    grind [Subscribed, Asks, LogClient.started_iff, LogClient.absent]

lemma standing_init (c : Nat) : init.Standing c where
  subscribed habsent := absurd rfl habsent
  asks ha := by
    rcases ha with hcmd | hl | hsince
    · cases hcmd
    · cases hl
    · cases hsince

def OnWay (s : LogSystem) (line : Nat) : Prop :=
  (∃ r ∈ s.reports, line ∈ r.lines) ∨ (∃ j < s.spawned, (s.followers j).sending = some line) ∨
    ∃ j ∈ s.current, line ∈ (s.followers j).queue

instance (s : LogSystem) (line : Nat) : Decidable (s.OnWay line) :=
  inferInstanceAs (Decidable (_ ∨ _ ∨ _))

def Handover (s : LogSystem) : Prop :=
  match s.commands with
  | .unfollow _ :: _ => False
  | .follow _ :: _ => ∀ j ∈ s.current, (s.followers j).queue = []
  | _ => True

instance (s : LogSystem) : Decidable s.Handover :=
  match h : s.commands with
  | .unfollow _ :: _ => .isFalse (by simp [Handover, h])
  | .follow _ :: _ =>
    decidable_of_iff (∀ j ∈ s.current, (s.followers j).queue = []) (by simp [Handover, h])
  | .tail _ _ :: _ => .isTrue (by simp [Handover, h])
  | [] => .isTrue (by simp [Handover, h])

/-- The condition on the next step for a client that follows. No line is written between the two
parts of a LogFollow, and its channel has room for a report. -/
def Spares (c : Nat) (s : LogSystem) : LogEvent → Prop
  | .write => (s.clients c).following = true → s.loop.isFollow = false
  | .command => (s.clients c).following = true → s.Handover
  | .process => (s.clients c).following = true → (s.clients c).channel.length < channelSize
  | _ => True

instance (c : Nat) (s : LogSystem) : DecidablePred (s.Spares c) := fun e => by
  unfold Spares
  split <;> infer_instance

structure Followed (s : LogSystem) (c : Nat) : Prop where
  registered : s.loop.isFollow = false → s.current.isSome = true
  lines : ∀ since, (s.clients c).since = some since → ∀ line, since.line ≤ line →
    line < s.written → line ∈ (s.clients c).handed ∨ s.OnWay line

lemma OnWay.step {line : Nat} (hw : s.Wired) (hhandover : e = .command → s.Handover)
    (hs : s.Moves e s') (h : s.OnWay line) :
    s'.OnWay line ∨ ∃ r ∈ s.reports.head?, e = .process ∧ line ∈ r.lines := by
  have hlt : ∀ j, (s.followers j).live = true → j < s.spawned := fun _ => hw.lt_spawned
  obtain ⟨hcurrent, hfresh, hsending, hwaiting⟩ := hw
  rcases h with ⟨r, hr, hl⟩ | ⟨j, hj, hl⟩ | ⟨j, hj, hl⟩
  · cases hs <;> grind [OnWay]
  · cases hs with
    | @spawn d _ =>
      have hsame : (s.spawn d).followers j = s.followers j := by grind
      exact .inl (.inr (.inl ⟨j, Nat.lt_succ_of_lt hj, hsame ▸ hl⟩))
    | @forward i l queue cancelled hi =>
      by_cases hji : j = i
      · subst hji
        rw [hi] at hl
        cases hl
        exact .inl (.inl ⟨_, mem_concat_self, List.mem_singleton_self _⟩)
      · refine .inl (.inr (.inl ⟨j, hj, ?_⟩))
        simpa [hji] using hl
    | _ => grind [OnWay]
  · cases hs <;> grind -linarith [OnWay, Handover]

lemma following_of_moves (hstanding : s.Standing c) (hs : s.Moves e s')
    (hf : (s'.clients c).following = true) :
    (s.loop = .follow c ∧ s' = s.spawn c) ∨
      ((s.clients c).following = true ∧ (s'.clients c).since = (s.clients c).since ∧
        (s.clients c).handed ⊆ (s'.clients c).handed) := by
  have htaken := fun d rest => clients_taken s d rest c
  have hnot := hstanding.not_asks
  cases hs <;> grind [LogClient.following, LogClient.handed, LogClient.started_iff, Asks,
    LogClient.absent]

lemma Followed.step (h : (s.clients c).following = true → s.Followed c) (hw : s.Wired)
    (hstanding : s.Standing c) (hspares : s.Spares c e) (hs : s.Moves e s')
    (hf : (s'.clients c).following = true) : s'.Followed c := by
  rcases following_of_moves hstanding hs hf with ⟨hloop, rfl⟩ | ⟨hfollowing, hsince, hhanded⟩
  · -- the client's own LogFollow: no line is written since
    refine ⟨fun _ => rfl, fun since hs line hle hlt => ?_⟩
    have hself : ((s.spawn c).clients c).since = some ⟨s.written, s.spawned⟩ := by grind
    cases hself.symm.trans hs
    exact absurd hlt (Nat.not_lt.mpr hle)
  have hhandover : e = .command → s.Handover := fun he => (he ▸ hspares) hfollowing
  obtain ⟨hregistered, hlines⟩ := h hfollowing
  constructor
  · cases hs <;> grind [LogPc.isFollow, Handover]
  · intro since hsince' line hle hlt
    by_cases hold : line < s.written
    · rcases hlines since (hsince ▸ hsince') line hle hold with hin | hon
      · exact .inl (hhanded hin)
      rcases hon.step hw hhandover hs with hon | ⟨r, hr, rfl, hl⟩
      · exact .inr hon
      · -- it was in the report that is processed
        have hpc := LogClient.streaming_of_following hfollowing
        have hsub : c ∈ s.subscribers := hstanding.mem hpc (by decide) (by decide)
        have hroom : (s.clients c).channel.length < channelSize := hspares hfollowing
        cases hs
        grind [LogClient.handed]
    · -- the new line waits for the registered follower
      cases hs with
      | write _ =>
        obtain ⟨j, hj⟩ := isSome_iff_exists.mp (hregistered (hspares hfollowing))
        have hlive : (s.followers j).live = true := (hw.current j hj).1
        have heq : line = s.written := Nat.eq_of_lt_succ_of_not_lt hlt hold
        refine .inr (.inr (.inr ⟨j, hj, ?_⟩))
        simp [followers_broadcast, hlive, heq]
      | _ => exact absurd hlt hold

structure Kept (c : Nat) (s : LogSystem) : Prop where
  wired : s.Wired
  standing : s.Standing c
  followed : (s.clients c).following = true → s.Followed c

lemma kept_init (c : Nat) : init.Kept c where
  wired := wired_init
  standing := standing_init c
  followed hf := by cases hf

lemma Kept.step (h : s.Kept c) (hspares : s.Spares c e) (hs : s.step e = some s') : s'.Kept c where
  wired := h.wired.step (moves_of_step hs)
  standing := h.standing.step (moves_of_step hs)
  followed := Followed.step h.followed h.wired h.standing hspares (moves_of_step hs)

lemma kept_of_run {es : List LogEvent} (hspared : Guarded step (Spares c) init es)
    (hr : run step init es = some s) : s.Kept c :=
  run_invariant (I := Kept c) (fun _ _ _ h hspares hs => h.step hspares hs) (kept_init c) hspared hr

section

def Carries (c : Nat) : LogEvent → Prop
  | .recv _ | .forward _ | .process => True
  | .take d => d = c
  | _ => False

def unread (s : LogSystem) : List Nat := s.current.elim [] fun j => (s.followers j).queue

def busy (s : LogSystem) : Finset Nat :=
  (Finset.range s.spawned).filter fun j => (s.followers j).sending.isSome = true

lemma mem_busy {j : Nat} : j ∈ s.busy ↔ j < s.spawned ∧ (s.followers j).sending.isSome = true := by
  rw [busy, Finset.mem_filter, Finset.mem_range]

lemma busy_setClient (d : Nat) (client : LogClient) : (s.setClient d client).busy = s.busy := rfl

lemma unread_setClient (d : Nat) (client : LogClient) :
    (s.setClient d client).unread = s.unread := rfl

def pending (c : Nat) (s : LogSystem) : Nat :=
  (s.clients c).channel.length + 2 * s.reports.length + 3 * s.busy.card + 4 * s.unread.length

/-- The run `s` has come to, for a client that follows, and what later steps do not change. -/
structure Ahead (c : Nat) (since : Since) (written : Nat) (s : LogSystem) : Prop where
  kept : s.Kept c
  following : (s.clients c).following = true
  since : (s.clients c).since = some since
  written : s.written = written

variable {since : Since} {written : Nat}

lemma Ahead.follow (h : s.Ahead c since written) : (s.clients c).follow = true :=
  (h.kept.standing.asks (.inr (.inr (by rw [h.since]; rfl)))).2

lemma Ahead.take (h : s.Ahead c since written) {lines : List Nat} {rest : List (List Nat)}
    (hchannel : (s.clients c).channel = lines :: rest) :
    ∃ s', s.step (.take c) = some s' ∧ s'.Ahead c since written ∧ s'.pending c < s.pending c := by
  have hpc : (s.clients c).pc = .streaming := LogClient.streaming_of_following h.following
  have hstep : s.step (.take c) = some (s.setClient c { s.clients c with
      channel := rest
      received := (s.clients c).received ++ lines
      pc := if (s.clients c).follow then .streaming else .leaving }) := by
    simp only [LogSystem.step, hpc, hchannel]
  have hspares : s.Spares c (.take c) := trivial
  refine ⟨_, hstep, ⟨h.kept.step hspares hstep, ?_, ?_, h.written⟩, ?_⟩
  · simp [setClient, LogClient.following, h.follow, h.since]
  · simpa only [setClient, Function.update_self] using h.since
  · rw [pending, pending, busy_setClient, unread_setClient]
    simp only [setClient, Function.update_self, hchannel, length_cons]
    omega

lemma Ahead.process (h : s.Ahead c since written) {r : LogReport} {rest : List LogReport}
    (hchannel : (s.clients c).channel = []) (hreports : s.reports = r :: rest) :
    ∃ s', s.step .process = some s' ∧ s'.Ahead c since written ∧ s'.pending c < s.pending c := by
  have hstep : s.step .process = some (s.deliver r.lines rest) := by
    simp only [LogSystem.step, hreports]
  have hspares : s.Spares c .process := by
    intro _
    rw [hchannel]
    exact Nat.zero_lt_succ _
  have hkept : (s.deliver r.lines rest).Kept c := h.kept.step hspares hstep
  have hbusy : (s.deliver r.lines rest).busy = s.busy := rfl
  have hunread : (s.deliver r.lines rest).unread = s.unread := rfl
  have hclient : ((s.deliver r.lines rest).clients c).following = (s.clients c).following ∧
      ((s.deliver r.lines rest).clients c).since = (s.clients c).since ∧
      ((s.deliver r.lines rest).clients c).channel.length ≤ 1 := by
    grind [LogClient.following]
  refine ⟨_, hstep, ⟨hkept, hclient.1.trans h.following, hclient.2.1.trans h.since, h.written⟩, ?_⟩
  have hlength : (s.deliver r.lines rest).reports.length + 1 = s.reports.length := by
    rw [hreports]
    rfl
  rw [pending, pending, hbusy, hunread, hchannel, length_nil]
  omega

lemma Ahead.forward (h : s.Ahead c since written) {j : Nat} (hj : j ∈ s.busy) :
    ∃ s', s.step (.forward j) = some s' ∧ s'.Ahead c since written ∧
      s'.pending c < s.pending c := by
  have hsending : (s.followers j).sending.isSome = true := (mem_busy.mp hj).2
  obtain ⟨line, hline⟩ := isSome_iff_exists.mp hsending
  have hlive : (s.followers j).live = true := h.kept.wired.sending j line hline
  obtain ⟨queue, cancelled, hfollower⟩ : ∃ queue cancelled,
      s.followers j = ⟨queue, some line, cancelled, true⟩ :=
    ⟨(s.followers j).queue, (s.followers j).cancelled, by rw [← hline, ← hlive]⟩
  have hstep : s.step (.forward j) = some { s.setFollower j ⟨queue, none, cancelled, true⟩ with
      reports := s.reports ++ [⟨.follower j, [line]⟩] } := by
    simp only [LogSystem.step, hfollower]
  have hbusy : (s.setFollower j ⟨queue, none, cancelled, true⟩).busy = s.busy.erase j := by
    ext i
    grind [mem_busy]
  have hunread : (s.setFollower j ⟨queue, none, cancelled, true⟩).unread = s.unread := by
    grind [unread]
  have hspares : s.Spares c (.forward j) := trivial
  refine ⟨_, hstep, ⟨h.kept.step hspares hstep, h.following, h.since, h.written⟩, ?_⟩
  have hcard : (s.busy.erase j).card + 1 = s.busy.card := card_erase_add_one hj
  have hpending : pending c { s.setFollower j ⟨queue, none, cancelled, true⟩ with
      reports := s.reports ++ [⟨.follower j, [line]⟩] } = (s.clients c).channel.length +
        2 * (s.reports.length + 1) + 3 * (s.busy.erase j).card + 4 * s.unread.length := by
    rw [← hbusy, ← hunread]
    simp only [pending, length_append, length_singleton]
    rfl
  rw [hpending, pending]
  omega

lemma Ahead.recv (h : s.Ahead c since written) {j : Nat} (hcurrent : s.current = some j)
    (hidle : s.busy = ∅) {line : Nat} {queue : List Nat}
    (hqueue : (s.followers j).queue = line :: queue) :
    ∃ s', s.step (.recv j) = some s' ∧ s'.Ahead c since written ∧ s'.pending c < s.pending c := by
  have hlive : (s.followers j).live = true := (h.kept.wired.current j hcurrent).1
  have hlt : j < s.spawned := h.kept.wired.lt_spawned hlive
  have hsending : (s.followers j).sending = none := by
    by_contra hsome
    have hmem : j ∈ s.busy := mem_busy.mpr ⟨hlt, isSome_iff_ne_none.mpr hsome⟩
    rw [hidle] at hmem
    exact absurd hmem (notMem_empty j)
  obtain ⟨cancelled, hfollower⟩ : ∃ cancelled,
      s.followers j = ⟨line :: queue, none, cancelled, true⟩ :=
    ⟨(s.followers j).cancelled, by rw [← hqueue, ← hsending, ← hlive]⟩
  have hstep : s.step (.recv j) = some (s.setFollower j ⟨queue, some line, cancelled, true⟩) := by
    simp only [LogSystem.step, hfollower]
  have hbusy : (s.setFollower j ⟨queue, some line, cancelled, true⟩).busy = {j} := by
    ext i
    have hnot : i ∉ s.busy := by
      rw [hidle]
      exact notMem_empty i
    grind [mem_busy]
  have hspares : s.Spares c (.recv j) := trivial
  refine ⟨_, hstep, ⟨h.kept.step hspares hstep, h.following, h.since, h.written⟩, ?_⟩
  have hunread : s.unread = line :: queue := by rw [unread, hcurrent, elim_some, hqueue]
  have hunread' : (s.setFollower j ⟨queue, some line, cancelled, true⟩).unread = queue := by
    simp only [unread, setFollower, hcurrent, elim_some, Function.update_self]
  rw [pending, pending, hbusy, hunread', hidle, hunread, card_singleton, card_empty, length_cons]
  simp only [setFollower]
  omega

lemma Ahead.progress (h : s.Ahead c since written) (hpending : s.pending c ≠ 0) :
    ∃ e s', Carries c e ∧ s.step e = some s' ∧ s'.Ahead c since written ∧
      s'.pending c < s.pending c := by
  cases hchannel : (s.clients c).channel with
  | cons =>
    obtain ⟨s', hs, ha⟩ := h.take hchannel
    exact ⟨.take c, s', rfl, hs, ha⟩
  | nil =>
    cases hreports : s.reports with
    | cons =>
      obtain ⟨s', hs, ha⟩ := h.process hchannel hreports
      exact ⟨.process, s', trivial, hs, ha⟩
    | nil =>
      rcases s.busy.eq_empty_or_nonempty with hidle | ⟨j, hj⟩
      · have hunread : s.unread ≠ [] := by
          intro hnil
          apply hpending
          rw [pending, hchannel, hreports, hidle, hnil]
          rfl
        cases hcurrent : s.current with
        | none => exact absurd (by rw [unread, hcurrent]; rfl) hunread
        | some j =>
          rw [unread, hcurrent, elim_some] at hunread
          obtain ⟨line, queue, hqueue⟩ := exists_cons_of_ne_nil hunread
          obtain ⟨s', hs, ha⟩ := h.recv hcurrent hidle hqueue
          exact ⟨.recv j, s', trivial, hs, ha⟩
      · obtain ⟨s', hs, ha⟩ := h.forward hj
        exact ⟨.forward j, s', trivial, hs, ha⟩

lemma not_onWay_of_pending (hpending : s.pending c = 0) (line : Nat) : ¬ s.OnWay line := by
  have hzero : s.reports.length = 0 ∧ s.busy.card = 0 ∧ s.unread.length = 0 := by
    rw [pending] at hpending
    omega
  obtain ⟨hreports, hbusy, hunread⟩ := hzero
  rintro (⟨r, hr, _⟩ | ⟨j, hj, hl⟩ | ⟨j, hj, hl⟩)
  · rw [length_eq_zero_iff.mp hreports] at hr
    cases hr
  · have hmem : j ∈ s.busy := mem_busy.mpr ⟨hj, by rw [hl]; rfl⟩
    rw [card_eq_zero.mp hbusy] at hmem
    exact absurd hmem (notMem_empty j)
  · rw [unread, Option.mem_def.mp hj, elim_some] at hunread
    rw [length_eq_zero_iff.mp hunread] at hl
    cases hl

end

/-- In a run whose steps spare a client that follows, every line since its LogFollow is handed to
it or is on its way, and steps that only move lines along hand it all of them. -/
theorem followed_lines_handed {c : Nat} {es : List LogEvent} {s : LogSystem} {since : Since}
    (hr : run step init es = some s) (hspared : Guarded step (Spares c) init es)
    (hfollowing : (s.clients c).following = true) (hsince : (s.clients c).since = some since) :
    (∀ line, since.line ≤ line → line < s.written → line ∈ (s.clients c).handed ∨ s.OnWay line) ∧
    ∃ more t, (∀ e ∈ more, Carries c e) ∧ run step s more = some t ∧
      ∀ line, since.line ≤ line → line < s.written → line ∈ (t.clients c).handed := by
  have hkept : s.Kept c := kept_of_run hspared hr
  refine ⟨(hkept.followed hfollowing).lines since hsince, ?_⟩
  have hahead : s.Ahead c since s.written := ⟨hkept, hfollowing, hsince, rfl⟩
  obtain ⟨more, t, hmore, ht, hahead, hpending⟩ :=
    exists_run_of_progress (fun _ h hp => h.progress hp) s hahead
  refine ⟨more, t, hmore, ht, fun line hle hlt => ?_⟩
  have hlt : line < t.written := by rwa [hahead.written]
  have hfollowed : t.Followed c := hahead.kept.followed hahead.following
  rcases hfollowed.lines since hahead.since line hle hlt with hin | hon
  · exact hin
  · exact absurd hon (not_onWay_of_pending hpending line)

def demoFollow (c : Nat) : List LogEvent :=
  [.subscribe c true 0, .client c, .client c, .command, .loop, .command, .loop, .process]

def demoReplaced : List LogEvent :=
  demoFollow 0 ++ [.subscribe 1 true 0, .client 1, .client 1, .command, .loop, .write, .store,
    .command, .stop 0, .loop, .process]

theorem follow_of_other_drops_line :
    ∃ s, run step init demoReplaced = some s ∧ (s.clients 0).following = true ∧
      (s.clients 0).since = some ⟨0, 0⟩ ∧ s.written = 1 ∧ (s.followers 0).live = false ∧
      ¬ (0 ∈ (s.clients 0).handed ∨ s.OnWay 0) := by
  decide +kernel

def demoHandover : List LogEvent :=
  demoFollow 0 ++ [.take 0, .write, .store, .recv 0, .forward 0] ++ demoFollow 1 ++
    [.stop 0, .process, .write, .store, .recv 1, .forward 1]

theorem handover_keeps_lines : ∃ s, run step init demoHandover = some s ∧ s.written = 2 ∧
      (∀ line < 2, line ∈ (s.clients 0).handed ∨ s.OnWay line) ∧
      ∃ more t, (∀ e ∈ more, Carries 0 e) ∧ run step s more = some t ∧
        ∀ line < 2, line ∈ (t.clients 0).handed := by
  refine exists_end (p := fun s => (s.clients 0).following = true ∧
    (s.clients 0).since = some ⟨0, 0⟩ ∧ s.written = 2) (by decide +kernel) ?_
  rintro s hs ⟨hfollowing, hsince, hwritten⟩
  obtain ⟨hnow, more, t, hmore, ht, hlater⟩ :=
    followed_lines_handed hs (by decide +kernel) hfollowing hsince
  rw [hwritten] at hnow hlater
  refine ⟨hwritten, fun line hl => hnow line (Nat.zero_le line) hl, more, t, hmore, ht, ?_⟩
  exact fun line hl => hlater line (Nat.zero_le line) hl

end LogSystem

end Mill
