import Mill.Lib.Run

/-! A value that is derived from a changing state and kept up to date by a task that waits for
notifications. Whoever changes the state sends a notification afterwards, in a step of its own.
The channel keeps only the newest notification and counts them; a receiver is woken when the
count is not the one that it has seen. -/

namespace Watch

variable {σ ν ω τ : Type}

structure Channel (ν : Type) where
  value : ν
  version : Nat

def Channel.send (c : Channel ν) (value : ν) : Channel ν := ⟨value, c.version + 1⟩

inductive Phase (τ : Type)
  | unsubscribed
  | woken
  | applying (value : τ)
  | waiting
  | exited
deriving DecidableEq

/-- How the state is written, what is sent after a write, and what is derived from the state. -/
structure Source (σ ν ω τ : Type) where
  write : σ → ω → Option σ
  notice : σ → ν
  view : σ → τ

structure State (σ ν τ : Type) where
  state : σ
  notices : List ν
  channel : Channel ν
  seen : Nat
  phase : Phase τ
  applied : Option τ

inductive Event (ω : Type)
  | write (w : ω)
  | notify (i : Nat)
  | subscribe
  | read
  | applied
  | changed
  | cancel

def init (state : σ) (channel : Channel ν) : State σ ν τ :=
  ⟨state, [], channel, 0, .unsubscribed, none⟩

def step (src : Source σ ν ω τ) (s : State σ ν τ) : Event ω → Option (State σ ν τ)
  | .write w => (src.write s.state w).map fun state =>
      { s with state, notices := s.notices ++ [src.notice state] }
  | .notify i => (s.notices[i]?).map fun notice =>
      { s with notices := s.notices.eraseIdx i, channel := s.channel.send notice }
  | .subscribe =>
    match s.phase with
    | .unsubscribed => some { s with seen := s.channel.version, phase := .woken }
    | _ => none
  | .read =>
    match s.phase with
    | .woken => some { s with phase := .applying (src.view s.state) }
    | _ => none
  | .applied =>
    match s.phase with
    | .applying value => some { s with phase := .waiting, applied := some value }
    | _ => none
  | .changed =>
    match s.phase with
    | .waiting =>
      if s.seen = s.channel.version then none
      else some { s with seen := s.channel.version, phase := .woken }
    | _ => none
  | .cancel =>
    match s.phase with
    | .waiting => some { s with phase := .exited }
    | _ => none

def State.Due (s : State σ ν τ) : Prop := s.notices ≠ [] ∨ s.seen < s.channel.version

/-- What the task has read since it was last woken is current, or it will be woken again. -/
structure Tracks (src : Source σ ν ω τ) (s : State σ ν τ) : Prop where
  seen_le : s.phase = .unsubscribed ∨ s.seen ≤ s.channel.version
  applying : ∀ value, s.phase = .applying value → value = src.view s.state ∨ s.Due
  waiting : s.phase = .waiting → s.applied = some (src.view s.state) ∨ s.Due

variable {src : Source σ ν ω τ} {s s' : State σ ν τ}

lemma tracks_init (state : σ) (channel : Channel ν) : Tracks src (init state channel) where
  seen_le := .inl rfl
  applying value h := by cases h
  waiting h := by cases h

lemma tracks_of_phase (hle : s.seen ≤ s.channel.version) (happlying : ∀ v, s.phase ≠ .applying v)
    (hwaiting : s.phase ≠ .waiting) : Tracks src s where
  seen_le := .inr hle
  applying value h := absurd h (happlying value)
  waiting h := absurd h hwaiting

lemma tracks_write {w : ω} (hs : Tracks src s) (h : step src s (.write w) = some s') :
    Tracks src s' := by
  obtain ⟨state, -, rfl⟩ := Option.map_eq_some_iff.mp h
  have hdue : State.Due { s with state, notices := s.notices ++ [src.notice state] } := by
    left
    simp
  exact ⟨hs.seen_le, fun value _ => .inr hdue, fun _ => .inr hdue⟩

lemma tracks_notify {i : Nat} (hs : Tracks src s) (h : step src s (.notify i) = some s') :
    Tracks src s' := by
  obtain ⟨notice, -, rfl⟩ := Option.map_eq_some_iff.mp h
  rcases hs.seen_le with hphase | hle
  · refine ⟨.inl hphase, fun value hvalue => ?_, fun hwaiting => ?_⟩
    · cases hphase.symm.trans hvalue
    · cases hphase.symm.trans hwaiting
  · have hlt : s.seen < (s.channel.send notice).version := Nat.lt_succ_of_le hle
    exact ⟨.inr (Nat.le_of_lt hlt), fun value _ => .inr (.inr hlt), fun _ => .inr (.inr hlt)⟩

lemma tracks_task {e : Event ω} (hs : Tracks src s) (hwrite : ∀ w, e ≠ .write w)
    (hnotify : ∀ i, e ≠ .notify i) (h : step src s e = some s') : Tracks src s' := by
  cases e with
  | write w => exact absurd rfl (hwrite w)
  | notify i => exact absurd rfl (hnotify i)
  | subscribe =>
    simp only [step] at h
    split at h
    · cases h
      exact tracks_of_phase (Nat.le_refl _) (by simp) (by simp)
    · cases h
  | read =>
    simp only [step] at h
    split at h
    · rename_i hphase
      cases h
      have hle : s.seen ≤ s.channel.version := hs.seen_le.resolve_left (by simp [hphase])
      refine ⟨.inr hle, fun value hvalue => .inl ?_, fun hwaiting => ?_⟩
      · exact (Phase.applying.inj hvalue).symm
      · cases hwaiting
    · cases h
  | applied =>
    simp only [step] at h
    split at h
    · rename_i value hphase
      cases h
      have hle : s.seen ≤ s.channel.version := hs.seen_le.resolve_left (by simp [hphase])
      refine ⟨.inr hle, fun value' hvalue => ?_, fun _ => ?_⟩
      · cases hvalue
      · exact (hs.applying value hphase).imp_left (congrArg some)
    · cases h
  | changed =>
    simp only [step] at h
    split at h
    · rw [Option.ite_none_left_eq_some] at h
      cases h.2
      exact tracks_of_phase (Nat.le_refl _) (by simp) (by simp)
    · cases h
  | cancel =>
    simp only [step] at h
    split at h
    · rename_i hphase
      cases h
      have hle : s.seen ≤ s.channel.version := hs.seen_le.resolve_left (by simp [hphase])
      exact tracks_of_phase hle (by simp) (by simp)
    · cases h

lemma tracks_step {e : Event ω} (hs : Tracks src s) (h : step src s e = some s') :
    Tracks src s' := by
  by_cases hwrite : ∃ w, e = .write w
  · obtain ⟨w, rfl⟩ := hwrite
    exact tracks_write hs h
  by_cases hnotify : ∃ i, e = .notify i
  · obtain ⟨i, rfl⟩ := hnotify
    exact tracks_notify hs h
  exact tracks_task hs (fun w hw => hwrite ⟨w, hw⟩) (fun i hi => hnotify ⟨i, hi⟩) h

/-- No wake-up is lost: a task that waits while nothing is due has applied the current view. -/
lemma applied_of_waiting {state : σ} {channel : Channel ν} {es : List (Event ω)}
    (hrun : Transition.run (step src) (init state channel) es = some s)
    (hwaiting : s.phase = .waiting) (hdue : ¬ s.Due) : s.applied = some (src.view s.state) := by
  have htracks : Tracks src s := by
    refine Transition.run_invariant (P := fun _ _ => True) (fun s e s' hs _ h => ?_)
      (tracks_init state channel) ?_ hrun
    · exact tracks_step hs h
    · exact Transition.guarded_of_forall (P := fun _ _ => True) _ fun _ _ _ => trivial
  exact (htracks.waiting hwaiting).resolve_right hdue

end Watch
