import Mill.Node.TaskTimers

/-! The timeouts of tasks hold as long as the primary is there and on time. -/

namespace Mill

open Program Transition

section

variable {s : FsmState} {id : AllocId} {now t : Nat} {holds : Bool} {first : Option Nat}

lemma active_iff : s.active id = true ↔ ∃ a, s.allocs.lookup id = some a ∧ a.status.stage = 1 := by
  rw [FsmState.active, Option.any_eq_true]
  refine exists_congr fun a => and_congr_right fun _ => ?_
  cases a.status <;> simp [AllocStatus.isActive, AllocStatus.stage]

lemma terminal_iff : s.terminal id = true ↔
    ∃ a, s.allocs.lookup id = some a ∧ a.status.stage = 2 := by
  rw [FsmState.terminal, Option.any_eq_true]
  refine exists_congr fun a => and_congr_right fun _ => ?_
  cases a.status <;> simp [AllocStatus.isTerminal, AllocStatus.stage]

lemma firstTime_eq_some : firstTime now holds first = some t ↔
    first = some t ∨ first = none ∧ holds = true ∧ now = t := by
  cases first <;> simp [firstTime]

lemma firstTime_ne_none : firstTime now holds first ≠ none ↔ first ≠ none ∨ holds = true := by
  cases first <;> simp [firstTime]

end

namespace TimerWorld

section

structure Noted (w : TimerWorld) : Prop where
  seen_le : ∀ id t, w.seen id = some t → t ≤ w.clock
  ended_le : ∀ id t, w.ended id = some t → t ≤ w.clock
  active : ∀ id, w.fsm.active id = true → w.seen id ≠ none
  terminal : ∀ id, w.fsm.terminal id = true → w.ended id ≠ none
  begun : ∀ id a, w.seen id ≠ none → w.fsm.allocs.lookup id = some a → 1 ≤ a.status.stage
  finished : ∀ id a, w.ended id ≠ none → w.fsm.allocs.lookup id = some a → 2 ≤ a.status.stage

/-- No allocation goes back to an earlier stage or to another node, none is removed before it has
ended, and no id is used again. -/
structure Onward (w : TimerWorld) (s : FsmState) : Prop where
  kept : ∀ id a, w.fsm.allocs.lookup id = some a →
    (∃ a', s.allocs.lookup id = some a' ∧ a'.node = a.node ∧ a'.kind = a.kind ∧
      a.status.stage ≤ a'.status.stage) ∨ s.allocs.lookup id = none ∧ a.status.stage = 2
  fresh : ∀ id a', s.allocs.lookup id = some a' → w.fsm.allocs.lookup id = none →
    w.seen id = none ∧ w.ended id = none

variable {w : TimerWorld} {s : FsmState} {c : Command}

lemma onward_refl : Onward w w.fsm where
  kept id a ha := .inl ⟨a, ha, rfl, rfl, le_rfl⟩
  fresh id a ha hnone := by cases ha.symm.trans hnone

lemma Onward.stage_le (h : Onward w s) {id : AllocId} {a' : Alloc} {k : Nat}
    (ha' : s.allocs.lookup id = some a') (hused : w.seen id ≠ none ∨ w.ended id ≠ none)
    (hk : ∀ a, w.fsm.allocs.lookup id = some a → k ≤ a.status.stage) : k ≤ a'.status.stage := by
  have hkept := h.kept id
  have hfresh := h.fresh id a' ha'
  cases ha : w.fsm.allocs.lookup id <;> grind

lemma stage_le_of_onward (h : w.onward c = true) {id : AllocId} {a a' : Alloc}
    (ha : w.fsm.allocs.lookup id = some a) (ha' : allocAfter w.fsm id c = some a') :
    a.status.stage ≤ a'.status.stage := by
  have hother (hc : (!w.fsm.allocs.any fun id a =>
      (allocAfter w.fsm id c).any fun a' => a'.status.stage < a.status.stage) = true) :
      a.status.stage ≤ a'.status.stage := by
    rw [Bool.not_eq_true', Finmap.any_eq_false] at hc
    have hnot := hc id a ha
    rw [ha', Option.any_some, decide_eq_false_iff_not] at hnot
    exact not_lt.mp hnot
  cases c with
  | allocScheduled i =>
    have hne : id ≠ i := by
      rintro rfl
      rw [onward, unused, ha] at h
      cases h
    simp only [allocAfter, if_neg hne] at ha'
    have hsame : w.fsm.allocs.lookup id = some a' := by
      split at ha' <;> exact ha'
    cases ha.symm.trans hsame
    exact le_rfl
  | _ => exact hother h

lemma stage_of_removed {id : AllocId} {a : Alloc} (ha : w.fsm.allocs.lookup id = some a)
    (hnone : allocAfter w.fsm id c = none) : a.status.stage = 2 := by
  cases c with
  | nodeRemove =>
    simp only [allocAfter, ha, Option.filter_some] at hnone
    split at hnone
    · rename_i node _
      split_ifs at hnone with hlive hnode
      rw [Bool.not_eq_true, Finmap.any_eq_false] at hlive
      have hdead := hlive id a ha
      rw [Bool.not_eq_true, bne_eq_false_iff_eq] at hnode
      rw [beq_iff_eq.mpr hnode, Bool.true_and, Bool.not_eq_false'] at hdead
      have hterminal : w.fsm.terminal id = true := by
        rw [FsmState.terminal, ha]
        exact hdead
      obtain ⟨b, hb, hstage⟩ := terminal_iff.mp hterminal
      cases ha.symm.trans hb
      exact hstage
    · cases hnone
  | nodeHeartbeat n statuses | allocStatus i status | allocRunning i address startedAt =>
    simp only [allocAfter, ha, Option.map_some] at hnone
    split_ifs at hnone
  | allocScheduled =>
    simp only [allocAfter, ha] at hnone
    split at hnone
    · split_ifs at hnone
    · cases hnone
  | _ => cases ha.symm.trans hnone

lemma onward_applyCommand (h : w.onward c = true) : Onward w (applyCommand w.fsm c).1 := by
  have hscheduled {id : AllocId} {n : Nat} {name : String} {kind : AllocKind}
      {address : Option SocketAddr} {resources : AllocResources}
      (hc : c = .allocScheduled id n name kind address resources) :
      w.fsm.allocs.lookup id = none ∧ w.seen id = none ∧ w.ended id = none := by
    subst hc
    simpa [onward, unused, and_assoc] using h
  constructor
  · intro id a ha
    rw [lookup_allocs_applyCommand]
    cases hafter : allocAfter w.fsm id c with
    | none => exact .inr ⟨rfl, stage_of_removed ha hafter⟩
    | some a' =>
      have hle := stage_le_of_onward h ha hafter
      rcases allocAfter_eq_some hafter with ⟨_, _, _, _, _, _, hc, -⟩ | ⟨b, hb, heq⟩
      · cases (hscheduled hc).1.symm.trans ha
      · cases ha.symm.trans hb
        exact .inl ⟨a', rfl, by rw [heq], by rw [heq], hle⟩
  · intro id a' ha' hnone
    rw [lookup_allocs_applyCommand] at ha'
    rcases allocAfter_eq_some ha' with ⟨_, _, _, _, _, _, hc, -⟩ | ⟨b, hb, -⟩
    · exact (hscheduled hc).2
    · cases hnone.symm.trans hb

end

section

def PlacedAt (w : TimerWorld) (node : NodeId) (id : AllocId) : Prop :=
  (∃ a, w.fsm.allocs.lookup id = some a ∧ a.node = node ∧ a.kind = .task) ∨ w.ended id ≠ none

structure Evolves (w w' : TimerWorld) : Prop where
  clock : w'.clock = w.clock
  seen : ∀ id t, w.seen id = some t → w'.seen id = some t
  ended : ∀ id t, w.ended id = some t → w'.ended id = some t
  first : ∀ id t, w'.seen id = some t → w.seen id = some t ∨ w.ended id = none ∧ w.clock = t
  stops : w.stops ⊆ w'.stops
  placed : ∀ node id, w.PlacedAt node id → w'.PlacedAt node id

variable {w : TimerWorld} {w₀ : World} {stops : List (Nat × NodeId × AllocId)}

lemma Noted.becomes (hn : w.Noted) (hclock : w₀.clock = w.clock) (h : w.Onward w₀.fsm) :
    (w.becomes w₀ stops).Noted where
  seen_le id t ht := by
    rcases firstTime_eq_some.mp ht with ht | ⟨-, -, rfl⟩
    · exact (hn.seen_le id t ht).trans_eq hclock.symm
    · exact le_rfl
  ended_le id t ht := by
    rcases firstTime_eq_some.mp ht with ht | ⟨-, -, rfl⟩
    · exact (hn.ended_le id t ht).trans_eq hclock.symm
    · exact le_rfl
  active id hactive := firstTime_ne_none.mpr (.inr hactive)
  terminal id hterminal := firstTime_ne_none.mpr (.inr hterminal)
  begun id a hseen ha := by
    rcases firstTime_ne_none.mp hseen with hseen | hactive
    · exact h.stage_le ha (.inl hseen) fun b hb => hn.begun id b hseen hb
    · grind [active_iff, becomes]
  finished id a hended ha := by
    rcases firstTime_ne_none.mp hended with hended | hterminal
    · exact h.stage_le ha (.inr hended) fun b hb => hn.finished id b hended hb
    · grind [terminal_iff, becomes]

lemma Noted.evolves (hn : w.Noted) (hclock : w₀.clock = w.clock) (h : w.Onward w₀.fsm) :
    w.Evolves (w.becomes w₀ stops) where
  clock := hclock
  seen id t ht := firstTime_eq_some.mpr (.inl ht)
  ended id t ht := firstTime_eq_some.mpr (.inl ht)
  first id t ht := by
    rcases firstTime_eq_some.mp ht with ht | ⟨-, hactive, rfl⟩
    · exact .inl ht
    -- what has ended does not become active again
    refine .inr ⟨?_, hclock.symm⟩
    by_contra hended
    obtain ⟨a, ha, hstage⟩ := active_iff.mp hactive
    have hle : 2 ≤ a.status.stage :=
      h.stage_le ha (.inr hended) fun b hb => hn.finished id b hended hb
    omega
  stops := List.subset_append_left _ _
  placed node id hplaced := by
    have hended (hended : w.ended id ≠ none) : (w.becomes w₀ stops).PlacedAt node id :=
      .inr (firstTime_ne_none.mpr (.inl hended))
    rcases hplaced with ⟨a, ha, hnode, hkind⟩ | hplaced
    · rcases h.kept id a ha with ⟨a', ha', hnode', hkind', -⟩ | ⟨-, hstage⟩
      · exact .inl ⟨a', ha', hnode'.trans hnode, hkind'.trans hkind⟩
      · exact hended (hn.terminal id (terminal_iff.mpr ⟨a, ha, hstage⟩))
    · exact hended hplaced

end

section

def Done (w : TimerWorld) (node : NodeId) (id : AllocId) (d : Duration) : Prop :=
  (w.seen id = none ∧ w.ended id ≠ none) ∨ ∃ t, w.seen id = some t ∧
    ((∃ t' ≤ t + d, (t', node, id) ∈ w.stops) ∨ ∃ t' ≤ t + d, w.ended id = some t')

def Covers (w : TimerWorld) (node : NodeId) (id : AllocId) (d : Duration) : TimerTag → Prop
  | .waiting n i d' => n = node ∧ i = id ∧ d' = d ∧ ∀ t, w.seen id = some t → w.clock = t
  | .sighted i d' | .timer i d' => i = id ∧ d' = d ∧ w.seen id = some w.clock
  | .sleeping i deadline => i = id ∧ ∃ t, w.seen id = some t ∧ deadline = t + d ∧ w.clock ≤ deadline
  | .due i => i = id ∧ ∃ t, w.seen id = some t ∧ w.clock ≤ t + d
  | .killing n i => n = node ∧ i = id ∧ ∃ t, w.seen id = some t ∧ w.clock ≤ t + d
  | .idle | .located .. | .recorded .. => False

variable {w w' : TimerWorld} {node : NodeId} {id : AllocId} {d : Duration} {tag : TimerTag}

lemma Covers.clock_le (h : w.Covers node id d tag) {t : Nat} (ht : w.seen id = some t) :
    w.clock ≤ t + d := by
  cases tag <;> grind [Covers]

lemma Noted.done (hn : w.Noted) (hended : w.ended id ≠ none)
    (hin : ∀ t, w.seen id = some t → w.clock ≤ t + d) : w.Done node id d := by
  have hle := hn.ended_le id
  cases hseen : w.seen id <;> cases hended : w.ended id <;> grind [Done]

lemma Evolves.done (h : w.Evolves w') (hdone : w.Done node id d) : w'.Done node id d := by
  have hseen := h.seen id
  have hended := h.ended id
  have hfirst := h.first id
  have hstops := h.stops
  cases hended' : w.ended id <;> cases hseen' : w'.seen id <;> grind [Done]

lemma Evolves.covers (h : w.Evolves w') (hcovers : w.Covers node id d tag) :
    w'.Covers node id d tag := by
  have hclock := h.clock
  have hseen := h.seen id
  have hfirst := h.first id
  cases tag <;> grind [Covers]

lemma Covers.pass (hn : w.Noted) (hplaced : w.PlacedAt node id) (h : w.Covers node id d tag)
    {now : Nat} (hnow : w.clock ≤ now) (hpermits : tag.permits w now = true) :
    w.Done node id d ∨ Covers { w with clock := now } node id d tag := by
  have hsame (hle : now ≤ w.clock) : Covers { w with clock := now } node id d tag := by
    rw [le_antisymm hle hnow]
    exact h
  cases tag with
  | waiting n i d' =>
    obtain ⟨rfl, rfl, rfl, hseen⟩ := h
    rw [TimerTag.permits, Bool.or_eq_true, decide_eq_true_iff, Bool.not_eq_true'] at hpermits
    rcases hpermits with hle | hpending
    · exact .inr (hsame hle)
    by_cases hended : w.ended i = none
    · -- what has not ended and does not run was not seen to run
      refine .inr ⟨rfl, rfl, rfl, fun t (ht : w.seen i = some t) => ?_⟩
      obtain ⟨a, ha, -⟩ := hplaced.resolve_right (not_not.mpr hended)
      have hbegun := hn.begun i a (by simp [ht]) ha
      rw [ha, Option.any_some] at hpending
      cases hstatus : a.status <;>
        simp [hstatus, World.settled, AllocStatus.stage] at hpending hbegun
    · exact .inl (hn.done hended fun t ht => (hseen t ht).le.trans (Nat.le_add_right t d'))
  | sleeping =>
    obtain ⟨hi, t, ht, hdeadline, -⟩ := h
    exact .inr ⟨hi, t, ht, hdeadline, of_decide_eq_true hpermits⟩
  | sighted | timer | due | killing => exact .inr (hsame (of_decide_eq_true hpermits))
  | _ => exact h.elim

end

variable {w : TimerWorld} {w₀ : World} {tag : TimerTag} {e : TaskEffect} {c : Choice}
  {r : e.Answer} {node : NodeId} {id : AllocId} {d : Duration}

lemma world_of_answered (h : w.toWorld.TaskAnswered e r w₀)
    (hpropose : ∀ c, e ≠ .coord (.propose c)) (htick : e ≠ .coord .tick) :
    w₀.fsm = w.fsm ∧ w₀.clock = w.clock := by
  cases h with
  | coord e r w₀ h =>
    cases h with
    | applied c => exact absurd rfl (hpropose c)
    | tick => exact absurd rfl htick
    | _ => exact ⟨rfl, rfl⟩
  | _ => exact ⟨rfl, rfl⟩

lemma sent_of_answered (h : w.toWorld.TaskAnswered e r w₀) {cmd : NodeCommand}
    (he : e ≠ .coord (.send node cmd)) (hmem : (node, cmd) ∈ w₀.sent) : (node, cmd) ∈ w.sent := by
  cases h with
  | coord e r w₀ h => cases h <;> grind
  | _ => exact hmem

lemma onward_act (hnext : tag.Next e) (hserves : tag.serves w e c = true)
    (h : w.toWorld.TaskAnswered e r w₀) : w₀.clock = w.clock ∧ w.Onward w₀.fsm := by
  have hplain (hpropose : ∀ c, e ≠ .coord (.propose c)) (htick : e ≠ .coord .tick) :
      w₀.clock = w.clock ∧ w.Onward w₀.fsm := by
    obtain ⟨hfsm, hclock⟩ := world_of_answered h hpropose htick
    exact ⟨hclock, hfsm ▸ onward_refl⟩
  cases tag with
  | idle => exact hplain hnext.1 hnext.2.2.2
  | recorded =>
    rcases hnext with hnext | ⟨spec, auth, rfl⟩
    · exact hplain hnext.1 hnext.2.2.2
    · exact hplain (by simp) (by simp)
  | located n raftId =>
    obtain ⟨i, name, address, resources, rfl⟩ := hnext
    have hunused : w.onward (.allocScheduled i raftId name .task address resources) = true :=
      (Bool.and_eq_true_iff.mp hserves).1
    cases h with
    | coord e r w₀ h =>
      cases h with
      | applied => exact ⟨rfl, onward_applyCommand hunused⟩
      | refused => exact ⟨rfl, onward_refl⟩
  | _ =>
    obtain rfl := hnext
    exact hplain (by simp) (by simp)

lemma of_track_eq_recorded (h : tag.track e r = .recorded node id) :
    tag = .recorded node id ∨ ∃ raftId, tag = .located node raftId := by
  unfold TimerTag.track at h
  split at h
  any_goals cases h
  · exact .inr ⟨_, rfl⟩
  · rename_i spec _
    cases hd : spec.timeout <;> rw [hd] at h <;> cases h
  · exact .inl rfl

lemma placedAt_track (hnext : tag.Next e) (hserves : tag.serves w e c = true)
    (h : w.toWorld.TaskAnswered e r w₀) {stops : List (Nat × NodeId × AllocId)}
    (hold : tag = .recorded node id → (w.becomes w₀ stops).PlacedAt node id)
    (htrack : tag.track e r = .recorded node id) : (w.becomes w₀ stops).PlacedAt node id := by
  rcases of_track_eq_recorded htrack with htag | ⟨raftId, rfl⟩
  · exact hold htag
  obtain ⟨i, name, address, resources, rfl⟩ := hnext
  have hnode := of_decide_eq_true (Bool.and_eq_true_iff.mp hserves).2
  obtain ⟨m, hm, rfl⟩ := Option.map_eq_some_iff.mp hnode
  cases h with
  | coord e r w₀ h =>
    cases h with
    | applied =>
      cases htrack
      refine .inl ⟨FsmState.makeAlloc id m.millId name .task address resources, ?_, rfl, rfl⟩
      have hafter := lookup_allocs_applyCommand w.fsm
        (.allocScheduled id raftId name .task address resources) id
      rw [allocAfter, hm] at hafter
      exact hafter.trans (if_pos rfl)
    | refused => cases htrack

lemma covers_act (p : Parsers) (ctx : DeployCtx) (hn : w.Noted) (hplaced : w.PlacedAt node id)
    (h : w.Covers node id d tag) (hnext : tag.Next e) (hserves : tag.serves w e c = true)
    (hans : w.toWorld.answerTask e c = some (r, w₀))
    (hev : w.Evolves (w.becomes w₀ (e.stopped w.clock r))) :
    (w.becomes w₀ (e.stopped w.clock r)).Done node id d ∨
      (w.becomes w₀ (e.stopped w.clock r)).Covers node id d (tag.track e r) ∨
      ∃ tp ∈ (timers p ctx).starts e,
        (w.becomes w₀ (e.stopped w.clock r)).Covers node id d tp.1 := by
  have hdone (hended : w.ended id ≠ none) : (w.becomes w₀ (e.stopped w.clock r)).Done node id d :=
    hev.done (hn.done hended fun _ ht => h.clock_le ht)
  cases tag with
  | waiting n i =>
    obtain ⟨rfl, rfl, rfl, hseen⟩ := h
    obtain rfl := hnext
    cases c with
    | elapsed => cases hserves
    | proceed =>
      simp only [World.answerTask, World.answer, Option.bind_eq_bind, Option.bind_eq_some_iff,
        Option.some.injEq, Prod.mk.injEq] at hans
      obtain ⟨a, ha, r', hsettled, rfl, rfl⟩ := hans
      have hactive (hstage : a.status.stage = 1) : w.seen i = some w.clock := by
        obtain ⟨t, ht⟩ := Option.ne_none_iff_exists'.mp
          (hn.active i (active_iff.mpr ⟨a, ha, hstage⟩))
        rw [ht, hseen t ht]
      have hterminal (hstage : a.status.stage = 2) := hdone
        (hn.terminal i (terminal_iff.mpr ⟨a, ha, hstage⟩))
      cases hstatus : a.status <;> rw [hstatus] at hsettled hactive hterminal <;> cases hsettled
      · exact .inr (.inl ⟨rfl, rfl, hev.seen i _ (hactive rfl)⟩)
      · exact .inr (.inl ⟨rfl, rfl, hev.seen i _ (hactive rfl)⟩)
      · exact .inl (hterminal rfl)
      · exact .inl (hterminal rfl)
    | _ => cases hans
  | sighted i =>
    obtain ⟨rfl, rfl, hseen⟩ := h
    obtain rfl := hnext
    have hcovers := hev.seen i _ hseen
    rw [← hev.clock] at hcovers
    exact .inr (.inr ⟨_, List.mem_singleton_self _, rfl, rfl, hcovers⟩)
  | timer i =>
    obtain ⟨rfl, rfl, hseen⟩ := h
    obtain rfl := hnext
    cases c with
    | proceed =>
      cases hans
      exact .inr (.inl ⟨rfl, w.clock, hev.seen i _ hseen, rfl, Nat.le_add_right _ _⟩)
    | _ => cases hans
  | sleeping i =>
    obtain ⟨rfl, t, ht, rfl, hle⟩ := h
    obtain rfl := hnext
    exact .inr (.inl ⟨rfl, t, hev.seen i t ht, hev.clock ▸ hle⟩)
  | due i =>
    obtain ⟨rfl, t, ht, hle⟩ := h
    obtain rfl := hnext
    by_cases hended : w.ended i = none
    · obtain ⟨a, ha, rfl, hkind⟩ := hplaced.resolve_right (not_not.mpr hended)
      cases c with
      | proceed =>
        have hinfo : some (true, a.node) = r := by
          rw [World.answerTask, ha, Option.map_some, hkind] at hans
          exact (Prod.mk.inj (Option.some.inj hans)).1
        subst hinfo
        exact .inr (.inl ⟨rfl, rfl, t, hev.seen i t ht, hev.clock ▸ hle⟩)
      | _ => cases hans
    · exact .inl (hdone hended)
  | killing n i =>
    obtain ⟨rfl, rfl, t, ht, hle⟩ := h
    obtain rfl := hnext
    cases c with
    | undelivered => cases hserves
    | proceed =>
      cases hans
      refine .inl (.inr ⟨t, hev.seen i t ht, .inl ⟨w.clock, hle, ?_⟩⟩)
      exact List.mem_append_right _ (List.mem_singleton_self _)
    | _ => cases hans
  | _ => exact h.elim

lemma covers_sent (hnext : tag.Next e) (hserves : tag.serves w e c = true)
    (h : w.toWorld.TaskAnswered e r w₀) {stops : List (Nat × NodeId × AllocId)}
    (hev : w.Evolves (w.becomes w₀ stops)) {spec : ContainerSpec}
    {auth : Option RegistryCredentials} (hnew : (node, .run id spec auth) ∉ w.sent)
    (hsent : (node, .run id spec auth) ∈ w₀.sent) (hd : spec.timeout = some d) :
    tag = .recorded node id ∧ (w.becomes w₀ stops).Covers node id d (tag.track e r) := by
  have he : e = .coord (.send node (.run id spec auth)) := by
    by_contra he
    exact hnew (sent_of_answered h he hsent)
  subst he
  cases tag with
  | recorded =>
    rcases hnext with hplain | ⟨_, _, heq⟩
    · exact absurd rfl (hplain.2.1 node id spec auth)
    cases heq
    refine ⟨rfl, ?_⟩
    cases h with
    | coord e r w₀ h =>
      cases h with
      | delivered =>
        have htrack : TimerTag.track (.recorded node id)
            (.coord (.send node (.run id spec auth))) (.ok ()) = .waiting node id d := by
          rw [TimerTag.track, hd]
          rfl
        rw [htrack]
        refine ⟨rfl, rfl, rfl, fun t ht => hev.clock.trans ?_⟩
        rcases hev.first id t ht with ht | ⟨-, ht⟩
        · rw [TimerTag.serves, ht] at hserves
          cases hserves
        · exact ht
      | undelivered => exact absurd hsent hnew
  | idle => exact absurd rfl (hnext.2.1 node id spec auth)
  | located =>
    obtain ⟨_, _, _, _, heq⟩ := hnext
    cases heq
  | _ => cases hnext

end TimerWorld

section

variable {p : Parsers} {ctx : DeployCtx} {s s' : Timers}

structure Overseen (s : Timers) : Prop where
  noted : s.world.Noted
  programs : ∀ tp ∈ s.tasks, tp.2.wp timerSpec OwesNothing tp.1
  recorded : ∀ tp ∈ s.tasks, ∀ node id, tp.1 = .recorded node id → s.world.PlacedAt node id
  runs : ∀ node id spec auth d, (node, .run id spec auth) ∈ s.world.sent →
    spec.timeout = some d → s.world.PlacedAt node id ∧
      (s.world.Done node id d ∨ ∃ tp ∈ s.tasks, s.world.Covers node id d tp.1)

lemma starts_timer {e : TaskEffect} : ∀ tp ∈ (timers p ctx).starts e,
    tp.2.wp timerSpec OwesNothing tp.1 ∧ ∀ node id, tp.1 ≠ .recorded node id := by
  cases e with
  | spawnKillTimer id d =>
    intro tp htp
    obtain rfl := List.mem_singleton.mp htp
    exact ⟨wp_detached_timer (wp_killTimer_timer d), by simp⟩
  | _ =>
    intro tp htp
    cases htp

lemma Overseen.act (h : Overseen s) {i : Nat} {c : Choice}
    (hkept : kept s (.machine (.act i c)) = true)
    (hstep : (timers p ctx).step s (.act i c) = some s') : Overseen s' := by
  obtain ⟨tag, e, next, r, w', htask, hans, rfl⟩ := Machine.step_act_eq_some.mp hstep
  obtain ⟨⟨r, w₀⟩, hw₀, heq⟩ := Option.map_eq_some_iff.mp hans
  cases heq
  have hserves : tag.serves s.world e c = true := by
    have hnext := Machine.next_eq_some.mpr ⟨next, htask⟩
    rw [kept, hnext] at hkept
    exact hkept
  have hmem := List.mem_of_getElem? htask
  obtain ⟨hnext, hrest⟩ := h.programs _ hmem
  have hanswered := World.taskAnswered_of_answerTask hw₀
  obtain ⟨hclock, honward⟩ := TimerWorld.onward_act hnext hserves hanswered
  have hev : s.world.Evolves (s.world.becomes w₀ (e.stopped s.world.clock r)) :=
    h.noted.evolves hclock honward
  refine ⟨h.noted.becomes hclock honward, fun tp htp => ?_, fun tp htp node id htag => ?_,
    fun node id spec auth d hsent hd => ?_⟩
  · rcases List.mem_append.mp htp with htp | htp
    · rcases List.mem_or_eq_of_mem_set htp with htp | rfl
      · exact h.programs tp htp
      · exact hrest r _ rfl
    · exact (starts_timer tp htp).1
  · rcases List.mem_append.mp htp with htp | htp
    · rcases List.mem_or_eq_of_mem_set htp with htp | rfl
      · exact hev.placed node id (h.recorded tp htp node id htag)
      · refine TimerWorld.placedAt_track hnext hserves hanswered (fun hold => ?_) htag
        exact hev.placed node id (h.recorded _ hmem node id hold)
    · exact absurd htag ((starts_timer tp htp).2 node id)
  · by_cases hnew : (node, .run id spec auth) ∈ s.world.sent
    · obtain ⟨hplaced, hseen⟩ := h.runs node id spec auth d hnew hd
      refine ⟨hev.placed node id hplaced, ?_⟩
      rcases hseen with hdone | ⟨tp, htp, hcovers⟩
      · exact .inl (hev.done hdone)
      by_cases hi : tp = (tag, .perform e next)
      · subst hi
        rcases TimerWorld.covers_act p ctx h.noted hplaced hcovers hnext hserves hw₀ hev with
          hdone | hcovers | ⟨tp, htp, hcovers⟩
        · exact .inl hdone
        · exact .inr ⟨_, List.mem_append_left _ (List.mem_set_self htask), hcovers⟩
        · exact .inr ⟨tp, List.mem_append_right _ htp, hcovers⟩
      · exact .inr ⟨tp, List.mem_append_left _ (List.mem_set_of_ne htask htp hi),
          hev.covers hcovers⟩
    · obtain ⟨htag, hcovers⟩ :=
        TimerWorld.covers_sent hnext hserves hanswered hev hnew hsent hd
      refine ⟨hev.placed node id (h.recorded _ hmem node id htag), .inr ?_⟩
      exact ⟨_, List.mem_append_left _ (List.mem_set_self htask), hcovers⟩

lemma Overseen.spawn (h : Overseen s) {q : Program TaskEffect TaskEffect.Answer Empty Unit}
    (hq : q.wp timerSpec OwesNothing .idle) : Overseen ⟨s.world, s.tasks ++ [(.idle, q)]⟩ := by
  refine ⟨h.noted, fun tp htp => ?_, fun tp htp node id htag => ?_, fun node id spec auth d => ?_⟩
  · rcases List.mem_append.mp htp with htp | htp
    · exact h.programs tp htp
    · rw [List.mem_singleton.mp htp]
      exact hq
  · rcases List.mem_append.mp htp with htp | htp
    · exact h.recorded tp htp node id htag
    · rw [List.mem_singleton.mp htp] at htag
      cases htag
  · intro hsent hd
    refine (h.runs node id spec auth d hsent hd).imp_right (Or.imp_right ?_)
    rintro ⟨tp, htp, hcovers⟩
    exact ⟨tp, List.mem_append_left _ htp, hcovers⟩

lemma Overseen.commit (h : Overseen s) {c : Command} (hc : s.world.onward c = true) :
    Overseen ⟨s.world.becomes { s.world.toWorld with fsm := (applyCommand s.world.fsm c).1 } [],
      s.tasks⟩ := by
  have honward := TimerWorld.onward_applyCommand hc
  have hev : s.world.Evolves (s.world.becomes
      { s.world.toWorld with fsm := (applyCommand s.world.fsm c).1 } []) :=
    h.noted.evolves rfl honward
  refine ⟨h.noted.becomes rfl honward, h.programs, fun tp htp node id htag => ?_,
    fun node id spec auth d hsent hd => ?_⟩
  · exact hev.placed node id (h.recorded tp htp node id htag)
  · refine (h.runs node id spec auth d hsent hd).imp (hev.placed node id) (Or.imp hev.done ?_)
    rintro ⟨tp, htp, hcovers⟩
    exact ⟨tp, htp, hev.covers hcovers⟩

lemma Overseen.pass (h : Overseen s) {now : Nat} (hnow : s.world.clock ≤ now)
    (hpermits : (s.tasks.all fun tp => tp.1.permits s.world now) = true) :
    Overseen ⟨{ s.world with clock := now }, s.tasks⟩ := by
  have hn := h.noted
  refine ⟨⟨fun id t ht => (hn.seen_le id t ht).trans hnow,
    fun id t ht => (hn.ended_le id t ht).trans hnow, hn.active, hn.terminal, hn.begun, hn.finished⟩,
    h.programs, h.recorded, fun node id spec auth d hsent hd => ?_⟩
  obtain ⟨hplaced, hseen⟩ := h.runs node id spec auth d hsent hd
  refine ⟨hplaced, ?_⟩
  rcases hseen with hdone | ⟨tp, htp, hcovers⟩
  · exact .inl hdone
  · exact (hcovers.pass hn hplaced hnow (List.all_eq_true.mp hpermits tp htp)).imp_right
      fun hcovers => ⟨tp, htp, hcovers⟩

lemma Overseen.crash (h : Overseen s) (hkept : kept s .crash = true) : Overseen ⟨s.world, []⟩ := by
  refine ⟨h.noted, by simp, by simp, fun node id spec auth d hsent hd => ?_⟩
  refine (h.runs node id spec auth d hsent hd).imp_right fun hseen => .inl ?_
  rcases hseen with hdone | ⟨⟨tag, q⟩, htp, hcovers⟩
  · exact hdone
  · have hidle := List.all_eq_true.mp hkept _ htp
    cases tag with
    | idle | located | recorded => exact hcovers.elim
    | _ => cases hidle

lemma Overseen.step (h : Overseen s) {e : TimerEvent} (hkept : kept s e = true)
    (hstep : timerStep p ctx s e = some s') : Overseen s' := by
  match e with
  | .crash =>
    cases hstep
    exact h.crash hkept
  | .machine (.act i c) => exact h.act hkept hstep
  | .machine (.outside v) =>
    obtain ⟨w', new, hout, rfl⟩ := Machine.step_outside_eq_some.mp hstep
    cases v with
    | spawnTask request =>
      cases hout
      exact h.spawn (wp_detached_timer (wp_spawnTask_timer p request))
    | killTask allocIdStr =>
      cases hout
      exact h.spawn (wp_detached_timer (wp_killTask_idle allocIdStr))
    | commit =>
      cases hout
      rw [List.append_nil]
      exact h.commit hkept
    | pass =>
      simp only [timers, Option.ite_none_right_eq_some] at hout
      obtain ⟨hnow, hout⟩ := hout
      cases hout
      rw [List.append_nil]
      exact h.pass hnow hkept

lemma Overseen.enforced (h : Overseen s) : s.world.Enforced := by
  intro node id spec auth d hsent hd t ht hlate
  have hseen := (h.runs node id spec auth d hsent hd).2
  rcases hseen with (⟨hnone, -⟩ | ⟨u, hu, hdone⟩) | ⟨tp, -, hcovers⟩
  · cases hnone.symm.trans ht
  · cases hu.symm.trans ht
    exact hdone
  · exact absurd (hcovers.clock_le ht) (not_le.mpr hlate)

/-- In every run in which the primary is there and on time while it owes something to a task, every
timeout is enforced. -/
theorem timeouts_enforced (p : Parsers) (ctx : DeployCtx) (clock : Nat)
    {events : List TimerEvent} {s : Timers}
    (hkept : Guarded (timerStep p ctx) (fun s e => kept s e = true) ⟨.start clock, []⟩ events)
    (hrun : run (timerStep p ctx) ⟨.start clock, []⟩ events = some s) : s.world.Enforced := by
  have hstart : Overseen ⟨.start clock, []⟩ := by
    refine ⟨⟨?_, ?_, ?_, ?_, ?_, ?_⟩, by simp, by simp, fun _ _ _ _ _ h => nomatch h⟩
    · exact nofun
    · exact nofun
    · exact nofun
    · exact nofun
    · exact fun _ _ h => absurd rfl h
    · exact fun _ _ h => absurd rfl h
  have hover : Overseen s :=
    run_invariant (fun s e s' hs hk hstep => hs.step hk hstep) hstart hkept hrun
  exact hover.enforced

end

def timedNode : FsmNode :=
  ⟨1, ⟨"n"⟩, ⟨.v4 1, 4400⟩, ⟨4, 4, 4096, 4096⟩, .ready, none, none, none, none⟩

def timedTask : List TimerEvent :=
  ([.outside (.commit (.nodeRegister 1 ⟨"n"⟩ ⟨.v4 1, 4400⟩ ⟨4, 4, 4096, 4096⟩ none none none none)),
    .outside (.spawnTask ⟨none, some "job:1", 1, "1Ki", ∅, some "5ns"⟩), .act 0 (.text "a"),
    .act 0 (.text "b"), .act 0 (.order [timedNode] [] []), .act 0 (.order [timedNode] [] []),
    .act 0 .proceed, .act 0 (.env []), .act 0 .proceed,
    .outside (.commit (.allocStatus ⟨"task-a-b"⟩ .running))] :
    List (Machine.Event Choice TimerInput)).map .machine

def timedOut : List TimerEvent :=
  ([.act 0 .proceed, .act 0 .proceed, .act 0 .proceed, .act 1 .proceed, .outside (.pass 5),
    .act 1 .proceed, .act 1 .proceed, .act 1 .proceed, .outside (.pass 9)] :
    List (Machine.Event Choice TimerInput)).map .machine

def timedRun (events : List TimerEvent) : Option Timers :=
  run (timerStep ⟨fun _ => .ok 1024, fun _ => .ok 5⟩ demoCtx) ⟨.start 0, []⟩ (timedTask ++ events)

theorem timeouts_enforced_once : ∃ s, timedRun timedOut = some s ∧
    (s.world.stops, s.world.clock) = ([(5, ⟨"n"⟩, ⟨"task-a-b"⟩)], 9) ∧ s.world.Enforced := by
  exact exists_end_and (by decide +kernel) fun s hrun _ =>
    timeouts_enforced _ _ 0 (by decide +kernel) hrun

def timedCommand : NodeId × NodeCommand → Bool
  | (_, .run id spec _) => id = ⟨"task-a-b"⟩ && spec.timeout = some 5
  | _ => false

/-- The primary crashes once the task runs, and whoever takes over has no timer for it. -/
theorem crash_forgets_timeout :
    ∃ s, timedRun [.crash, .machine (.outside (.pass 9))] = some s ∧ ¬ s.world.Enforced := by
  refine exists_end (p := fun s => (s.world.sent.any timedCommand = true ∧ s.world.stops = []) ∧
    s.world.seen ⟨"task-a-b"⟩ = some 0 ∧ s.world.ended ⟨"task-a-b"⟩ = none ∧ s.world.clock = 9)
    (by decide +kernel) ?_
  rintro s - ⟨⟨hsent, hstops⟩, hseen, hended, hclock⟩ henforced
  obtain ⟨⟨node, cmd⟩, hmem, hcmd⟩ := List.any_eq_true.mp hsent
  cases cmd with
  | run id spec auth =>
    simp only [timedCommand, Bool.and_eq_true, decide_eq_true_iff] at hcmd
    obtain ⟨rfl, hd⟩ := hcmd
    have hlate : 0 + 5 < s.world.clock := by
      rw [hclock]
      decide
    rcases henforced node _ spec auth 5 hmem hd 0 hseen hlate with ⟨t, -, ht⟩ | ⟨t, -, ht⟩
    · rw [hstops] at ht
      cases ht
    · cases hended.symm.trans ht
  | _ => cases hcmd

end Mill
