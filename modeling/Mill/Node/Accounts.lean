import Mill.Node.ReportFrame

/-! What the reports of a node will have made the cluster believe of its allocations once they are
all processed, and that this is what the node itself has in its map, up to what the command loop and
the exit waiters are still about to say. -/

namespace Mill

open Finmap Function

inductive Verdict
  | live
  | dead
  | unclear
deriving DecidableEq

inductive Word
  | silent
  | surely (v : Verdict)
  | perhaps (v : Verdict)

namespace Verdict

def ofStatus (status : AllocStatus) : Verdict := if status.isTerminal then .dead else .live

def hear (v : Verdict) : Word → Verdict
  | .silent => v
  | .surely v' => v'
  | .perhaps v' => if v = v' then v else .unclear

def Refines (v' v : Verdict) : Prop := v = .unclear ∨ v' = v

variable {v v' : Verdict}

lemma Refines.eq_of_ne (h : v'.Refines v) (hne : v ≠ .unclear) : v' = v := h.resolve_left hne

lemma Refines.hear (h : v'.Refines v) (word : Word) : (v'.hear word).Refines (v.hear word) := by
  rcases h with rfl | rfl
  · cases word with
    | silent => exact .inl rfl
    | surely => exact .inr rfl
    | perhaps => exact .inl (ite_self _)
  · exact .inr rfl

lemma refines_hear_perhaps (v x : Verdict) : v.Refines (v.hear (.perhaps x)) := by
  change v.Refines (if v = x then v else .unclear)
  split_ifs
  · exact .inr rfl
  · exact .inl rfl

end Verdict

def NodeReport.word (id : AllocId) : NodeReport → Word
  | .statusUpdate i status => if i = id then .surely (.ofStatus status) else .silent
  | .runFailed i _ | .stopped i _ => if i = id then .surely .dead else .silent
  | .heartbeat hb =>
    match hb.allocStatuses.lookup id with
    | some status => .perhaps (.ofStatus status)
    | none => .silent
  -- an `AllocRunning` never brings a terminal allocation back, nor ends one
  | .runStarted .. | .pullComplete _ | .pullFailed .. => .silent

def told (verdict : AllocId → Verdict) (reports : List NodeReport) (id : AllocId) : Verdict :=
  reports.foldl (fun v r => v.hear (r.word id)) (verdict id)

section

variable {verdict verdict' : AllocId → Verdict} {id : AllocId}

lemma told_append (verdict : AllocId → Verdict) (rs rs' : List NodeReport) :
    told verdict (rs ++ rs') = told (told verdict rs) rs' := by
  funext id
  exact List.foldl_append ..

lemma told_refines (rs : List NodeReport) (h : ∀ id, (verdict' id).Refines (verdict id)) :
    ∀ id, (told verdict' rs id).Refines (told verdict rs id) := by
  induction rs generalizing verdict verdict' with
  | nil => exact h
  | cons r rs ih =>
    have hr : ∀ id, (told verdict' [r] id).Refines (told verdict [r] id) :=
      fun id => (h id).hear (r.word id)
    exact ih hr

lemma told_congr (rs : List NodeReport) (h : verdict' id = verdict id) :
    told verdict' rs id = told verdict rs id := by
  rw [told, told, h]

lemma told_silent {r : NodeReport} (h : ∀ id, r.word id = .silent) :
    told verdict [r] = verdict := by
  funext id
  change (verdict id).hear (r.word id) = verdict id
  rw [h id]
  rfl

lemma told_surely {r : NodeReport} {v : Verdict}
    (h : ∀ i, r.word i = if id = i then .surely v else .silent) :
    told verdict [r] = Function.update verdict id v := by
  funext i
  change (verdict i).hear (r.word i) = Function.update verdict id v i
  rw [h i, update_apply]
  by_cases hid : id = i
  · rw [if_pos hid, if_pos hid.symm]
    rfl
  · rw [if_neg hid, if_neg (Ne.symm hid)]
    rfl

end

def WaiterPc.leaving : WaiterPc → Bool
  | .release _ | .remove _ => true
  | _ => false

def WaiterPc.reporting : WaiterPc → Bool
  | .report _ => true
  | _ => false

def Unwaited (waiters : List Waiter) (id : AllocId) : Prop :=
  ∀ x ∈ waiters, x.allocId = id → x.pc = .done

instance (waiters : List Waiter) (id : AllocId) : Decidable (Unwaited waiters id) :=
  inferInstanceAs (Decidable (∀ x ∈ waiters, _))

section

variable {waiters : List Waiter} {id : AllocId} {i : Nat} {w w' : Waiter}

lemma Unwaited.ne (h : Unwaited waiters id) (hw : waiters[i]? = some w) (hpc : w.pc ≠ .done) :
    w.allocId ≠ id := fun hid => hpc (h w (List.mem_of_getElem? hw) hid)

lemma Unwaited.set (h : Unwaited waiters id) (hw' : w'.allocId ≠ id) :
    Unwaited (waiters.set i w') id :=
  List.forall_mem_set h fun hid => absurd hid hw'

end

def LoopPhase.Holds (allocs : AllocationMap) (waiters : List Waiter) (verdict : AllocId → Verdict)
    (delivered : Finset AllocId) (id : AllocId) : LoopPhase → Prop
  | .checking => id ∈ delivered
  | .clearing => id ∈ delivered ∧ allocs.lookup id = none ∧ Unwaited waiters id
  | .running => id ∈ delivered ∧ allocs.lookup id = none ∧ Unwaited waiters id ∧ verdict id = .live
  | .up => (∃ l, allocs.lookup id = some l ∧ l.status.isTerminal = false) ∧ Unwaited waiters id
  | .failing | .stopped => allocs.lookup id = none
  | .stopping => True

structure Accounted (phase : Option (AllocId × LoopPhase)) (allocs : AllocationMap)
    (waiters : List Waiter) (verdict : AllocId → Verdict) (delivered : Finset AllocId) : Prop where
  live : ∀ id l, allocs.lookup id = some l → l.status.isTerminal = false → verdict id = .live
  exiting : ∀ id l, allocs.lookup id = some l → l.status.isTerminal = true →
    ∃ x ∈ waiters, x.allocId = id ∧ x.pc.leaving = true
  reporting : ∀ x ∈ waiters, x.pc.reporting = true → allocs.lookup x.allocId = none
  loop : ∀ id ph, phase = some (id, ph) → ph.Holds allocs waiters verdict delivered id
  settled : ∀ id ∈ delivered, allocs.lookup id = none → verdict id = .dead ∨
    (∃ ph, phase = some (id, ph)) ∨ ∃ x ∈ waiters, x.allocId = id ∧ x.pc.reporting = true
  delivered : ∀ id ∈ allocs, id ∈ delivered

namespace Accounted

variable {phase phase' : Option (AllocId × LoopPhase)} {allocs allocs' : AllocationMap}
  {waiters : List Waiter} {verdict verdict' : AllocId → Verdict} {delivered : Finset AllocId}
  {id : AllocId} {v : Verdict} {l : LocalAlloc}

section

variable (h : Accounted phase allocs waiters verdict delivered)

include h

lemma turn
    (hloop : ∀ id ph, phase' = some (id, ph) → ph.Holds allocs waiters verdict delivered id)
    (hleft : ∀ id ph, phase = some (id, ph) → allocs.lookup id = none →
      verdict id = .dead ∨ ∃ ph', phase' = some (id, ph')) :
    Accounted phase' allocs waiters verdict delivered := by
  obtain ⟨hlive, hexiting, hreporting, _, hsettled, hdelivered⟩ := h
  constructor <;> grind

lemma reverdict
    (hin : ∀ id l, allocs.lookup id = some l → l.status.isTerminal = false → verdict id = .live →
      verdict' id = .live)
    (hrun : ∀ id, phase = some (id, .running) → allocs.lookup id = none → verdict id = .live →
      verdict' id = .live)
    (hdead : ∀ id, allocs.lookup id = none → verdict id = .dead →
      verdict' id = .dead ∨ ∃ ph, phase = some (id, ph)) :
    Accounted phase allocs waiters verdict' delivered := by
  obtain ⟨hlive, hexiting, hreporting, hloop, hsettled, hdelivered⟩ := h
  refine ⟨?_, hexiting, hreporting, fun id ph hph => ?_, ?_, hdelivered⟩
  · grind
  · have hholds := hloop id ph hph
    cases ph <;> grind [LoopPhase.Holds]
  · grind

lemma of_refines (hv : ∀ id, (verdict' id).Refines (verdict id)) :
    Accounted phase allocs waiters verdict' delivered := by
  have hlive (id : AllocId) (hid : verdict id = .live) : verdict' id = .live := by
    rw [← hid]
    exact (hv id).eq_of_ne (by rw [hid]; decide)
  refine h.reverdict (fun id _ _ _ => hlive id) (fun id _ _ => hlive id) fun id _ hdead => ?_
  rw [← hdead]
  exact .inl ((hv id).eq_of_ne (by rw [hdead]; decide))

lemma congr {delivered' : Finset AllocId}
    (hsame : ∀ id, id ∈ allocs ∨ (∃ ph, phase = some (id, ph)) ∨ id ∈ delivered' →
      verdict' id = verdict id ∧ (id ∈ delivered' ↔ id ∈ delivered)) :
    Accounted phase allocs waiters verdict' delivered' := by
  obtain ⟨hlive, hexiting, hreporting, hloop, hsettled, hdelivered⟩ := h
  refine ⟨?_, hexiting, hreporting, fun id ph hph => ?_, ?_, ?_⟩
  · grind [mem_of_lookup_eq_some]
  · have hholds := hloop id ph hph
    cases ph <;> grind [LoopPhase.Holds]
  · grind
  · grind

lemma sayDead (hnone : allocs.lookup id = none) (hphase : phase ≠ some (id, .running)) :
    Accounted phase allocs waiters (Function.update verdict id .dead) delivered := by
  apply h.reverdict <;> grind [update_apply]

lemma heartbeat {hb : Heartbeat} (hhb : ∀ id status, hb.allocStatuses.lookup id = some status →
      (allocs.lookup id).map LocalAlloc.status = some status) :
    Accounted phase allocs waiters (told verdict [.heartbeat hb]) delivered := by
  have hword (id : AllocId) : told verdict [.heartbeat hb] id =
      (verdict id).hear (NodeReport.word id (.heartbeat hb)) := rfl
  apply h.reverdict <;>
    grind [NodeReport.word, Verdict.hear, Verdict.ofStatus]

end

lemma sayLive {ph : LoopPhase} (h : Accounted (some (id, ph)) allocs waiters verdict delivered) :
    Accounted (some (id, ph)) allocs waiters (Function.update verdict id .live) delivered := by
  apply h.reverdict <;> grind [update_apply]

lemma run (h : Accounted none allocs waiters verdict delivered) (id : AllocId) :
    Accounted (some (id, .checking)) allocs waiters verdict (insert id delivered) := by
  obtain ⟨hlive, hexiting, hreporting, hloop, hsettled, hdelivered⟩ := h
  constructor
  case settled =>
    intro i hi hnone
    by_cases hid : i = id
    · exact .inr (.inl ⟨.checking, by rw [hid]⟩)
    · grind
  all_goals grind [LoopPhase.Holds]

lemma stop (h : Accounted none allocs waiters verdict delivered) (id : AllocId) :
    Accounted (some (id, .stopping)) allocs waiters verdict delivered := by
  apply h.turn <;> grind [LoopPhase.Holds]

lemma present (h : Accounted (some (id, .checking)) allocs waiters verdict delivered)
    (hin : allocs.contains id = true) : Accounted none allocs waiters verdict delivered := by
  apply h.turn <;> grind [AllocationMap.contains]

lemma absent (h : Accounted (some (id, .checking)) allocs waiters verdict delivered)
    (hout : allocs.lookup id = none) (hfree : Unwaited waiters id) :
    Accounted (some (id, .clearing)) allocs waiters verdict delivered := by
  have hholds := h.loop id _ rfl
  apply h.turn <;> grind [LoopPhase.Holds]

lemma announce (h : Accounted (some (id, .clearing)) allocs waiters verdict delivered) :
    Accounted (some (id, .running)) allocs waiters (Function.update verdict id .live)
      delivered := by
  have hholds := h.loop id _ rfl
  apply h.sayLive.turn <;> grind [LoopPhase.Holds, update_self]

lemma fail (h : Accounted (some (id, .running)) allocs waiters verdict delivered) :
    Accounted (some (id, .failing)) allocs waiters verdict delivered := by
  have hholds := h.loop id _ rfl
  apply h.turn <;> grind [LoopPhase.Holds]

lemma finish {ph : LoopPhase} (h : Accounted (some (id, ph)) allocs waiters verdict delivered)
    (hnone : allocs.lookup id = none) (hph : ph ≠ .running) :
    Accounted none allocs waiters (Function.update verdict id .dead) delivered := by
  have hsaid := h.sayDead hnone (by grind)
  apply hsaid.turn <;> grind [update_self]

lemma insert (h : Accounted (some (id, .running)) allocs waiters verdict delivered)
    (hl : l.status = .running) :
    Accounted (some (id, .up)) (allocs.insert id l) waiters verdict delivered := by
  obtain ⟨hid, hout, hfree, hlive'⟩ := h.loop id _ rfl
  have hlt : l.status.isTerminal = false := by
    rw [hl]
    rfl
  obtain ⟨hlive, hexiting, hreporting, hloop, hsettled, hdelivered⟩ := h
  constructor <;> grind [LoopPhase.Holds, Finmap.lookup_insert_eq, mem_insert, Unwaited,
    WaiterPc.reporting]

lemma spawn (h : Accounted (some (id, .up)) allocs waiters verdict delivered)
    (hostPort : Option Nat) :
    Accounted none allocs (waiters ++ [⟨id, hostPort, .waiting⟩]) verdict delivered := by
  obtain ⟨⟨l, hl, ht⟩, -⟩ := h.loop id _ rfl
  obtain ⟨hlive, hexiting, hreporting, hloop, hsettled, hdelivered⟩ := h
  constructor <;> grind [WaiterPc.reporting]

lemma remove (h : Accounted (some (id, .stopping)) allocs waiters verdict delivered) :
    Accounted (some (id, .stopped)) (allocs.erase id) waiters verdict delivered := by
  obtain ⟨hlive, hexiting, hreporting, hloop, hsettled, hdelivered⟩ := h
  constructor
  case settled =>
    intro i hi hnone
    by_cases hid : i = id
    · exact .inr (.inl ⟨.stopped, by rw [hid]⟩)
    · grind [Finmap.lookup_erase_eq]
  all_goals grind [LoopPhase.Holds, Finmap.lookup_erase_eq, mem_erase]

variable {i : Nat} {w w' : Waiter} (h : Accounted phase allocs waiters verdict delivered)
  (hw : waiters[i]? = some w)

lemma isTerminal_exitStatus (exitCode : Int) :
    (Secondary.exitStatus exitCode).isTerminal = true := by
  unfold Secondary.exitStatus
  split_ifs
  · rfl
  · rfl

include h hw

lemma step (hpc : w.pc ≠ .done) (hid : w'.allocId = w.allocId)
    (hother : ∀ id, id ≠ w.allocId → allocs'.lookup id = allocs.lookup id)
    (hnone : allocs.lookup w.allocId = none → allocs'.lookup w.allocId = none)
    (hlive : ∀ l, allocs'.lookup w.allocId = some l → l.status.isTerminal = false →
      verdict w.allocId = .live)
    (hexit : ∀ l, allocs'.lookup w.allocId = some l → l.status.isTerminal = true →
      ∃ x ∈ waiters.set i w', x.allocId = w.allocId ∧ x.pc.leaving = true)
    (hreport : w'.pc.reporting = true → allocs'.lookup w.allocId = none)
    (hsettled : w.allocId ∈ delivered → allocs'.lookup w.allocId = none →
      verdict w.allocId = .dead ∨ (∃ ph, phase = some (w.allocId, ph)) ∨
        ∃ x ∈ waiters.set i w', x.allocId = w.allocId ∧ x.pc.reporting = true) :
    Accounted phase allocs' (waiters.set i w') verdict delivered := by
  -- the waiters of other allocations are still there
  have hkept : ∀ x ∈ waiters, x.allocId ≠ w.allocId → x ∈ waiters.set i w' := by
    intro x hx hne
    exact List.mem_set_of_ne hw hx fun heq => hne (by rw [heq])
  have hmem : ∀ x ∈ waiters.set i w', x ∈ waiters ∨ x = w' := fun x => List.mem_or_eq_of_mem_set
  have hout (j : AllocId) (hj : allocs.lookup j = none) : allocs'.lookup j = none := by
    grind
  obtain ⟨hlive', hexiting, hreporting, hloop, hsettled', hdelivered⟩ := h
  constructor
  case loop =>
    intro j ph hph
    have hholds := hloop j ph hph
    have hfree (hj : Unwaited waiters j) : Unwaited (waiters.set i w') j ∧ j ≠ w.allocId := by
      have hne : w.allocId ≠ j := hj.ne hw hpc
      exact ⟨hj.set (by rwa [hid]), hne.symm⟩
    cases ph <;> grind [LoopPhase.Holds]
  case delivered =>
    intro j hj
    refine hdelivered j ?_
    by_contra hno
    exact absurd (hout j (lookup_eq_none.mpr hno)) (fun heq => lookup_eq_none.mp heq hj)
  case exiting =>
    intro j l hl ht
    by_cases hj : j = w.allocId <;> grind
  case settled =>
    intro j hjd hjout
    by_cases hj : j = w.allocId <;> grind
  all_goals grind

lemma wait (hpc : w.pc ≠ .done) (hid : w'.allocId = w.allocId)
    (hleaving : w.pc.leaving = true → w'.pc.leaving = true)
    (hreporting : w'.pc.reporting = w.pc.reporting) :
    Accounted phase allocs (waiters.set i w') verdict delivered := by
  have hexiting := h.exiting w.allocId
  have hreporting' := h.reporting w (List.mem_of_getElem? hw)
  have hsettled := h.settled w.allocId
  have hset {P : Waiter → Prop} (hx : ∃ x ∈ waiters, P x) (hP : P w → P w') :
      ∃ x ∈ waiters.set i w', P x := List.exists_mem_set hw hx hP
  refine h.step hw hpc hid (fun _ _ => rfl) (fun hnone => hnone) (h.live w.allocId)
    (fun l hl ht => ?_) (fun hrep => ?_) fun hin hnone => ?_
  · exact hset (hexiting l hl ht) fun hx => ⟨hid.trans hx.1, hleaving hx.2⟩
  · exact hreporting' (hreporting ▸ hrep)
  · refine (hsettled hin hnone).imp_right (Or.imp_right fun hx => ?_)
    exact hset hx fun hx => ⟨hid.trans hx.1, hreporting ▸ hx.2⟩

lemma exit {exitCode : Int} (hpc : w.pc = .setStatus exitCode) :
    Accounted phase (allocs.setStatus w.allocId (Secondary.exitStatus exitCode))
      (waiters.set i { w with pc := .release exitCode }) verdict delivered := by
  have hlookup (j : AllocId) :
      (allocs.setStatus w.allocId (Secondary.exitStatus exitCode)).lookup j =
        if j = w.allocId then (allocs.lookup j).map fun l =>
          { l with status := Secondary.exitStatus exitCode }
        else allocs.lookup j := Finmap.lookup_modify ..
  have hterminal := isTerminal_exitStatus exitCode
  have hself := List.mem_set_self (b := { w with pc := .release exitCode }) hw
  have hkept {x : Waiter} (hx : x ∈ waiters) (hrep : x.pc.reporting = true) :
      x ∈ waiters.set i { w with pc := .release exitCode } :=
    List.mem_set_of_ne hw hx fun heq => by simp [heq, hpc, WaiterPc.reporting] at hrep
  have hsettled := h.settled w.allocId
  cases hl : allocs.lookup w.allocId <;> apply h.step hw <;>
    grind [WaiterPc.reporting, WaiterPc.leaving]

lemma leave {exitCode : Int} (hpc : w.pc = .remove exitCode) :
    Accounted phase (allocs.erase w.allocId) (waiters.set i { w with pc := .report exitCode })
      verdict delivered := by
  have hself := List.mem_set_self (b := { w with pc := .report exitCode }) hw
  apply h.step hw <;> grind [Finmap.lookup_erase_eq, WaiterPc.reporting]

lemma report {exitCode : Int} (hpc : w.pc = .report exitCode) :
    Accounted phase allocs (waiters.set i { w with pc := .done })
      (Function.update verdict w.allocId .dead) delivered := by
  have hmem := List.mem_of_getElem? hw
  have hout : allocs.lookup w.allocId = none := h.reporting w hmem (by rw [hpc]; rfl)
  have hdone : w.pc ≠ .done := by
    rw [hpc]
    exact WaiterPc.noConfusion
  have hsaid := h.sayDead hout fun hph => (h.loop _ _ hph).2.2.1.ne hw hdone rfl
  apply hsaid.step hw <;> grind [update_self]

end Accounted

namespace Secondary

/-- The loop can go on: it does not start what an exit waiter is not done with, and there is a port
if one is asked for. -/
def CanGo (s : Secondary) : LoopPc → Prop
  | .check id _ => s.allocs.contains id = true ∨ Unwaited s.waiters id
  | .allocatePort id spec => spec.port.isSome = true → (s.ports.allocate id).isSome = true
  | _ => True

instance (s : Secondary) : ∀ pc, Decidable (s.CanGo pc) := fun e => by
  unfold CanGo
  split <;> infer_instance

def Steady (s : Secondary) : SecondaryEvent → Prop
  | .loop => s.CanGo s.loop
  | .heartbeat => ∀ hb ∈ s.pendingHeartbeat, ∀ id ∈ hb.allocStatuses.keys,
    (s.allocs.lookup id).map LocalAlloc.status = hb.allocStatuses.lookup id
  | _ => True

instance (s : Secondary) : ∀ e, Decidable (s.Steady e) := fun e => by
  unfold Steady
  split <;> infer_instance

variable {s : Secondary} {e : SecondaryEvent} {v : SecondaryView} {verdict : AllocId → Verdict}
  {delivered : Finset AllocId}

lemma Moves.accounted (hs : s.Proper) (h : s.Moves e v) (hcmd : ∀ cmd, e ≠ .command cmd)
    (he : s.Steady e)
    (ha : Accounted s.loop.phase s.allocs s.waiters (told verdict s.reports) delivered) :
    Accounted v.phase v.allocs v.waiters (told verdict v.reports) delivered := by
  have hsurely {id : AllocId} {r : NodeReport} {x : Verdict}
      (hr : ∀ i, r.word i = if id = i then .surely x else .silent) :
      told verdict (s.reports ++ [r]) = Function.update (told verdict s.reports) id x := by
    rw [told_append, told_surely hr]
  have hsilent {r : NodeReport} (hr : ∀ i, r.word i = .silent) :
      told verdict (s.reports ++ [r]) = told verdict s.reports := by
    rw [told_append, told_silent hr]
  cases h with
  | rest => exact ha
  | run hphase | stop hphase => exact absurd rfl (hcmd _)
  | present hloop hin =>
    rw [hloop] at ha
    exact ha.present hin
  | @absent id spec hloop hout =>
    have hgo : s.CanGo s.loop := he
    rw [hloop] at ha hgo
    refine ha.absent hout (hgo.resolve_left ?_)
    rw [AllocationMap.contains, hout]
    exact Bool.noConfusion
  | @announce id hphase =>
    rw [hphase] at ha
    change Accounted _ _ _ (told verdict (s.reports ++ [_])) _
    rw [hsurely fun i => rfl]
    exact ha.announce
  | @starting id hphase =>
    change Accounted s.loop.phase _ _ (told verdict (s.reports ++ [_])) _
    rw [hsurely fun i => rfl]
    rw [hphase] at ha ⊢
    exact ha.sayLive
  | @exhausted id spec hloop hport hnone =>
    have hgo : s.CanGo s.loop := he
    rw [hloop] at hgo
    have hsome := hgo hport
    rw [hnone] at hsome
    cases hsome
  | fail hphase =>
    rw [hphase] at ha
    exact ha.fail
  | insert hphase hl =>
    rw [hphase] at ha
    exact ha.insert hl
  | duplicate hphase hin =>
    rw [hphase] at ha
    obtain ⟨-, hout, -⟩ := ha.loop _ _ rfl
    rw [AllocationMap.contains, hout] at hin
    cases hin
  | started =>
    change Accounted _ _ _ (told verdict (s.reports ++ [_])) _
    rw [hsilent fun i => rfl]
    exact ha
  | @spawn id hostPort hphase =>
    rw [hphase] at ha
    exact ha.spawn hostPort
  | runFailed hphase | stopped hphase =>
    rw [hphase] at ha
    change Accounted _ _ _ (told verdict (s.reports ++ [_])) _
    rw [hsurely fun i => rfl]
    exact ha.finish (ha.loop _ _ rfl) LoopPhase.noConfusion
  | remove hphase =>
    rw [hphase] at ha
    exact ha.remove
  | @pulled r hloop =>
    change Accounted _ _ _ (told verdict (s.reports ++ [_])) _
    rw [hsilent fun i => ?_]
    · exact ha
    · have hr := hs r hloop
      cases r with
      | pullComplete => rfl
      | pullFailed => rfl
      | _ => cases hr
  | exited hw hpc =>
    refine ha.wait hw (by rw [hpc]; exact WaiterPc.noConfusion) rfl (fun hl => ?_)
      (by rw [hpc]; rfl)
    rw [hpc] at hl
    cases hl
  | exit hw hpc => exact ha.exit hw hpc
  | release hw hpc =>
    exact ha.wait hw (by rw [hpc]; exact WaiterPc.noConfusion) rfl (fun _ => rfl) (by rw [hpc]; rfl)
  | leave hw hpc => exact ha.leave hw hpc
  | report hw hpc =>
    change Accounted _ _ _ (told verdict (s.reports ++ [_])) _
    rw [hsurely fun i => rfl]
    exact ha.report hw hpc
  | tick => exact ha
  | @heartbeat hb hbeat =>
    change Accounted _ _ _ (told verdict (s.reports ++ [_])) _
    rw [told_append]
    refine ha.heartbeat fun id status hst => ?_
    have hmem : id ∈ hb.allocStatuses.keys :=
      mem_keys.mpr (mem_of_lookup_eq_some hst)
    rw [← hst]
    exact he hb hbeat id hmem

end Secondary

end Mill
