import Mill.Lib.List
import Mill.Node.Placement
import Mill.Node.References

/-! Run commands and the allocations behind them. -/

namespace Mill

open List Option Transition

namespace PlacementSystem

def accepts (s : PlacementSystem) (e : PlacementEvent) : List (AllocId × NodeId) :=
  match s.command e with
  | some (.allocScheduled allocId nodeId _ _ _ _) =>
    ((s.fsm.millIdAt nodeId).map fun millId => (allocId, millId)).toList
  | _ => []

def accepted (s : PlacementSystem) (es : List PlacementEvent) : List (AllocId × NodeId) :=
  trace step accepts s es

end PlacementSystem

def PlacementPc.locatedAt : PlacementPc → Option Nat
  | .located _ raftId => some raftId
  | _ => none

namespace PlacementSystem

def locating (s : PlacementSystem) (id : Nat) : Bool :=
  s.runs.any fun r => r.pc.locatedAt == some id

/-- No node is removed, and no raft id given to another node, while a run that has found the
node under that raft id has not proposed yet. -/
def Undisturbed (s : PlacementSystem) : PlacementEvent → Prop
  | .commit (.nodeRemove id) => s.fsm.busy id = true ∨ s.locating id = false
  | .commit (.nodeRegister id millId _ _ _ _ _ _) =>
    s.fsm.millIdAt id = some millId ∨ s.locating id = false
  | _ => True

instance (s : PlacementSystem) : ∀ e, Decidable (s.Undisturbed e) := fun e => by
  unfold Undisturbed
  split <;> infer_instance

structure Backed (accepted : List (AllocId × NodeId)) (s : PlacementSystem) : Prop where
  keyed : s.fsm.NodesKeyed
  located : ∀ r ∈ s.runs, ∀ node raftId, r.pc = .located node raftId →
    s.fsm.millIdAt raftId = some node
  recorded : ∀ r ∈ s.runs, ∀ node, r.pc = .recorded node → (r.allocId, node) ∈ accepted
  sent : ∀ node allocId spec auth, (node, .run allocId spec auth) ∈ s.sent →
    (allocId, node) ∈ accepted

lemma locating_of_mem {s : PlacementSystem} {r : PlacementRun} {node : NodeId} {raftId : Nat}
    (hr : r ∈ s.runs) (hpc : r.pc = .located node raftId) : s.locating raftId = true := by
  refine List.any_eq_true.mpr ⟨r, hr, ?_⟩
  rw [hpc]
  exact beq_self_eq_true _

lemma millIdAt_commit {s : PlacementSystem} {c : Command} (hc : s.Undisturbed (.commit c))
    {node : NodeId} {raftId : Nat} (hold : s.fsm.millIdAt raftId = some node)
    (hlocating : s.locating raftId = true) :
    (applyCommand s.fsm c).1.millIdAt raftId = some node := by
  rw [FsmState.millIdAt_applyCommand]
  cases c with
  | nodeRegister =>
    rw [FsmState.millIdAfter]
    split_ifs with hid
    · subst hid
      rcases hc with hsame | hnone
      · exact hsame.symm.trans hold
      · rw [hlocating] at hnone
        cases hnone
    · exact hold
  | nodeRemove =>
    rw [FsmState.millIdAfter]
    split_ifs with hid
    · obtain ⟨rfl, hidle⟩ := hid
      rcases hc with hbusy | hnone
      · rw [hidle] at hbusy
        cases hbusy
      · rw [hlocating] at hnone
        cases hnone
    · exact hold
  | _ => exact hold

end PlacementSystem

inductive PlacementRun.Moves (fsm : FsmState) (r : PlacementRun) (o : Outcome) : Prop
  | locate {nodes : List FsmNode} {node : NodeId} {raftId : Nat}
      (hnodes : fsm.nodes.values = nodes) (hid : FsmState.raftIdFor nodes node = some raftId)
      (ho : o = { pc := .located node raftId })
  | propose {node : NodeId} {raftId : Nat} (hpc : r.pc = .located node raftId) (ho : o =
        { pc := .recorded node
          command := some (.allocScheduled r.allocId raftId r.name r.work.kind none
            (.ofResources r.work.resources)) })
  | sendRun {node : NodeId} {spec : ContainerSpec} (hpc : r.pc = .recorded node)
      (ho : o = { pc := .sent, message := some (node, .run r.allocId spec none) })
  | other (hlocated : ∀ node raftId, o.pc ≠ .located node raftId)
      (hrecorded : ∀ node, o.pc ≠ .recorded node) (hmessage : o.message = none)
      (hcommand : ∀ c, o.command = some c → ∃ status, c = .allocStatus r.allocId status)

lemma PlacementRun.moves_of_step {fsm : FsmState} {r : PlacementRun} {e : RunEvent}
    {o : Outcome} (h : r.step fsm e = some o) : r.Moves fsm o := by
  cases e with
  | place nodes allocs volumes | waitForStatus =>
    simp only [step, ite_none_right_eq_some] at h
    obtain ⟨-, h⟩ := h
    split at h <;> cases h
    all_goals exact .other (by simp) (by simp) rfl (by simp)
  | locate =>
    simp only [step] at h
    split at h
    · rw [ite_none_right_eq_some] at h
      obtain ⟨hnodes, h⟩ := h
      split at h <;> cases h
      · exact .locate hnodes ‹_› rfl
      · exact .other (by simp) (by simp) rfl (by simp)
    · cases h
  | propose =>
    obtain ⟨node, raftId, hpc, ho⟩ := step_propose h
    exact .propose hpc ho
  | sendRun =>
    simp only [step] at h
    split at h <;> cases h
    exact .sendRun ‹_› rfl
  | pollForAddress | proposeHealthy | giveUp =>
    simp only [step, ite_none_right_eq_some, ite_none_left_eq_some, Option.some.injEq] at h
    obtain ⟨-, rfl⟩ := h
    exact .other (by simp) (by simp) rfl (by simp)
  | proposeFailed =>
    simp only [step] at h
    split at h <;> cases h
    all_goals exact .other (by simp) (by simp) rfl (by simp)

namespace PlacementSystem

variable {s s' : PlacementSystem} {acc acc' : List (AllocId × NodeId)}

lemma Backed.set (hs : Backed acc s) {i : Nat} {r : PlacementRun} {o : Outcome} {fsm : FsmState}
    (hacc : acc ⊆ acc') (hkeyed : fsm.NodesKeyed)
    (hmill : ∀ k, fsm.millIdAt k = s.fsm.millIdAt k)
    (hlocated : ∀ node raftId, o.pc = .located node raftId → fsm.millIdAt raftId = some node)
    (hrecorded : ∀ node, o.pc = .recorded node → (r.allocId, node) ∈ acc')
    (hsent : ∀ node allocId spec auth, o.message = some (node, .run allocId spec auth) →
      (allocId, node) ∈ acc') :
    Backed acc' ⟨fsm, s.runs.set i { r with pc := o.pc }, s.sent ++ o.message.toList⟩ where
  keyed := hkeyed
  located := by
    refine List.forall_mem_set (fun r' hr' node raftId hpc => ?_) hlocated
    rw [hmill]
    exact hs.located r' hr' node raftId hpc
  recorded :=
    List.forall_mem_set (fun r' hr' node hpc => hacc (hs.recorded r' hr' node hpc)) hrecorded
  sent := by
    intro node allocId spec auth hmem
    rcases mem_append.mp hmem with hold | hnew
    · exact hacc (hs.sent node allocId spec auth hold)
    · exact hsent node allocId spec auth (mem_toList.mp hnew)

lemma backed_run (hs : Backed acc s) {i : Nat} {e : RunEvent}
    (h : s.step (.run i e) = some s') : Backed (acc ++ s.accepts (.run i e)) s' := by
  obtain ⟨r, o, hr, ho, rfl⟩ := step_run_eq_some.mp h
  have hmem : r ∈ s.runs := mem_of_getElem? hr
  have hacc : acc ⊆ acc ++ s.accepts (.run i e) := subset_append_left ..
  have hcommand : s.command (.run i e) = o.command := by
    simp only [command, hr, ho, bind_eq_bind, bind_some]
  cases PlacementRun.moves_of_step ho with
  | @locate nodes node raftId hnodes hid ho' =>
    subst ho'
    refine hs.set hacc hs.keyed (fun _ => rfl) ?_ (by simp) (by simp)
    rintro node' raftId' ⟨⟩
    obtain ⟨n, hn, hmill⟩ := lookup_of_raftIdFor hs.keyed hnodes hid
    rw [applied, FsmState.millIdAt, hn, map_some, hmill]
  | @propose node raftId hpc ho' =>
    subst ho'
    refine hs.set hacc (nodesKeyed_applyCommand hs.keyed _)
      (fun k => FsmState.millIdAt_applyCommand ..) (by simp) ?_ (by simp)
    rintro node' ⟨⟩
    -- the node is still registered under the raft id, so the proposal is accepted
    refine mem_append_right acc ?_
    simp only [accepts, hcommand, hs.located r hmem node raftId hpc, map_some,
      toList_some, mem_singleton]
  | @sendRun node spec hpc ho' =>
    subst ho'
    refine hs.set hacc hs.keyed (fun _ => rfl) (by simp) (by simp) ?_
    rintro node' allocId spec' auth ⟨⟩
    exact hacc (hs.recorded r hmem node hpc)
  | other hlocated hrecorded hmessage hstatus =>
    have hsame : (applied s.fsm o.command).NodesKeyed ∧
        ∀ k, (applied s.fsm o.command).millIdAt k = s.fsm.millIdAt k := by
      cases hc : o.command with
      | none => exact ⟨hs.keyed, fun _ => rfl⟩
      | some c =>
        obtain ⟨status, rfl⟩ := hstatus c hc
        exact ⟨nodesKeyed_applyCommand hs.keyed _, fun k => FsmState.millIdAt_applyCommand ..⟩
    refine hs.set hacc hsame.1 hsame.2 (fun node raftId hpc => absurd hpc (hlocated node raftId))
      (fun node hpc => absurd hpc (hrecorded node)) ?_
    intro node allocId spec auth hsome
    rw [hmessage] at hsome
    cases hsome

lemma backed_step (hs : Backed acc s) {e : PlacementEvent} (he : s.Undisturbed e)
    (h : s.step e = some s') : Backed (acc ++ s.accepts e) s' := by
  have hacc : acc ⊆ acc ++ s.accepts e := subset_append_left ..
  cases e with
  | start =>
    cases h
    refine ⟨hs.keyed, ?_, ?_, fun node id spec auth hmem => hacc (hs.sent node id spec auth hmem)⟩
    · intro r hr node raftId hpc
      rcases mem_append.mp hr with hold | hnew
      · exact hs.located r hold node raftId hpc
      · rw [mem_singleton.mp hnew] at hpc
        cases hpc
    · intro r hr node hpc
      rcases mem_append.mp hr with hold | hnew
      · exact hacc (hs.recorded r hold node hpc)
      · rw [mem_singleton.mp hnew] at hpc
        cases hpc
  | run => exact backed_run hs h
  | commit c =>
    rw [step, ite_none_left_eq_some] at h
    cases h.2
    refine ⟨nodesKeyed_applyCommand hs.keyed c, ?_,
      fun r hr node hpc => hacc (hs.recorded r hr node hpc),
      fun node id spec auth hmem => hacc (hs.sent node id spec auth hmem)⟩
    intro r hr node raftId hpc
    exact millIdAt_commit he (hs.located r hr node raftId hpc) (locating_of_mem hr hpc)

/-- In every interleaving in which no node is taken away between the time when a run has found it
and the time when it proposes, a Run command is sent only for an allocation that was accepted for
that node. -/
theorem run_was_recorded (cmds : List Command) (es : List PlacementEvent) (s : PlacementSystem)
    (hes : Guarded step Undisturbed (init (applyAll default cmds)) es)
    (hrun : run step (init (applyAll default cmds)) es = some s) (node : NodeId) (allocId : AllocId)
    (spec : ContainerSpec) (auth : Option RegistryCredentials)
    (hsent : (node, .run allocId spec auth) ∈ s.sent) :
    (allocId, node) ∈ accepted (init (applyAll default cmds)) es := by
  have hbacked : Backed (accepted (init (applyAll default cmds)) es) s := by
    refine run_invariant_history
      (I := fun as s => Backed (accepted (init (applyAll default cmds)) as) s) ?_ ?_ hes hrun
    · intro as s e s' has hs he hstep
      rw [accepted, trace_concat has]
      exact backed_step hs he hstep
    · refine ⟨nodesKeyed_applyAll cmds, ?_, ?_, ?_⟩
      · intro r hr
        cases hr
      · intro r hr
        cases hr
      · intro node allocId spec auth hmem
        cases hmem
  exact hbacked.sent node allocId spec auth hsent

def demoRegistered : List Command := [.demoRegister 1 "n"]

def demoStart (between : List PlacementEvent) : List PlacementEvent :=
  [.start "web" ⟨"web-0"⟩ demoWeb] ++ demoPlaced 0 [] ++ between ++
    [.run 0 .propose, .run 0 (.sendRun ∅)]

def demoRunCommand : NodeId × NodeCommand :=
  (⟨"n"⟩, .run ⟨"web-0"⟩ (demoWeb.containerSpec ⟨"web-0"⟩ ∅) none)

theorem run_was_recorded_draining :
    ∃ s, run step (init (applyAll default demoRegistered)) (demoStart [.commit (.nodeDrain 1)]) =
        some s ∧ s.sent = [demoRunCommand] ∧
      (⟨"web-0"⟩, ⟨"n"⟩) ∈ accepted (init (applyAll default demoRegistered))
        (demoStart [.commit (.nodeDrain 1)]) := by
  refine exists_end_and (by decide +kernel) fun s hs hsent => ?_
  refine run_was_recorded demoRegistered _ s ?_ hs _ _ (demoWeb.containerSpec ⟨"web-0"⟩ ∅) none ?_
  · decide +kernel
  · rw [hsent]
    exact mem_singleton_self _

/-- The node is removed before the allocation is proposed: the proposal is rejected, and the node
is told to run the container all the same. -/
theorem run_without_record :
    ∃ s, run step (init (applyAll default demoRegistered)) (demoStart [.commit (.nodeRemove 1)]) =
        some s ∧ s.sent = [demoRunCommand] ∧ s.fsm.allocs.lookup ⟨"web-0"⟩ = none ∧
      accepted (init (applyAll default demoRegistered)) (demoStart [.commit (.nodeRemove 1)]) =
        [] := by
  decide +kernel

end PlacementSystem

end Mill
