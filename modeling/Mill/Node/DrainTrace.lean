import Mill.Node.UpdateTrace

/-! What a drain does to the allocations of its node, in the order in which it does it. -/

namespace Mill

open List Option Program

variable {I : World → List StartMark → Prop} {φ : List StartMark} {s : FsmState} {millId : NodeId}

/-- Beside a drain of the node `nodeId` that began in `s`: the configuration and the names of the
nodes are those of `s`, and the node drains once the drain has said so. -/
structure Drains (s : FsmState) (nodeId : Nat) (w : World) (φ : List StartMark) : Prop where
  config : w.fsm.config = s.config
  millId : ∀ k, w.fsm.millIdAt k = s.millIdAt k
  status : .drained nodeId ∈ φ → ∀ n, w.fsm.nodes.lookup nodeId = some n → n.status = .draining

variable {nodeId : Nat} {w w' : World}

lemma Drains.placed (h : Drains s nodeId w φ) (hdrained : .drained nodeId ∈ φ)
    (hlone : ∀ k, s.millIdAt k = some millId → k = nodeId) {name : String} {d : ServiceDef}
    {n : NodeId} (hans : w.Answered (.read (.place name d)) (some n) w') : n ≠ millId := by
  rintro rfl
  generalize hr : some n = r at hans
  cases hans with
  | read q v =>
    obtain ⟨node, hnode, hname, hready, -⟩ := exists_of_schedule_eq_some hr.symm
    rw [← Multiset.mem_coe, ← v.nodes_eq] at hnode
    obtain ⟨k, hk⟩ := Finmap.mem_values.mp hnode
    have hat : s.millIdAt k = some n := by
      rw [← h.millId k, FsmState.millIdAt, hk, map_some, hname]
    obtain rfl := hlone k hat
    cases hready.symm.trans (h.status hdrained node hk)

def DrainEffect (nodeId : Nat) (e : Effect) : Prop :=
  ∀ c, e = .propose c → c = .nodeDrain nodeId ∨
    ∀ s, (applyCommand s c).1.nodes = s.nodes ∧ (applyCommand s c).1.config = s.config

lemma Drains.step {e : Effect} {r : e.Answer} (h : Drains s nodeId w φ)
    (he : DrainEffect nodeId e) (hans : w.Answered e r w') :
    Drains s nodeId w' (φ ++ (e.mark r).toList) := by
  by_cases hdrain : e.applied r = some (.nodeDrain nodeId)
  · have hfsm : w'.fsm = (applyCommand w.fsm (.nodeDrain nodeId)).1 := by
      rw [hans.fsm_eq, hdrain]
      rfl
    refine ⟨?_, fun k => ?_, fun _ n hn => ?_⟩
    · rw [hfsm, config_applyCommand (by rintro _ ⟨⟩), h.config]
    · rw [hfsm, FsmState.millIdAt_applyCommand]
      exact h.millId k
    · rw [hfsm, lookup_nodes_applyCommand, nodeAfter, if_pos rfl] at hn
      obtain ⟨m, -, rfl⟩ := map_eq_some_iff.mp hn
      rfl
  · have hsame : w'.fsm.nodes = w.fsm.nodes ∧ w'.fsm.config = w.fsm.config := by
      rw [hans.fsm_eq]
      cases hc : e.applied r with
      | none => exact ⟨rfl, rfl⟩
      | some c =>
        rcases he c (Effect.eq_propose hc) with rfl | hkept
        · exact absurd hc hdrain
        · exact hkept w.fsm
    refine ⟨hsame.2.trans h.config, fun k => ?_, fun hdrained n hn => ?_⟩
    · rw [FsmState.millIdAt, hsame.1]
      exact h.millId k
    · rw [hsame.1] at hn
      rcases mem_append.mp hdrained with hold | hnew
      · exact h.status hold n hn
      · have hmark : e.mark r = some (.drained nodeId) := mem_toList.mp hnew
        unfold Effect.mark at hmark
        split at hmark
        all_goals cases hmark
        exact absurd rfl hdrain

end Mill
