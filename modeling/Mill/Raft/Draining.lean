import Mill.Raft.Effect

/-! When a drained node stays out of the scheduler's choice. -/

namespace Mill

def nodeStatus (s : FsmState) (k : Nat) : Option NodeStatus :=
  (s.nodes.lookup k).map FsmNode.status

def Registers (k : Nat) : Command → Prop
  | .nodeRegister id .. => id = k
  | _ => False

def Drained (s : FsmState) (cs : List Command) (k : Nat) : Prop :=
  ∃ as bs, cs = as ++ bs ∧ nodeStatus (applyAll s as) k = some .draining ∧ ∀ c ∈ bs, ¬ Registers k c

def DrainingSticky (s : FsmState) (cs : List Command) : Prop :=
  ∀ as bs k, as ++ bs <+: cs → nodeStatus (applyAll s as) k = some .draining →
    nodeStatus (applyAll s (as ++ bs)) k = some .ready → ∃ c ∈ bs, Registers k c

lemma ready_of_applyCommand {s : FsmState} {c : Command} {k : Nat}
    (h : nodeStatus (applyCommand s c).1 k = some .ready) :
    nodeStatus s k = some .ready ∨ Registers k c ∨
      (nodeStatus s k = some .down ∧ ∃ statuses, c = .nodeHeartbeat k statuses) := by
  rw [nodeStatus, lookup_nodes_applyCommand] at h
  cases c with
  | nodeRegister =>
    simp only [nodeAfter] at h
    split_ifs at h with hk
    · exact .inr (.inl hk.symm)
    · exact .inl h
  | nodeHeartbeat id statuses =>
    simp only [nodeAfter] at h
    split_ifs at h with hk
    · subst hk
      cases hn : s.nodes.lookup k with
      | none =>
        rw [hn] at h
        cases h
      | some =>
        rw [hn, Option.map_some, Option.map_some] at h
        split_ifs at h with hdown
        · refine .inr (.inr ⟨?_, statuses, rfl⟩)
          rw [nodeStatus, hn, Option.map_some, hdown]
        · refine .inl ?_
          rw [nodeStatus, hn]
          exact h
    · exact .inl h
  | nodeDown id | nodeDrain id =>
    simp only [nodeAfter] at h
    split_ifs at h with hk
    · rw [Option.map_map, Option.map_eq_some_iff] at h
      obtain ⟨n, -, hn⟩ := h
      cases hn
    · exact .inl h
  | nodeRemove =>
    simp only [nodeAfter] at h
    split at h
    · split_ifs at h
      · exact .inl h
      · cases h
      · exact .inl h
    · exact .inl h
  | _ => exact .inl h

lemma nodeStatus_nodeHeartbeat {s : FsmState} {k : Nat} (h : nodeStatus s k = some .down)
    (statuses : Finmap fun _ : AllocId => AllocStatus) :
    nodeStatus (applyCommand s (.nodeHeartbeat k statuses)).1 k = some .ready := by
  obtain ⟨n, hn, hdown⟩ := Option.map_eq_some_iff.mp h
  rw [nodeStatus, lookup_nodes_applyCommand]
  simp only [nodeAfter, if_true, hn, Option.map_some, hdown]

lemma applyAll_concat (s : FsmState) (cs : List Command) (c : Command) :
    applyAll s (cs ++ [c]) = (applyCommand (applyAll s cs) c).1 := by
  rw [applyAll_append]
  rfl

lemma not_ready_of_drained {s : FsmState} {as bs : List Command} {k : Nat}
    (hstart : nodeStatus (applyAll s as) k = some .draining) (hbs : ∀ c ∈ bs, ¬ Registers k c)
    (hquiet : ∀ ds statuses, ds ++ [.nodeHeartbeat k statuses] <+: as ++ bs → Drained s ds k →
      nodeStatus (applyAll s ds) k ≠ some .down) :
    nodeStatus (applyAll s (as ++ bs)) k ≠ some .ready := by
  -- the induction is on the commands since the drain, from the last one
  induction bs using List.reverseRecOn with
  | nil =>
    rw [List.append_nil, hstart]
    decide
  | append_singleton bs c ih =>
    have hpre : ∀ d ∈ bs, ¬ Registers k d := fun d hd => hbs d (List.mem_append_left [c] hd)
    have hprefix : as ++ bs <+: as ++ (bs ++ [c]) := ⟨[c], List.append_assoc as bs [c]⟩
    have hbefore := ih hpre fun ds statuses hds => hquiet ds statuses (hds.trans hprefix)
    intro hready
    rw [← List.append_assoc, applyAll_concat] at hready
    rcases ready_of_applyCommand hready with h | h | ⟨hdown, statuses, rfl⟩
    · exact hbefore h
    · exact hbs c (List.mem_append_right bs List.mem_cons_self) h
    · have hdrained : Drained s (as ++ bs) k := ⟨as, bs, rfl, hstart, hpre⟩
      refine hquiet (as ++ bs) statuses ?_ hdrained hdown
      rw [List.append_assoc]

/-- Draining is sticky along a log exactly if no heartbeat is applied to a drained node while it
is Down. -/
theorem drainingSticky_iff (s : FsmState) (cs : List Command) : DrainingSticky s cs ↔
      ∀ as k statuses, as ++ [.nodeHeartbeat k statuses] <+: cs → Drained s as k →
        nodeStatus (applyAll s as) k ≠ some .down := by
  constructor
  · rintro hsticky as k statuses hprefix ⟨ds, bs, rfl, hstart, hbs⟩ hdown
    have hready : nodeStatus (applyAll s (ds ++ (bs ++ [.nodeHeartbeat k statuses]))) k =
        some .ready := by
      rw [← List.append_assoc, applyAll_concat]
      exact nodeStatus_nodeHeartbeat hdown statuses
    rw [List.append_assoc] at hprefix
    obtain ⟨c, hc, hreg⟩ := hsticky ds _ k hprefix hstart hready
    rcases List.mem_append.mp hc with hc | hc
    · exact hbs c hc hreg
    · rw [List.mem_singleton.mp hc] at hreg
      exact hreg
  · intro hquiet as bs k hprefix hstart hready
    by_contra hnone
    have hbs : ∀ c ∈ bs, ¬ Registers k c := fun c hc hreg => hnone ⟨c, hc, hreg⟩
    refine not_ready_of_drained hstart hbs ?_ hready
    intro ds statuses hds
    exact hquiet ds k statuses (hds.trans hprefix)

/-- A drain that races with the watchdog's NodeDown: the next heartbeat makes the node Ready. -/
theorem not_drainingSticky_default :
    let register : Command :=
      .nodeRegister 1 ⟨"a"⟩ ⟨.v4 0x0A630001, 4400⟩ ⟨4, 4, 8192, 8192⟩ none none none none
    ¬ DrainingSticky default [register, .nodeDrain 1, .nodeDown 1, .nodeHeartbeat 1 ∅] := by
  intro register hsticky
  have hstart : nodeStatus (applyAll default [register, .nodeDrain 1]) 1 = some .draining := by
    decide +kernel
  have hready : nodeStatus (applyAll default
      ([register, .nodeDrain 1] ++ [.nodeDown 1, .nodeHeartbeat 1 ∅])) 1 = some .ready := by
    decide +kernel
  obtain ⟨c, hc, hreg⟩ :=
    hsticky [register, .nodeDrain 1] [.nodeDown 1, .nodeHeartbeat 1 ∅] 1 List.prefix_rfl hstart
      hready
  rcases List.mem_pair.mp hc with rfl | rfl
  · exact hreg
  · exact hreg

end Mill
