import Mill.Raft.StateMachine

/-! A command that is answered with an error changes nothing. -/

namespace Mill

namespace Response

def isError : Response → Bool
  | .ok => false
  | .error _ => true

def blanked (r : Response) : Response := if r.isError then .ok else r

end Response

def Entry.blankIf (e : Entry) (r : Response) : Entry :=
  if r.isError then { e with payload := .blank } else e

lemma applyCommand_of_isError {s : FsmState} {c : Command}
    (h : (applyCommand s c).2.isError = true) : (applyCommand s c).1 = s := by
  cases c with
  | nodeHeartbeat id statuses | nodeDown id | nodeDrain id =>
    cases hn : s.nodes.lookup id <;> simp only [applyCommand, hn] at h ⊢
    cases h
  | allocScheduled allocId nodeId =>
    cases hn : s.nodes.lookup nodeId <;> simp only [applyCommand, hn] at h ⊢
    cases h
  | allocStatus allocId | allocRunning allocId =>
    cases ha : s.allocs.lookup allocId <;> simp only [applyCommand, ha] at h ⊢
    cases h
  | secretDelete name =>
    cases hs : s.secrets.lookup name <;> simp only [applyCommand, hs] at h ⊢
    cases h
  | volumeAttached name node =>
    cases hn : s.nodes.lookup node with
    | none => simp only [applyCommand, hn]
    | some =>
      cases hv : s.volumes.lookup name <;> simp only [applyCommand, hn, hv] at h ⊢
      cases h
  | volumeDetached name =>
    cases hv : s.volumes.lookup name <;> simp only [applyCommand, hv] at h ⊢
    cases h
  | nodeRemove id =>
    cases hn : s.nodes.lookup id with
    | none => simp only [applyCommand, hn]
    | some =>
      simp only [applyCommand, hn] at h ⊢
      split_ifs at h ⊢
      · rfl
      · cases h
  | _ => cases h

def FsmState.answer (s : FsmState) (e : Entry) : Response :=
  match e.payload with
  | .normal cmd => (applyCommand s cmd).2
  | .blank | .membership _ => .ok

namespace Replica

def answers : Replica → List Entry → List Response
  | _, [] => []
  | r, e :: es => r.fsm.answer e :: answers (r.step e) es

lemma answers_append (r : Replica) (as bs : List Entry) :
    r.answers (as ++ bs) = r.answers as ++ (r.replay as).answers bs := by
  induction as generalizing r with
  | nil => rfl
  | cons e as ih =>
    rw [List.cons_append, answers, answers, ih (r.step e)]
    rfl

lemma length_answers (r : Replica) (es : List Entry) : (r.answers es).length = es.length := by
  induction es generalizing r with
  | nil => rfl
  | cons e es ih => rw [answers, List.length_cons, List.length_cons, ih]

lemma getElem?_answers (r : Replica) {es : List Entry} {i : Nat} {e : Entry}
    (h : es[i]? = some e) : (r.answers es)[i]? = some ((r.replay (es.take i)).fsm.answer e) := by
  induction es generalizing r i with
  | nil => cases h
  | cons e' es ih =>
    cases i with
    | zero =>
      cases h
      rfl
    | succ => exact ih (r.step e') h

lemma step_blankIf (r : Replica) (e : Entry) : r.step (e.blankIf (r.fsm.answer e)) = r.step e ∧
      r.fsm.answer (e.blankIf (r.fsm.answer e)) = (r.fsm.answer e).blanked := by
  obtain ⟨logId, payload⟩ := e
  cases payload with
  | blank => exact ⟨rfl, rfl⟩
  | membership => exact ⟨rfl, rfl⟩
  | normal cmd =>
    cases herror : (applyCommand r.fsm cmd).2.isError with
    | true =>
      have hsame : (applyCommand r.fsm cmd).1 = r.fsm := applyCommand_of_isError herror
      simp only [FsmState.answer, Entry.blankIf, Response.blanked, herror, if_true, step, hsame,
        and_self]
    | false =>
      simp only [FsmState.answer, Entry.blankIf, Response.blanked, herror, Bool.false_eq_true,
        if_false, and_self]

def blankRejected (r : Replica) (es : List Entry) : List Entry :=
  List.zipWith Entry.blankIf es (r.answers es)

lemma replay_blankRejected (r : Replica) (es : List Entry) :
    r.replay (r.blankRejected es) = r.replay es := by
  induction es generalizing r with
  | nil => rfl
  | cons e es ih =>
    have hstep := (step_blankIf r e).1
    change (r.step (e.blankIf (r.fsm.answer e))).replay ((r.step e).blankRejected es) =
      (r.step e).replay es
    rw [hstep, ih]

lemma answers_blankRejected (r : Replica) (es : List Entry) :
    r.answers (r.blankRejected es) = (r.answers es).map Response.blanked := by
  induction es generalizing r with
  | nil => rfl
  | cons e es ih =>
    obtain ⟨hstep, hanswer⟩ := step_blankIf r e
    change r.fsm.answer (e.blankIf (r.fsm.answer e)) ::
        (r.step (e.blankIf (r.fsm.answer e))).answers ((r.step e).blankRejected es) =
      (r.fsm.answer e).blanked :: ((r.step e).answers es).map Response.blanked
    rw [hanswer, hstep, ih]

end Replica

namespace StateMachineStore

variable {B : Type}

def replies : StateMachineStore B → List (List Entry) → List (List Response)
  | _, [] => []
  | st, es :: batches => (st.apply es).2 :: replies (st.apply es).1 batches

lemma applyEntry_answer (inner : StateMachineInner) (e : Entry) :
    (applyEntry inner e).2 = inner.fsm.answer e := by
  obtain ⟨logId, payload⟩ := e
  cases payload <;> rfl

lemma apply_answers (st : StateMachineStore B) (es : List Entry) :
    (st.apply es).2 = st.state.replica.answers es := by
  have hentries (inner : StateMachineInner) :
      (applyEntries inner es).2 = inner.replica.answers es := by
    induction es generalizing inner with
    | nil => rfl
    | cons e es ih =>
      have htail := ih (applyEntry inner e).1
      rw [applyEntry_replica] at htail
      have hhead : (applyEntry inner e).2 = inner.replica.fsm.answer e := applyEntry_answer inner e
      exact congrArg₂ List.cons hhead htail
  exact hentries st.state

lemma replies_flatten (st : StateMachineStore B) (batches : List (List Entry)) :
    (st.replies batches).flatten = st.state.replica.answers batches.flatten := by
  induction batches generalizing st with
  | nil => rfl
  | cons es batches ih =>
    rw [replies, List.flatten_cons, List.flatten_cons, Replica.answers_append, apply_answers, ih,
      apply_replica]

lemma length_replies (st : StateMachineStore B) (batches : List (List Entry)) :
    (st.replies batches).map List.length = batches.map List.length := by
  induction batches generalizing st with
  | nil => rfl
  | cons es batches ih =>
    rw [replies, List.map_cons, List.map_cons, ih, apply_answers, Replica.length_answers]

/-- A log with its rejected commands made blank, in whatever batches, leads to the same state as
the log itself, and the entries that were not rejected get the same responses. Every call
returns one response per entry, in the order of the entries. -/
theorem rejected_commands_are_no_ops (st : StateMachineStore B)
    (batches blankBatches : List (List Entry))
    (hblank : blankBatches.flatten =
      List.zipWith Entry.blankIf batches.flatten (st.replies batches).flatten) :
    (st.applyBatches blankBatches).state.replica = (st.applyBatches batches).state.replica ∧
    (st.replies blankBatches).flatten = (st.replies batches).flatten.map Response.blanked ∧
    (st.replies batches).map List.length = batches.map List.length ∧
    ∀ es i e, es[i]? = some e →
      (st.apply es).2[i]? = some ((st.apply (es.take i)).1.state.fsm.answer e) := by
  have hrejected : blankBatches.flatten = st.state.replica.blankRejected batches.flatten := by
    rw [hblank, replies_flatten]
    rfl
  refine ⟨?_, ?_, length_replies st batches, ?_⟩
  · rw [applyBatches_replica, applyBatches_replica, hrejected, Replica.replay_blankRejected]
  · rw [replies_flatten, replies_flatten, hrejected, Replica.answers_blankRejected]
  · intro es i e he
    have hstate : (st.state.replica.replay (es.take i)).fsm = (st.apply (es.take i)).1.state.fsm :=
      congrArg Replica.fsm (apply_replica st (es.take i)).symm
    rw [apply_answers, Replica.getElem?_answers _ he, hstate]

theorem rejected_commands_are_no_ops_demo :
    let lost := demoEntry 1 (.normal (.nodeDown 7))
    let kept := demoEntry 2 (.normal (.secretSet "token" [7] [1]))
    let st : StateMachineStore Contents := withPersistence
    st.replies [[lost, kept]] = [[.error "unknown node 7", .ok]] ∧
      (st.applyBatches [[demoEntry 1 .blank], [kept]]).state.replica =
        (st.applyBatches [[lost, kept]]).state.replica := by
  intro lost kept st
  exact ⟨rfl, (rejected_commands_are_no_ops st [[lost, kept]] [[demoEntry 1 .blank], [kept]] rfl).1⟩

end StateMachineStore

end Mill
