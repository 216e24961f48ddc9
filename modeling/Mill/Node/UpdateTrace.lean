import Mill.Node.FailedStarts

/-! What a rolling update and a stop of a service do to containers, in the order in which they do
it: which starts are tried, which become healthy, and which stops are sent. -/

namespace Mill

open List Program Transition

inductive StartMark
  | drained (raftId : Nat)
  | listed
  | allocsOn (millId : NodeId) (allocs : List (AllocId × String × AllocKind))
  | scheduled (id : AllocId)
  | run (id : AllocId) (node : NodeId)
  /-- `wait_for_status` has returned `Ok`. -/
  | seen (id : AllocId)
  | healthy (id : AllocId)
  | stop (id : AllocId) (node : NodeId) (accepted : Bool)
deriving DecidableEq

def Effect.mark : (e : Effect) → e.Answer → Option StartMark
  | .propose (.nodeDrain id), .ok .ok => some (.drained id)
  | .read (.serviceAllocs _), _ => some .listed
  | .read (.nodeAllocs _), (allocs, millId) => some (.allocsOn millId allocs)
  | .propose (.allocScheduled id _ _ _ _ _), .ok _ => some (.scheduled id)
  | .send node (.run id _ _), .ok () => some (.run id node)
  | .send node (.stop id), r => some (.stop id node r.isOk)
  | .waitForStatus id, .ok () => some (.seen id)
  | .propose (.allocStatus id .healthy), .ok _ => some (.healthy id)
  | _, _ => none

abbrev startMarks (record : Record Effect Effect.Answer) : List StartMark :=
  marks Effect.mark record

/-- What one start leaves in the trace; a Run goes to a node that `P` allows. -/
inductive StartTrace (P : NodeId → Prop) (id : AllocId) :
    Except DeployError Unit → List StartMark → Prop
  | healthy {node} (h : P node) :
      StartTrace P id (.ok ()) [.scheduled id, .run id node, .seen id, .healthy id]
  | failed {node x t} (h : P node) (ht : t <+: [.scheduled id, .run id node, .seen id]) :
      StartTrace P id (.error x) t
  | unplaced {x} : StartTrace P id (.error x) []

def started (new : List (AllocId × NodeId)) : List StartMark :=
  new.flatMap fun a => [.scheduled a.1, .run a.1 a.2, .seen a.1, .healthy a.1]

def StopsEach : List (AllocId × NodeId) → List StartMark → Prop :=
  List.Forall₂ fun a m => ∃ accepted, m = .stop a.1 a.2 accepted

def healthyIds (t : List StartMark) : List AllocId :=
  t.filterMap fun
    | .healthy id => some id
    | _ => none

def stopsOf (t : List StartMark) : List (AllocId × NodeId) :=
  t.filterMap fun
    | .stop id node _ => some (id, node)
    | _ => none

def StartMark.refused : StartMark → Bool
  | .stop _ _ accepted => !accepted
  | _ => false

section

variable {I : World → List StartMark → Prop} {φ : List StartMark} {id : AllocId} {node : NodeId}
  {P : NodeId → Prop} {name : String} {d : ServiceDef}

abbrev markSpec (I : World → List StartMark → Prop) : Spec Effect Effect.Answer (List StartMark) :=
  marking World.Answered I Effect.mark

lemma wp_runScheduledAlloc_marked (ctx : DeployCtx) (hnode : P node) :
    (runScheduledAlloc ctx name d id node).wp (markSpec I)
      (fun o φ' => ∃ t, StartTrace P id o (.scheduled id :: t) ∧ φ' = φ ++ t) φ := by
  have henv : (resolveEnv ctx d.env).Only (fun e => ∀ r, e.mark r = none) fun _ => True :=
    only_resolveEnv ctx (fun _ => rfl) (fun _ _ => rfl) fun _ _ => rfl
  -- a failure after the first `n` of Run, wait and Healthy
  have hfailed {φ' : List StartMark} {x : DeployError} (n : Nat)
      (hφ' : φ' = φ ++ [StartMark.run id node, .seen id].take n) :
      ∃ t, StartTrace P id (.error x) (.scheduled id :: t) ∧ φ' = φ ++ t :=
    ⟨_, .failed hnode ((prefix_cons_inj _).mpr (List.take_prefix n _)), hφ'⟩
  refine wp_bind (wp_mono (wp_unmarked henv) ?_)
  rintro (x | env) _ ⟨rfl, -⟩
  · exact hfailed 0 (by simp)
  refine wp_bind (wp_bind (wp_mark fun sent _ _ _ _ => ?_))
  rcases sent with x | _
  · exact hfailed 0 (by simp [Effect.mark])
  refine wp_bind (wp_mark fun status _ _ _ _ => ?_)
  rcases status with x | _
  · exact hfailed 1 (by simp [Effect.mark])
  change (Action.act (.pollForAddress id) >>= _).wp _ _ _
  refine wp_bind (wp_mark fun address _ _ _ _ => ?_)
  rcases address with _ | address
  · exact hfailed 2 (by simp [Effect.mark])
  refine wp_bind (wp_mark fun ready _ _ _ _ => ?_)
  cases ready with
  | false => exact hfailed 2 (by simp [Effect.mark])
  | true =>
    refine wp_bind (wp_bind (wp_mark fun proposed _ _ _ _ => ?_))
    rcases proposed with x | _
    · exact hfailed 2 (by simp [Effect.mark])
    · exact ⟨_, .healthy hnode, by simp [Effect.mark]⟩

lemma wp_startAlloc_marked (ctx : DeployCtx) (replica : Nat)
    (hplace : ∀ w w' n, I w φ → w.Answered (.read (.place name d)) (some n) w' → P n) :
    (startAlloc ctx name d id replica).wp (markSpec I)
      (fun o φ' => ∃ t, StartTrace P id o t ∧ φ' = φ ++ t) φ := by
  refine wp_bind (wp_mark fun placed w w' hI hans => ?_)
  cases placed with
  | none => exact ⟨[], .unplaced, rfl⟩
  | some node =>
    have hnode : P node := hplace w w' node hI hans
    refine wp_bind (wp_mark fun raftId _ _ _ _ => ?_)
    cases raftId with
    | none => exact ⟨[], .unplaced, by simp [Effect.mark]⟩
    | some =>
      refine wp_bind (wp_bind (wp_mark fun proposed _ _ _ _ => ?_))
      rcases proposed with x | _
      · exact ⟨[], .unplaced, by simp [Effect.mark]⟩
      refine wp_bind (wp_attempt (wp_mono (wp_runScheduledAlloc_marked ctx hnode) ?_))
      rintro (x | _) _ ⟨t, ht, rfl⟩
      · refine wp_bind (wp_mark fun _ _ _ _ _ => ⟨.scheduled id :: t, ?_, by simp [Effect.mark]⟩)
        cases ht with
        | failed h ht => exact .failed h ht
      · exact ⟨_, ht, by simp [Effect.mark]⟩

lemma StopsEach.concat {l : List (AllocId × NodeId)} {t : List StartMark} (h : StopsEach l t)
    (a : AllocId × NodeId) (accepted : Bool) :
    StopsEach (l ++ [a]) (t ++ [.stop a.1 a.2 accepted]) :=
  rel_append h (.cons ⟨accepted, rfl⟩ .nil)

lemma wp_stopOld (l : List (AllocId × NodeId)) :
    (foldEach stopOld l none).wp (markSpec I) (Returns fun stopErr φ' => ∃ t, StopsEach l t ∧
      φ' = φ ++ t ∧ (stopErr = none ↔ ∀ m ∈ t, m.refused = false)) φ := by
  refine wp_mono (wp_foldEach_returns (fun left stopErr φ' => ∃ begun t, l = begun ++ left ∧
    StopsEach begun t ∧ φ' = φ ++ t ∧ (stopErr = none ↔ ∀ m ∈ t, m.refused = false)) ?_
    ⟨[], [], rfl, .nil, by simp, by simp⟩) ?_
  · rintro a left stopErr _ ⟨begun, t, rfl, ht, rfl, herr⟩
    refine wp_bind (wp_mark fun r _ _ _ _ => ?_)
    rcases r with e | _
    · refine ⟨begun ++ [a], _, by simp, ht.concat a false, ?_⟩
      simp [Effect.mark, StartMark.refused, Except.isOk, Except.toBool]
    · refine ⟨begun ++ [a], _, by simp, ht.concat a true, ?_⟩
      simpa [Effect.mark, StartMark.refused, Except.isOk, Except.toBool, or_imp, forall_and]
        using herr
  · rintro (x | stopErr) φ' h
    · exact h
    · obtain ⟨begun, t, rfl, ht, hφ, herr⟩ := h
      exact ⟨t, by simpa using ht, hφ, herr⟩

lemma wp_stopQuietly (l : List (AllocId × NodeId)) :
    (stopQuietly l).wp (markSpec I) (Returns fun _ φ' => ∃ t, StopsEach l t ∧ φ' = φ ++ t) φ := by
  refine wp_mono (wp_foldEach_returns (fun left _ φ' => ∃ begun t, l = begun ++ left ∧
    StopsEach begun t ∧ φ' = φ ++ t) ?_ ⟨[], [], rfl, .nil, by simp⟩) ?_
  · rintro a left _ _ ⟨begun, t, rfl, ht, rfl⟩
    refine wp_bind (wp_mark fun r _ _ _ _ => ?_)
    exact ⟨begun ++ [a], t ++ [.stop a.1 a.2 r.isOk], by simp, ht.concat a _, by simp [Effect.mark]⟩
  · rintro (x | _) φ' h
    · exact h
    · obtain ⟨begun, t, rfl, ht, hφ⟩ := h
      exact ⟨t, by simpa using ht, hφ⟩

lemma wp_stopService (name : String) :
    (stopService name).wp (markSpec I) (fun o φ' => ∃ t, φ' = φ ++ .listed :: t ∧
      (o = .ok () ↔ ∀ m ∈ t, m.refused = false)) φ := by
  refine wp_bind (wp_mark fun l _ _ _ _ => ?_)
  refine wp_foldEach (fun _ _ φ' => ∃ t, φ' = φ ++ .listed :: t ∧ ∀ m ∈ t, m.refused = false) ?_ ?_
    ⟨[], by simp [Effect.mark], by simp⟩
  · rintro a left _ _ ⟨t, rfl, ht⟩
    refine wp_bind (wp_mark fun r _ _ _ _ => ?_)
    rcases r with e | _
    · refine ⟨t ++ [.stop a.1 a.2 false], by simp [Effect.mark, Except.isOk, Except.toBool], ?_⟩
      simp [StartMark.refused]
    · refine ⟨t ++ [.stop a.1 a.2 true], by simp [Effect.mark, Except.isOk, Except.toBool], ?_⟩
      simpa [StartMark.refused, or_imp, forall_and] using ht
  · rintro _ _ ⟨t, rfl, ht⟩
    exact ⟨t, rfl, by simpa using ht⟩

end

section

/-- What a rolling update leaves in the trace. With `kept`, every allocation that it has started is
still there when it asks for its node; `Old` is what is known of the allocations that it lists. -/
inductive UpdateTrace (kept : Prop) (Old : List (AllocId × NodeId) → Prop) (replicas : Nat) :
    Except DeployError Unit → List StartMark → Prop
  | unbegun {x} : UpdateTrace kept Old replicas (.error x) []
  | failed {new stopped id t stops x} (hnew : new.length < replicas)
      (ht : StartTrace (fun _ => True) id (.error x) t)
      (hstopped : (stopped.map Prod.fst).Sublist (new.map Prod.fst))
      (hkept : kept → stopped.map Prod.fst = new.map Prod.fst) (hstops : StopsEach stopped stops) :
      UpdateTrace kept Old replicas (.error x) (.listed :: (started new ++ (t ++ stops)))
  | finished {new old stops o} (hnew : new.length = replicas) (hold : Old old)
      (hstops : StopsEach old stops) (ho : o = .ok () ↔ ∀ m ∈ stops, m.refused = false) :
      UpdateTrace kept Old replicas o (.listed :: (started new ++ stops))

variable {I : World → List StartMark → Prop} {kept : Prop}
  {Old : List (AllocId × NodeId) → Prop} {name : String} {d : ServiceDef}

lemma started_concat (new : List (AllocId × NodeId)) (id : AllocId) (node : NodeId) :
    started (new ++ [(id, node)]) =
      started new ++ [.scheduled id, .run id node, .seen id, .healthy id] := by
  simp [started]

lemma wp_startReplica_marked (ctx : DeployCtx) {new newAllocs : List (AllocId × NodeId)}
    (replica : Nat)
    (hkept : kept → ∀ w φ w' id, I w φ → .seen id ∈ φ →
      ¬ w.Answered (.read (.allocNode id)) none w')
    (hsub : (newAllocs.map Prod.fst).Sublist (new.map Prod.fst))
    (hall : kept → newAllocs.map Prod.fst = new.map Prod.fst) :
    (startReplica ctx name d newAllocs replica).wp (markSpec I) (fun o φ' => match o with
      | .ok newAllocs' => ∃ a, (newAllocs'.map Prod.fst).Sublist ((new ++ [a]).map Prod.fst) ∧
          (kept → newAllocs'.map Prod.fst = (new ++ [a]).map Prod.fst) ∧
          φ' = .listed :: started (new ++ [a])
      | .error x => ∃ id t stops, StartTrace (fun _ => True) id (.error x) t ∧
          StopsEach newAllocs stops ∧ φ' = .listed :: (started new ++ (t ++ stops)))
      (.listed :: started new) := by
  refine wp_bind (wp_bind (wp_mark fun suffix _ _ _ _ => ?_))
  refine wp_bind (wp_attempt (wp_mono
    (wp_startAlloc_marked (P := fun _ => True) ctx replica fun _ _ _ _ _ => trivial) ?_))
  rintro (x | _) _ ⟨t, ht, rfl⟩
  · refine wp_bind_returns (wp_stopQuietly newAllocs) ?_
    rintro _ _ ⟨stops, hstops, rfl⟩
    exact ⟨_, t, stops, ht, hstops, by simp [Effect.mark]⟩
  · cases ht with
    | @healthy node =>
      refine wp_bind (wp_mark fun found w w' hI hans => ?_)
      have hmarks : (.listed :: started new) ++ (Effect.randSuffix.mark suffix).toList ++
          [.scheduled ⟨s!"{name}-{suffix}"⟩, .run ⟨s!"{name}-{suffix}"⟩ node,
            .seen ⟨s!"{name}-{suffix}"⟩, .healthy ⟨s!"{name}-{suffix}"⟩] ++
          ((Effect.read (.allocNode _)).mark found).toList =
          .listed :: started (new ++ [(⟨s!"{name}-{suffix}"⟩, node)]) := by
        simp [Effect.mark, started_concat]
      cases found with
      | none =>
        refine ⟨(_, node), ?_, fun hk => ?_, hmarks⟩
        · simpa using hsub.trans (sublist_append_left _ _)
        · exact absurd hans (hkept hk _ _ _ _ hI (by simp))
      | some =>
        refine ⟨(_, node), ?_, fun hk => ?_, hmarks⟩
        · rw [map_append, map_append]
          exact hsub.append_right _
        · simp [hall hk]

lemma wp_rollingUpdate_marked (ctx : DeployCtx)
    (hold : ∀ w φ l w', I w φ → w.Answered (.read (.serviceAllocs name)) l w' →
      (∀ id, .scheduled id ∉ φ) → Old l)
    (hkept : kept → ∀ w φ w' id, I w φ → .seen id ∈ φ →
      ¬ w.Answered (.read (.allocNode id)) none w') :
    (rollingUpdate ctx name d).wp (markSpec I) (UpdateTrace kept Old d.replicas) [] := by
  refine wp_bind (wp_mark fun ready _ _ _ _ => ?_)
  cases ready with
  | none => exact .unbegun
  | some raftNodeId =>
    have hvolumes : (createVolumesIfNeeded ctx d raftNodeId).Only (fun e => ∀ r, e.mark r = none)
        fun _ => True :=
      only_createVolumesIfNeeded ctx raftNodeId fun _ _ _ he => by cases he <;> exact fun _ => rfl
    refine wp_bind (wp_mono (wp_unmarked hvolumes) ?_)
    rintro (x | _) _ ⟨rfl, -⟩
    · exact .unbegun
    refine wp_bind (wp_mark fun old w w' hI hans => ?_)
    have hinv : (foldEach (startReplica ctx name d) (List.range d.replicas) []).wp (markSpec I)
        (fun o φ' => match o with
          | .ok _ => ∃ new, new.length = d.replicas ∧ φ' = .listed :: started new
          | .error x => UpdateTrace kept Old d.replicas (.error x) φ')
        [.listed] := by
      refine wp_foldEach (fun left newAllocs φ' => ∃ new, new.length + left.length = d.replicas ∧
        (newAllocs.map Prod.fst).Sublist (new.map Prod.fst) ∧
        (kept → newAllocs.map Prod.fst = new.map Prod.fst) ∧ φ' = .listed :: started new) ?_ ?_
        ⟨[], by simp, by simp, by simp, rfl⟩
      · rintro replica left newAllocs _ ⟨new, hlen, hsub, hall, rfl⟩
        refine wp_mono (wp_startReplica_marked ctx replica hkept hsub hall) ?_
        rintro (x | newAllocs') φ' h
        · obtain ⟨id, t, stops, ht, hstops, rfl⟩ := h
          exact .failed (by simp at hlen; omega) ht hsub hall hstops
        · obtain ⟨a, hsub', hall', rfl⟩ := h
          exact ⟨new ++ [a], by simp at hlen ⊢; omega, hsub', hall', rfl⟩
      · rintro newAllocs _ ⟨new, hlen, -, -, rfl⟩
        exact ⟨new, by simpa using hlen, rfl⟩
    refine wp_bind (wp_mono hinv ?_)
    rintro (x | newAllocs) φ' h
    · exact h
    · obtain ⟨new, hnew, rfl⟩ := h
      refine wp_bind_returns (wp_stopOld old) ?_
      rintro stopErr _ ⟨stops, hstops, rfl, herr⟩
      have hlist : Old old := hold w _ old w' hI hans (by simp [Effect.mark])
      cases stopErr with
      | none => exact .finished hnew hlist hstops (by simpa using herr)
      | some => exact .finished hnew hlist hstops (by simpa using herr)

end

section

variable {id : AllocId} {node : NodeId} {l new : List (AllocId × NodeId)} {t : List StartMark}
  {P : NodeId → Prop} {x : DeployError}

@[simp] lemma healthyIds_append (t t' : List StartMark) :
    healthyIds (t ++ t') = healthyIds t ++ healthyIds t' := filterMap_append ..

@[simp] lemma stopsOf_append (t t' : List StartMark) :
    stopsOf (t ++ t') = stopsOf t ++ stopsOf t' := filterMap_append ..

lemma marks_started (new : List (AllocId × NodeId)) :
    healthyIds (started new) = new.map Prod.fst ∧ stopsOf (started new) = [] ∧
      ∀ m ∈ started new, m.refused = false := by
  induction new with
  | nil => exact ⟨rfl, rfl, nofun⟩
  | cons a new ih =>
    rw [show started (a :: new) = [.scheduled a.1, .run a.1 a.2, .seen a.1, .healthy a.1] ++
      started new from rfl, healthyIds_append, stopsOf_append, ih.1, ih.2.1]
    exact ⟨rfl, rfl, forall_mem_append.mpr ⟨by simp [StartMark.refused], ih.2.2⟩⟩

lemma marks_begun (new : List (AllocId × NodeId)) (t : List StartMark) :
    healthyIds (.listed :: (started new ++ t)) = new.map Prod.fst ++ healthyIds t ∧
      stopsOf (.listed :: (started new ++ t)) = stopsOf t := by
  change healthyIds (started new ++ t) = _ ∧ stopsOf (started new ++ t) = _
  rw [healthyIds_append, stopsOf_append, (marks_started new).1, (marks_started new).2.1]
  exact ⟨rfl, rfl⟩

lemma StopsEach.marks (h : StopsEach l t) : healthyIds t = [] ∧ stopsOf t = l := by
  induction h with
  | nil => exact ⟨rfl, rfl⟩
  | @cons a m l t hm _ ih =>
    obtain ⟨accepted, rfl⟩ := hm
    exact ⟨ih.1, congrArg (a :: ·) ih.2⟩

lemma StartTrace.marks (h : StartTrace P id (.error x) t) : healthyIds t = [] ∧ stopsOf t = [] := by
  have hprefix : ∃ node, t <+: [.scheduled id, .run id node, .seen id] := by
    cases h with
    | failed h ht => exact ⟨_, ht⟩
    | unplaced => exact ⟨⟨""⟩, nil_prefix⟩
  obtain ⟨node, ht⟩ := hprefix
  have hnil {β : Type} {f : StartMark → Option β}
      (hf : [StartMark.scheduled id, .run id node, .seen id].filterMap f = []) :
      t.filterMap f = [] :=
    prefix_nil.mp (hf ▸ ht.filterMap f)
  exact ⟨hnil rfl, hnil rfl⟩

lemma mem_stopsOf : (id, node) ∈ stopsOf t ↔ ∃ accepted, .stop id node accepted ∈ t := by
  rw [stopsOf, mem_filterMap]
  constructor
  · rintro ⟨m, hm, heq⟩
    cases m with
    | stop i n accepted =>
      cases heq
      exact ⟨accepted, hm⟩
    | _ => cases heq
  · rintro ⟨accepted, h⟩
    exact ⟨_, h, rfl⟩

lemma mem_healthyIds : id ∈ healthyIds t ↔ .healthy id ∈ t := by
  rw [healthyIds, mem_filterMap]
  constructor
  · rintro ⟨m, hm, heq⟩
    cases m with
    | healthy =>
      cases heq
      exact hm
    | _ => cases heq
  · exact fun h => ⟨_, h, rfl⟩

end

variable {α : Type} {ctx : DeployCtx} {name : String} {d : ServiceDef} {w w₀ w' : World}
  {φ : List StartMark} {e : Effect} {r : e.Answer} {kept : Prop}
  {Old : List (AllocId × NodeId) → Prop} {o : Except DeployError Unit}

lemma Effect.eq_propose {c : Command} (h : e.applied r = some c) : e = .propose c := by
  unfold Effect.applied at h
  split at h
  all_goals cases h
  rfl

lemma ServiceEffect.ne_nodeRemove (he : ServiceEffect name d e) (k : Nat) :
    e ≠ .propose (.nodeRemove k) := by
  rintro rfl
  cases he with
  | volume vol _ _ he => cases he
  | replica _ he =>
    cases he with
    | start id _ he =>
      cases he with
      | running node _ he => cases he

def Present (w : World) (φ : List StartMark) : Prop := ∀ id, .seen id ∈ φ → id ∈ w.fsm.allocs

lemma Present.step (h : Present w φ) (he : ServiceEffect name d e) (hans : w.Answered e r w') :
    Present w' (φ ++ (e.mark r).toList) := by
  intro id hid
  rcases mem_append.mp hid with hold | hnew
  · rw [hans.fsm_eq]
    cases hc : e.applied r with
    | none => exact h id hold
    | some =>
      refine mem_allocs_applyCommand (fun k hk => ?_) (h id hold)
      exact he.ne_nodeRemove k (hk ▸ Effect.eq_propose hc)
  · have hseen : e.mark r = some (.seen id) := Option.mem_toList.mp hnew
    unfold Effect.mark at hseen
    split at hseen
    all_goals cases hseen
    cases hans with
    | waited i a r ha => exact Finmap.mem_of_lookup_eq_some ha

def Alloc.place (a : Alloc) : AllocId × String × NodeId := (a.id, a.name, a.node)

def InPlace (s : FsmState) (w : World) (φ : List StartMark) : Prop :=
  (∀ id, .scheduled id ∉ φ) →
    ∀ id, (w.fsm.allocs.lookup id).map Alloc.place = (s.allocs.lookup id).map Alloc.place

lemma InPlace.step {s : FsmState} (h : InPlace s w φ) (he : ServiceEffect name d e)
    (hans : w.Answered e r w') : InPlace s w' (φ ++ (e.mark r).toList) := by
  intro hnone id
  rw [← h (fun i hi => hnone i (mem_append_left _ hi)) id, hans.fsm_eq]
  cases hc : e.applied r with
  | none => rfl
  | some c =>
    obtain rfl := Effect.eq_propose hc
    change ((applyCommand w.fsm c).1.allocs.lookup id).map _ = _
    rw [lookup_allocs_applyCommand]
    refine map_allocAfter (fun _ _ _ _ => rfl) id ?_ fun k hk => he.ne_nodeRemove k (hk ▸ rfl)
    rintro nodeId name kind address resources rfl
    cases hans with
    | applied => exact hnone id (by simp [Effect.mark])
    | refused => cases hc

def FsmState.placesOf (s : FsmState) (name : String) : Multiset (AllocId × NodeId) :=
  (s.allocs.values.filter fun a => a.name = name).map fun a => (a.id, a.node)

lemma InPlace.serviceAllocs {s : FsmState} (h : InPlace s w φ) (hnone : ∀ id, .scheduled id ∉ φ)
    {l : List (AllocId × NodeId)} (hans : w.Answered (.read (.serviceAllocs name)) l w') :
    (l : Multiset (AllocId × NodeId)) = s.placesOf name := by
  have hplaces := Finmap.map_values_congr (h hnone)
  have hfilter (m : Multiset Alloc) :
      (m.filter fun a => a.name = name).map (fun a => (a.id, a.node)) =
        ((m.map Alloc.place).filter fun p => p.2.1 = name).map fun p => (p.1, p.2.2) := by
    rw [Multiset.filter_map, Multiset.map_map]
    rfl
  rw [FsmState.placesOf, hfilter, ← hplaces, ← hfilter]
  cases hans with
  | read q v =>
    rw [v.allocs_eq, Multiset.filter_coe, Multiset.map_coe]
    rfl

lemma Present.not_none (h : Present w φ) {id : AllocId} (hid : .seen id ∈ φ) :
    ¬ w.Answered (.read (.allocNode id)) none w' := by
  intro hans
  obtain ⟨a, ha⟩ := Finmap.mem_iff.mp (h id hid)
  generalize hr : none = r at hans
  cases hans with
  | read =>
    rw [Query.eval, ha] at hr
    cases hr

abbrev besideRun (p : Action α) (w : World) (es : List (Choice ⊕ Command)) :
    Option ((World × Record Effect Effect.Answer) × Action α) :=
  run (stepBeside (recording World.answer) (offRecord commits)) ((w, []), p) es

/-- Every command of others, in the state in which it is applied, is as `G` says. -/
abbrev OthersKeep (G : FsmState → Command → Prop) (p : Action α) (w : World)
    (es : List (Choice ⊕ Command)) : Prop :=
  Guarded (stepBeside (recording World.answer) (offRecord commits))
    (fun s e => ∀ c, e = .inr c → G s.1.1.fsm c) ((w, []), p) es

lemma of_besideRun_marked {I : World → List StartMark → Prop} {P : Effect → Prop}
    {F : DeployError → Prop} {G : FsmState → Command → Prop} {p p' : Action α}
    {Q : Except DeployError α → List StartMark → Prop} {es : List (Choice ⊕ Command)}
    {record : Record Effect Effect.Answer} {o : Except DeployError α}
    (hI : ∀ w φ e r w', P e → I w φ → w.Answered e r w' → I w' (φ ++ (e.mark r).toList))
    (houtside : ∀ w φ c, I w φ → G w.fsm c → I { w with fsm := (applyCommand w.fsm c).1 } φ)
    (honly : p.Only P F) (hp : p.wp (markSpec I) Q []) (hw : I w []) (hg : OthersKeep G p w es)
    (hrun : besideRun p w es = some ((w', record), p')) (ho : p'.outcome = some o) :
    Q o (startMarks record) := by
  have hanswer : ∀ w e c r w', World.answer w e c = some (r, w') → World.Answered w e r w' :=
    fun _ _ _ _ _ => World.answered_of_answer
  refine of_run_marked (G := fun w c => G w.fsm c) hanswer hI ?_ honly hp hw hg hrun ho
  rintro w φ c w' hI hG h
  cases h
  exact houtside w φ c hI hG

section

variable {replicas : Nat} {t : List StartMark}

lemma UpdateTrace.stopsOf_eq (h : UpdateTrace True Old replicas o t)
    (hfew : (healthyIds t).length < replicas) : (stopsOf t).map Prod.fst = healthyIds t := by
  cases h with
  | unbegun => rfl
  | failed _ ht _ hkept hstops =>
    rw [(marks_begun _ _).1, (marks_begun _ _).2, healthyIds_append, stopsOf_append, ht.marks.1,
      ht.marks.2, hstops.marks.1, hstops.marks.2]
    simpa using hkept trivial
  | finished hnew _ hstops _ =>
    rw [(marks_begun _ _).1, hstops.marks.1] at hfew
    simp [hnew] at hfew

end

lemma UpdateTrace.exists_run {replicas : Nat} {t : List StartMark} {id : AllocId}
    (h : UpdateTrace kept Old replicas o t) (hid : id ∈ healthyIds t) :
    ∃ node, .run id node ∈ t := by
  have hbegun {new : List (AllocId × NodeId)} {rest : List StartMark} (hrest : healthyIds rest = [])
      (hid : id ∈ healthyIds (.listed :: (started new ++ rest))) :
      ∃ node, .run id node ∈ .listed :: (started new ++ rest) := by
    rw [(marks_begun new rest).1, hrest, append_nil, mem_map] at hid
    obtain ⟨a, ha, rfl⟩ := hid
    refine ⟨a.2, mem_cons_of_mem _ (mem_append_left _ (mem_flatMap.mpr ⟨a, ha, ?_⟩))⟩
    simp
  cases h with
  | unbegun => cases hid
  | failed _ ht _ _ hstops =>
    exact hbegun (by rw [healthyIds_append, ht.marks.1, hstops.marks.1]; rfl) hid
  | finished _ _ hstops => exact hbegun hstops.marks.1 hid

/-- A failed update gets a Stop to every new allocation for which it has sent a Run exactly if
whatever was sent a Run has become healthy and a Stop that is refused is made up for: the replica
that failed is never stopped. -/
theorem failed_update_stops_iff (ctx : DeployCtx) (name : String) (d : ServiceDef)
    (w w' : World) (es : List (Choice ⊕ Command)) (record : Record Effect Effect.Answer)
    (x : DeployError)
    (hg : OthersKeep (fun s c => ∀ id ∈ s.allocs, id ∈ (applyCommand s c).1.allocs)
      (rollingUpdate ctx name d) w es)
    (hrun : besideRun (rollingUpdate ctx name d) w es = some ((w', record), .fail x))
    (hfailed : (healthyIds (startMarks record)).length < d.replicas) :
    (∀ id node, .run id node ∈ startMarks record →
      ∃ node', .stop id node' true ∈ startMarks record) ↔
    (∀ id node, .run id node ∈ startMarks record → .healthy id ∈ startMarks record) ∧
      ∀ id node, .stop id node false ∈ startMarks record →
        ∃ node', .stop id node' true ∈ startMarks record := by
  have hwp : (rollingUpdate ctx name d).wp (markSpec Present)
      (UpdateTrace True (fun _ => True) d.replicas) [] :=
    wp_rollingUpdate_marked ctx (fun _ _ _ _ _ _ _ => trivial) fun _ _ _ _ _ h => h.not_none
  have htrace := of_besideRun_marked (fun _ _ _ _ _ he h => h.step he)
    (fun _ _ _ h hG id hid => hG id (h id hid)) (only_rollingUpdate ctx) hwp nofun hg hrun rfl
  -- the Stops are those of the replicas that have become healthy
  have hstops (id : AllocId) : id ∈ healthyIds (startMarks record) ↔
      ∃ node accepted, .stop id node accepted ∈ startMarks record := by
    rw [← htrace.stopsOf_eq hfailed, mem_map]
    simp only [← mem_stopsOf]
    constructor
    · rintro ⟨⟨i, node⟩, h, rfl⟩
      exact ⟨node, h⟩
    · rintro ⟨node, h⟩
      exact ⟨_, h, rfl⟩
  constructor
  · intro hall
    refine ⟨fun id node h => ?_, fun id node h => ?_⟩
    · obtain ⟨node', hstop⟩ := hall id node h
      exact mem_healthyIds.mp ((hstops id).mpr ⟨node', true, hstop⟩)
    · obtain ⟨node', hrun⟩ := htrace.exists_run ((hstops id).mpr ⟨node, false, h⟩)
      exact hall id node' hrun
  · rintro ⟨hhealthy, hrefused⟩ id node h
    obtain ⟨node', accepted, hstop⟩ := (hstops id).mp (mem_healthyIds.mpr (hhealthy id node h))
    cases accepted with
    | true => exact ⟨node', hstop⟩
    | false => exact hrefused id node' hstop

lemma exists_besideRun (p : Action Unit) (w : World) (es : List (Choice ⊕ Command))
    (t : List StartMark) (o : Except DeployError Unit)
    (h : (besideRun p w es).map (fun s => (startMarks s.1.2, s.2.outcome)) = some (t, some o)) :
    ∃ w' record p', besideRun p w es = some ((w', record), p') ∧
      startMarks record = t ∧ p'.outcome = some o := by
  obtain ⟨⟨⟨w', record⟩, p'⟩, hrun, hobs⟩ := Option.map_eq_some_iff.mp h
  exact ⟨w', record, p', hrun, Prod.mk.inj hobs⟩

lemma eq_fail_of_outcome {p : Action Unit} {x : DeployError} (h : p.outcome = some (.error x)) :
    p = .fail x := by
  cases p with
  | done => cases h
  | fail =>
    cases h
    rfl
  | perform => cases h

def updateAlloc (suffix : String) (status : AllocStatus) (address : Option SocketAddr) : Alloc :=
  ⟨⟨"web-" ++ suffix⟩, ⟨"n"⟩, "web", .service, status, address, ⟨1, 1024⟩, none⟩

def updateAddress : SocketAddr := ⟨.v4 1, 8000⟩

def updatePlaced (allocs : List Alloc) (suffix : String) : List (Choice ⊕ Command) :=
  [.inl (.text suffix), .inl (.order [startNode] allocs []), .inl (.order [startNode] allocs []),
    .inl .proceed, .inl (.env [])]

def updateHealthy (allocs : List Alloc) (suffix : String) : List (Choice ⊕ Command) :=
  [.inl .proceed, .inr (.allocRunning ⟨"web-" ++ suffix⟩ (some updateAddress) none), .inl .proceed,
    .inl .proceed, .inl .proceed, .inl .proceed,
    .inl (.order [startNode] (allocs ++ [updateAlloc suffix .healthy (some updateAddress)]) [])]

def updateBegun (allocs : List Alloc) : List (Choice ⊕ Command) :=
  [.inl (.order [startNode] allocs []), .inl (.order [startNode] allocs [])]

def updateLost : List (Choice ⊕ Command) :=
  updateBegun [] ++ updatePlaced [] "a" ++ updateHealthy [] "a" ++
    updatePlaced [updateAlloc "a" .healthy (some updateAddress)] "b" ++
    [.inl (.undelivered .channelClosed), .inl .proceed, .inl .proceed]

theorem failed_update_stops_iff_lost : ∃ w' record,
    besideRun (rollingUpdate demoCtx "web" { demoDef with replicas := 2 }) startWorld updateLost =
      some ((w', record), .fail (.node .channelClosed)) ∧
    ∀ id node, .run id node ∈ startMarks record →
      ∃ node', .stop id node' true ∈ startMarks record := by
  obtain ⟨w', record, p', hrun, hmarks, hended⟩ := exists_besideRun
    (rollingUpdate demoCtx "web" { demoDef with replicas := 2 }) startWorld updateLost
    (.listed :: started [(⟨"web-a"⟩, ⟨"n"⟩)] ++ [.scheduled ⟨"web-b"⟩, .stop ⟨"web-a"⟩ ⟨"n"⟩ true])
    (.error (.node .channelClosed)) (by decide +kernel)
  obtain rfl := eq_fail_of_outcome hended
  refine ⟨w', record, hrun, ?_⟩
  refine (failed_update_stops_iff demoCtx "web" _ startWorld w' updateLost record _ ?_ hrun
    (by rw [hmarks]; decide)).mpr ?_
  · refine guarded_of_forall _ fun e he s c hc id hid => ?_
    subst hc
    refine mem_allocs_applyCommand (fun k hk => ?_) hid
    subst hk
    simp [updateLost, updateBegun, updatePlaced, updateHealthy] at he
  · rw [hmarks]
    constructor <;> simp [started]

/-- The wait for the only replica times out: it was sent a Run, and is sent no Stop. -/
theorem failed_update_leaves_container : ∃ w' record,
    besideRun (rollingUpdate demoCtx "web" demoDef) startWorld (updateBegun [] ++
      updatePlaced [] "a" ++ [.inl .proceed, .inl .elapsed, .inl .proceed]) =
      some ((w', record), .fail (.healthCheckTimeout "web-a")) ∧
    startMarks record = [.listed, .scheduled ⟨"web-a"⟩, .run ⟨"web-a"⟩ ⟨"n"⟩] := by
  obtain ⟨w', record, p', hrun, hmarks, hended⟩ := exists_besideRun
    (rollingUpdate demoCtx "web" demoDef) startWorld (updateBegun [] ++ updatePlaced [] "a" ++
      [.inl .proceed, .inl .elapsed, .inl .proceed])
    [.listed, .scheduled ⟨"web-a"⟩, .run ⟨"web-a"⟩ ⟨"n"⟩]
    (.error (.healthCheckTimeout "web-a")) (by decide +kernel)
  obtain rfl := eq_fail_of_outcome hended
  exact ⟨w', record, hrun, hmarks⟩

end Mill
