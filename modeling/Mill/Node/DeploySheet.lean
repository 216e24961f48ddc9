import Mill.Node.DeployReport

/-! What a deploy whose containers start goes by: the config and which allocations have an
address. -/

namespace Mill

open Mill.Action Option Program

structure Sheet where
  config : Option ClusterConfig
  book : AllocId → Option AllocEntry

namespace Sheet

def set (φ : Sheet) (id : AllocId) (e : Option AllocEntry) : Sheet :=
  { φ with book := Function.update φ.book id e }

@[simp] lemma book_set_self (φ : Sheet) (id : AllocId) (e : Option AllocEntry) :
    (φ.set id e).book id = e := Function.update_self ..

lemma book_set_of_ne {id i : AllocId} (h : i ≠ id) (φ : Sheet) (e : Option AllocEntry) :
    (φ.set id e).book i = φ.book i := Function.update_of_ne h ..

@[simp] lemma set_set (φ : Sheet) (id : AllocId) (e e' : Option AllocEntry) :
    (φ.set id e).set id e' = φ.set id e' := by
  simp only [set, Function.update_idem]

def Addressed (book : AllocId → Option AllocEntry) (name : String) : Prop :=
  ∃ id e, book id = some e ∧ e.name = name ∧ e.addressed = true

def Proposes (s₀ : FsmState) : Effect → Prop
  | .propose cmd =>
    match cmd with
    | .allocScheduled _ node _ _ address _ => node ∈ s₀.nodes ∧ address = none
    | .deploy _ | .allocStatus _ _ | .volumeCreated _ _ | .volumeAttached _ _
    | .volumeDetached _ => True
    | _ => False
  | _ => True

def Registered (s₀ : FsmState) (m : NodeId) : Prop := ∃ n ∈ s₀.nodes.values, n.millId = m

def Fine (s₀ : FsmState) (φ : Sheet) : (e : Effect) → e.Answer → Prop
  | .read .config, r => r = φ.config
  | .read .secretNames, r => r = s₀.secrets.keys
  | .read .readyResources, r => ∃ nodes : List FsmNode, s₀.nodes.values = nodes ∧
      r = (nodes.filter fun n => n.status == .ready).map FsmNode.resources
  | .read .firstReady, r => r.isSome = true ↔ ∃ n ∈ s₀.nodes.values, n.status = .ready
  | .read (.place _ _), r => ∃ m, r = some m ∧ Registered s₀ m
  | .read (.raftIdFor m), r => Registered s₀ m → ∃ id, r = some id ∧ id ∈ s₀.nodes
  | .read (.serviceAddress service), r => r.isSome = true ↔ Addressed φ.book service
  | .read (.secret name), r => r = s₀.secrets.lookup name
  | .propose cmd, r => (∃ response, r = .ok response) ∧ ∀ id node name kind address resources,
        cmd = .allocScheduled id node name kind address resources →
        ∀ e ∈ φ.book id, e.name = name
  | .send _ _, r => r = .ok ()
  | .create _ _, r => ∃ cloudId, r = .ok cloudId
  | .attach _ _, r => r = .ok ()
  | .detach _, r => r = .ok ()
  | .waitForStatus id, r => ∀ e ∈ φ.book id, e.pending = true → r = .ok ()
  | .pollForAddress id, r => ∀ e ∈ φ.book id, e.addressed = true → r.isSome = true
  | .waitHealthy _ _, r => r = true
  | .randSuffix, suffix => ∀ name : String, φ.book ⟨name ++ "-" ++ suffix⟩ = none
  | .visitServices m, order => m.entries = order
  | .visitEnv m, order => m.entries = order
  | _, _ => True

def after (φ : Sheet) : Effect → Sheet
  | .propose cmd =>
    match cmd with
    | .deploy config => { φ with config := some config }
    | .allocScheduled id _ name _ _ _ => φ.set id (some ⟨name, false, true⟩)
    | .allocStatus id status =>
      φ.set id ((φ.book id).map fun e => { e with pending := status.isPending })
    | _ => φ
  | .waitForStatus id => φ.set id ((φ.book id).map fun e =>
      if e.pending then { e with addressed := true, pending := false } else e)
  | _ => φ

def spec (s₀ : FsmState) : Spec Effect Effect.Answer Sheet where
  pre _ e := Proposes s₀ e
  post φ e r φ' := φ.Fine s₀ e r ∧ φ' = φ.after e

structure Tallies (s₀ : FsmState) (w : World) (φ : Sheet) : Prop where
  nodes : w.fsm.nodes = s₀.nodes
  secrets : w.fsm.secrets = s₀.secrets
  config : w.fsm.config = φ.config
  book : ∀ id, (w.fsm.allocs.lookup id).map AllocEntry.of = φ.book id

variable {s₀ : FsmState} {w w' : World} {φ : Sheet} {c : Surrounding}

lemma Tallies.addressed_iff (h : φ.Tallies s₀ w) (v : View w.fsm) (service : String) :
    ((Query.serviceAddress service).eval w.fsm v).isSome = true ↔ Addressed φ.book service := by
  have hmem : ∀ a, a ∈ v.allocs ↔ ∃ id, w.fsm.allocs.lookup id = some a := by
    intro a
    rw [← Multiset.mem_coe, ← v.allocs_eq, Finmap.mem_values]
  constructor
  · intro hsome
    obtain ⟨address, haddress⟩ := isSome_iff_exists.mp hsome
    obtain ⟨a, ha, haddr⟩ := List.exists_of_findSome?_eq_some haddress
    obtain ⟨hin, hname⟩ := List.mem_filter.mp ha
    obtain ⟨id, hid⟩ := (hmem a).mp hin
    refine ⟨id, .of a, ?_, beq_iff_eq.mp hname, ?_⟩
    · rw [← h.book id, hid]
      rfl
    · exact isSome_iff_exists.mpr ⟨address, haddr⟩
  · rintro ⟨id, e, he, hname, haddressed⟩
    rw [← h.book id] at he
    obtain ⟨a, ha, rfl⟩ := map_eq_some_iff.mp he
    have hin : a ∈ v.allocs.filter fun a => a.name == service :=
      List.mem_filter.mpr ⟨(hmem a).mpr ⟨id, ha⟩, beq_iff_eq.mpr hname⟩
    exact List.findSome?_isSome_iff.mpr ⟨a, hin, haddressed⟩

lemma Tallies.registered_of_place (h : φ.Tallies s₀ w) (v : View w.fsm) {name : String}
    {d : ServiceDef} {m : NodeId} (hm : (Query.place name d).eval w.fsm v = some m) :
    Registered s₀ m := by
  obtain ⟨n, hn, hid, _⟩ := exists_of_schedule_eq_some hm
  refine ⟨n, ?_, hid⟩
  rw [← h.nodes, v.nodes_eq]
  exact hn

lemma Tallies.raftIdFor (h : φ.Tallies s₀ w) (hkeyed : s₀.NodesKeyed) (v : View w.fsm)
    {m : NodeId} (hm : Registered s₀ m) :
    ∃ id, (Query.raftIdFor m).eval w.fsm v = some id ∧ id ∈ s₀.nodes := by
  obtain ⟨n, hn, hid⟩ := hm
  rw [← h.nodes, v.nodes_eq, Multiset.mem_coe] at hn
  have hfound : (v.nodes.find? fun n => n.millId == m).isSome = true :=
    List.find?_isSome.mpr ⟨n, hn, beq_iff_eq.mpr hid⟩
  obtain ⟨n', hn'⟩ := isSome_iff_exists.mp hfound
  have heval : (Query.raftIdFor m).eval w.fsm v = some n'.raftId := by
    simp only [Query.eval, FsmState.raftIdFor, hn', map_some]
  have hkeyed' : w.fsm.NodesKeyed := by
    intro id n hn
    rw [h.nodes] at hn
    exact hkeyed id n hn
  obtain ⟨n'', hn'', _⟩ := lookup_of_raftIdFor hkeyed' v.nodes_eq heval
  refine ⟨n'.raftId, heval, ?_⟩
  rw [← h.nodes]
  exact Finmap.mem_of_lookup_eq_some hn''

lemma Tallies.firstReady_iff (h : φ.Tallies s₀ w) (v : View w.fsm) :
    (Query.firstReady.eval w.fsm v).isSome = true ↔ ∃ n ∈ s₀.nodes.values, n.status = .ready := by
  rw [← h.nodes, v.nodes_eq]
  simp only [Query.eval, isSome_map, List.find?_isSome, beq_iff_eq, Multiset.mem_coe]

lemma Tallies.fine_read (h : φ.Tallies s₀ w) (hkeyed : s₀.NodesKeyed) (v : View w.fsm) (q : Query)
    (hplace : ∀ name d, q = .place name d → ((Query.place name d).eval w.fsm v).isSome = true) :
    φ.Fine s₀ (.read q) (q.eval w.fsm v) := by
  cases q with
  | config => exact h.config
  | secretNames => exact congrArg Finmap.keys h.secrets
  | readyResources => exact ⟨v.nodes, h.nodes ▸ v.nodes_eq, rfl⟩
  | firstReady => exact h.firstReady_iff v
  | place name d =>
    obtain ⟨m, hm⟩ := isSome_iff_exists.mp (hplace name d rfl)
    exact ⟨m, hm, h.registered_of_place v hm⟩
  | raftIdFor => exact h.raftIdFor hkeyed v
  | serviceAddress service => exact h.addressed_iff v service
  | secret name => exact congrArg (Finmap.lookup name) h.secrets
  | serviceAllocs _ | allocNode _ | volumeState _ | millIdAt _ | instanceIdFor _ | serviceDef _
  | attachedVolumes _ | nodeAllocs _ | serviceCounts _ => trivial

lemma entry_run (a : Alloc) (address : SocketAddr) (startedAt : Option SystemTime) :
    AllocEntry.of (a.run (some address) startedAt) =
      if (AllocEntry.of a).pending then { AllocEntry.of a with addressed := true, pending := false }
      else AllocEntry.of a := by
  cases hpending : a.status.isPending with
  | true =>
    simp only [AllocEntry.of, Alloc.run, hpending, if_true]
    rfl
  | false => simp [AllocEntry.of, Alloc.run, hpending]

def booked : Command → Bool
  | .allocScheduled _ _ _ _ _ _ | .allocStatus _ _ | .allocRunning _ _ _ | .volumeCreated _ _
  | .volumeAttached _ _ | .volumeDetached _ => true
  | _ => false

lemma applyCommand_of_booked (s : FsmState) {cmd : Command} (h : booked cmd = true) :
    (applyCommand s cmd).1.nodes = s.nodes ∧ (applyCommand s cmd).1.secrets = s.secrets ∧
      (applyCommand s cmd).1.config = s.config := by
  cases cmd with
  | allocScheduled | allocStatus | allocRunning | volumeAttached | volumeDetached =>
    simp only [applyCommand]
    repeat' split
    all_goals exact ⟨rfl, rfl, rfl⟩
  | volumeCreated => exact ⟨rfl, rfl, rfl⟩
  | _ => cases h

lemma Tallies.of_book (h : φ.Tallies s₀ w) {cmd : Command} {φ' : Sheet}
    (hbooked : booked cmd = true) (hconfig : φ'.config = φ.config)
    (hbook : ∀ id, (allocAfter w.fsm id cmd).map AllocEntry.of = φ'.book id) :
    φ'.Tallies s₀ (w.commit cmd) := by
  obtain ⟨hnodes, hsecrets, hkept⟩ := applyCommand_of_booked w.fsm hbooked
  refine ⟨hnodes.trans h.nodes, hsecrets.trans h.secrets, ?_, fun id => ?_⟩
  · exact hkept.trans (h.config.trans hconfig.symm)
  · rw [World.commit, lookup_allocs_applyCommand]
    exact hbook id

lemma Tallies.map_lookup (h : φ.Tallies s₀ w) (id : AllocId) {f : Alloc → Alloc}
    {g : AllocEntry → AllocEntry} (hfg : ∀ a, AllocEntry.of (f a) = g (AllocEntry.of a))
    (i : AllocId) :
    (if i = id then (w.fsm.allocs.lookup i).map f else w.fsm.allocs.lookup i).map AllocEntry.of =
      (φ.set id ((φ.book id).map g)).book i := by
  by_cases hi : i = id
  · subst hi
    rw [if_pos rfl, book_set_self, ← h.book i, map_map, map_map]
    exact Option.map_congr fun a _ => hfg a
  · rw [if_neg hi, book_set_of_ne hi, h.book]

lemma Tallies.propose (h : φ.Tallies s₀ w) {cmd : Command}
    (hpre : Proposes s₀ (.propose cmd)) : (φ.after (.propose cmd)).Tallies s₀ (w.commit cmd) := by
  cases cmd with
  | deploy => exact ⟨h.nodes, h.secrets, rfl, h.book⟩
  | allocScheduled id =>
    obtain ⟨hnode, rfl⟩ := hpre
    rw [← h.nodes] at hnode
    obtain ⟨n, hn⟩ := isSome_iff_exists.mp (Finmap.lookup_isSome.mpr hnode)
    refine h.of_book rfl rfl fun i => ?_
    simp only [allocAfter, hn, after]
    by_cases hi : i = id
    · subst hi
      rw [if_pos rfl, book_set_self]
      rfl
    · rw [if_neg hi, book_set_of_ne hi, h.book]
  | allocStatus id => exact h.of_book rfl rfl fun i => h.map_lookup id (fun _ => rfl) i
  | volumeCreated name cloudId | volumeAttached name node | volumeDetached name =>
    exact h.of_book rfl rfl fun i => h.book i
  | _ => exact hpre.elim

lemma Tallies.started (h : φ.Tallies s₀ w) (id : AllocId) (address : SocketAddr)
    (startedAt : Option SystemTime) : (φ.after (.waitForStatus id)).Tallies s₀
      (w.commit (.allocRunning id (some address) startedAt)) :=
  h.of_book rfl rfl fun i => h.map_lookup id (fun a => entry_run a address startedAt) i

lemma answer_of_choice {e : Effect} {r : e.Answer} {choice : Choice}
    (ha : w.startingAnswer e (.choice choice) = some (r, w')) :
    choice.goesThrough = true ∧ w.answer e choice = some (r, w') := by
  cases e with
  | waitForStatus => cases ha
  | _ =>
    simp only [World.startingAnswer] at ha
    split_ifs at ha with hc
    exact ⟨hc, ha⟩

lemma Tallies.of_fsm (h : φ.Tallies s₀ w) (hfsm : w'.fsm = w.fsm) : φ.Tallies s₀ w' := by
  constructor
  · rw [hfsm, h.nodes]
  · rw [hfsm, h.secrets]
  · rw [hfsm, h.config]
  · intro id
    rw [hfsm, h.book]

lemma Tallies.wait (h : φ.Tallies s₀ w) {id : AllocId} {r : Except DeployError Unit}
    (ha : w.startingAnswer (.waitForStatus id) c = some (r, w')) :
    φ.Fine s₀ (.waitForStatus id) r ∧ (φ.after (.waitForStatus id)).Tallies s₀ w' := by
  cases c with
  | choice => cases ha
  | started address startedAt =>
    have hafter := h.started id address startedAt
    simp only [World.startingAnswer, World.answer, bind_eq_bind, bind_eq_some_iff,
      Option.some.injEq, Prod.mk.injEq] at ha
    obtain ⟨alloc, halloc, result, hsettled, rfl, rfl⟩ := ha
    refine ⟨fun e he hpending => ?_, hafter⟩
    -- the container was pending, so it runs now
    rw [mem_def, ← h.book id] at he
    obtain ⟨a, hlookup, rfl⟩ := map_eq_some_iff.mp he
    have hstatus : a.status.isPending = true := hpending
    rw [World.commit, lookup_allocs_applyCommand, allocAfter, if_pos rfl, hlookup,
      map_some, Option.some.injEq, Alloc.run, if_pos hstatus] at halloc
    rw [← halloc] at hsettled
    exact (Option.some.inj hsettled).symm

lemma Tallies.answer (h : φ.Tallies s₀ w) (hkeyed : s₀.NodesKeyed) {e : Effect} {r : e.Answer}
    (hpre : Proposes s₀ e) (huntroubled : w.untroubled c e = true)
    (ha : w.startingAnswer e c = some (r, w')) : φ.Fine s₀ e r ∧ (φ.after e).Tallies s₀ w' := by
  cases c with
  | started =>
    cases e with
    | waitForStatus => exact h.wait ha
    | _ => cases ha
  | choice choice =>
    obtain ⟨hgo, hchoice⟩ := answer_of_choice ha
    cases World.answered_of_answer hchoice with
    | read q v =>
      refine ⟨h.fine_read hkeyed v q fun name d hq => ?_, h⟩
      subst hq
      rw [World.untroubled, ha] at huntroubled
      simpa [isSome_iff_ne_none] using huntroubled
    | applied =>
      refine ⟨⟨⟨_, rfl⟩, ?_⟩, h.propose hpre⟩
      rintro id node name kind address resources rfl e he
      rw [mem_def, ← h.book id] at he
      obtain ⟨a, hlookup, rfl⟩ := map_eq_some_iff.mp he
      rw [World.untroubled, hlookup, all_some] at huntroubled
      exact of_decide_eq_true huntroubled
    | randSuffix =>
      refine ⟨fun name => ?_, h⟩
      rw [← h.book, map_eq_none_iff, Finmap.lookup_eq_none]
      intro hmem
      cases choice <;> cases hchoice
      have hnew := of_decide_eq_true huntroubled
      refine hnew _ (Finmap.mem_keys.mpr hmem) ⟨name.toList, ?_⟩
      simp only [String.toList_append, List.append_assoc]
    | created name size cloudId => exact ⟨⟨cloudId, rfl⟩, h.of_fsm rfl⟩
    | visitServices _ _ horder | visitEnv _ _ horder => exact ⟨horder, h⟩
    | polled => exact ⟨fun _ _ _ => rfl, h⟩
    | delivered => exact ⟨rfl, h.of_fsm rfl⟩
    | broadcast | spawnRestart | notDestroyed => exact ⟨trivial, h⟩
    | destroyed | tick => exact ⟨trivial, h.of_fsm rfl⟩
    | waited | waitedInVain => cases ha
    | polledInVain =>
      cases choice with
      | proceed => simp [World.answer, bind_eq_some_iff] at hchoice
      | _ => cases hchoice <;> cases hgo
    | _ =>
      -- what has failed was not to go through
      cases choice with
      | elapsed | raftError | undelivered | cloudError | lostReply => cases hgo
      | _ => cases hchoice <;> exact ⟨rfl, h⟩

lemma Tallies.unmoved (h : φ.Tallies s₀ w) {cmd : Command}
    (hunmoved : w.fsm.Unmoved (w.commit cmd).fsm) : φ.Tallies s₀ (w.commit cmd) := by
  obtain ⟨hnodes, hsecrets, hconfig, hbook⟩ := hunmoved
  refine ⟨hnodes.trans h.nodes, hsecrets.trans h.secrets, hconfig.trans h.config, fun id => ?_⟩
  have hid : (w.commit cmd).fsm.book.lookup id = w.fsm.book.lookup id := by rw [hbook]
  rw [FsmState.book, FsmState.book, Finmap.lookup_mapVals, Finmap.lookup_mapVals] at hid
  rw [hid, h.book]

lemma wp_of_run {α : Type} {s₀ : FsmState} (hkeyed : s₀.NodesKeyed) {p p' : Action α}
    {Q : Except DeployError α → Sheet → Prop} (hp : p.wp (spec s₀) Q φ) (h : φ.Tallies s₀ w)
    {es : List (Surrounding ⊕ Command)} (hsmooth : Transition.Guarded stepDeploy Smooth (w, p) es)
    (hrun : Transition.run stepDeploy (w, p) es = some (w', p')) :
    ∃ φ', φ'.Tallies s₀ w' ∧ p'.wp (spec s₀) Q φ' := by
  refine wp_of_run_observed (T := fun w φ => Tallies s₀ w φ) ?_ ?_ hp h hsmooth hrun
  · intro w φ e next c r w' h hpre hsmooth ha
    obtain ⟨hfine, htallies⟩ := h.answer hkeyed hpre hsmooth ha
    exact ⟨φ.after e, ⟨hfine, rfl⟩, htallies⟩
  · intro w φ p cmd w' h hsmooth hout
    cases hout
    exact h.unmoved hsmooth

end Sheet

end Mill
