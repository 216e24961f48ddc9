import Mill.Node.DeployEffects

/-! Where the allocations of a service go and where its volumes are. -/

namespace Mill

open Mill.Action Program

def aloneSpec (pre : World → Effect → Prop) : Spec Effect Effect.Answer World where
  pre := pre
  post w e r w' := w.Answered e r w'

lemma pre_of_alone {X α : Type} {pre : World → Effect → Prop} {Q : Except X α → World → Prop}
    {p : Program Effect Effect.Answer X α} {w w' : World} {e : Effect}
    (hp : p.wp (aloneSpec pre) Q w) (h : Performs World.answer w p w' e) : pre w' e :=
  pre_of_performs hp (fun _ _ _ _ _ => World.answered_of_answer) h

lemma wp_read_alone {pre : World → Effect → Prop} {q : Query}
    {Q : Except DeployError q.Result → World → Prop} {w : World} (hpre : pre w (.read q))
    (h : ∀ v, Q (.ok (q.eval w.fsm v)) w) : (read q).wp (aloneSpec pre) Q w := by
  refine wp_effect hpre fun r w' hr => ?_
  cases hr with
  | read _ v => exact h v

lemma exists_view {s : FsmState} {id : Nat} {n : FsmNode} (hn : s.nodes.lookup id = some n) :
    ∃ (v : View s) (rest : List FsmNode), v.nodes = n :: rest := by
  obtain ⟨others, hothers⟩ := Multiset.exists_cons_of_mem (Finmap.mem_values.mpr ⟨id, hn⟩)
  obtain ⟨rest, rfl⟩ := Quot.exists_rep others
  obtain ⟨allocs, hallocs⟩ := Quot.exists_rep s.allocs.values
  obtain ⟨volumes, hvolumes⟩ := Quot.exists_rep s.volumes.entries
  exact ⟨⟨n :: rest, allocs, volumes, hothers, hallocs.symm, hvolumes.symm⟩, rest, rfl⟩

section

variable {w w' : World} {α : Type}

lemma reaches_act {e : Effect} {c : Choice} {r : e.Answer} {f : e.Answer → Action α}
    (h : w.answer e c = some (r, w')) : Reaches World.answer (w, act e >>= f) (w', f r) :=
  .step h (.refl _)

lemma reaches_read {q : Query} {f : q.Result → Action α} (v : View w.fsm) :
    Reaches World.answer (w, read q >>= f) (w, f (q.eval w.fsm v)) := by
  have hanswer : w.answer (.read q) (.order v.nodes v.allocs v.volumes) =
      some (q.eval w.fsm v, w) := dif_pos ⟨v.nodes_eq, v.allocs_eq, v.volumes_eq⟩
  exact reaches_act hanswer

lemma reaches_propose (c : Command) {f : Response → Action α} :
    Reaches World.answer (w, propose c >>= f)
      ({ w with fsm := (applyCommand w.fsm c).1 }, f (applyCommand w.fsm c).2) :=
  .step (c := Choice.proceed) rfl (.refl _)

end

section

def pinnedTo (vols : List VolumeDef) (volumes : Finmap fun _ : String => FsmVolume) :
    Option NodeId := do
  let first ← vols.head?
  let vol ← volumes.lookup first.name
  match vol.state with
  | .attached node => some node
  | .ready => none

lemma pinnedTo_eq_some {vols : List VolumeDef} {volumes : Finmap fun _ : String => FsmVolume}
    {m : NodeId} : pinnedTo vols volumes = some m ↔ ∃ first ∈ vols.head?,
        (volumes.lookup first.name).map FsmVolume.state = some (.attached m) := by
  have hstate (vol : FsmVolume) : (match vol.state with
      | .attached node => some node
      | .ready => none) = some m ↔ vol.state = .attached m := by
    cases vol.state <;> simp
  simp only [pinnedTo, Option.bind_eq_bind, Option.bind_eq_some_iff, Option.map_eq_some_iff, hstate,
    Option.mem_def]

variable {s : FsmState} {v : View s} {name : String} {d : ServiceDef} {m : NodeId}

lemma attachedTo_request (v : View s) (name : String) (d : ServiceDef) :
    (d.request name).attachedTo (v.volumes.map fun vol => (vol.1, vol.2)) =
      pinnedTo d.volumes s.volumes := by
  rw [ScheduleRequest.attachedTo_eq v.volumes_eq]
  unfold pinnedTo ServiceDef.request
  cases d.volumes.head? <;> rfl

lemma eq_of_place (hpin : pinnedTo d.volumes s.volumes = some m) {node : NodeId}
    (h : Query.eval s v (.place name d) = some node) : node = m := by
  simp only [Query.eval] at h
  rw [schedule_of_attachedTo ((attachedTo_request v name d).trans hpin)] at h
  exact (Option.some.inj (Option.ite_none_right_eq_some.mp h).2).symm

lemma place_eq {n : FsmNode} (hn : n ∈ v.nodes) (hready : n.status = .ready)
    (hroom : hasCapacity (s.nodeAvailableResources n.raftId) d.resources = true)
    (honly : ∀ n' ∈ v.nodes, n'.status = .ready → n'.millId = n.millId)
    (hpin : pinnedTo d.volumes s.volumes = none ∨ pinnedTo d.volumes s.volumes = some n.millId) :
    Query.eval s v (.place name d) = some n.millId := by
  simp only [Query.eval]
  rcases hpin with hpin | hpin
  · have hfree := (attachedTo_request v name d).trans hpin
    have hroom' : hasCapacity (s.nodeAvailableResources n.raftId) (d.request name).need = true :=
      hroom
    obtain ⟨m, hm⟩ := exists_schedule_of_room hfree hn hready hroom'
      (v.allocs.map fun a => (a.node, a.name, a.kind))
    obtain ⟨n', hn', rfl, hready', -⟩ := exists_of_schedule_eq_some hm
    rw [hm, honly n' hn' hready']
  · rw [schedule_of_attachedTo ((attachedTo_request v name d).trans hpin), if_pos]
    refine List.any_eq_true.mpr ⟨n, hn, ?_⟩
    simpa [hready, ServiceDef.request] using hroom

end

section

variable {name : String} {d : ServiceDef} {allocId : AllocId} {e : Effect} {r : e.Answer}
  {w w' : World}

lemma StartEffect.frame (he : StartEffect name d allocId e) (h : w.Answered e r w') :
    w'.fsm.volumes = w.fsm.volumes ∧ w'.fsm.nodes = w.fsm.nodes ∧ w'.fsm.config = w.fsm.config := by
  cases he with
  | place | raftIdFor m => cases h; exact ⟨rfl, rfl, rfl⟩
  | schedule =>
    cases h with
    | refused => exact ⟨rfl, rfl, rfl⟩
    | applied =>
      simp only [applyCommand]
      split <;> exact ⟨rfl, rfl, rfl⟩
  | running node e he =>
    cases he with
    | status =>
      cases h with
      | refused => exact ⟨rfl, rfl, rfl⟩
      | applied =>
        simp only [applyCommand]
        split <;> exact ⟨rfl, rfl, rfl⟩
    | _ => cases h <;> exact ⟨rfl, rfl, rfl⟩

lemma wp_startAlloc (I : World → Prop) (Good : NodeId → Prop) {pre : World → Effect → Prop}
    (ctx : DeployCtx) (replica : Nat) (hw : I w)
    (hI : ∀ w e r w', I w → StartEffect name d allocId e → w.Answered e r w' → I w')
    (hread : ∀ w q, pre w (.read q))
    (hplace : ∀ w (v : View w.fsm) m, I w → Query.eval w.fsm v (.place name d) = some m → Good m)
    (hschedule : ∀ w (v : View w.fsm) m raftId, I w → Good m →
      FsmState.raftIdFor v.nodes m = some raftId →
      pre w (.propose
        (.allocScheduled allocId raftId name .service none (.ofResources d.resources))))
    (hrun : ∀ w m e, I w → Good m → RunEffect d allocId m e → pre w e) :
    (startAlloc ctx name d allocId replica).wp (aloneSpec pre) (fun _ w => I w) w := by
  refine wp_bind (wp_read_alone (hread w _) fun v => ?_)
  cases hm : Query.eval w.fsm v (.place name d) with
  | none => exact hw
  | some m =>
    have hgood := hplace w v m hw hm
    refine wp_bind (wp_read_alone (hread w _) fun v' => ?_)
    cases hid : Query.eval w.fsm v' (.raftIdFor m) with
    | none => exact hw
    | some raftId =>
      have hstep (r w₁) (h : w.Answered _ r w₁) : I w₁ := hI w _ r w₁ hw (.schedule raftId) h
      refine wp_bind (wp_propose (hschedule w v' m raftId hw hgood hid) ?_ fun _ w₁ => hstep _ w₁)
      intro response w₁ h₁
      refine wp_of_only (only_afterSchedule ctx m) (hstep _ w₁ h₁) ?_ (fun _ _ h => h)
        fun _ _ _ h => h
      intro e w₂ he hw₂
      exact ⟨hrun w₂ m e hw₂ hgood he, fun r w₃ h₃ => hI w₂ e r w₃ hw₂ (.running m e he) h₃⟩

end

section

open FsmState

structure OnlyRoom (s : FsmState) (need : Resources) (id : Nat) (n : FsmNode) : Prop where
  node : s.nodes.lookup id = some n
  keyed : n.raftId = id
  ready : n.status = .ready
  cpu : need.cpu ≤ n.resources.cpuTotal
  memory : need.memory ≤ n.resources.memoryTotal
  free : (s.allocs.any fun _ a => counts n.millId a) = false
  only : ∀ id' n', s.nodes.lookup id' = some n' →
    n'.status = .ready ∨ n'.millId = n.millId → id' = id

variable {s : FsmState} {id : Nat} {n : FsmNode}

lemma OnlyRoom.hasCapacity {need : Resources} (h : OnlyRoom s need id n) :
    hasCapacity (s.nodeAvailableResources n.raftId) need = true := by
  have hcpu : s.cpuUsed n.millId = 0 := reserved_eq_zero h.free
  have hmem : s.memUsed n.millId = 0 := reserved_eq_zero h.free
  rw [h.keyed, FsmState.nodeAvailableResources, h.node, Option.map_some]
  simp only [Mill.hasCapacity, hcpu, hmem, sub_zero, FsmState.saturatingSub, Bool.and_eq_true,
    decide_eq_true_eq]
  refine ⟨h.cpu, ?_⟩
  simpa using h.memory

lemma OnlyRoom.place {d : ServiceDef} (h : OnlyRoom s d.resources id n) (v : View s) (name : String)
    (hpin : pinnedTo d.volumes s.volumes = none ∨ pinnedTo d.volumes s.volumes = some n.millId) :
    Query.eval s v (.place name d) = some n.millId ∧
      Query.eval s v (.raftIdFor n.millId) = some id := by
  have hmem (n' : FsmNode) : n' ∈ v.nodes ↔ ∃ k, s.nodes.lookup k = some n' := by
    rw [← Finmap.mem_values, v.nodes_eq, Multiset.mem_coe]
  have hn : n ∈ v.nodes := (hmem n).mpr ⟨id, h.node⟩
  have honly {n' : FsmNode} (hn' : n' ∈ v.nodes)
      (h' : n'.status = .ready ∨ n'.millId = n.millId) : n' = n := by
    obtain ⟨k, hk⟩ := (hmem n').mp hn'
    obtain rfl := h.only k n' hk h'
    exact Option.some.inj (hk.symm.trans h.node)
  constructor
  · exact place_eq hn h.ready h.hasCapacity (fun n' hn' hr => by rw [honly hn' (.inl hr)]) hpin
  · simp only [Query.eval, FsmState.raftIdFor]
    cases hfind : v.nodes.find? fun n' => n'.millId == n.millId with
    | none => exact absurd (List.find?_eq_none.mp hfind n hn) (by simp)
    | some n' =>
      have hmill : n'.millId = n.millId := by simpa using List.find?_some hfind
      rw [honly (List.mem_of_find?_eq_some hfind) (.inr hmill), Option.map_some, h.keyed]

def spareNode (id : Nat) (m : NodeId) (need : Resources) : FsmNode :=
  ⟨id, m, ⟨.v4 0, 0⟩, ⟨need.cpu, need.cpu, need.memory, need.memory⟩, .ready,
    none, none, none, none⟩

def oneNode (volumes : Finmap fun _ : String => FsmVolume) (m : NodeId) (need : Resources) :
    World :=
  ⟨⟨none, Finmap.singleton 1 (spareNode 1 m need), ∅, ∅, volumes⟩, [], [], 0⟩

lemma onlyRoom_oneNode (volumes : Finmap fun _ : String => FsmVolume) (m : NodeId)
    (need : Resources) : OnlyRoom (oneNode volumes m need).fsm need 1 (spareNode 1 m need) where
  node := Finmap.lookup_singleton_eq
  keyed := rfl
  ready := rfl
  cpu := le_rfl
  memory := UInt64.le_refl _
  free := rfl
  only _ _ h _ := (Finmap.of_lookup_singleton h).1

end

def Effect.PlacesOn (n : NodeId) (w : World) : Effect → Prop
  | .propose (.allocScheduled _ raftId ..) => w.fsm.millIdAt raftId = some n
  | .send node (.run ..) => node = n
  | _ => True

lemma FsmState.NodesKeyed.millIdAt_of_raftIdFor {s : FsmState} (hs : s.NodesKeyed) (v : View s)
    {m : NodeId} {raftId : Nat} (h : FsmState.raftIdFor v.nodes m = some raftId) :
    s.millIdAt raftId = some m := by
  obtain ⟨n, hn, hmill⟩ := lookup_of_raftIdFor hs v.nodes_eq h
  rw [FsmState.millIdAt, hn, Option.map_some, hmill]

lemma exists_fresh_node (a b : NodeId) : ∃ m, m ≠ a ∧ m ≠ b := by
  have hlen : (a.val ++ b.val ++ "+").length = a.val.length + b.val.length + 1 := by
    rw [String.length_append, String.length_append]
    rfl
  have hne {x : NodeId} (h : x.val.length ≤ a.val.length + b.val.length) :
      (⟨a.val ++ b.val ++ "+"⟩ : NodeId) ≠ x := by
    rintro rfl
    rw [hlen] at h
    omega
  exact ⟨⟨a.val ++ b.val ++ "+"⟩, hne (by omega), hne (by omega)⟩

lemma exists_other_node {vols : List VolumeDef} {volumes : Finmap fun _ : String => FsmVolume}
    {n : NodeId} (h : pinnedTo vols volumes ≠ some n) : ∃ m, m ≠ n ∧
      (pinnedTo vols volumes = none ∨ pinnedTo vols volumes = some m) := by
  cases hpin : pinnedTo vols volumes with
  | some m => exact ⟨m, fun he => h (he ▸ hpin), .inr rfl⟩
  | none =>
    obtain ⟨m, hm, -⟩ := exists_fresh_node n n
    exact ⟨m, hm, .inl rfl⟩

/-- Allocations follow the volumes of their service to the node that has them all,
whatever else the cluster looks like, exactly if the first volume in the list takes part:
it is persistent, or there is a volume of its name on that node. -/
theorem start_alloc_follows_volumes_iff (ctx : DeployCtx) (name : String) (d : ServiceDef)
    (allocId : AllocId) (replica : Nat) (volumes : Finmap fun _ : String => FsmVolume) (n : NodeId)
    (hall : ∀ vol ∈ d.volumes, vol.ephemeral = false →
      (volumes.lookup vol.name).map FsmVolume.state = some (.attached n)) :
    (∀ w : World, w.fsm.volumes = volumes → w.fsm.NodesKeyed → ∀ w' e,
      Performs World.answer w (startAlloc ctx name d allocId replica) w' e → e.PlacesOn n w') ↔
    ∃ first ∈ d.volumes.head?, first.ephemeral = false ∨
      (volumes.lookup first.name).map FsmVolume.state = some (.attached n) := by
  have hcondition : (∃ first ∈ d.volumes.head?, first.ephemeral = false ∨
      (volumes.lookup first.name).map FsmVolume.state = some (.attached n)) ↔
        pinnedTo d.volumes volumes = some n := by
    rw [pinnedTo_eq_some]
    refine exists_congr fun first => and_congr_right fun hfirst => or_iff_right_of_imp ?_
    exact hall first (List.mem_of_mem_head? hfirst)
  rw [hcondition]
  constructor
  · intro h
    by_contra hpin
    obtain ⟨m, hm, hpin'⟩ := exists_other_node hpin
    have hroom := onlyRoom_oneNode volumes m d.resources
    have hkeyed : (oneNode volumes m d.resources).fsm.NodesKeyed := by
      intro id node hnode
      obtain ⟨rfl, rfl⟩ := Finmap.of_lookup_singleton hnode
      rfl
    obtain ⟨v, -⟩ := exists_view hroom.node
    obtain ⟨hplace, hid⟩ := hroom.place v name hpin'
    have hperforms : Performs World.answer (oneNode volumes m d.resources)
        (startAlloc ctx name d allocId replica) (oneNode volumes m d.resources)
        (.propose (.allocScheduled allocId 1 name .service none (.ofResources d.resources))) := by
      refine (reaches_read v).performs ?_
      rw [hplace]
      refine (reaches_read v).performs ?_
      rw [hid]
      exact ⟨_, .refl _⟩
    have hat := h _ rfl hkeyed _ _ hperforms
    exact hm (Option.some.inj hat)
  · intro hpin w hvolumes hkeyed w' e hperforms
    have hwp : (startAlloc ctx name d allocId replica).wp (aloneSpec fun w e => e.PlacesOn n w)
        (fun _ w => w.fsm.volumes = volumes ∧ w.fsm.NodesKeyed) w := by
      refine wp_startAlloc _ (fun m => m = n) ctx replica ⟨hvolumes, hkeyed⟩ ?_ ?_ ?_ ?_ ?_
      · rintro w e r w' ⟨hv, hk⟩ he h
        obtain ⟨hv', hn', -⟩ := he.frame h
        refine ⟨hv'.trans hv, ?_⟩
        unfold FsmState.NodesKeyed
        rw [hn']
        exact hk
      · exact fun _ _ => trivial
      · rintro w v m ⟨hv, -⟩ hm
        exact eq_of_place (hv ▸ hpin) hm
      · rintro w v m raftId ⟨-, hk⟩ rfl hid
        exact hk.millIdAt_of_raftIdFor v hid
      · rintro w m e - rfl he
        cases he <;> trivial
    exact pre_of_alone hwp hperforms

def demoData : VolumeDef := ⟨"data", "/data", none, false⟩

def demoCache : VolumeDef := ⟨"cache", "/cache", none, true⟩

def demoStore (vols : List VolumeDef) : ServiceDef :=
  ⟨"store", 80, 1, ⟨1, 1024⟩, ∅, none, none, [], vols⟩

def demoVolumes (m : NodeId) : Finmap fun _ : String => FsmVolume :=
  Finmap.singleton "data" ⟨"vol-1", .attached m⟩

def demoNodes : List FsmNode := [spareNode 1 ⟨"n"⟩ ⟨4, 8192⟩, spareNode 2 ⟨"m"⟩ ⟨2, 4096⟩]

def demoPair (volumes : Finmap fun _ : String => FsmVolume) : World :=
  ⟨⟨none, (demoNodes.map fun n => ⟨n.raftId, n⟩).toFinmap, ∅, ∅, volumes⟩, [], [], 0⟩

def demoPairOrder (m : NodeId) : Choice :=
  .order demoNodes [] [⟨"data", ⟨"vol-1", .attached m⟩⟩]

theorem start_alloc_follows_volumes_iff_first :
    (∃ first ∈ [demoData, demoCache].head?, first.ephemeral = false) ∧
      ∀ w : World, w.fsm.volumes = demoVolumes ⟨"n"⟩ → w.fsm.NodesKeyed → ∀ w' e,
        Performs World.answer w
          (startAlloc demoCtx "store" (demoStore [demoData, demoCache]) ⟨"store-0"⟩ 0) w' e →
          e.PlacesOn ⟨"n"⟩ w' :=
  ⟨by decide, (start_alloc_follows_volumes_iff demoCtx "store" (demoStore [demoData, demoCache])
    ⟨"store-0"⟩ 0 (demoVolumes ⟨"n"⟩) ⟨"n"⟩ (by decide +kernel)).mpr (by decide +kernel)⟩

/-- With the ephemeral volume first, placement does not look at the other one. -/
theorem start_alloc_leaves_volume :
    (∀ vol ∈ (demoStore [demoCache, demoData]).volumes, vol.ephemeral = false →
      ((demoVolumes ⟨"n"⟩).lookup vol.name).map FsmVolume.state = some (.attached ⟨"n"⟩)) ∧
    ∃ w' p', Reaches World.answer (demoPair (demoVolumes ⟨"n"⟩),
        startAlloc demoCtx "store" (demoStore [demoCache, demoData]) ⟨"store-0"⟩ 0) (w', p') ∧
      (w'.fsm.allocs.lookup ⟨"store-0"⟩).map Alloc.node = some ⟨"m"⟩ := by
  have hrun : (Transition.run (stepAlone World.answer) (demoPair (demoVolumes ⟨"n"⟩),
      startAlloc demoCtx "store" (demoStore [demoCache, demoData]) ⟨"store-0"⟩ 0)
      [demoPairOrder ⟨"n"⟩, demoPairOrder ⟨"n"⟩, .proceed]).map
        (fun b => (b.1.fsm.allocs.lookup ⟨"store-0"⟩).map Alloc.node) = some (some ⟨"m"⟩) := by
    decide +kernel
  obtain ⟨⟨w', p'⟩, hb, hnode⟩ := Option.map_eq_some_iff.mp hrun
  exact ⟨by decide +kernel, w', p', ⟨_, hb⟩, hnode⟩

end Mill
