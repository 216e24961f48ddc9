import Mill.Node.VolumeAffinity

/-! Where the volumes of a service are when a drain or a restart runs it again. -/

namespace Mill

open Mill.Action Finmap Option Program

section

def AtVolumes (volumes : Finmap fun _ : String => FsmVolume) (node : NodeId)
    (vols : List ContainerVolume) : Prop :=
  ∀ v ∈ vols, v.ephemeral = false → ∀ vol, volumes.lookup v.name = some vol →
    vol.state = .attached node

/-- No persistent volume exists, or all that exist are on one node, which is not the
drained one, and the first volume of the list is there too. -/
def StayPut (drained : Option NodeId) (vols : List ContainerVolume)
    (volumes : Finmap fun _ : String => FsmVolume) : Prop :=
  (∀ v ∈ vols, v.ephemeral = false → volumes.lookup v.name = none) ∨ ∃ n, drained ≠ some n ∧
      (∃ first ∈ vols.head?, (volumes.lookup first.name).map FsmVolume.state = some (.attached n)) ∧
      AtVolumes volumes n vols

def Effect.RunsAtVolumes (vols : List ContainerVolume) (w : World) (e : Effect) : Prop :=
  ∀ node allocId spec auth, e = .send node (.run allocId spec auth) → spec.volumes = vols →
    AtVolumes w.fsm.volumes node vols

def ServiceDef.containerVolumes (d : ServiceDef) : List ContainerVolume :=
  d.volumes.map fun v => ⟨v.name, v.path, v.ephemeral⟩

variable {drained : Option NodeId} {vols : List ContainerVolume}
  {volumes volumes' : Finmap fun _ : String => FsmVolume} {name : String} {d : ServiceDef}
  {allocId : AllocId} {w : World}

lemma pinnedTo_eq_some_container {n : NodeId} : pinnedTo d.volumes volumes = some n ↔
    ∃ first ∈ d.containerVolumes.head?,
      (volumes.lookup first.name).map FsmVolume.state = some (.attached n) := by
  rw [pinnedTo_eq_some, ServiceDef.containerVolumes, List.head?_map]
  cases d.volumes.head? <;> simp

lemma wp_startAlloc_settled (ctx : DeployCtx) (replica : Nat)
    (h : StayPut drained vols w.fsm.volumes) :
    (startAlloc ctx name d allocId replica).wp (aloneSpec fun w e => e.RunsAtVolumes vols w)
      (fun _ w' => w'.fsm.volumes = w.fsm.volumes) w := by
  generalize hvolumes : w.fsm.volumes = volumes at h
  refine wp_startAlloc _ (fun m => d.containerVolumes = vols → AtVolumes volumes m vols) ctx replica
    hvolumes ?_ ?_ ?_ ?_ ?_
  · intro w e r w' hw he hanswered
    exact (he.frame hanswered).1.trans hw
  · intro w q node id spec auth he
    cases he
  · rintro w v m hw hm rfl
    rcases h with hnone | ⟨n, -, hfirst, hat⟩
    · intro vol hvol hpersistent rec hrec
      rw [hnone vol hvol hpersistent] at hrec
      cases hrec
    · rw [eq_of_place (hw ▸ pinnedTo_eq_some_container.mpr hfirst) hm]
      exact hat
  · intro w v m raftId _ _ _ node id spec auth he
    cases he
  · intro w m e hw hgood he node id spec auth hsend hspec
    rw [hw]
    cases he with
    | run =>
      cases hsend
      exact hgood hspec
    | _ => cases hsend

lemma wp_restartReplica (ctx : DeployCtx) (h : StayPut drained vols w.fsm.volumes) :
    (restartReplica ctx name d).wp (aloneSpec fun w e => e.RunsAtVolumes vols w)
      (fun _ w' => w'.fsm.volumes = w.fsm.volumes) w := by
  refine wp_bind (wp_bind (wp_effect (fun _ _ _ _ h => (nomatch h)) fun suffix w' hs => ?_))
  cases hs
  exact wp_startAlloc_settled ctx 0 h

end

section

variable {vols : List ContainerVolume} {k : NodeId} {w w' : World}

lemma mem_attachedVolumes {s : FsmState} {v : View s} {x : String} {vol : FsmVolume}
    (hvol : s.volumes.lookup x = some vol) :
    x ∈ Query.eval s v (.attachedVolumes k) ↔ vol.state = .attached k := by
  have hmem (e : Σ _ : String, FsmVolume) : e ∈ v.volumes ↔ s.volumes.lookup e.1 = some e.2 := by
    rw [← Multiset.mem_coe, ← v.volumes_eq]
    exact mem_lookup_iff.symm
  simp only [Query.eval, List.mem_map, List.mem_filter, beq_iff_eq, hmem]
  constructor
  · rintro ⟨e, ⟨he, hstate⟩, rfl⟩
    cases hvol.symm.trans he
    exact hstate
  · intro hstate
    exact ⟨⟨x, vol⟩, ⟨hvol, hstate⟩, rfl⟩

lemma stayPut_volumeDetached {s : FsmState} (h : StayPut (some k) vols s.volumes) {volName : String}
    (hvol : ∀ n, (s.volumes.lookup volName).map FsmVolume.state = some (.attached n) → n = k) :
    StayPut (some k) vols (applyCommand s (.volumeDetached volName)).1.volumes := by
  have hlookup (x : String) : (applyCommand s (.volumeDetached volName)).1.volumes.lookup x =
      if x = volName then (s.volumes.lookup x).map fun vol => { vol with state := .ready }
      else s.volumes.lookup x := lookup_volumes_applyCommand s _ x
  rcases h with hnone | ⟨n, hn, ⟨first, hfirst, hstate⟩, hat⟩
  · refine .inl fun v hv hpersistent => ?_
    rw [hlookup, hnone v hv hpersistent]
    split_ifs <;> rfl
  · have hkeep {x : String} (hx : (s.volumes.lookup x).map FsmVolume.state = some (.attached n)) :
        (applyCommand s (.volumeDetached volName)).1.volumes.lookup x = s.volumes.lookup x := by
      rw [hlookup, if_neg]
      rintro rfl
      exact hn (congrArg some (hvol n hx).symm)
    refine .inr ⟨n, hn, ⟨first, hfirst, by rw [hkeep hstate, hstate]⟩, ?_⟩
    intro v hv hpersistent vol hlook
    cases hold : s.volumes.lookup v.name with
    | none =>
      rw [hlookup, hold] at hlook
      split_ifs at hlook
      cases hlook
    | some old =>
      have hstate' : old.state = .attached n := hat v hv hpersistent old hold
      rw [hkeep (by rw [hold, map_some, hstate']), hold] at hlook
      cases hlook
      exact hstate'

lemma wp_drainVolume (ctx : DeployCtx) {volName : String}
    {Q : Except DeployError Unit → World → Prop} (hrefused : Q (.ok ()) w)
    (happlied : Q (.ok ()) { w with fsm := (applyCommand w.fsm (.volumeDetached volName)).1 }) :
    (drainVolume ctx volName).wp (aloneSpec fun w e => e.RunsAtVolumes vols w) Q w := by
  have hdetach : (detachCloud ctx volName).Only (fun e => e = .detach volName) fun _ => True :=
    only_detachCloud ctx rfl
  have hpropose : (act (.propose (.volumeDetached volName)) >>= fun _ => pure () : Action Unit).wp
      (aloneSpec fun w e => e.RunsAtVolumes vols w) Q w := by
    refine wp_bind (wp_effect (fun _ _ _ _ h => (nomatch h)) fun r w' h => ?_)
    cases h with
    | applied => exact happlied
    | refused => exact hrefused
  refine wp_bind (wp_attempt (wp_of_only (I := fun w' => w' = w) hdetach rfl ?_ ?_ ?_))
  · rintro e w' rfl rfl
    refine ⟨fun _ _ _ _ h => (nomatch h), fun r w'' h => ?_⟩
    cases h
    rfl
  · rintro _ w' rfl
    exact hpropose
  · rintro x w' - rfl
    exact hpropose

lemma wp_drainAlloc (ctx : DeployCtx) (millId : NodeId) (a : AllocId × String × AllocKind)
    (h : StayPut (some k) vols w.fsm.volumes) :
    (drainAlloc ctx millId a).wp (aloneSpec fun w e => e.RunsAtVolumes vols w)
      (fun _ w' => StayPut (some k) vols w'.fsm.volumes) w := by
  have hstop (w : World) (h : StayPut (some k) vols w.fsm.volumes) :
      (stopQuietly [(a.1, millId)]).wp (aloneSpec fun w e => e.RunsAtVolumes vols w)
        (fun _ w' => StayPut (some k) vols w'.fsm.volumes) w := by
    have honly : (stopQuietly [(a.1, millId)]).Only (fun e => e = .send millId (.stop a.1))
        fun _ => False := only_stopQuietly fun b hb => by rw [List.mem_singleton.mp hb]
    refine wp_of_only (I := fun w => StayPut (some k) vols w.fsm.volumes) honly h ?_
      (fun _ _ h => h) fun _ _ hx => hx.elim
    rintro e w' rfl hw'
    refine ⟨fun _ _ _ _ h => (nomatch h), fun r w'' hanswered => ?_⟩
    cases hanswered <;> exact hw'
  have hread (w : World) (q : Query) : (Effect.read q).RunsAtVolumes vols w :=
    fun _ _ _ _ h => (nomatch h)
  unfold drainAlloc
  split_ifs
  · refine wp_bind (wp_read_alone (hread w _) fun v => ?_)
    cases Query.eval w.fsm v (.serviceDef a.2.1) with
    | none => exact hstop w h
    | some =>
      refine wp_bind (wp_bind (wp_effect (fun _ _ _ _ h => (nomatch h)) fun suffix w' hs => ?_))
      cases hs
      refine wp_bind (wp_attempt (wp_mono (wp_startAlloc_settled ctx 0 h) ?_))
      rintro (x | u) w' hw'
      · rw [← hw'] at h
        exact h
      · rw [← hw'] at h
        exact hstop w' h
  · exact hstop w h

lemma wp_drainNode (ctx : DeployCtx) {nodeId : Nat} (hk : w.fsm.millIdAt nodeId = some k)
    (h : StayPut (some k) vols w.fsm.volumes) :
    (drainNode ctx nodeId).wp (aloneSpec fun w e => e.RunsAtVolumes vols w)
      (fun _ _ => True) w := by
  have hread (w : World) (q : Query) : (Effect.read q).RunsAtVolumes vols w :=
    fun _ _ _ _ h => (nomatch h)
  refine wp_bind (wp_propose (fun _ _ _ _ h => (nomatch h)) ?_ fun _ _ _ => trivial)
  intro response w₁ h₁
  cases response with
  | error => trivial
  | ok =>
    have hfsm : w₁.fsm = (applyCommand w.fsm (.nodeDrain nodeId)).1 := h₁.fsm_eq
    have hvolumes : w₁.fsm.volumes = w.fsm.volumes := by
      rw [hfsm]
      simp only [applyCommand]
      split <;> rfl
    have hk₁ : w₁.fsm.millIdAt nodeId = some k := by
      rw [hfsm, FsmState.millIdAt_applyCommand]
      exact hk
    rw [← hvolumes] at h
    refine wp_bind (wp_read_alone (hread w₁ _) fun v => ?_)
    refine wp_bind (wp_read_alone (hread w₁ _) fun v' => ?_)
    have hnames : ∀ x ∈ Query.eval w₁.fsm v' (.attachedVolumes k),
        ∀ n, (w₁.fsm.volumes.lookup x).map FsmVolume.state = some (.attached n) → n = k := by
      intro x hx n hstate
      obtain ⟨vol, hvol, hn⟩ := map_eq_some_iff.mp hstate
      rw [(mem_attachedVolumes hvol).mp hx] at hn
      cases hn
      rfl
    simp only [Query.eval, hk₁, getD_some] at hnames ⊢
    refine wp_bind (wp_foldEach (fun names _ w => StayPut (some k) vols w.fsm.volumes ∧
      ∀ x ∈ names, ∀ n, (w.fsm.volumes.lookup x).map FsmVolume.state = some (.attached n) → n = k)
      ?_ ?_ ⟨h, hnames⟩)
    · rintro x xs _ w₂ ⟨hsettled, hxs⟩
      have hrest := fun y hy => hxs y (List.mem_cons_of_mem x hy)
      refine wp_drainVolume ctx ⟨hsettled, hrest⟩
        ⟨stayPut_volumeDetached hsettled (hxs x List.mem_cons_self), fun y hy n hstate => ?_⟩
      dsimp only at hstate
      rw [lookup_volumes_applyCommand] at hstate
      simp only [volumeAfter] at hstate
      split_ifs at hstate
      · cases hlook : w₂.fsm.volumes.lookup y with
        | none | some vol => simp [hlook] at hstate
      · exact hrest y hy n hstate
    · rintro _ w₂ ⟨hsettled, -⟩
      refine wp_bind (wp_read_alone (hread w₂ _) fun v'' => ?_)
      refine wp_foldEach (fun _ _ w => StayPut (some k) vols w.fsm.volumes) ?_
        (fun _ _ _ => trivial) hsettled
      intro a _ _ w₃ h₃
      refine wp_mono (wp_drainAlloc ctx _ a h₃) ?_
      rintro (x | u) w₄ h₄
      · trivial
      · exact h₄

end

section

def detachedState (drained : Option NodeId) : VolumeState → VolumeState
  | .attached n => if drained = some n then .ready else .attached n
  | .ready => .ready

lemma detachedState_eq_attached {drained : Option NodeId} {state : VolumeState} {n : NodeId} :
    detachedState drained state = .attached n ↔ state = .attached n ∧ drained ≠ some n := by
  unfold detachedState
  cases state with
  | ready => simp
  | attached =>
    dsimp only
    split_ifs with hm
    · simp only [VolumeState.attached.injEq, false_iff, not_and, not_not]
      rintro rfl
      exact hm
    · simp only [VolumeState.attached.injEq, iff_self_and]
      rintro rfl
      exact hm

variable {drained : Option NodeId} {vols : List ContainerVolume}
  {volumes volumes' : Finmap fun _ : String => FsmVolume} {d : ServiceDef}

lemma pinnedTo_congr (h : ∀ x, (volumes.lookup x).map FsmVolume.state =
    (volumes'.lookup x).map FsmVolume.state) (vols : List VolumeDef) :
    pinnedTo vols volumes = pinnedTo vols volumes' := by
  refine Option.ext fun m => ?_
  simp only [pinnedTo_eq_some, h]

lemma AtVolumes.congr (h : ∀ x, (volumes.lookup x).map FsmVolume.state =
    (volumes'.lookup x).map FsmVolume.state) {m : NodeId} (hat : AtVolumes volumes m vols) :
    AtVolumes volumes' m vols := by
  intro v hv hpersistent vol hvol
  have hstate := h v.name
  rw [hvol, map_some] at hstate
  obtain ⟨old, hold, hold'⟩ := map_eq_some_iff.mp hstate
  exact hold' ▸ hat v hv hpersistent old hold

lemma exists_astray_of (h : ¬ StayPut drained d.containerVolumes volumes)
    (hafter : ∀ x, (volumes'.lookup x).map FsmVolume.state =
      (volumes.lookup x).map fun vol => detachedState drained vol.state) :
    ∃ m, drained ≠ some m ∧
      (pinnedTo d.volumes volumes' = none ∨ pinnedTo d.volumes volumes' = some m) ∧
      ¬ AtVolumes volumes' m d.containerVolumes := by
  have hastray {v : ContainerVolume} {vol : FsmVolume} {m : NodeId} (hv : v ∈ d.containerVolumes)
      (hpersistent : v.ephemeral = false) (hvol : volumes.lookup v.name = some vol)
      (hstate : detachedState drained vol.state ≠ .attached m) :
      ¬ AtVolumes volumes' m d.containerVolumes := by
    intro hat
    have hv' := hafter v.name
    rw [hvol, map_some] at hv'
    obtain ⟨vol', hvol', hstate'⟩ := map_eq_some_iff.mp hv'
    exact hstate (hstate' ▸ hat v hv hpersistent vol' hvol')
  simp only [StayPut, not_or, not_forall, not_exists, not_and] at h
  obtain ⟨⟨v, hv, hpersistent, hexists⟩, hnot⟩ := h
  obtain ⟨vol, hvol⟩ := ne_none_iff_exists'.mp hexists
  cases hpin : pinnedTo d.volumes volumes' with
  | some n =>
    obtain ⟨first, hfirst, hstate⟩ := pinnedTo_eq_some_container.mp hpin
    rw [hafter] at hstate
    obtain ⟨old, hold, hold'⟩ := map_eq_some_iff.mp hstate
    obtain ⟨hattached, hdrained⟩ := detachedState_eq_attached.mp hold'
    refine ⟨n, hdrained, .inr rfl, ?_⟩
    have hbad := hnot n hdrained ⟨first, hfirst, by rw [hold, map_some, hattached]⟩
    simp only [AtVolumes, not_forall] at hbad
    obtain ⟨u, hu, hpersistent', vol', hvol', hstate'⟩ := hbad
    exact hastray hu hpersistent' hvol' fun he => hstate' (detachedState_eq_attached.mp he).1
  | none =>
    obtain ⟨m, hm, hm'⟩ := exists_fresh_node (drained.getD ⟨""⟩) (match vol.state with
        | .attached n => n
        | .ready => ⟨""⟩)
    refine ⟨m, ?_, .inl rfl, hastray hv hpersistent hvol fun he => ?_⟩
    · rintro rfl
      exact hm rfl
    · have hstate := (detachedState_eq_attached.mp he).1
      rw [hstate] at hm'
      exact hm' rfl

lemma exists_astray (h : ¬ StayPut drained d.containerVolumes volumes) :
    ∃ m, drained ≠ some m ∧ ∀ volumes' : Finmap fun _ : String => FsmVolume,
      (∀ x, (volumes'.lookup x).map FsmVolume.state =
        (volumes.lookup x).map fun vol => detachedState drained vol.state) →
      (pinnedTo d.volumes volumes' = none ∨ pinnedTo d.volumes volumes' = some m) ∧
        ¬ AtVolumes volumes' m d.containerVolumes := by
  let after := volumes.mapVals fun _ vol => { vol with state := detachedState drained vol.state }
  have hafter (x : String) : (after.lookup x).map FsmVolume.state =
      (volumes.lookup x).map fun vol => detachedState drained vol.state := by
    rw [Finmap.lookup_mapVals, map_map]
    rfl
  obtain ⟨m, hm, hpin, hnot⟩ := exists_astray_of h hafter
  refine ⟨m, hm, fun volumes' hvolumes' => ?_⟩
  have hsame (x : String) := (hvolumes' x).trans (hafter x).symm
  exact ⟨(pinnedTo_congr hsame d.volumes).symm ▸ hpin, fun hat => hnot (hat.congr hsame)⟩

variable {s : FsmState} {id : Nat} {n : FsmNode} {w : World}

lemma performs_run (henv : d.env = ∅) (hroom : OnlyRoom w.fsm d.resources id n)
    (hpin : pinnedTo d.volumes w.fsm.volumes = none ∨
      pinnedTo d.volumes w.fsm.volumes = some n.millId)
    (ctx : DeployCtx) (name : String) (allocId : AllocId) (replica : Nat) :
    ∃ w', w'.fsm.volumes = w.fsm.volumes ∧
      Performs World.answer w (startAlloc ctx name d allocId replica) w' (.send n.millId
        (.run allocId ((Work.service d).containerSpec allocId ∅) none)) := by
  obtain ⟨v, -⟩ := exists_view hroom.node
  obtain ⟨hplace, hid⟩ := hroom.place v name hpin
  let c : Command := .allocScheduled allocId id name .service none (.ofResources d.resources)
  refine ⟨{ w with fsm := (applyCommand w.fsm c).1 }, ?_, ?_⟩
  · simp only [c, applyCommand]
    split <;> rfl
  refine (reaches_read v).performs ?_
  rw [hplace]
  refine (reaches_read v).performs ?_
  rw [hid]
  refine (reaches_propose c).performs (Performs.bind (Performs.attempt ?_))
  rw [runScheduledAlloc, henv]
  have hvisit : World.answer { w with fsm := (applyCommand w.fsm c).1 } (.visitEnv ∅) (.env []) =
      some ([], { w with fsm := (applyCommand w.fsm c).1 }) := by
    rw [World.answer]
    exact if_pos rfl
  have hresolve : Reaches World.answer
      ({ w with fsm := (applyCommand w.fsm c).1 }, resolveEnv ctx ∅)
      ({ w with fsm := (applyCommand w.fsm c).1 }, .done ∅) := reaches_act hvisit
  exact (hresolve.bind_done (.refl _)).performs ⟨_, .refl _⟩

def serviceWith (vols : List ContainerVolume) : ServiceDef :=
  ⟨"", 0, 1, ⟨0, 0⟩, ∅, none, none, [], vols.map fun v => ⟨v.name, v.path, none, v.ephemeral⟩⟩

lemma containerVolumes_serviceWith (vols : List ContainerVolume) :
    (serviceWith vols).containerVolumes = vols := by
  rw [ServiceDef.containerVolumes, serviceWith, List.map_map]
  exact List.map_id vols

end

section

lemma applyAll_volumeDetached (s : FsmState) (names : List String) :
    ∃ volumes, applyAll s (names.map .volumeDetached) = { s with volumes } ∧
      ∀ x, (volumes.lookup x).map FsmVolume.state =
        (s.volumes.lookup x).map fun vol => if x ∈ names then .ready else vol.state := by
  induction names generalizing s with
  | nil => exact ⟨s.volumes, rfl, fun x => by simp⟩
  | cons name names ih =>
    obtain ⟨volumes, hall, hstates⟩ := ih (applyCommand s (.volumeDetached name)).1
    have hone : (applyCommand s (.volumeDetached name)).1 =
        { s with volumes := (applyCommand s (.volumeDetached name)).1.volumes } := by
      simp only [applyCommand]
      split <;> rfl
    refine ⟨volumes, ?_, fun x => ?_⟩
    · rw [List.map_cons, applyAll_cons, hall]
      rw [hone]
    · rw [hstates, lookup_volumes_applyCommand]
      simp only [volumeAfter, List.mem_cons]
      by_cases hx : x = name
      · cases s.volumes.lookup x <;> simp [hx]
      · simp [hx]

lemma reaches_drainVolumes (w : World) (names : List String) : Reaches World.answer
      (w, Program.foldEach (fun _ volName => drainVolume demoCtx volName) names ())
      ({ w with fsm := applyAll w.fsm (names.map .volumeDetached) }, .done ()) := by
  induction names generalizing w with
  | nil => exact .refl _
  | cons name names ih =>
    let w' : World := { w with fsm := (applyCommand w.fsm (.volumeDetached name)).1 }
    have hone : Reaches World.answer (w, drainVolume demoCtx name) (w', .done ()) :=
      .step (c := Choice.proceed) rfl (.refl _)
    exact hone.bind_done (ih w')

def beforeDrain (volumes : Finmap fun _ : String => FsmVolume) (k m : NodeId) (d : ServiceDef) :
    World :=
  let old : Alloc := ⟨⟨"web-0"⟩, k, "web", .service, .running, none, .ofResources d.resources, none⟩
  ⟨{ config := some ⟨Finmap.singleton "web" d, ∅⟩
     nodes := (Finmap.singleton 2 (spareNode 2 m d.resources)).insert 1 (spareNode 1 k d.resources)
     allocs := Finmap.singleton ⟨"web-0"⟩ old
     secrets := ∅
     volumes }, [], [], 0⟩

def draining (volumes : Finmap fun _ : String => FsmVolume) (k m : NodeId) (d : ServiceDef) :
    FsmState :=
  { (beforeDrain volumes k m d).fsm with
    nodes := (beforeDrain volumes k m d).fsm.nodes.insert 1
      { spareNode 1 k d.resources with status := .draining } }

variable {volumes : Finmap fun _ : String => FsmVolume} {k m : NodeId} {d : ServiceDef}

lemma applyCommand_nodeDrain : applyCommand (beforeDrain volumes k m d).fsm (.nodeDrain 1) =
    (draining volumes k m d, .ok) := by
  have hnode : (beforeDrain volumes k m d).fsm.nodes.lookup 1 = some (spareNode 1 k d.resources) :=
    lookup_insert _
  simp only [applyCommand, hnode]
  rfl

lemma onlyRoom_draining (hm : k ≠ m) :
    OnlyRoom (draining volumes k m d) d.resources 2 (spareNode 2 m d.resources) where
  node := by
    simp [draining, beforeDrain, lookup_insert_of_ne]
  keyed := rfl
  ready := rfl
  cpu := le_rfl
  memory := UInt64.le_refl _
  free := by
    refine Finmap.any_eq_false.mpr fun i a ha => ?_
    obtain ⟨-, rfl⟩ := Finmap.of_lookup_singleton ha
    simp [FsmState.counts, spareNode, hm]
  only id' n' h hor := by
    simp only [draining, beforeDrain, Finmap.lookup_insert_eq] at h
    split_ifs at h with hid
    · cases h
      rcases hor with hready | hmill
      · cases hready
      · exact absurd hmill hm
    · exact (Finmap.of_lookup_singleton h).1

lemma performs_migration (henv : d.env = ∅) (hm : k ≠ m)
    (hpin : pinnedTo d.volumes volumes = none ∨ pinnedTo d.volumes volumes = some m) {w : World}
    (hw : w.fsm = draining volumes k m d) :
    ∃ w' allocId, w'.fsm.volumes = volumes ∧ Performs World.answer w (do
        let (allocs, millId) ← read (.nodeAllocs 1)
        Program.foldEach (fun _ a => drainAlloc demoCtx millId a) allocs () : Action Unit) w'
        (.send m (.run allocId ((Work.service d).containerSpec allocId ∅) none)) := by
  obtain ⟨fsm, sent, cloud, clock⟩ := w
  subst hw
  have hroom : OnlyRoom (draining volumes k m d) d.resources 2 (spareNode 2 m d.resources) :=
    onlyRoom_draining hm
  obtain ⟨v, -⟩ := exists_view hroom.node
  obtain ⟨w', hw', hperforms⟩ := performs_run (w := ⟨draining volumes k m d, sent, cloud, clock⟩)
    henv hroom hpin demoCtx "web" ⟨"web-"⟩ 0
  refine ⟨w', ⟨"web-"⟩, hw', (reaches_read v).performs ?_⟩
  have hlist : v.allocs = [⟨⟨"web-0"⟩, k, "web", .service, .running, none,
      .ofResources d.resources, none⟩] :=
    List.perm_singleton.mp (Multiset.coe_eq_coe.mp v.allocs_eq).symm
  have hnode : (draining volumes k m d).nodes.lookup 1 =
      some { spareNode 1 k d.resources with status := .draining } := lookup_insert _
  have hallocs : Query.eval (draining volumes k m d) v (.nodeAllocs 1) =
      ([(⟨"web-0"⟩, "web", .service)], k) := by
    simp [Query.eval, hnode, hlist, spareNode, AllocStatus.isTerminal]
  rw [hallocs]
  refine Performs.bind ((reaches_read v).performs ?_)
  have hdef : Query.eval (draining volumes k m d) v (.serviceDef "web") = some d :=
    lookup_singleton_eq
  rw [hdef]
  have hid : Reaches World.answer (⟨draining volumes k m d, sent, cloud, clock⟩, newAllocId "web")
      (⟨draining volumes k m d, sent, cloud, clock⟩, .done ⟨"web-"⟩) :=
    .step (c := Choice.text "") rfl (.refl _)
  exact (hid.bind_done (.refl _)).performs (Performs.bind hperforms.attempt)

lemma performs_drainNode (henv : d.env = ∅) (hm : k ≠ m)
    (hpin : ∀ volumes' : Finmap fun _ : String => FsmVolume,
      (∀ x, (volumes'.lookup x).map FsmVolume.state =
        (volumes.lookup x).map fun vol => detachedState (some k) vol.state) →
      pinnedTo d.volumes volumes' = none ∨ pinnedTo d.volumes volumes' = some m) :
    ∃ w' allocId, (∀ x, (w'.fsm.volumes.lookup x).map FsmVolume.state =
        (volumes.lookup x).map fun vol => detachedState (some k) vol.state) ∧
      Performs World.answer (beforeDrain volumes k m d) (drainNode demoCtx 1) w' (.send m
        (.run allocId ((Work.service d).containerSpec allocId ∅) none)) := by
  let w₁ : World := ⟨draining volumes k m d, [], [], 0⟩
  have hroom : OnlyRoom (draining volumes k m d) d.resources 2 (spareNode 2 m d.resources) :=
    onlyRoom_draining hm
  obtain ⟨v, -⟩ := exists_view hroom.node
  let names := Query.eval (draining volumes k m d) v (.attachedVolumes k)
  obtain ⟨volumes', hdetached, hstates⟩ := applyAll_volumeDetached (draining volumes k m d) names
  have hafter (x : String) : (volumes'.lookup x).map FsmVolume.state =
      (volumes.lookup x).map fun vol => detachedState (some k) vol.state := by
    rw [hstates]
    change (volumes.lookup x).map _ = _
    cases hvol : volumes.lookup x with
    | none => rfl
    | some vol =>
      have hnames : x ∈ names ↔ vol.state = .attached k := mem_attachedVolumes (v := v) hvol
      simp only [map_some, Option.some.injEq, hnames, detachedState]
      cases vol.state with
      | ready => rfl
      | attached => simp [eq_comm]
  obtain ⟨w', allocId, hw', hperforms⟩ := performs_migration henv hm (hpin volumes' hafter)
    (w := { w₁ with fsm := applyAll (draining volumes k m d) (names.map .volumeDetached) })
    hdetached
  refine ⟨w', allocId, fun x => by rw [hw']; exact hafter x, ?_⟩
  refine (reaches_propose _).performs ?_
  rw [applyCommand_nodeDrain]
  have hk : Query.eval (draining volumes k m d) v (.millIdAt 1) = some k := by
    have hnode : (draining volumes k m d).nodes.lookup 1 =
        some { spareNode 1 k d.resources with status := .draining } := lookup_insert _
    simp only [Query.eval, FsmState.millIdAt, hnode]
    rfl
  refine (reaches_read v).performs ?_
  rw [hk]
  refine (reaches_read v).performs ?_
  exact ((reaches_drainVolumes w₁ names).bind_done (.refl _)).performs hperforms

end

/-- A restart, and the drain of a node, run a service where its volumes are in every
cluster exactly if the volumes are settled: none of the persistent ones exists, or they and
the first of the list are all attached to one node, which is not the drained one. -/
theorem migration_runs_at_volumes_iff (vols : List ContainerVolume)
    (volumes : Finmap fun _ : String => FsmVolume) (k : NodeId) :
    ((∀ ctx name d, ∀ w : World, w.fsm.volumes = volumes → ∀ w' e,
      Performs World.answer w (restartReplica ctx name d) w' e → e.RunsAtVolumes vols w') ↔
        StayPut none vols volumes) ∧
    ((∀ ctx nodeId, ∀ w : World, w.fsm.volumes = volumes → w.fsm.millIdAt nodeId = some k →
      ∀ w' e, Performs World.answer w (drainNode ctx nodeId) w' e → e.RunsAtVolumes vols w') ↔
        StayPut (some k) vols volumes) := by
  have hvols := containerVolumes_serviceWith vols
  refine ⟨⟨fun h => ?_, fun h ctx name d w hw w' e hperforms => ?_⟩,
    ⟨fun h => ?_, fun h ctx nodeId w hw hk w' e hperforms => ?_⟩⟩
  · by_contra hnot
    rw [← hvols] at hnot
    obtain ⟨m, -, hm⟩ := exists_astray hnot
    obtain ⟨hpin, hastray⟩ := hm volumes fun x => by
      cases volumes.lookup x with
      | none => rfl
      | some vol => cases hstate : vol.state <;> simp [hstate, detachedState]
    have hroom := onlyRoom_oneNode volumes m (serviceWith vols).resources
    obtain ⟨w', hw', hrun⟩ := performs_run rfl hroom hpin demoCtx "web" ⟨"web-"⟩ 0
    have hid : Reaches World.answer
        (oneNode volumes m (serviceWith vols).resources, newAllocId "web")
        (oneNode volumes m (serviceWith vols).resources, .done ⟨"web-"⟩) :=
      .step (c := Choice.text "") rfl (.refl _)
    have hat := h demoCtx "web" (serviceWith vols) _ rfl w' _
      ((hid.bind_done (.refl _)).performs hrun) _ _ _ _ rfl hvols
    rw [hw'] at hat
    exact hastray (hvols.symm ▸ hat)
  · exact pre_of_alone (wp_restartReplica ctx (hw ▸ h)) hperforms
  · by_contra hnot
    rw [← hvols] at hnot
    obtain ⟨m, hkm, hm⟩ := exists_astray hnot
    have hne : k ≠ m := fun he => hkm (congrArg some he)
    obtain ⟨w', allocId, hstates, hrun⟩ := performs_drainNode (d := serviceWith vols) rfl hne
      fun volumes' h' => (hm volumes' h').1
    have hk : (beforeDrain volumes k m (serviceWith vols)).fsm.millIdAt 1 = some k := by
      rw [FsmState.millIdAt, beforeDrain, lookup_insert]
      rfl
    have hat := h demoCtx 1 _ rfl hk w' _ hrun _ _ _ _ rfl hvols
    exact (hm w'.fsm.volumes hstates).2 (hvols.symm ▸ hat)
  · exact pre_of_alone (wp_drainNode ctx hk (hw ▸ h)) hperforms

def demoRuns (w : World) : List (NodeId × List ContainerVolume) :=
  w.sent.filterMap fun c =>
    match c.2 with
    | .run _ spec _ => some (c.1, spec.volumes)
    | _ => none

def demoDrained (status : NodeStatus) (volume : VolumeState) : Choice :=
  .order [{ spareNode 1 ⟨"n"⟩ ⟨1, 1024⟩ with status }, spareNode 2 ⟨"m"⟩ ⟨1, 1024⟩]
    [⟨⟨"web-0"⟩, ⟨"n"⟩, "web", .service, .running, none, ⟨1, 1024⟩, none⟩]
    [⟨"data", ⟨"vol-1", volume⟩⟩]

def demoDrain : List Choice :=
  [.proceed, demoDrained .draining (.attached ⟨"n"⟩), demoDrained .draining (.attached ⟨"n"⟩),
    .proceed, demoDrained .draining .ready, demoDrained .draining .ready, .text "x",
    demoDrained .draining .ready, demoDrained .draining .ready, .proceed, .env [], .proceed]

/-- The drain detaches the volume and runs the service elsewhere without it. -/
theorem drain_runs_without_volume : ∃ w' p', Reaches World.answer
        (beforeDrain (demoVolumes ⟨"n"⟩) ⟨"n"⟩ ⟨"m"⟩ (demoStore [demoData]), drainNode demoCtx 1)
        (w', p') ∧
      demoRuns w' = [(⟨"m"⟩, [⟨"data", "/data", false⟩])] ∧
      w'.fsm.volumes.lookup "data" = some ⟨"vol-1", .ready⟩ := by
  have hrun : (Transition.run (stepAlone World.answer)
      (beforeDrain (demoVolumes ⟨"n"⟩) ⟨"n"⟩ ⟨"m"⟩ (demoStore [demoData]), drainNode demoCtx 1)
      demoDrain).map (fun b => (demoRuns b.1, b.1.fsm.volumes.lookup "data")) =
        some ([(⟨"m"⟩, [⟨"data", "/data", false⟩])], some ⟨"vol-1", .ready⟩) := by
    decide +kernel
  obtain ⟨⟨w', p'⟩, hb, hend⟩ := map_eq_some_iff.mp hrun
  obtain ⟨hruns, hvolume⟩ := Prod.mk.inj hend
  exact ⟨w', p', ⟨_, hb⟩, hruns, hvolume⟩

end Mill
