import Mill.Node.VolumeAffinity

/-! A volume that is in use while its service is updated. -/

namespace Mill

open Mill.Action Program

def Effect.Pulls (vol : String) (m : NodeId) (w : World) : Effect → Prop
  | .detach v => v = vol
  | .attach v _ => v = vol
  | .propose (.volumeDetached v) => v = vol
  | .propose (.volumeAttached v raftId) => v = vol ∧ w.fsm.millIdAt raftId ≠ some m
  | _ => False

variable {name vol u : String} {d : ServiceDef} {m : NodeId} {e : Effect} {r : e.Answer}
  {w w' : World} {raftNodeId : Nat} {n : FsmNode}

lemma ReplicaEffect.not_pulls (he : ReplicaEffect name d e) : ¬ e.Pulls vol m w := by
  cases he with
  | start allocId e he =>
    cases he with
    | running node e he => cases he <;> exact id
    | _ => exact id
  | _ => exact id

lemma VolumeEffect.not_pulls (he : VolumeEffect u e) (hu : u ≠ vol) : ¬ e.Pulls vol m w := by
  cases he with
  | detach => exact hu
  | attach => exact hu
  | detached => exact hu
  | attached => exact fun h => hu h.1
  | _ => exact id

lemma VolumeEffect.frame (he : VolumeEffect u e) (h : w.Answered e r w') :
    w'.fsm.nodes = w.fsm.nodes ∧ ∀ x ≠ u, w'.fsm.volumes.lookup x = w.fsm.volumes.lookup x := by
  have happlied (c : Command) (hnodes : (applyCommand w.fsm c).1.nodes = w.fsm.nodes)
      (hvolumes : ∀ x ≠ u, volumeAfter w.fsm x c = w.fsm.volumes.lookup x) :
      (applyCommand w.fsm c).1.nodes = w.fsm.nodes ∧
        ∀ x ≠ u, (applyCommand w.fsm c).1.volumes.lookup x = w.fsm.volumes.lookup x :=
    ⟨hnodes, fun x hx => (lookup_volumes_applyCommand w.fsm c x).trans (hvolumes x hx)⟩
  cases he with
  | created =>
    cases h with
    | refused => exact ⟨rfl, fun _ _ => rfl⟩
    | applied => exact happlied _ rfl fun x hx => if_neg hx
  | detached =>
    cases h with
    | refused => exact ⟨rfl, fun _ _ => rfl⟩
    | applied =>
      refine happlied _ ?_ fun x hx => if_neg hx
      simp only [applyCommand]
      split <;> rfl
  | attached =>
    cases h with
    | refused => exact ⟨rfl, fun _ _ => rfl⟩
    | applied =>
      refine happlied _ ?_ fun x hx => ?_
      · simp only [applyCommand]
        split
        · rfl
        · split <;> rfl
      · simp only [volumeAfter, if_neg hx]
        split <;> rfl
  | _ => cases h <;> exact ⟨rfl, fun _ _ => rfl⟩

lemma wp_createVolumes_kept (ctx : DeployCtx) {vols : List VolumeDef}
    {Q : Except DeployError Unit → World → Prop} (hnode : w.fsm.millIdAt raftNodeId = some m)
    (hvol : (w.fsm.volumes.lookup vol).map FsmVolume.state = some (.attached m))
    (hdone : ∀ w, Q (.ok ()) w) (hfail : ∀ x w, Q (.error x) w) :
    (Program.foldEach (fun _ v => createVolumeIfNeeded ctx raftNodeId v) vols ()).wp
      (aloneSpec fun w e => ¬ e.Pulls vol m w) Q w := by
  let I (w : World) : Prop := w.fsm.millIdAt raftNodeId = some m ∧
    (w.fsm.volumes.lookup vol).map FsmVolume.state = some (.attached m)
  refine wp_foldEach (fun _ _ w => I w) ?_ (fun _ w _ => hdone w) ⟨hnode, hvol⟩
  intro v vs _ w hw
  cases hephemeral : v.ephemeral with
  | true =>
    unfold createVolumeIfNeeded
    rw [if_pos hephemeral]
    exact hw
  | false =>
    by_cases hname : v.name = vol
    · subst hname
      unfold createVolumeIfNeeded
      rw [if_neg (by simp [hephemeral])]
      refine wp_bind (wp_read_alone id fun view => ?_)
      refine wp_bind (wp_read_alone id fun view' => ?_)
      have hstate : Query.eval w.fsm view (.volumeState v.name) = some (.attached m) := hw.2
      have htarget : Query.eval w.fsm view' (.millIdAt raftNodeId) = some m := hw.1
      rw [hstate, htarget]
      dsimp only
      rw [if_pos rfl]
      exact hw
    · refine wp_of_only (I := I) (only_createVolumeIfNeeded ctx raftNodeId hephemeral) hw ?_
        (fun _ _ h => h) fun x w _ _ => hfail x w
      intro e w he hw
      refine ⟨he.not_pulls hname, fun r w' h => ?_⟩
      obtain ⟨hnodes, hvolumes⟩ := he.frame h
      refine ⟨?_, ?_⟩
      · rw [FsmState.millIdAt, hnodes]
        exact hw.1
      · rw [hvolumes vol (Ne.symm hname)]
        exact hw.2

lemma exists_attachVolume (ctx : DeployCtx) (w : World) (name : String)
    (hn : w.fsm.nodes.lookup raftNodeId = some n) :
    ∃ w', Reaches World.answer (w, attachVolume ctx name raftNodeId) (w', .done ()) := by
  obtain ⟨v, -⟩ := exists_view hn
  have hcloud : Reaches World.answer (w, attachCloud ctx name raftNodeId) (w, .done ()) := by
    unfold attachCloud
    split_ifs
    · refine (reaches_read v).trans ?_
      cases Query.eval w.fsm v (.instanceIdFor raftNodeId) with
      | none => exact .refl _
      | some => exact .step (c := Choice.proceed) rfl (.refl _)
    · exact .refl _
  exact ⟨_, hcloud.bind_done (reaches_propose _)⟩

lemma exists_createVolume (ctx : DeployCtx) (w : World) (v : VolumeDef)
    (hn : w.fsm.nodes.lookup raftNodeId = some n) :
    ∃ w', Reaches World.answer (w, createVolumeIfNeeded ctx raftNodeId v) (w', .done ()) := by
  obtain ⟨view, -⟩ := exists_view hn
  have hkeep (c : Command) (hc : nodeAfter w.fsm raftNodeId c = w.fsm.nodes.lookup raftNodeId) :
      (applyCommand w.fsm c).1.nodes.lookup raftNodeId = some n := by
    rw [lookup_nodes_applyCommand, hc, hn]
  unfold createVolumeIfNeeded
  by_cases hephemeral : v.ephemeral = true
  · rw [if_pos hephemeral]
    exact ⟨w, .refl _⟩
  rw [if_neg hephemeral]
  have hreads {f : Option VolumeState → Option NodeId → Action Unit} {b : World × Action Unit}
      (h : Reaches World.answer (w, f (Query.eval w.fsm view (.volumeState v.name))
        (Query.eval w.fsm view (.millIdAt raftNodeId))) b) :
      Reaches World.answer (w, do
        let state ← read (.volumeState v.name)
        let target ← read (.millIdAt raftNodeId)
        f state target) b :=
    (reaches_read view).trans ((reaches_read view).trans h)
  rcases hstate : Query.eval w.fsm view (.volumeState v.name) with _ | ⟨_ | node⟩
  · by_cases hdriver : ctx.volumes = true
    · let w₁ : World := { w with cloud := w.cloud ++ [(v.name, "")] }
      have hn₁ := hkeep (.volumeCreated v.name "") rfl
      obtain ⟨w', hw'⟩ := exists_attachVolume ctx
        { w₁ with fsm := (applyCommand w.fsm (.volumeCreated v.name "")).1 } v.name hn₁
      refine ⟨w', hreads ?_⟩
      rw [hstate]
      dsimp only
      rw [if_pos hdriver]
      exact .step (c := Choice.text "") rfl ((reaches_propose (w := w₁) _).trans hw')
    · refine ⟨w, hreads ?_⟩
      rw [hstate]
      dsimp only
      rw [if_neg hdriver]
      exact .refl _
  · obtain ⟨w', hw'⟩ := exists_attachVolume ctx w v.name hn
    refine ⟨w', hreads ?_⟩
    rw [hstate]
    exact hw'
  · by_cases hsame : some node = Query.eval w.fsm view (.millIdAt raftNodeId)
    · refine ⟨w, hreads ?_⟩
      rw [hstate]
      dsimp only
      rw [if_pos hsame]
      exact .refl _
    · have hcloud : Reaches World.answer (w, detachCloud ctx v.name) (w, .done ()) := by
        unfold detachCloud
        split_ifs
        · exact .step (c := Choice.proceed) rfl (.refl _)
        · exact .refl _
      have hn₁ := hkeep (.volumeDetached v.name) rfl
      obtain ⟨w', hw'⟩ := exists_attachVolume ctx
        { w with fsm := (applyCommand w.fsm (.volumeDetached v.name)).1 } v.name hn₁
      refine ⟨w', hreads ?_⟩
      rw [hstate]
      dsimp only
      rw [if_neg hsame]
      exact hcloud.bind_done ((reaches_propose _).trans hw')

lemma createVolume_frame (ctx : DeployCtx) {v : VolumeDef} (hv : v.ephemeral = true ∨ v.name ≠ vol)
    (h : Reaches World.answer (w, createVolumeIfNeeded ctx raftNodeId v) (w', .done ())) :
    w'.fsm.nodes = w.fsm.nodes ∧ w'.fsm.volumes.lookup vol = w.fsm.volumes.lookup vol := by
  let I (w₁ : World) : Prop := w₁.fsm.nodes = w.fsm.nodes ∧
    w₁.fsm.volumes.lookup vol = w.fsm.volumes.lookup vol
  have hwp : (createVolumeIfNeeded ctx raftNodeId v).wp (aloneSpec fun _ _ => True)
      (fun _ w₁ => I w₁) w := by
    cases hephemeral : v.ephemeral with
    | true =>
      unfold createVolumeIfNeeded
      rw [if_pos hephemeral]
      exact ⟨rfl, rfl⟩
    | false =>
      have hname : v.name ≠ vol := hv.resolve_left (by simp [hephemeral])
      refine wp_of_only (I := I) (only_createVolumeIfNeeded ctx raftNodeId hephemeral) ⟨rfl, rfl⟩ ?_
        (fun _ _ h => h) fun _ _ _ h => h
      intro e w₁ he hw₁
      refine ⟨trivial, fun r w₂ h₂ => ?_⟩
      obtain ⟨hnodes, hvolumes⟩ := he.frame h₂
      exact ⟨hnodes.trans hw₁.1, (hvolumes vol (Ne.symm hname)).trans hw₁.2⟩
  exact wp_of_reaches hwp (fun _ _ _ _ _ => World.answered_of_answer) h

lemma exists_pull (ctx : DeployCtx) {vols : List VolumeDef}
    (hn : w.fsm.nodes.lookup raftNodeId = some n) (hne : n.millId ≠ m)
    (hvol : (w.fsm.volumes.lookup vol).map FsmVolume.state = some (.attached m))
    (hmem : ∃ v ∈ vols, v.ephemeral = false ∧ v.name = vol) :
    ∃ w' e, Performs World.answer w
        (Program.foldEach (fun _ v => createVolumeIfNeeded ctx raftNodeId v) vols ()) w' e ∧
      e.Pulls vol m w' := by
  induction vols generalizing w with
  | nil =>
    obtain ⟨v, hv, -⟩ := hmem
    cases hv
  | cons v vols ih =>
    by_cases hv : v.ephemeral = false ∧ v.name = vol
    · obtain ⟨hephemeral, rfl⟩ := hv
      obtain ⟨view, -⟩ := exists_view hn
      have hstate : Query.eval w.fsm view (.volumeState v.name) = some (.attached m) := hvol
      have htarget : some m ≠ Query.eval w.fsm view (.millIdAt raftNodeId) := by
        simp only [Query.eval, FsmState.millIdAt, hn]
        exact fun he => hne (Option.some.inj he).symm
      have hreads : Reaches World.answer (w, createVolumeIfNeeded ctx raftNodeId v) (w, do
          detachCloud ctx v.name
          let _ ← propose (.volumeDetached v.name)
          attachVolume ctx v.name raftNodeId) := by
        unfold createVolumeIfNeeded
        rw [if_neg (by simp [hephemeral])]
        refine (reaches_read view).trans ((reaches_read view).trans ?_)
        rw [hstate]
        dsimp only
        rw [if_neg htarget]
        exact .refl _
      by_cases hdriver : ctx.volumes = true
      · refine ⟨w, .detach v.name, Performs.bind (hreads.performs (Performs.bind ?_)), rfl⟩
        unfold detachCloud
        rw [if_pos hdriver]
        exact ⟨_, .refl _⟩
      · refine ⟨w, .propose (.volumeDetached v.name), Performs.bind (hreads.performs ?_), rfl⟩
        unfold detachCloud
        rw [if_neg hdriver]
        exact ⟨_, .refl _⟩
    · have hv' : v.ephemeral = true ∨ v.name ≠ vol := by
        cases hephemeral : v.ephemeral with
        | true => exact .inl rfl
        | false => exact .inr fun hname => hv ⟨hephemeral, hname⟩
      obtain ⟨w₁, hw₁⟩ := exists_createVolume ctx w v hn
      obtain ⟨hnodes, hlookup⟩ := createVolume_frame ctx hv' hw₁
      have hmem' : ∃ u ∈ vols, u.ephemeral = false ∧ u.name = vol := by
        obtain ⟨u, hu, hu'⟩ := hmem
        rcases List.mem_cons.mp hu with rfl | hu
        · exact absurd hu' hv
        · exact ⟨u, hu, hu'⟩
      obtain ⟨w', e, hperforms, hpulls⟩ := ih (w := w₁) (hnodes ▸ hn) (hlookup ▸ hvol) hmem'
      exact ⟨w', e, (hw₁.bind_done (.refl _)).performs hperforms, hpulls⟩

/-- An update leaves a volume where it is, whichever ready node it finds first, exactly if
every ready node is the one that the volume is attached to. -/
theorem volume_in_use_kept_iff (ctx : DeployCtx) (name : String) (d : ServiceDef) (w : World)
    (vol : String) (m : NodeId) (hkeyed : w.fsm.NodesKeyed)
    (hvol : ∃ v ∈ d.volumes, v.ephemeral = false ∧ v.name = vol)
    (hattached : (w.fsm.volumes.lookup vol).map FsmVolume.state = some (.attached m)) :
    (∀ w' e, Performs World.answer w (rollingUpdate ctx name d) w' e → ¬ e.Pulls vol m w') ↔
      ∀ id n, w.fsm.nodes.lookup id = some n → n.status = .ready → n.millId = m := by
  constructor
  · intro h id n hn hready
    by_contra hne
    obtain ⟨view, rest, hview⟩ := exists_view hn
    have hfirst : Query.eval w.fsm view .firstReady = some id := by
      simp [Query.eval, hview, hready, hkeyed id n hn]
    obtain ⟨w', e, hperforms, hpulls⟩ := exists_pull ctx hn hne hattached hvol
    refine h w' e ((reaches_read view).performs ?_) hpulls
    rw [hfirst]
    exact Performs.bind hperforms
  · intro h w' e hperforms
    have hwp : (rollingUpdate ctx name d).wp (aloneSpec fun w e => ¬ e.Pulls vol m w)
        (fun _ _ => True) w := by
      refine wp_bind (wp_read_alone id fun view => ?_)
      cases hfirst : Query.eval w.fsm view .firstReady with
      | none => trivial
      | some raftNodeId =>
        have hnode : w.fsm.millIdAt raftNodeId = some m := by
          obtain ⟨n, hn, rfl⟩ := Option.map_eq_some_iff.mp hfirst
          have hready : n.status = .ready := by simpa using List.find?_some hn
          have hmem : n ∈ w.fsm.nodes.values := by
            rw [view.nodes_eq]
            exact List.mem_of_find?_eq_some hn
          obtain ⟨id, hid⟩ := Finmap.mem_values.mp hmem
          rw [hkeyed id n hid, FsmState.millIdAt, hid, Option.map_some, h id n hid hready]
        refine wp_bind (wp_createVolumes_kept ctx hnode hattached (fun w₁ => ?_) fun _ _ => trivial)
        refine wp_of_only (I := fun _ => True) (only_replaceAllocs ctx) trivial ?_
          (fun _ _ _ => trivial) fun _ _ _ _ => trivial
        exact fun e w₂ he _ => ⟨he.not_pulls, fun _ _ _ => trivial⟩
    exact pre_of_alone hwp hperforms

def demoInUse (status : NodeStatus) : World :=
  let running : Alloc := ⟨⟨"store-0"⟩, ⟨"n"⟩, "store", .service, .healthy, none, ⟨1, 1024⟩, none⟩
  ⟨{ config := none
     nodes := (Finmap.singleton 2 { spareNode 2 ⟨"m"⟩ ⟨4, 8192⟩ with status }).insert 1
       (spareNode 1 ⟨"n"⟩ ⟨4, 8192⟩)
     allocs := Finmap.singleton ⟨"store-0"⟩ running
     secrets := ∅
     volumes := demoVolumes ⟨"n"⟩ }, [], [], 0⟩

lemma demoInUse_nodes {status : NodeStatus} {id : Nat}
    (h : (demoInUse status).fsm.nodes.lookup id = some n) :
    (id = 1 ∧ n = spareNode 1 ⟨"n"⟩ ⟨4, 8192⟩) ∨
      (id = 2 ∧ n = { spareNode 2 ⟨"m"⟩ ⟨4, 8192⟩ with status }) := by
  simp only [demoInUse, Finmap.lookup_insert_eq] at h
  split_ifs at h with hid
  · exact .inl ⟨hid, (Option.some.inj h).symm⟩
  · exact .inr (Finmap.of_lookup_singleton h)

theorem volume_in_use_kept_iff_draining :
    (demoInUse .draining).fsm.NodesKeyed ∧ ∀ w' e, Performs World.answer (demoInUse .draining)
          (rollingUpdate demoCtx "store" (demoStore [demoData])) w' e →
        ¬ e.Pulls "data" ⟨"n"⟩ w' := by
  have hkeyed : (demoInUse .draining).fsm.NodesKeyed := by
    intro id n hn
    rcases demoInUse_nodes hn with ⟨rfl, rfl⟩ | ⟨rfl, rfl⟩ <;> rfl
  refine ⟨hkeyed, (volume_in_use_kept_iff demoCtx "store" (demoStore [demoData])
    (demoInUse .draining) "data" ⟨"n"⟩ hkeyed (by decide) (by decide +kernel)).mpr ?_⟩
  intro id n hn hready
  rcases demoInUse_nodes hn with ⟨rfl, rfl⟩ | ⟨rfl, rfl⟩
  · rfl
  · cases hready

/-- With a second ready node, which happens to be visited first, the volume is taken from
under the running allocation. -/
theorem volume_in_use_pulled :
    (demoInUse .ready).fsm.volumes.lookup "data" = some ⟨"vol-1", .attached ⟨"n"⟩⟩ ∧
    ∃ w' p', Reaches World.answer
        (demoInUse .ready, rollingUpdate demoCtx "store" (demoStore [demoData])) (w', p') ∧
      w'.fsm.volumes.lookup "data" = some ⟨"vol-1", .attached ⟨"m"⟩⟩ ∧
      (w'.fsm.allocs.lookup ⟨"store-0"⟩).map (fun a => (a.node, a.status)) =
        some (⟨"n"⟩, .healthy) := by
  let order : Choice := .order [spareNode 2 ⟨"m"⟩ ⟨4, 8192⟩, spareNode 1 ⟨"n"⟩ ⟨4, 8192⟩]
    [⟨⟨"store-0"⟩, ⟨"n"⟩, "store", .service, .healthy, none, ⟨1, 1024⟩, none⟩]
    [⟨"data", ⟨"vol-1", .attached ⟨"n"⟩⟩⟩]
  have hrun : (Transition.run (stepAlone World.answer)
      (demoInUse .ready, rollingUpdate demoCtx "store" (demoStore [demoData]))
      [order, order, order, .proceed, .proceed]).map (fun b => (b.1.fsm.volumes.lookup "data",
        (b.1.fsm.allocs.lookup ⟨"store-0"⟩).map fun a => (a.node, a.status))) =
      some (some ⟨"vol-1", .attached ⟨"m"⟩⟩, some (⟨"n"⟩, .healthy)) := by
    decide +kernel
  obtain ⟨⟨w', p'⟩, hb, hend⟩ := Option.map_eq_some_iff.mp hrun
  obtain ⟨hvolume, halloc⟩ := Prod.mk.inj hend
  exact ⟨by decide +kernel, w', p', ⟨_, hb⟩, hvolume, halloc⟩

end Mill
