import Mill.Node.VolumeAffinity

/-! Cloud volumes under concurrent deploys and deletions. -/

namespace Mill

open Mill.Action List Program Transition

section

def Command.volume : Command → Option String
  | .volumeCreated name _ | .volumeAttached name _ | .volumeDetached name
  | .volumeDestroyed name => some name
  | _ => none

def Effect.touches : Effect → Option String
  | .create name _ | .destroy name | .attach name _ | .detach name => some name
  | .propose c => c.volume
  | _ => none

structure VolumeView where
  state : Option VolumeState
  count : Nat
deriving DecidableEq

def World.volumeView (w : World) (x : String) : VolumeView :=
  ⟨(w.fsm.volumes.lookup x).map FsmVolume.state, w.cloud.countP fun vol => vol.1 == x⟩

variable {w w' : World} {e : Effect} {r : e.Answer} {x : String}

lemma volumeView_applyCommand {c : Command} (hc : c.volume ≠ some x) (w : World) :
    World.volumeView { w with fsm := (applyCommand w.fsm c).1 } x = w.volumeView x := by
  have hlookup : (applyCommand w.fsm c).1.volumes.lookup x = w.fsm.volumes.lookup x := by
    rw [lookup_volumes_applyCommand]
    cases c with
    | volumeCreated name cloudId | volumeDetached name | volumeDestroyed name =>
      have hne : ¬ x = name := fun h => hc (h ▸ rfl)
      exact if_neg hne
    | volumeAttached name =>
      have hne : ¬ x = name := fun h => hc (h ▸ rfl)
      simp only [volumeAfter, if_neg hne]
      split <;> rfl
    | _ => rfl
  unfold World.volumeView
  rw [hlookup]

lemma World.Answered.volumeView_eq (h : w.Answered e r w') (he : e.touches ≠ some x) :
    w'.volumeView x = w.volumeView x := by
  cases h with
  | applied => exact volumeView_applyCommand he w
  | created name | createdUnseen name =>
    have hne : ¬ name = x := fun hx => he (hx ▸ rfl)
    simp [World.volumeView, countP_append, hne]
  | destroyed name | destroyedUnseen name =>
    have hne : ¬ x = name := fun hx => he (hx ▸ rfl)
    simp only [World.volumeView, countP_filter, VolumeView.mk.injEq, true_and]
    refine countP_congr fun vol _ => ?_
    simp only [Bool.and_eq_true, beq_iff_eq, bne_iff_ne, and_iff_left_iff_imp]
    exact fun hx => hx ▸ hne
  | _ => rfl

end

inductive VolumeRequest
  | deploy (config : ClusterConfig)
  | delete (name : String)
deriving DecidableEq

namespace VolumeRequest

def concerns : VolumeRequest → String → Bool
  | .deploy config, x => config.services.any fun _ d => decide (x ∈ d.persistent)
  | .delete name, x => x == name

def overlaps : VolumeRequest → VolumeRequest → Bool
  | .deploy config, other => config.services.any fun _ d => d.persistent.any other.concerns
  | .delete name, other => other.concerns name

lemma overlaps_of_concerns {a b : VolumeRequest} {x : String} (ha : a.concerns x = true)
    (hb : b.concerns x = true) : a.overlaps b = true := by
  cases a with
  | deploy =>
    obtain ⟨name, d, hd, hx⟩ := Finmap.any_eq_true.mp ha
    refine Finmap.any_eq_true.mpr ⟨name, d, hd, ?_⟩
    exact List.any_eq_true.mpr ⟨x, of_decide_eq_true hx, hb⟩
  | delete => exact beq_iff_eq.mp ha ▸ hb

end VolumeRequest

section

def VolumeView.Consistent (driver : Bool) (φ : VolumeView) : Prop :=
  φ.count ≤ 1 ∧ (driver = true → φ.state = none → φ.count = 0)

def Effect.allowed (φ : VolumeView) : Effect → Prop
  | .create _ _ => φ.count = 0
  | .destroy _ => ∀ node, φ.state ≠ some (.attached node)
  | _ => True

/-- The two steps that a new cloud volume takes. -/
def Effect.makes : Effect → Bool
  | .create _ _ | .propose (.volumeCreated _ _) => true
  | _ => false

def Choice.hides : Choice → Bool
  | .raftError _ | .lostReply _ _ => true
  | _ => false

/-- A request that no other one interferes with: between its own effects, the volumes that
it concerns stay as they are. -/
def volumeSpec (concerns : String → Bool) : Spec Effect Effect.Answer (String → VolumeView) where
  pre φ e := ∀ x, e.touches = some x → concerns x = true ∧ e.allowed (φ x)
  post φ e r φ' := ∃ (w w' : World) (c : Choice), w.answer e c = some (r, w') ∧
    (e.makes = true → c.hides = false) ∧
      ∀ x, concerns x = true → φ x = w.volumeView x ∧ φ' x = w'.volumeView x

def Effect.calm : Effect → Bool
  | .create _ _ | .destroy _ => false
  | .propose (.volumeCreated _ _) | .propose (.volumeDestroyed _) => false
  | _ => true

lemma World.Answered.of_calm {w w' : World} {e : Effect} {r : e.Answer} (h : w.Answered e r w')
    (he : e.calm = true) (x : String) : (w'.volumeView x).count = (w.volumeView x).count ∧
      ((w'.volumeView x).state = none ↔ (w.volumeView x).state = none) := by
  have hsame (hview : w'.volumeView x = w.volumeView x) :
      (w'.volumeView x).count = (w.volumeView x).count ∧
        ((w'.volumeView x).state = none ↔ (w.volumeView x).state = none) := by
    rw [hview]
    exact ⟨rfl, Iff.rfl⟩
  cases h with
  | applied c =>
    refine ⟨rfl, ?_⟩
    simp only [World.volumeView, lookup_volumes_applyCommand, Option.map_eq_none_iff]
    cases c with
    | volumeCreated => cases he
    | volumeDestroyed => cases he
    | volumeDetached =>
      simp only [volumeAfter]
      split_ifs <;> simp
    | volumeAttached =>
      simp only [volumeAfter]
      split
      · split_ifs <;> simp
      · rfl
    | _ => rfl
  | created | createdUnseen => cases he
  | destroyed | destroyedUnseen => cases he
  | _ => exact hsame rfl

variable {concerns : String → Bool} {driver : Bool} {φ φ' : String → VolumeView} {e : Effect}
  {r : e.Answer} {X α : Type}

def AllConsistent (driver : Bool) (concerns : String → Bool) (φ : String → VolumeView) : Prop :=
  ∀ x, concerns x = true → (φ x).Consistent driver

lemma exists_of_post (h : (volumeSpec concerns).post φ e r φ') : ∃ w w', World.Answered w e r w' ∧
    ∀ x, concerns x = true → φ x = w.volumeView x ∧ φ' x = w'.volumeView x := by
  obtain ⟨w, w', c, ha, -, hviews⟩ := h
  exact ⟨w, w', World.answered_of_answer ha, hviews⟩

lemma AllConsistent.of_calm (hφ : AllConsistent driver concerns φ) (he : e.calm = true)
    (h : (volumeSpec concerns).post φ e r φ') : AllConsistent driver concerns φ' := by
  obtain ⟨w, w', hanswered, hviews⟩ := exists_of_post h
  intro x hx
  obtain ⟨hbefore, hafter⟩ := hviews x hx
  obtain ⟨hcount, hstate⟩ := hanswered.of_calm he x
  have hold := hφ x hx
  rw [hbefore] at hold
  rw [hafter]
  unfold VolumeView.Consistent
  rw [hcount, hstate]
  exact hold

def Effect.CalmOn (concerns : String → Bool) (e : Effect) : Prop :=
  e.calm = true ∧ ∀ x, e.touches = some x → concerns x = true

abbrev KeepsVolumes (driver : Bool) (concerns : String → Bool)
    (p : Program Effect Effect.Answer X α) : Prop :=
  p.Keeps (volumeSpec concerns) (AllConsistent driver concerns)

lemma keeps_calm {p : Program Effect Effect.Answer X α} {F : X → Prop}
    (hp : p.Only (Effect.CalmOn concerns) F) : KeepsVolumes driver concerns p := by
  refine .of_only hp ?_
  rintro e φ ⟨hcalm, htouches⟩ hφ
  refine ⟨fun x hx => ⟨htouches x hx, ?_⟩, fun r φ' h => hφ.of_calm hcalm h⟩
  cases e with
  | create => cases hcalm
  | destroy => cases hcalm
  | _ => trivial

variable {x name : String} {d : ServiceDef}

lemma pre_untouched (he : e.touches = none) : (volumeSpec concerns).pre φ e := by
  intro x hx
  rw [he] at hx
  cases hx

lemma post_frame {y : String} (h : (volumeSpec concerns).post φ e r φ')
    (hy : concerns y = true) (he : e.touches ≠ some y) : φ' y = φ y := by
  obtain ⟨w, w', hanswered, hviews⟩ := exists_of_post h
  rw [(hviews y hy).1, (hviews y hy).2, hanswered.volumeView_eq he]

lemma post_untouched (he : e.touches = none) (h : (volumeSpec concerns).post φ e r φ') :
    ∀ x, concerns x = true → φ' x = φ x := fun _ hx => post_frame h hx (by simp [he])

section

variable {x : String}

lemma post_create {size : ByteSize} {created : Except StorageError String}
    (h : (volumeSpec concerns).post φ (.create x size) created φ') (hx : concerns x = true) :
    φ' x = ⟨(φ x).state, (φ x).count + if created.isOk then 1 else 0⟩ := by
  obtain ⟨w, w', c, ha, hseen, hviews⟩ := h
  rw [(hviews x hx).1, (hviews x hx).2]
  cases c with
  | text =>
    cases ha
    simp [World.volumeView, countP_append, Except.isOk, Except.toBool]
  | cloudError =>
    cases ha
    rfl
  | lostReply => cases hseen rfl
  | _ => cases ha

lemma post_volumeCreated {cloudId : String} {response : Response}
    (h : (volumeSpec concerns).post φ (.propose (.volumeCreated x cloudId)) (.ok response) φ')
    (hx : concerns x = true) : φ' x = ⟨some .ready, (φ x).count⟩ := by
  obtain ⟨w, w', hanswered, hviews⟩ := exists_of_post h
  rw [(hviews x hx).1, (hviews x hx).2]
  cases hanswered with
  | applied =>
    simp only [World.volumeView, lookup_volumes_applyCommand, volumeAfter, if_true, Option.map_some]

lemma post_destroy {destroyed : Except StorageError Unit}
    (h : (volumeSpec concerns).post φ (.destroy x) destroyed φ') (hx : concerns x = true) :
    φ' x = ⟨(φ x).state, 0⟩ ∨ destroyed.isOk = false ∧ φ' x = φ x := by
  obtain ⟨w, w', hanswered, hviews⟩ := exists_of_post h
  rw [(hviews x hx).1, (hviews x hx).2]
  cases hanswered with
  | destroyed | destroyedUnseen =>
    refine .inl ?_
    simp [World.volumeView, countP_filter]
  | notDestroyed => exact .inr ⟨rfl, rfl⟩

lemma post_volumeDestroyed {response : Except String Response}
    (h : (volumeSpec concerns).post φ (.propose (.volumeDestroyed x)) response φ')
    (hx : concerns x = true) : φ' x = if response.isOk then ⟨none, (φ x).count⟩ else φ x := by
  obtain ⟨w, w', hanswered, hviews⟩ := exists_of_post h
  rw [(hviews x hx).1, (hviews x hx).2]
  cases hanswered with
  | applied =>
    simp [World.volumeView, lookup_volumes_applyCommand, volumeAfter, Except.isOk, Except.toBool]
  | refused => rfl

end

lemma AllConsistent.congr (hφ : AllConsistent driver concerns φ)
    (h : ∀ x, concerns x = true → φ' x = φ x) : AllConsistent driver concerns φ' := by
  intro x hx
  rw [h x hx]
  exact hφ x hx

lemma AllConsistent.update (hφ : AllConsistent driver concerns φ)
    (hx : concerns x = true → (φ' x).Consistent driver)
    (h : ∀ y, concerns y = true → y ≠ x → φ' y = φ y) : AllConsistent driver concerns φ' := by
  intro y hy
  by_cases hyx : y = x
  · subst hyx
    exact hx hy
  · rw [h y hy hyx]
    exact hφ y hy

lemma only_attachVolume_calm (ctx : DeployCtx) {vol : String} (hvol : concerns vol = true)
    (raftNodeId : Nat) :
    (attachVolume ctx vol raftNodeId).Only (Effect.CalmOn concerns) fun _ => True := by
  have htouch : ∀ x, some vol = some x → concerns x = true := fun x hx => Option.some.inj hx ▸ hvol
  refine Only.bind ?_ fun _ => Only.bind (only_propose ⟨rfl, htouch⟩ fun _ => trivial)
    fun _ => trivial
  unfold attachCloud
  split_ifs
  · refine Only.bind (only_read ⟨rfl, fun x hx => (nomatch hx)⟩) fun instanceId => ?_
    cases instanceId with
    | none => trivial
    | some =>
      exact Only.bind (only_act ⟨rfl, htouch⟩) fun r => only_ofExcept (fun _ => trivial) r
  · trivial

lemma keeps_createVolume (ctx : DeployCtx) (raftNodeId : Nat) {vol : VolumeDef}
    (hvol : vol.ephemeral = false → concerns vol.name = true) :
    KeepsVolumes ctx.volumes concerns (createVolumeIfNeeded ctx raftNodeId vol) := by
  intro φ hφ
  unfold createVolumeIfNeeded
  by_cases hephemeral : vol.ephemeral = true
  · rw [if_pos hephemeral]
    exact hφ
  rw [if_neg hephemeral]
  have hconcerns : concerns vol.name = true := hvol (by simpa using hephemeral)
  have hattach : KeepsVolumes ctx.volumes concerns (attachVolume ctx vol.name raftNodeId) :=
    keeps_calm (only_attachVolume_calm ctx hconcerns raftNodeId)
  refine wp_bind (wp_effect (pre_untouched rfl) fun state φ₁ h₁ => ?_)
  have hkeep₁ := post_untouched rfl h₁
  have hstate : state = (φ vol.name).state := by
    obtain ⟨w, w', hanswered, hviews⟩ := exists_of_post h₁
    rw [(hviews vol.name hconcerns).1]
    cases hanswered with
    | read => rfl
  refine wp_bind (wp_effect (pre_untouched rfl) fun target φ₂ h₂ => ?_)
  have hkeep₂ := post_untouched rfl h₂
  have hφ₂ : AllConsistent ctx.volumes concerns φ₂ := (hφ.congr hkeep₁).congr hkeep₂
  have hview : φ₂ vol.name = φ vol.name :=
    (hkeep₂ vol.name hconcerns).trans (hkeep₁ vol.name hconcerns)
  rcases state with _ | ⟨_ | node⟩
  · dsimp only
    by_cases hdriver : ctx.volumes = true
    · rw [if_pos hdriver]
      have hzero : (φ₂ vol.name).count = 0 := by
        rw [hview]
        exact (hφ vol.name hconcerns).2 hdriver hstate.symm
      refine wp_bind (wp_effect ?_ fun created φ₃ h₃ => ?_)
      · rintro x hx
        cases hx
        exact ⟨hconcerns, hzero⟩
      have hothers (y : String) (hy : concerns y = true) (hne : y ≠ vol.name) : φ₃ y = φ₂ y :=
        post_frame h₃ hy fun he => hne (Option.some.inj he).symm
      have hcreated := post_create h₃ hconcerns
      rw [hzero, Nat.zero_add] at hcreated
      cases created with
      | error =>
        refine hφ₂.update (fun _ => ?_) hothers
        rw [hcreated]
        exact ⟨Nat.zero_le 1, fun _ _ => rfl⟩
      | ok =>
        refine wp_bind ?_
        refine wp_bind (wp_propose ?_ (fun response φ₄ h₄ => hattach φ₄ ?_) fun message φ₄ h₄ => ?_)
        · rintro x hx
          cases hx
          exact ⟨hconcerns, trivial⟩
        · have hrecorded := post_volumeCreated h₄ hconcerns
          refine AllConsistent.update (x := vol.name) hφ₂ (fun _ => ?_) fun y hy hne => ?_
          · rw [hrecorded, hcreated]
            exact ⟨le_rfl, nofun⟩
          · rw [post_frame h₄ hy fun he => hne (Option.some.inj he).symm, hothers y hy hne]
        · obtain ⟨_, _, c, ha, hseen, -⟩ := h₄
          cases c with
          | raftError => cases hseen rfl
          | _ => cases ha
    · rw [if_neg hdriver]
      exact hφ₂
  · exact hattach φ₂ hφ₂
  · dsimp only
    by_cases hsame : some node = target
    · rw [if_pos hsame]
      exact hφ₂
    · rw [if_neg hsame]
      have htouch : ∀ x, some vol.name = some x → concerns x = true :=
        fun x hx => Option.some.inj hx ▸ hconcerns
      refine (keeps_calm (F := fun _ => True) ?_ : KeepsVolumes ctx.volumes concerns _) φ₂ hφ₂
      refine Only.bind (only_detachCloud ctx ⟨rfl, htouch⟩) fun _ => ?_
      exact Only.bind (only_propose ⟨rfl, htouch⟩ fun _ => trivial)
        fun _ => only_attachVolume_calm ctx hconcerns raftNodeId

lemma keeps_createVolumes (ctx : DeployCtx) (raftNodeId : Nat)
    (hd : ∀ x ∈ d.persistent, concerns x = true) :
    KeepsVolumes ctx.volumes concerns (createVolumesIfNeeded ctx d raftNodeId) := by
  refine Keeps.foldEach (fun _ vol hvol => keeps_createVolume ctx raftNodeId fun h => ?_) ()
  exact hd vol.name (mem_map.mpr ⟨vol, mem_filter.mpr ⟨hvol, by simp [h]⟩, rfl⟩)

lemma calm_of_untouched (he : e.touches = none) : e.CalmOn concerns := by
  refine ⟨?_, fun x hx => by simp [he] at hx⟩
  unfold Effect.calm
  split <;> first | rfl | cases he

lemma ReplicaEffect.untouched (he : ReplicaEffect name d e) : e.touches = none := by
  cases he with
  | start allocId e he =>
    cases he with
    | running node e he => cases he <;> rfl
    | _ => rfl
  | _ => rfl

lemma keeps_service (ctx : DeployCtx) {rest : Action Unit}
    (hrest : rest.Only (ReplicaEffect name d) fun _ => True)
    (hd : ∀ x ∈ d.persistent, concerns x = true) :
    KeepsVolumes ctx.volumes concerns (do
      match ← read .firstReady with
      | none => .fail (.schedulingFailed name 0)
      | some raftNodeId =>
        createVolumesIfNeeded ctx d raftNodeId
        rest : Action Unit) := by
  refine (keeps_calm (only_read (calm_of_untouched rfl) (F := fun _ => True))).bind
    fun raftNodeId => ?_
  cases raftNodeId with
  | none => exact fun _ hφ => hφ
  | some raftNodeId =>
    refine (keeps_createVolumes ctx raftNodeId hd).bind fun _ =>
      keeps_calm (hrest.mono ?_ fun _ h => h)
    exact fun e he => calm_of_untouched he.untouched

lemma keeps_deployService (ctx : DeployCtx) (name : String)
    (hd : ∀ x ∈ d.persistent, concerns x = true) :
    KeepsVolumes ctx.volumes concerns (deployService ctx name d) :=
  keeps_service ctx (Only.foldEach (fun _ replica _ => only_startAlloc_replica ctx _ replica) ()) hd

lemma keeps_rollouts {deployOne : String → ServiceDef → Action Unit}
    {services : List (String × ServiceDef)}
    (hone : ∀ e ∈ services, KeepsVolumes driver concerns (deployOne e.1 e.2)) (failed : Bool) :
    KeepsVolumes driver concerns (Program.foldEach (rollout deployOne) services failed) := by
  refine Keeps.foldEach (fun failed e he => (hone e he).attempt.bind fun result => ?_) failed
  cases result <;> exact fun _ hφ => hφ

lemma keeps_applyPlan (ctx : DeployCtx) {plan : DeployPlan}
    (hplan : ∀ e ∈ plan.added ++ plan.changed, ∀ x ∈ e.2.persistent, concerns x = true) :
    KeepsVolumes ctx.volumes concerns (applyPlan ctx plan) := by
  refine (keeps_calm (Only.foldEach (fun _ name _ => (only_stopService name).mono ?_
    fun _ h => h) ())).bind fun _ => ?_
  · rintro e (rfl | ⟨node, allocId, rfl⟩) <;> exact calm_of_untouched rfl
  refine (keeps_rollouts (fun e he => ?_) false).bind (keeps_rollouts fun e he => ?_)
  · exact keeps_deployService ctx e.1 (hplan e (mem_append_left _ he))
  · exact keeps_service ctx (only_replaceAllocs ctx) (hplan e (mem_append_right _ he))

lemma wp_preDeploy_volumes (new : ClusterConfig) (hφ : AllConsistent driver concerns φ) :
    (preDeploy new).wp (volumeSpec concerns) (fun o φ => AllConsistent driver concerns φ ∧
      ∀ a, o = .ok a → ∀ e ∈ a.2.added ++ a.2.changed, new.services.lookup e.1 = some e.2) φ := by
  have hquiet (e : Effect) (φ : String → VolumeView) (he : e.touches = none)
      (hφ : AllConsistent driver concerns φ) : (volumeSpec concerns).pre φ e ∧
        ∀ r φ', (volumeSpec concerns).post φ e r φ' → AllConsistent driver concerns φ' :=
    ⟨pre_untouched he, fun r φ' hr => hφ.congr (post_untouched he hr)⟩
  have hvisit (services : Finmap fun _ : String => ServiceDef)
      (order : List (Σ _ : String, ServiceDef)) (φ φ' : String → VolumeView)
      (h : (volumeSpec concerns).post φ (.visitServices services) order φ') :
      services.entries = order := by
    obtain ⟨w, w', hanswered, -⟩ := exists_of_post h
    cases hanswered with
    | visitServices _ _ horder => exact horder
  refine wp_mono (wp_preDeploy_of new (fun _ φ => AllConsistent driver concerns φ) _
    (hquiet _ φ rfl hφ) (fun _ e φ he hφ => hquiet e φ (by cases he <;> rfl) hφ) hvisit) ?_
  rintro o φ' ⟨old, hφ', ho⟩
  refine ⟨hφ', fun a ha e he => ?_⟩
  subst ha
  obtain ⟨newOrder, oldOrder, rfl, horder, -⟩ := ho
  refine Finmap.mem_lookup_iff.mpr ?_
  rw [horder]
  exact mem_newOrder_of_mem_plan he

lemma keeps_runDeploy (ctx : DeployCtx) (new : ClusterConfig)
    (hnew : ∀ name d, new.services.lookup name = some d → ∀ x ∈ d.persistent, concerns x = true) :
    KeepsVolumes ctx.volumes concerns (runDeploy ctx new) := by
  intro φ hφ
  refine wp_bind (wp_mono (wp_preDeploy_volumes new hφ) ?_)
  rintro (x | ⟨old, plan⟩) φ₁ ⟨hφ₁, hplan⟩
  · exact hφ₁
  have hcommit : (propose (.deploy new)).Only (Effect.CalmOn concerns) fun _ => True :=
    only_propose (calm_of_untouched rfl) fun _ => trivial
  have hservices : ∀ e ∈ plan.added ++ plan.changed, ∀ x ∈ e.2.persistent, concerns x = true :=
    fun e he => hnew e.1 e.2 (hplan _ rfl e he)
  refine ((keeps_calm hcommit).bind fun _ => (keeps_applyPlan ctx hservices).bind fun failed => ?_)
    φ₁ hφ₁
  cases failed with
  | false => exact fun _ hφ => hφ
  | true =>
    cases old with
    | none => exact fun _ hφ => hφ
    | some =>
      exact (keeps_calm (only_act (calm_of_untouched rfl) (F := fun _ => True))).bind fun _ _ h => h

lemma wp_recordDestroyed (hname : concerns name = true)
    (hφ : AllConsistent driver concerns φ) (hcount : driver = true → (φ name).count = 0) :
    (do
      match ← handle (.propose (.volumeDestroyed name)) with
      | .ok .ok => pure ()
      | _ => .fail (.internalServerError "raft proposal failed") :
        Program Effect Effect.Answer ApiError Unit).wp (volumeSpec concerns)
      (fun _ φ => AllConsistent driver concerns φ) φ := by
  refine wp_bind (wp_effect ?_ fun response φ' h' => ?_)
  · rintro x hx
    cases hx
    exact ⟨hname, trivial⟩
  have hview := post_volumeDestroyed h' hname
  have hφ' : AllConsistent driver concerns φ' := by
    refine AllConsistent.update (x := name) hφ (fun _ => ?_) fun y hy hne =>
      post_frame h' hy fun he => hne (Option.some.inj he).symm
    rw [hview]
    split_ifs
    · exact ⟨(hφ name hname).1, fun hdriver _ => hcount hdriver⟩
    · exact hφ name hname
  dsimp only
  split
  · exact hφ'
  · exact hφ'

lemma keeps_deleteVolume (ctx : DeployCtx) (hname : concerns name = true) :
    KeepsVolumes ctx.volumes concerns (deleteVolume ctx name) := by
  intro φ hφ
  refine wp_bind (wp_effect (pre_untouched rfl) fun state φ₁ h₁ => ?_)
  have hφ₁ := hφ.congr (post_untouched rfl h₁)
  have hstate : state = (φ₁ name).state := by
    obtain ⟨w, w', hanswered, hviews⟩ := exists_of_post h₁
    rw [(hviews name hname).2]
    cases hanswered with
    | read => rfl
  rcases state with _ | ⟨_ | node⟩
  · exact hφ₁
  · refine wp_bind ?_
    unfold destroyCloud
    by_cases hdriver : ctx.volumes = true
    · rw [if_pos hdriver]
      refine wp_bind (wp_effect ?_ fun destroyed φ₂ h₂ => ?_)
      · rintro x hx
        cases hx
        refine ⟨hname, fun node hnode => ?_⟩
        rw [← hstate] at hnode
        cases hnode
      have hview := post_destroy h₂ hname
      have hothers (y : String) (hy : concerns y = true) (hne : y ≠ name) : φ₂ y = φ₁ y :=
        post_frame h₂ hy fun he => hne (Option.some.inj he).symm
      have hφ₂ : AllConsistent ctx.volumes concerns φ₂ := by
        refine AllConsistent.update (x := name) hφ₁ (fun _ => ?_) hothers
        rcases hview with hview | ⟨-, hview⟩
        · rw [hview]
          exact ⟨Nat.zero_le 1, fun _ _ => rfl⟩
        · exact hview ▸ hφ₁ name hname
      cases destroyed with
      | error => exact hφ₂
      | ok =>
        have hgone := hview.resolve_right fun h => by cases h.1
        exact wp_recordDestroyed hname hφ₂ fun _ => congrArg VolumeView.count hgone
    · rw [if_neg hdriver]
      exact wp_recordDestroyed hname hφ₁ fun h => absurd h hdriver
  · exact hφ₁

lemma wp_volumes_congr {X α : Type} {p : Program Effect Effect.Answer X α}
    (hp : p.wp (volumeSpec concerns) (fun _ φ => AllConsistent driver concerns φ) φ)
    (h : ∀ x, concerns x = true → φ' x = φ x) :
    p.wp (volumeSpec concerns) (fun _ φ => AllConsistent driver concerns φ) φ' := by
  cases p with
  | done a | fail x => exact AllConsistent.congr hp h
  | perform =>
    refine ⟨fun x hx => ?_, fun r φ'' hr => hp.2 r φ'' ?_⟩
    · obtain ⟨hconcerns, hallowed⟩ := hp.1 x hx
      rw [h x hconcerns]
      exact ⟨hconcerns, hallowed⟩
    · obtain ⟨w, w', c, ha, hseen, hviews⟩ := hr
      refine ⟨w, w', c, ha, hseen, fun x hx => ?_⟩
      rw [← h x hx]
      exact hviews x hx

end

def spawned {X α : Type} (p : Program Effect Effect.Answer X α) :
    Program Effect Effect.Answer Empty Unit := do
  let _ ← p.attempt
  pure ()

def VolumeRequest.task (ctx : DeployCtx) : VolumeRequest → Program Effect Effect.Answer Empty Unit
  | .deploy config => spawned (runDeploy ctx config)
  | .delete name => spawned (deleteVolume ctx name)

inductive VolumeEvent
  | request (request : VolumeRequest)
  | commit (c : Command)

abbrev VolumeTask := VolumeRequest × Program Effect Effect.Answer Empty Unit

abbrev Volumes := Machine.State Effect Effect.Answer Empty Unit World VolumeRequest

def volumes (ctx : DeployCtx) :
    Machine Effect Effect.Answer Empty Unit World Choice VolumeEvent VolumeRequest where
  answer := World.answer
  starts _ := []
  outside w
    | .request request => some (w, [(request, request.task ctx)])
    | .commit c =>
      if c.volume = none then some ({ w with fsm := (applyCommand w.fsm c).1 }, []) else none
  track _ t _ _ := t

variable {ctx : DeployCtx} {s s' : Volumes}

lemma keeps_task (ctx : DeployCtx) (request : VolumeRequest) :
    KeepsVolumes ctx.volumes request.concerns (request.task ctx) := by
  cases request with
  | deploy config =>
    refine (keeps_runDeploy ctx config fun name d hd x hx => ?_).attempt.bind fun _ _ h => h
    exact Finmap.any_eq_true.mpr ⟨name, d, hd, decide_eq_true hx⟩
  | delete name =>
    have hname : (VolumeRequest.delete name).concerns name = true := beq_self_eq_true name
    exact (keeps_deleteVolume ctx hname).attempt.bind fun _ _ h => h

def Making (s : Volumes) (i : Nat) : Bool := (s.next i).any fun n => n.2.makes

/-- A request begins only when every earlier one that may touch one of its volumes has ended,
and a cloud volume that was created is answered for and gets its record. -/
def OneByOne (s : Volumes) : Machine.Event Choice VolumeEvent → Prop
  | .outside (.request request) =>
    ∀ tp ∈ s.tasks, tp.1.overlaps request = true → tp.2.outcome.isSome
  | .outside (.commit _) => True
  | .act i c => c.hides = true → Making s i = false

instance (s : Volumes) (event : Machine.Event Choice VolumeEvent) :
    Decidable (OneByOne s event) := by
  unfold OneByOne
  split <;> infer_instance

structure Separate (ctx : DeployCtx) (s : Volumes) : Prop where
  apart : ∀ (i j : Nat) (tp tp' : VolumeTask),
    s.tasks[i]? = some tp → s.tasks[j]? = some tp' → i ≠ j →
      tp.2.outcome = none → tp'.2.outcome = none →
        ∀ x, tp.1.concerns x = true → tp'.1.concerns x = false
  program : ∀ tp ∈ s.tasks, tp.2.outcome = none → tp.2.wp (volumeSpec tp.1.concerns)
    (fun _ φ => AllConsistent ctx.volumes tp.1.concerns φ) s.world.volumeView
  idle : ∀ x, (∀ tp ∈ s.tasks, tp.2.outcome = none → tp.1.concerns x = false) →
    (s.world.volumeView x).Consistent ctx.volumes
  single : ∀ x, (s.world.volumeView x).count ≤ 1

lemma separate_request (hs : Separate ctx s) {request : VolumeRequest}
    (hguard : OneByOne s (.outside (.request request))) :
    Separate ctx ⟨s.world, s.tasks ++ [(request, request.task ctx)]⟩ := by
  have hapart {tp : VolumeTask} (htp : tp ∈ s.tasks) (hrunning : tp.2.outcome = none) {x : String}
      (hx : request.concerns x = true) : tp.1.concerns x = false := by
    by_contra hne
    have hended := hguard tp htp
      (VolumeRequest.overlaps_of_concerns ((Bool.not_eq_false _).mp hne) hx)
    rw [hrunning] at hended
    cases hended
  refine ⟨?_, ?_, fun x hx => ?_, hs.single⟩
  · intro i j tp tp' hi hj hij hrunning hrunning' x hx
    rcases List.of_getElem?_concat hi with hi | ⟨rfl, rfl⟩
    · rcases List.of_getElem?_concat hj with hj | ⟨rfl, rfl⟩
      · exact hs.apart i j tp tp' hi hj hij hrunning hrunning' x hx
      · by_contra hne
        have hfree := hapart (mem_of_getElem? hi) hrunning ((Bool.not_eq_false _).mp hne)
        rw [hx] at hfree
        cases hfree
    · rcases List.of_getElem?_concat hj with hj | ⟨rfl, rfl⟩
      · exact hapart (mem_of_getElem? hj) hrunning' hx
      · exact absurd rfl hij
  · intro tp htp hrunning
    rcases mem_append.mp htp with hmem | hmem
    · exact hs.program tp hmem hrunning
    · rw [mem_singleton.mp hmem]
      exact keeps_task ctx request _ fun x hx =>
        hs.idle x fun tp htp hrunning => hapart htp hrunning hx
  · exact hs.idle x fun tp htp => hx tp (mem_append_left _ htp)

lemma World.Answered.count_le {w w' : World} {e : Effect} {r : e.Answer} {x : String}
    (h : w.Answered e r w') (he : e.touches = some x → e.allowed (w.volumeView x))
    (hx : (w.volumeView x).count ≤ 1) : (w'.volumeView x).count ≤ 1 := by
  by_cases htouches : e.touches = some x
  · have hallowed := he htouches
    cases h with
    | created | createdUnseen =>
      cases htouches
      have hzero : w.cloud.countP (fun vol => vol.1 == x) = 0 := hallowed
      simp [World.volumeView, countP_append, hzero]
    | destroyed | destroyedUnseen =>
      refine le_trans ?_ hx
      exact List.Sublist.countP_le (filter_sublist)
    | _ => exact hx
  · rw [h.volumeView_eq htouches]
    exact hx

lemma separate_act (hs : Separate ctx s) {i : Nat} {c : Choice} (hguard : OneByOne s (.act i c))
    (h : (volumes ctx).step s (.act i c) = some s') : Separate ctx s' := by
  obtain ⟨t, e, next, r, w, htask, ha, rfl⟩ := Machine.step_act_eq_some.mp h
  have hanswered := World.answered_of_answer ha
  have hwp := hs.program _ (mem_of_getElem? htask) rfl
  have hseen : e.makes = true → c.hides = false := by
    intro he
    refine Bool.eq_false_iff.mpr fun hc => ?_
    have hno := hguard hc
    rw [Making, Machine.next_eq_some.mpr ⟨next, htask⟩, Option.any_some, he] at hno
    cases hno
  have hnext := hwp.2 r w.volumeView ⟨s.world, w, c, ha, hseen, fun x _ => ⟨rfl, rfl⟩⟩
  have huntouched {x : String} (hx : t.concerns x = false) :
      w.volumeView x = s.world.volumeView x := by
    refine hanswered.volumeView_eq fun he => ?_
    rw [(hwp.1 x he).1] at hx
    cases hx
  have hsame : (s.tasks.set i ((volumes ctx).track w t e r, next r) ++ (volumes ctx).starts e) =
      s.tasks.set i (t, next r) := append_nil _
  rw [hsame]
  have hbefore {j : Nat} {tp : VolumeTask} (hj : (s.tasks.set i (t, next r))[j]? = some tp)
      (hrunning : tp.2.outcome = none) :
      ∃ q, s.tasks[j]? = some (tp.1, q) ∧ q.outcome = none := by
    rcases List.of_getElem?_set hj with ⟨rfl, rfl⟩ | ⟨-, hj'⟩
    · exact ⟨_, htask, rfl⟩
    · exact ⟨tp.2, hj', hrunning⟩
  refine ⟨?_, ?_, ?_, fun x => hanswered.count_le (fun he => (hwp.1 x he).2) (hs.single x)⟩
  · intro j k tp tp' hj hk hjk hrunning hrunning' x hx
    obtain ⟨q, hj⟩ := hbefore hj hrunning
    obtain ⟨q', hk⟩ := hbefore hk hrunning'
    exact hs.apart j k _ _ hj.1 hk.1 hjk hj.2 hk.2 x hx
  · intro tp htp hrunning
    obtain ⟨j, hj⟩ := mem_iff_getElem?.mp htp
    rcases List.of_getElem?_set hj with ⟨rfl, rfl⟩ | ⟨hji, hj'⟩
    · exact hnext
    · refine wp_volumes_congr (hs.program tp (mem_of_getElem? hj') hrunning) fun x hx => ?_
      exact huntouched (hs.apart j i tp _ hj' htask hji hrunning rfl x hx)
  · intro x hx
    by_cases hconcerns : t.concerns x = true
    · cases hend : (next r).outcome with
      | none =>
        have hfree := hx _ (List.mem_set_self htask) hend
        rw [hconcerns] at hfree
        cases hfree
      | some => exact of_wp_outcome hnext hend x hconcerns
    · have hfree := Bool.eq_false_iff.mpr hconcerns
      rw [huntouched hfree]
      refine hs.idle x fun tp htp hrunning => ?_
      obtain ⟨j, hj⟩ := mem_iff_getElem?.mp htp
      by_cases hji : j = i
      · subst hji
        obtain rfl := Option.some.inj (htask.symm.trans hj)
        exact hfree
      · refine hx tp (mem_of_getElem? (i := j) ?_) hrunning
        rw [List.getElem?_set_ne (Ne.symm hji), hj]

lemma separate_step (hs : Separate ctx s) {event : Machine.Event Choice VolumeEvent}
    (hguard : OneByOne s event) (h : (volumes ctx).step s event = some s') : Separate ctx s' := by
  cases event with
  | act => exact separate_act hs hguard h
  | outside v =>
    obtain ⟨w, tasks, hw, rfl⟩ := Machine.step_outside_eq_some.mp h
    cases v with
    | request =>
      cases hw
      exact separate_request hs hguard
    | commit c =>
      simp only [volumes] at hw
      split_ifs at hw with hc
      cases hw
      have hviews : World.volumeView { s.world with fsm := (applyCommand s.world.fsm c).1 } =
          s.world.volumeView :=
        funext fun x => volumeView_applyCommand (by simp [hc]) s.world
      rw [append_nil]
      exact ⟨hs.apart, hviews ▸ hs.program, hviews ▸ hs.idle, hviews ▸ hs.single⟩

def noRequests (w : World) : Volumes := ⟨w, []⟩

lemma separate_noRequests {w : World} (hw : ∀ x, (w.volumeView x).Consistent ctx.volumes) :
    Separate ctx (noRequests w) :=
  ⟨fun _ _ _ _ h => (nomatch h), nofun, fun x _ => hw x, fun x => (hw x).1⟩

def Effect.attaches (x : String) : Effect → Bool
  | .attach name _ => name == x
  | .propose (.volumeAttached name _) => name == x
  | _ => false

lemma Effect.touches_of_attaches {e : Effect} {x : String} (he : e.attaches x = true) :
    e.touches = some x := by
  unfold attaches at he
  split at he
  · exact congrArg some (beq_iff_eq.mp he)
  · exact congrArg some (beq_iff_eq.mp he)
  · cases he

/-- Where the requests for a volume come one after the other and neither the answer nor the
record of a new cloud volume is lost, no cloud volume is destroyed that is attached or about to
be, and none exists twice. -/
theorem volume_lifecycle_safe (ctx : DeployCtx) (w : World)
    (events : List (Machine.Event Choice VolumeEvent)) (s : Volumes)
    (hw : ∀ x, (w.volumeView x).Consistent ctx.volumes)
    (hguard : Guarded (volumes ctx).step OneByOne (noRequests w) events)
    (hrun : run (volumes ctx).step (noRequests w) events = some s) :
    (∀ i request x, s.next i = some (request, .destroy x) →
      (∀ node, (s.world.fsm.volumes.lookup x).map FsmVolume.state ≠ some (.attached node)) ∧
        ∀ j request' e, s.next j = some (request', e) → e.attaches x = false) ∧
      ∀ x, s.world.cloud.countP (fun vol => vol.1 == x) ≤ 1 := by
  have hs : Separate ctx s := run_invariant (fun _ _ _ hs he h => separate_step hs he h)
    (separate_noRequests hw) hguard hrun
  refine ⟨fun i request x hnext => ?_, hs.single⟩
  obtain ⟨next, htask⟩ := Machine.next_eq_some.mp hnext
  obtain ⟨hconcerns, hallowed⟩ := (hs.program _ (mem_of_getElem? htask) rfl).1 x rfl
  refine ⟨hallowed, fun j request' e hnext' => Bool.eq_false_iff.mpr fun he => ?_⟩
  obtain ⟨next', htask'⟩ := Machine.next_eq_some.mp hnext'
  have hconcerns' := ((hs.program _ (mem_of_getElem? htask') rfl).1 x
    (Effect.touches_of_attaches he)).1
  by_cases hij : i = j
  · subst hij
    cases htask.symm.trans htask'
    cases he
  · have hfree := hs.apart i j _ _ htask htask' hij rfl rfl x hconcerns
    rw [hconcerns'] at hfree
    cases hfree

def driverCtx : DeployCtx := { demoCtx with volumes := true }

def demoInstance : FsmNode := { PlacementSystem.demoNode with instanceId := some "i-1" }

def demoVolume : FsmVolume := ⟨"vol-1", .ready⟩

def volumeWorld (volumes : Finmap fun _ : String => FsmVolume) (cloud : List (String × String)) :
    World := ⟨⟨none, Finmap.singleton 1 demoInstance, ∅, ∅, volumes⟩, [], cloud, 0⟩

def demoReady : World := volumeWorld (Finmap.singleton "data" demoVolume) [("data", "vol-1")]

def storeConfig (vol : VolumeDef) : ClusterConfig :=
  ⟨Finmap.singleton "store" (demoStore [vol]), ∅⟩

def demoLogs : VolumeDef := ⟨"logs", "/logs", none, false⟩

lemma demoReady_consistent (driver : Bool) (x : String) :
    (demoReady.volumeView x).Consistent driver := by
  by_cases hx : x = "data"
  · subst hx
    exact ⟨le_rfl, nofun⟩
  · have hcount : (demoReady.volumeView x).count = 0 := by
      simp [World.volumeView, demoReady, volumeWorld, Ne.symm hx]
    exact ⟨hcount ▸ Nat.zero_le 1, fun _ _ => hcount⟩

def volumeOrder (volumes : List (Σ _ : String, FsmVolume)) : Choice :=
  .order [demoInstance] [] volumes

def demoLooks (vol : VolumeDef) (volumes : List (Σ _ : String, FsmVolume)) : List Choice :=
  let order := volumeOrder volumes
  [order, .services [⟨"store", demoStore [vol]⟩], .services [], order, order, .proceed,
    .proceed, order, order, order]

def demoDelete : List (Machine.Event Choice VolumeEvent) :=
  [.outside (.request (.delete "data")), .act 0 (volumeOrder [⟨"data", demoVolume⟩])]

def demoDeletedBeside : List (Machine.Event Choice VolumeEvent) :=
  [.outside (.request (.deploy (storeConfig demoLogs)))] ++
    (demoLooks demoLogs [⟨"data", demoVolume⟩]).map (.act 0) ++
    [.outside (.request (.delete "data")), .act 0 (.text "vol-2"),
      .act 1 (volumeOrder [⟨"data", demoVolume⟩])]

def demoDeletedAttached : List (Machine.Event Choice VolumeEvent) :=
  demoDelete ++ [.outside (.request (.deploy (storeConfig demoData)))] ++
    (demoLooks demoData [⟨"data", demoVolume⟩] ++
      [volumeOrder [⟨"data", demoVolume⟩], .proceed, .proceed]).map (.act 1)

def demoCreatedTwice : List (Machine.Event Choice VolumeEvent) :=
  [.outside (.request (.deploy (storeConfig demoData))),
      .outside (.request (.deploy (storeConfig demoData)))] ++
    (demoLooks demoData []).flatMap (fun c => [.act 0 c, .act 1 c]) ++
    [.act 0 (.text "vol-1"), .act 1 (.text "vol-2")]

theorem volume_lifecycle_safe_beside :
    ∃ s, run (volumes driverCtx).step (noRequests demoReady) demoDeletedBeside = some s ∧
      ((s.next 0).map Prod.snd = some (.propose (.volumeCreated "logs" "vol-2")) ∧
        s.next 1 = some (.delete "data", .destroy "data")) ∧
      (∀ node, (s.world.fsm.volumes.lookup "data").map FsmVolume.state ≠ some (.attached node)) ∧
      ∀ x, s.world.cloud.countP (fun vol => vol.1 == x) ≤ 1 := by
  refine exists_end_and (by decide +kernel) fun s hs hnext => ?_
  have hsafe := volume_lifecycle_safe driverCtx demoReady demoDeletedBeside s
    (demoReady_consistent driverCtx.volumes) (by decide +kernel) hs
  exact ⟨(hsafe.1 1 _ "data" hnext.2).1, hsafe.2⟩

/-- A deletion destroys a volume that a deploy has attached meanwhile; and of two deploys that
find no volume each creates one. -/
theorem volume_lifecycle_unsafe :
    (∃ s, run (volumes driverCtx).step (noRequests demoReady) demoDeletedAttached = some s ∧
        s.next 0 = some (.delete "data", .destroy "data") ∧
        (s.world.fsm.volumes.lookup "data").map FsmVolume.state = some (.attached ⟨"n"⟩)) ∧
      ∃ s, run (volumes driverCtx).step (noRequests (volumeWorld ∅ [])) demoCreatedTwice = some s ∧
        s.world.cloud = [("data", "vol-1"), ("data", "vol-2")] := by
  decide +kernel

end Mill
