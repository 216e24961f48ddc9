import Mill.Node.DeployConfig

/-! What a task that starts and stops allocations has done, as far as its own effects and
their answers tell. -/

namespace Mill

open Mill.Action List Program

abbrev NewAlloc := AllocId × String × ServiceDef

inductive TaskKind
  | deploy
  | watchdog
  | restart (service : String)
deriving DecidableEq

structure DeployTrace where
  task : TaskKind
  old : Option (Option ClusterConfig)
  commits : List ClusterConfig
  placing : Option (String × ServiceDef)
  located : Option Nat
  starting : Option NewAlloc
  up : List NewAlloc
  listings : List (String × List AllocId)
  halted : List AllocId
deriving DecidableEq

namespace DeployTrace

def begin (task : TaskKind) : DeployTrace := ⟨task, none, [], none, none, none, [], [], []⟩

def track (t : DeployTrace) (e : Effect) (r : e.Answer) : DeployTrace :=
  match e, r with
  | .read .config, old => { t with old := some old }
  | .read (.place name d), _ => { t with placing := some (name, d) }
  | .read (.raftIdFor _), node => { t with located := node }
  | .read (.serviceAllocs name), allocs =>
    { t with listings := (name, allocs.map Prod.fst) :: t.listings }
  | .propose (.deploy config), .ok _ => { t with commits := config :: t.commits }
  | .propose (.allocScheduled id _ _ _ _ _), .ok _ =>
    { t with starting := t.placing.map fun p => (id, p) }
  | .propose (.allocStatus _ status), .ok _ =>
    { t with
      starting := none
      up := if status.isTerminal then t.up else t.starting.toList ++ t.up }
  | .send _ (.stop id), .ok _ =>
    { t with up := t.up.filter (fun e => e.1 ≠ id), halted := id :: t.halted }
  | _, _ => t

def entries (t : DeployTrace) : List NewAlloc := t.starting.toList ++ t.up

def knows (t : DeployTrace) (id : AllocId) : Bool :=
  t.entries.any (fun e => e.1 == id) || t.halted.contains id ||
    t.listings.any fun l => l.2.contains id

end DeployTrace

def DeployTrace.Cleared (t : DeployTrace) (name : String) : Prop :=
  ∃ listing, (name, listing) ∈ t.listings ∧ ∀ id ∈ listing, id ∈ t.halted

def Effect.unseen : Effect → Bool
  | .read .config | .read (.place _ _) | .read (.raftIdFor _) | .read (.serviceAllocs _) => false
  | .propose (.volumeCreated _ _) | .propose (.volumeAttached _ _) | .propose (.volumeDetached _)
  | .propose (.volumeDestroyed _) => true
  | .propose _ => false
  | .send _ (.stop _) | .spawnRestart _ _ => false
  | _ => true

/-- What the programs keep to: an allocation is recorded where it has been placed and gets a
status only while it is starting; only a deploy stores configs and stops what it has listed
or started, and only the watchdog starts tasks. -/
def Effect.Orderly (t : DeployTrace) : Effect → Prop
  | .read .config => t.commits = []
  | .read (.serviceAllocs _) => t.task = .deploy ∧ t.starting = none
  | .propose (.deploy _) => t.task = .deploy
  | .propose (.allocScheduled _ node name kind _ _) =>
    kind = .service ∧ t.starting = none ∧ t.located = some node ∧ ∃ d, t.placing = some (name, d)
  | .propose (.allocStatus id _) => ∃ p, t.starting = some (id, p)
  | .propose (.volumeCreated _ _) | .propose (.volumeAttached _ _) | .propose (.volumeDetached _)
  | .propose (.volumeDestroyed _) => True
  | .propose _ => False
  | .send _ (.stop id) => t.task = .deploy ∧ t.starting = none ∧
      ((∃ l ∈ t.listings, id ∈ l.2) ∨ (∃ e ∈ t.up, e.1 = id) ∨ id ∈ t.halted)
  | .spawnRestart _ _ => t.task = .watchdog
  | _ => True

/-- What an answer tells the task: the services of a map are all visited, a new id is new to
the task, and a list of allocations has no allocation of another service. -/
def Effect.Told (t : DeployTrace) (e : Effect) (r : e.Answer) : Prop :=
  match e, r with
  | .visitServices services, order => services.entries = order
  | .propose (.allocScheduled id _ _ _ _ _), _ => t.knows id = false
  | .read (.serviceAllocs name), allocs =>
    ∀ e ∈ t.up, e.2.1 ≠ name → e.1 ∉ (allocs.map Prod.fst : List AllocId)
  | _, _ => True

def traceSpec : Spec Effect Effect.Answer DeployTrace where
  pre t e := e.Orderly t
  post t e r t' := t' = t.track e r ∧ e.refused r = false ∧ e.Told t r

section

variable {t : DeployTrace} {e : Effect} {α : Type}

lemma DeployTrace.track_of_unseen (he : e.unseen = true) (t : DeployTrace) (r : e.Answer) :
    t.track e r = t := by
  unfold track
  split <;> first | rfl | cases he

lemma orderly_of_unseen (he : e.unseen = true) (t : DeployTrace) : e.Orderly t := by
  cases e with
  | read q => cases q <;> trivial
  | propose c => cases c <;> trivial
  | send node cmd => cases cmd <;> trivial
  | spawnRestart => cases he
  | _ => trivial

inductive Effect.Seen : Effect → Prop
  | config : Seen (.read .config)
  | place (name : String) (d : ServiceDef) : Seen (.read (.place name d))
  | raftIdFor (millId : NodeId) : Seen (.read (.raftIdFor millId))
  | serviceAllocs (name : String) : Seen (.read (.serviceAllocs name))
  | commit (config : ClusterConfig) : Seen (.propose (.deploy config))
  | schedule (id : AllocId) (node : Nat) (name : String) (kind : AllocKind)
      (address : Option SocketAddr) (resources : AllocResources) :
      Seen (.propose (.allocScheduled id node name kind address resources))
  | status (id : AllocId) (status : AllocStatus) : Seen (.propose (.allocStatus id status))
  | stop (node : NodeId) (id : AllocId) : Seen (.send node (.stop id))
  | spawn (name : String) (d : ServiceDef) : Seen (.spawnRestart name d)

lemma unseen_or_seen (h : e.Orderly t) : e.unseen = true ∨ e.Seen := by
  cases e with
  | read q => cases q <;> first | exact .inl rfl | exact .inr (by constructor)
  | propose c =>
    cases c <;> first | exact .inl rfl | exact .inr (by constructor) | exact h.elim
  | send node cmd => cases cmd <;> first | exact .inl rfl | exact .inr (by constructor)
  | spawnRestart name d => exact .inr (.spawn name d)
  | _ => exact .inl rfl

lemma wp_unseen {p : Action α} {Q : Except DeployError α → DeployTrace → Prop}
    (hp : p.Only (fun e => e.unseen = true) fun _ => True) (hdone : ∀ a, Q (.ok a) t)
    (hfail : ∀ x, Q (.error x) t) : p.wp traceSpec Q t := by
  refine wp_of_only (I := fun t' => t' = t) hp rfl ?_ ?_ ?_
  · rintro e t' he rfl
    refine ⟨orderly_of_unseen he t', ?_⟩
    rintro r t'' ⟨rfl, -⟩
    exact DeployTrace.track_of_unseen he t' r
  · rintro a t' rfl
    exact hdone a
  · rintro x t' - rfl
    exact hfail x

lemma wp_act_unseen (he : e.unseen = true) {Q : Except DeployError e.Answer → DeployTrace → Prop}
    (hdone : ∀ r, Q (.ok r) t) : (act e).wp traceSpec Q t := by
  refine wp_effect (orderly_of_unseen he t) ?_
  rintro r t' ⟨rfl, -⟩
  rw [DeployTrace.track_of_unseen he]
  exact hdone r

lemma VolumeEffect.unseen {vol : String} (he : VolumeEffect vol e) : e.unseen = true := by
  cases he <;> rfl

end

section

structure Started (t t' : DeployTrace) (new : List NewAlloc) : Prop where
  idle : t'.starting = none
  task : t'.task = t.task
  old : t'.old = t.old
  up : t'.up = new ++ t.up
  listings : t'.listings = t.listings
  halted : t'.halted = t.halted
  fresh : ∀ e ∈ new, ∀ l ∈ t.listings, e.1 ∉ l.2

variable {t t' t'' : DeployTrace} {new more : List NewAlloc} {id : AllocId} {name : String}
  {d : ServiceDef}

lemma DeployTrace.not_mem_of_knows (h : t.knows id = false) :
    (∀ e ∈ t.entries, e.1 ≠ id) ∧ id ∉ t.halted ∧ ∀ l ∈ t.listings, id ∉ l.2 := by
  simp only [knows, Bool.or_eq_false_iff, List.any_eq_false, contains_eq_mem] at h
  refine ⟨fun e he heq => h.1.1 e he (beq_iff_eq.mpr heq), fun hmem => ?_, fun l hl hmem => ?_⟩
  · simp [hmem] at h
  · exact h.2 l hl (decide_eq_true hmem)

namespace Started

lemma refl (h : t.starting = none) : Started t t [] :=
  ⟨h, rfl, rfl, rfl, rfl, rfl, nofun⟩

lemma trans (h : Started t t' new) (h' : Started t' t'' more) : Started t t'' (more ++ new) := by
  refine ⟨h'.idle, h'.task.trans h.task, h'.old.trans h.old, ?_, h'.listings.trans h.listings,
    h'.halted.trans h.halted, fun e he l hl => ?_⟩
  · rw [h'.up, h.up, append_assoc]
  · rcases mem_append.mp he with he | he
    · exact h'.fresh e he l (h.listings.symm ▸ hl)
    · exact h.fresh e he l hl

end Started

lemma wp_runScheduledAlloc_trace (ctx : DeployCtx) (nodeId : NodeId)
    (ht : t.starting = some (id, name, d)) :
    (runScheduledAlloc ctx name d id nodeId).wp traceSpec (fun o t' => match o with
      | .ok _ => t' = { t with starting := none, up := (id, name, d) :: t.up }
      | .error _ => t' = t) t := by
  have henv : (resolveEnv ctx d.env).Only (fun e => e.unseen = true) fun _ => True :=
    only_resolveEnv ctx rfl (fun _ => rfl) fun _ => rfl
  refine wp_bind (wp_unseen henv (fun env => ?_) fun _ => rfl)
  refine wp_bind (wp_unseen (only_send rfl fun _ => trivial) (fun _ => ?_) fun _ => rfl)
  refine wp_bind (wp_act_unseen rfl fun status => ?_)
  refine wp_bind (wp_unseen (only_ofExcept (fun _ => trivial) status) (fun _ => ?_) fun _ => rfl)
  refine wp_bind (wp_act_unseen rfl fun address => ?_)
  cases address with
  | none => exact rfl
  | some =>
    refine wp_bind (wp_act_unseen rfl fun healthy => ?_)
    cases healthy with
    | false => exact rfl
    | true =>
      refine wp_bind (wp_propose ⟨_, ht⟩ ?_ ?_)
      · rintro response t' ⟨rfl, -⟩
        change t.track (.propose (.allocStatus id .healthy)) (.ok response) = _
        simp [DeployTrace.track, ht, AllocStatus.isTerminal]
      · rintro message t' ⟨-, hrefused, -⟩
        cases hrefused

lemma wp_startAlloc_trace (ctx : DeployCtx) (replica : Nat) (ht : t.starting = none) :
    (startAlloc ctx name d id replica).wp traceSpec (fun o t' => match o with
      | .ok _ => Started t t' [(id, name, d)]
      | .error _ => Started t t' []) t := by
  refine wp_bind (wp_effect trivial ?_)
  rintro nodeId t₁ ⟨rfl, -⟩
  cases nodeId with
  | none => exact ⟨ht, rfl, rfl, rfl, rfl, rfl, nofun⟩
  | some nodeId =>
    refine wp_bind (wp_effect trivial ?_)
    rintro raftId t₂ ⟨rfl, -⟩
    cases raftId with
    | none => exact ⟨ht, rfl, rfl, rfl, rfl, rfl, nofun⟩
    | some =>
      refine wp_bind (wp_propose ⟨rfl, ht, rfl, d, rfl⟩ ?_ ?_)
      · rintro response t₃ ⟨rfl, -, hfresh⟩
        refine wp_bind (wp_attempt (wp_mono (wp_runScheduledAlloc_trace ctx nodeId rfl) ?_))
        rintro (x | u) t₄ rfl
        · refine wp_bind (wp_effect ⟨_, rfl⟩ ?_)
          rintro (message | response) t₅ ⟨rfl, hrefused, -⟩
          · cases hrefused
          · exact ⟨rfl, rfl, rfl, rfl, rfl, rfl, nofun⟩
        · refine ⟨rfl, rfl, rfl, rfl, rfl, rfl, fun e he => ?_⟩
          rw [mem_singleton.mp he]
          exact (DeployTrace.not_mem_of_knows hfresh).2.2
      · rintro message t₃ ⟨-, hrefused, -⟩
        cases hrefused

end

section

variable {t t' u : DeployTrace} {name : String} {d : ServiceDef} {new : List NewAlloc}
  {id : AllocId} {old : Option (Option ClusterConfig)}

/-- The deploy has read this config and is not in the middle of a start. -/
structure Resting (old : Option (Option ClusterConfig)) (t : DeployTrace) : Prop where
  task : t.task = .deploy
  old : t.old = old
  idle : t.starting = none

structure RolledOut (name : String) (d : ServiceDef) (t t' : DeployTrace) (new : List NewAlloc) :
    Prop where
  up : t'.up = new ++ t.up
  own : ∀ e ∈ new, e.2 = (name, d)
  replicas : new.length = d.replicas
  listings : t.listings ⊆ t'.listings
  halted : t.halted ⊆ t'.halted

lemma Resting.started (h : Resting old t) (hs : Started t t' new) : Resting old t' :=
  ⟨hs.task.trans h.task, hs.old.trans h.old, hs.idle⟩

lemma Started.rolledOut (h : Started t t' new) (hown : ∀ e ∈ new, e.2 = (name, d))
    (hreplicas : new.length = d.replicas) : RolledOut name d t t' new :=
  ⟨h.up, hown, hreplicas, h.listings.symm ▸ List.Subset.refl _, h.halted.symm ▸ List.Subset.refl _⟩

lemma wp_stop {Q : Except DeployError (Except NodeError Unit) → DeployTrace → Prop}
    (node : NodeId) (h : Resting old t)
    (hid : (∃ l ∈ t.listings, id ∈ l.2) ∨ (∃ e ∈ t.up, e.1 = id) ∨ id ∈ t.halted)
    (hok : Resting old { t with up := t.up.filter (fun e => e.1 ≠ id), halted := id :: t.halted } →
      Q (.ok (.ok ())) { t with up := t.up.filter (fun e => e.1 ≠ id), halted := id :: t.halted })
    (herror : ∀ e, Q (.ok (.error e)) t) : (act (.send node (.stop id))).wp traceSpec Q t := by
  refine wp_effect ⟨h.task, h.idle, hid⟩ ?_
  rintro (e | u) t' ⟨rfl, -⟩
  · exact herror e
  · exact hok ⟨h.task, h.old, h.idle⟩

lemma only_createVolumes_unseen (ctx : DeployCtx) (d : ServiceDef) (raftNodeId : Nat) :
    (createVolumesIfNeeded ctx d raftNodeId).Only (fun e => e.unseen = true) fun _ => True :=
  only_createVolumesIfNeeded ctx raftNodeId fun _ _ _ he => he.unseen

lemma wp_service_trace (ctx : DeployCtx) {rest : Action Unit}
    {Q : Except DeployError Unit → DeployTrace → Prop} (hrest : rest.wp traceSpec Q t)
    (hfail : ∀ x, Q (.error x) t) :
    (do
      match ← read .firstReady with
      | none => .fail (.schedulingFailed name 0)
      | some raftNodeId =>
        createVolumesIfNeeded ctx d raftNodeId
        rest : Action Unit).wp traceSpec Q t := by
  refine wp_bind (wp_act_unseen rfl fun raftNodeId => ?_)
  cases raftNodeId with
  | none => exact hfail _
  | some raftNodeId =>
    exact wp_bind (wp_unseen (only_createVolumes_unseen ctx d raftNodeId) (fun _ => hrest) hfail)

lemma wp_deployService_trace (ctx : DeployCtx) (h : Resting old t) :
    (deployService ctx name d).wp traceSpec (fun o t' => Resting old t' ∧
      (o = .ok () → ∃ new, RolledOut name d t t' new)) t := by
  refine wp_service_trace ctx ?_ fun x => ⟨h, nofun⟩
  refine wp_foldEach (fun left _ t' => ∃ new, Started t t' new ∧ (∀ e ∈ new, e.2 = (name, d)) ∧
    new.length + left.length = d.replicas) ?_ ?_ ⟨[], Started.refl h.idle, by simp, by simp⟩
  · rintro replica left - t₁ ⟨new, hstarted, hown, hlength⟩
    refine wp_mono (wp_startAlloc_trace ctx replica hstarted.idle) ?_
    rintro (x | u) t₂ h₂
    · exact ⟨h.started (hstarted.trans h₂), nofun⟩
    · refine ⟨_ :: new, hstarted.trans h₂, ?_, ?_⟩
      · simpa using hown
      · simpa [Nat.add_assoc, Nat.add_comm 1] using hlength
  · rintro - t' ⟨new, hstarted, hown, hlength⟩
    exact ⟨h.started hstarted, fun _ => ⟨new, hstarted.rolledOut hown (by simpa using hlength)⟩⟩

lemma wp_stopQuietly_trace {allocs : List (AllocId × NodeId)} (h : Resting old t)
    (hallocs : ∀ a ∈ allocs, (∃ e ∈ t.up, e.1 = a.1) ∨ a.1 ∈ t.halted) :
    (stopQuietly allocs).wp traceSpec (fun _ t' => Resting old t') t := by
  refine wp_foldEach (fun left _ t => Resting old t ∧ ∀ a ∈ left,
    (∃ e ∈ t.up, e.1 = a.1) ∨ a.1 ∈ t.halted) ?_ (fun _ _ h => h.1) ⟨h, hallocs⟩
  rintro a left - t ⟨h, hleft⟩
  have hrest := fun b hb => hleft b (mem_cons_of_mem a hb)
  refine wp_bind (wp_stop a.2 h (.inr (hleft a mem_cons_self)) (fun h' => ⟨h', fun b hb => ?_⟩)
    fun _ => ⟨h, hrest⟩)
  rcases hrest b hb with ⟨e, he, heb⟩ | hb
  · by_cases hba : b.1 = a.1
    · exact .inr (hba ▸ mem_cons_self)
    · exact .inl ⟨e, mem_filter.mpr ⟨he, decide_eq_true (heb ▸ hba)⟩, heb⟩
  · exact .inr (mem_cons_of_mem _ hb)

lemma halted_or_left {left : List (AllocId × NodeId)} {a b : AllocId × NodeId}
    {halted : List AllocId} (h : b.1 ∈ halted ∨ b ∈ a :: left) :
    b.1 ∈ a.1 :: halted ∨ b ∈ left := by
  rcases h with hb | hb
  · exact .inl (mem_cons_of_mem _ hb)
  · rcases mem_cons.mp hb with rfl | hb
    · exact .inl mem_cons_self
    · exact .inr hb

lemma wp_stopOld_trace {allocs : List (AllocId × NodeId)} (h : Resting old t)
    (hlisting : (name, allocs.map Prod.fst) ∈ t.listings) :
    (Program.foldEach stopOld allocs none).wp traceSpec (fun o t' => Resting old t' ∧
      t'.listings = t.listings ∧ t.halted ⊆ t'.halted ∧
      ((∀ e ∈ t.up, e.1 ∉ allocs.map Prod.fst) → t'.up = t.up) ∧
      (o = .ok none → ∀ id ∈ allocs.map Prod.fst, id ∈ t'.halted)) t := by
  refine wp_foldEach (fun left stopErr t' => left ⊆ allocs ∧ Resting old t' ∧
    t'.listings = t.listings ∧ t.halted ⊆ t'.halted ∧
    ((∀ e ∈ t.up, e.1 ∉ allocs.map Prod.fst) → t'.up = t.up) ∧
    (stopErr = none → ∀ a ∈ allocs, a.1 ∈ t'.halted ∨ a ∈ left)) ?_ ?_
    ⟨List.Subset.refl _, h, rfl, List.Subset.refl _, fun _ => rfl, fun _ a ha => .inr ha⟩
  · rintro a left stopErr t₁ ⟨hleft, h₁, hlistings, hhalted, hup, hdone⟩
    obtain ⟨ha, hleft⟩ := cons_subset.mp hleft
    have hmem : a.1 ∈ allocs.map Prod.fst := mem_map_of_mem ha
    refine wp_bind (wp_stop a.2 h₁ (.inl ⟨_, hlistings ▸ hlisting, hmem⟩) (fun h' => ?_)
      fun x => ⟨hleft, h₁, hlistings, hhalted, hup, fun hnone => ?_⟩)
    · refine ⟨hleft, h', hlistings, subset_cons_of_subset _ hhalted, fun hapart => ?_,
        fun hnone b hb => halted_or_left (hdone hnone b hb)⟩
      dsimp only
      rw [hup hapart]
      exact filter_eq_self.mpr fun e he => decide_eq_true fun hea => hapart e he (hea ▸ hmem)
    · cases stopErr <;> cases hnone
  · rintro stopErr t₁ ⟨-, h₁, hlistings, hhalted, hup, hdone⟩
    refine ⟨h₁, hlistings, hhalted, hup, fun hnone id hid => ?_⟩
    obtain ⟨a, ha, rfl⟩ := mem_map.mp hid
    exact (hdone (Except.ok.inj hnone) a ha).resolve_right fun ha => (nomatch ha)

lemma wp_startReplica_trace (ctx : DeployCtx) (replica : Nat) (hrest : Resting old t)
    (h : Started t u new) {newAllocs : List (AllocId × NodeId)}
    (hnew : ∀ a ∈ newAllocs, ∃ e ∈ new, e.1 = a.1) :
    (startReplica ctx name d newAllocs replica).wp traceSpec (fun o u' => match o with
      | .ok newAllocs' => ∃ e, Started t u' (e :: new) ∧ e.2 = (name, d) ∧
          ∀ a ∈ newAllocs', ∃ f ∈ e :: new, f.1 = a.1
      | .error _ => Resting old u') u := by
  refine wp_bind (wp_bind (wp_act_unseen rfl fun suffix => ?_))
  refine wp_bind (wp_attempt (wp_mono (wp_startAlloc_trace ctx replica h.idle) ?_))
  rintro (x | _) u₁ h₁
  · have hall := h.trans h₁
    refine wp_bind (wp_mono (wp_stopQuietly_trace (hrest.started hall) fun a ha => ?_)
      fun o u' h => ?_)
    · obtain ⟨e, he, hea⟩ := hnew a ha
      exact .inl ⟨e, hall.up ▸ mem_append_left _ he, hea⟩
    · cases o <;> exact h
  · have hall := h.trans h₁
    refine wp_bind (wp_act_unseen rfl fun nodeId => ?_)
    have hold : ∀ a ∈ newAllocs, ∃ f ∈ (⟨s!"{name}-{suffix}"⟩, name, d) :: new, f.1 = a.1 := by
      intro a ha
      obtain ⟨e, he, hea⟩ := hnew a ha
      exact ⟨e, mem_cons_of_mem _ he, hea⟩
    cases nodeId with
    | none => exact ⟨_, hall, rfl, hold⟩
    | some =>
      refine ⟨_, hall, rfl, fun a ha => ?_⟩
      rcases mem_append.mp ha with ha | ha
      · exact hold a ha
      · rw [mem_singleton.mp ha]
        exact ⟨_, mem_cons_self, rfl⟩

lemma wp_rollingUpdate_trace (ctx : DeployCtx) (hrest : Resting old t) :
    (rollingUpdate ctx name d).wp traceSpec (fun o t' => Resting old t' ∧ (o = .ok () →
      (∀ e ∈ t.up, e.2.1 ≠ name) → (∃ new, RolledOut name d t t' new) ∧ t'.Cleared name)) t := by
  refine wp_service_trace ctx ?_ fun x => ⟨hrest, nofun⟩
  refine wp_bind (wp_effect ⟨hrest.task, hrest.idle⟩ ?_)
  rintro oldAllocs t₁ ⟨rfl, -, hothers⟩
  have hrest₁ : Resting old (t.track (.read (.serviceAllocs name)) oldAllocs) :=
    ⟨hrest.task, hrest.old, hrest.idle⟩
  refine wp_bind (wp_foldEach (fun left newAllocs u => ∃ new,
    Started (t.track (.read (.serviceAllocs name)) oldAllocs) u new ∧
    (∀ e ∈ new, e.2 = (name, d)) ∧ new.length + left.length = d.replicas ∧
      ∀ a ∈ newAllocs, ∃ e ∈ new, e.1 = a.1) ?_ ?_
    ⟨[], Started.refl hrest.idle, by simp, by simp, by simp⟩)
  · rintro replica left newAllocs u ⟨new, h, hown, hlength, hnew⟩
    refine wp_mono (wp_startReplica_trace ctx replica hrest₁ h hnew) ?_
    rintro (x | newAllocs') u' ho
    · exact ⟨ho, nofun⟩
    · obtain ⟨e, h', he, hnew'⟩ := ho
      refine ⟨e :: new, h', ?_, ?_, hnew'⟩
      · simpa [he] using hown
      · simpa [Nat.add_assoc, Nat.add_comm 1] using hlength
  · rintro newAllocs u ⟨new, h, hown, hlength, -⟩
    have hlisting : (name, (oldAllocs.map Prod.fst : List AllocId)) ∈ u.listings := by
      rw [h.listings]
      exact mem_cons_self
    refine wp_bind (wp_mono (wp_stopOld_trace (hrest₁.started h) hlisting) ?_)
    rintro (x | stopErr) u' ⟨h', hlistings, hhalted, hup, hstopped⟩
    · exact ⟨h', nofun⟩
    cases stopErr with
    | some => exact ⟨h', nofun⟩
    | none =>
      refine ⟨h', fun _ hname => ⟨⟨new, ?_, hown, by simpa using hlength, ?_, ?_⟩,
        _, hlistings ▸ hlisting, hstopped rfl⟩⟩
      -- Neither what has been started now nor what runs for others was in the list.
      · refine (hup fun e he hmem => ?_).trans h.up
        rcases mem_append.mp (h.up ▸ he) with he | he
        · exact h.fresh e he _ mem_cons_self hmem
        · exact hothers e he (hname e he) hmem
      · rw [hlistings, h.listings]
        exact subset_cons_self _ _
      · exact h.halted ▸ hhalted

lemma wp_stopService_trace (h : Resting old t) (hup : t.up = []) :
    (stopService name).wp traceSpec (fun o t' => o = .ok () → Resting old t' ∧ t'.up = []) t := by
  refine wp_bind (wp_effect ⟨h.task, h.idle⟩ ?_)
  rintro allocs t₁ ⟨rfl, -, -⟩
  refine wp_foldEach (fun left _ u => left ⊆ allocs ∧ Resting old u ∧ u.up = [] ∧
    (name, (allocs.map Prod.fst : List AllocId)) ∈ u.listings) ?_ (fun _ _ h _ => ⟨h.2.1, h.2.2.1⟩)
    ⟨List.Subset.refl _, ⟨h.task, h.old, h.idle⟩, hup, mem_cons_self⟩
  rintro a left - u ⟨hleft, h, hup, hlisting⟩
  obtain ⟨ha, hleft⟩ := cons_subset.mp hleft
  refine wp_bind (wp_stop a.2 h (.inl ⟨_, hlisting, mem_map_of_mem ha⟩)
    (fun h' => ⟨hleft, h', by simp [hup], hlisting⟩) fun x h => by cases h)

end

section

def serviceDef (config : Option ClusterConfig) (name : String) : Option ServiceDef :=
  config.bind fun c => c.services.lookup name

variable {old : Option ClusterConfig} {new : ClusterConfig}
  {newOrder oldOrder : List (Σ _ : String, ServiceDef)} {name : String} {d : ServiceDef}

lemma mem_order (h : new.services.entries = newOrder) :
    ⟨name, d⟩ ∈ newOrder ↔ serviceDef (some new) name = some d := by
  rw [serviceDef, Option.bind_some, Finmap.mem_iff_of_entries h]

lemma mem_added (h : new.services.entries = newOrder) :
    (name, d) ∈ (diffConfig old new newOrder oldOrder).added ↔
      serviceDef (some new) name = some d ∧ serviceDef old name = none := by
  rw [← mem_order h]
  simp only [diffConfig, mem_map, mem_filter, Option.isNone_iff_eq_none, serviceDef]
  constructor
  · rintro ⟨⟨n, d'⟩, hmem, heq⟩
    obtain ⟨rfl, rfl⟩ := Prod.mk.inj heq
    exact hmem
  · exact fun hmem => ⟨⟨name, d⟩, hmem, rfl⟩

lemma mem_changed (h : new.services.entries = newOrder) :
    (name, d) ∈ (diffConfig old new newOrder oldOrder).changed ↔
      serviceDef (some new) name = some d ∧ ∃ d', serviceDef old name = some d' ∧ d' ≠ d := by
  rw [← mem_order h]
  simp only [diffConfig, mem_map, mem_filter, Option.any_eq_true, decide_eq_true_eq, serviceDef]
  constructor
  · rintro ⟨⟨n, d'⟩, hmem, heq⟩
    obtain ⟨rfl, rfl⟩ := Prod.mk.inj heq
    exact hmem
  · exact fun hmem => ⟨⟨name, d⟩, hmem, rfl⟩

lemma mem_removed (h : ((old.map ClusterConfig.services).getD ∅).entries = oldOrder) :
    name ∈ (diffConfig old new newOrder oldOrder).removed ↔
      serviceDef old name ≠ none ∧ serviceDef (some new) name = none := by
  have hold : serviceDef old name = oldOrder.dlookup name := by
    rw [← Finmap.lookup_of_entries h]
    cases old <;> rfl
  rw [hold, ne_eq, dlookup_eq_none, not_not]
  simp only [diffConfig, mem_map, mem_filter, Option.isNone_iff_eq_none, serviceDef,
    Option.bind_some]
  constructor
  · rintro ⟨⟨n, d⟩, ⟨hmem, hnone⟩, rfl⟩
    exact ⟨mem_keys_of_mem hmem, hnone⟩
  · rintro ⟨hmem, hnone⟩
    obtain ⟨d, hd⟩ := exists_of_mem_keys hmem
    exact ⟨⟨name, d⟩, ⟨hd, hnone⟩, rfl⟩

lemma nodup_plan (h : new.services.entries = newOrder) :
    (((diffConfig old new newOrder oldOrder).added ++
      (diffConfig old new newOrder oldOrder).changed).map Prod.fst).Nodup := by
  have hkeys : (newOrder.map Sigma.fst).Nodup := Finmap.nodupKeys_of_entries h
  have hnodup (p : (Σ _ : String, ServiceDef) → Bool) :
      (((newOrder.filter p).map fun e => (e.1, e.2)).map Prod.fst).Nodup := by
    rw [map_map]
    exact (filter_sublist.map Sigma.fst).nodup hkeys
  rw [map_append]
  refine List.Nodup.append (hnodup _) (hnodup _) fun n hadded hchanged => ?_
  obtain ⟨⟨n, d⟩, hd, rfl⟩ := mem_map.mp hadded
  obtain ⟨⟨n', d'⟩, hd', rfl⟩ := mem_map.mp hchanged
  obtain ⟨-, hnone⟩ := (mem_added h).mp hd
  obtain ⟨-, d₀, hsome, -⟩ := (mem_changed h).mp hd'
  cases hnone.symm.trans hsome

end

section

/-- The services that a deploy has dealt with, all of them well. -/
structure Progress (plan : DeployPlan) (dealt : List (String × ServiceDef)) (t : DeployTrace) :
    Prop where
  up : ∀ e ∈ t.up, e.2 ∈ dealt
  replicas : ∀ s ∈ dealt, t.up.countP (fun e => e.2.1 == s.1) = s.2.replicas
  changed : ∀ s ∈ dealt, s ∈ plan.changed → t.Cleared s.1

variable {plan : DeployPlan} {dealt : List (String × ServiceDef)} {failed : Bool}
  {t t' : DeployTrace} {s : String × ServiceDef} {more : List NewAlloc}
  {old : Option (Option ClusterConfig)}

lemma Progress.rolledOut (h : Progress plan dealt t) (hs : s.1 ∉ dealt.map Prod.fst)
    (hr : RolledOut s.1 s.2 t t' more) (hcleared : s ∈ plan.changed → t'.Cleared s.1) :
    Progress plan (s :: dealt) t' := by
  have hapart {s' : String × ServiceDef} (h' : s' ∈ dealt) : s.1 ≠ s'.1 := fun he =>
    hs (he ▸ mem_map_of_mem h')
  refine ⟨fun e he => ?_, fun s' hs' => ?_, fun s' hs' hchanged => ?_⟩
  · rw [hr.up] at he
    rcases mem_append.mp he with he | he
    · exact hr.own e he ▸ mem_cons_self
    · exact mem_cons_of_mem _ (h.up e he)
  · rw [hr.up, countP_append]
    rcases mem_cons.mp hs' with rfl | hs'
    · have hnew : more.countP (fun e => e.2.1 == s'.1) = more.length :=
        countP_eq_length.mpr fun e he => by simp [hr.own e he]
      have hold : t.up.countP (fun e => e.2.1 == s'.1) = 0 :=
        countP_eq_zero.mpr fun e he => by simpa using (hapart (h.up e he)).symm
      rw [hnew, hold, hr.replicas, Nat.add_zero]
    · have hnew : more.countP (fun e => e.2.1 == s'.1) = 0 :=
        countP_eq_zero.mpr fun e he => by simpa [hr.own e he] using hapart hs'
      rw [hnew, Nat.zero_add]
      exact h.replicas s' hs'
  · rcases mem_cons.mp hs' with rfl | hs'
    · exact hcleared hchanged
    · obtain ⟨listing, hlisting, hstopped⟩ := h.changed s' hs' hchanged
      exact ⟨listing, hr.listings hlisting, fun id hid => hr.halted (hstopped id hid)⟩

lemma wp_rollouts_trace {deployOne : String → ServiceDef → Action Unit}
    {services : List (String × ServiceDef)}
    (hone : ∀ s ∈ services, ∀ t, Resting old t → (deployOne s.1 s.2).wp traceSpec (fun o t' =>
      Resting old t' ∧ (o = .ok () → (∀ e ∈ t.up, e.2.1 ≠ s.1) →
        (∃ more, RolledOut s.1 s.2 t t' more) ∧ (s ∈ plan.changed → t'.Cleared s.1))) t)
    (hrest : Resting old t) (h : failed = false → Progress plan dealt t)
    (hnodup : ((dealt.reverse ++ services).map Prod.fst).Nodup) :
    (Program.foldEach (rollout deployOne) services failed).wp traceSpec (fun o t' =>
      ∃ failed', o = .ok failed' ∧ Resting old t' ∧
        (failed' = false → Progress plan (services.reverse ++ dealt) t')) t := by
  refine wp_foldEach (fun left failed t' => ∃ dealt', Resting old t' ∧
    (failed = false → Progress plan dealt' t') ∧
    dealt'.reverse ++ left = dealt.reverse ++ services ∧ left ⊆ services) ?_ ?_
    ⟨dealt, hrest, h, rfl, List.Subset.refl _⟩
  · rintro s left failed t₁ ⟨dealt', hrest₁, h₁, hall, hleft⟩
    obtain ⟨hs, hleft⟩ := cons_subset.mp hleft
    have hnew : s.1 ∉ dealt'.map Prod.fst := by
      rw [← hall, map_append] at hnodup
      intro hmem
      refine (disjoint_of_nodup_append hnodup) ?_ (mem_map_of_mem mem_cons_self)
      simpa using hmem
    refine wp_bind (wp_attempt (wp_mono (hone s hs t₁ hrest₁) ?_))
    rintro o t₂ ⟨hrest₂, hok⟩
    have hrest : (s :: dealt').reverse ++ left = dealt.reverse ++ services := by
      rw [← hall, reverse_cons, append_assoc, singleton_append]
    cases o with
    | error => exact ⟨s :: dealt', hrest₂, nofun, hrest, hleft⟩
    | ok =>
      refine ⟨s :: dealt', hrest₂, fun hgood => ?_, hrest, hleft⟩
      have hprogress := h₁ hgood
      obtain ⟨⟨more, hr⟩, hcleared⟩ := hok rfl fun e he heq =>
        hnew (heq ▸ mem_map_of_mem (hprogress.up e he))
      exact hprogress.rolledOut hnew hr hcleared
  · rintro failed' t' ⟨dealt', hrest', h', hall, -⟩
    have hdealt : dealt' = services.reverse ++ dealt := by
      rw [append_nil] at hall
      simpa using congrArg List.reverse hall
    exact ⟨failed', rfl, hrest', hdealt ▸ h'⟩

end

structure Deployed (old : Option ClusterConfig) (new : ClusterConfig) (t : DeployTrace) :
    Prop where
  idle : t.starting = none
  up : ∀ e ∈ t.up, serviceDef (some new) e.2.1 = some e.2.2 ∧ serviceDef old e.2.1 ≠ some e.2.2
  replicas : ∀ name d, serviceDef (some new) name = some d →
    serviceDef old name ≠ some d → t.up.countP (fun e => e.2.1 == name) = d.replicas
  changed : ∀ name d, serviceDef (some new) name = some d →
    serviceDef old name ≠ none → serviceDef old name ≠ some d → t.Cleared name

def DeployOutcome (new : ClusterConfig) (o : Except DeployError Bool) (t : DeployTrace) : Prop :=
  o = .ok true → ∃ old, t.old = some old ∧ Deployed old new t

variable {t t' : DeployTrace} {old : Option ClusterConfig} {new : ClusterConfig}

lemma Progress.deployed {newOrder oldOrder : List (Σ _ : String, ServiceDef)}
    {dealt : List (String × ServiceDef)} (hnew : new.services.entries = newOrder)
    (hdealt : ∀ s, s ∈ dealt ↔ s ∈ (diffConfig old new newOrder oldOrder).added ∨
      s ∈ (diffConfig old new newOrder oldOrder).changed)
    (h : Progress (diffConfig old new newOrder oldOrder) dealt t) (hidle : t.starting = none) :
    Deployed old new t := by
  have hservice {name : String} {d : ServiceDef} (hname : serviceDef (some new) name = some d)
      (hother : serviceDef old name ≠ some d) : (name, d) ∈ dealt := by
    refine (hdealt (name, d)).mpr ?_
    cases holdDef : serviceDef old name with
    | none => exact .inl ((mem_added hnew).mpr ⟨hname, holdDef⟩)
    | some d' =>
      refine .inr ((mem_changed hnew).mpr ⟨hname, d', holdDef, ?_⟩)
      rintro rfl
      exact hother holdDef
  refine ⟨hidle, fun e he => ?_,
    fun name d hname hother => h.replicas (name, d) (hservice hname hother),
    fun name d hname hsome hother => h.changed (name, d) (hservice hname hother) ?_⟩
  · rcases (hdealt e.2).mp (h.up e he) with hmem | hmem
    · obtain ⟨hdef, hnone⟩ := (mem_added hnew).mp hmem
      exact ⟨hdef, by simp [hnone]⟩
    · obtain ⟨hdef, d', hd', hne⟩ := (mem_changed hnew).mp hmem
      exact ⟨hdef, by simpa [hd'] using hne⟩
  · obtain ⟨d', hd'⟩ := Option.ne_none_iff_exists'.mp hsome
    refine (mem_changed hnew).mpr ⟨hname, d', hd', ?_⟩
    rintro rfl
    exact hother hd'

lemma wp_preDeploy_trace (new : ClusterConfig) : (preDeploy new).wp traceSpec (fun o t => ∃ old,
      t = { DeployTrace.begin .deploy with old := some old } ∧ match o with
        | .ok a => ∃ newOrder oldOrder, a = (old, diffConfig old new newOrder oldOrder) ∧
            new.services.entries = newOrder ∧
            ((old.map ClusterConfig.services).getD ∅).entries = oldOrder
        | .error x => ∃ m, x = .validationFailed m) (.begin .deploy) := by
  have hkeep (old : Option ClusterConfig) (e : Effect) (t : DeployTrace) (he : PreDeployEffect e)
      (ht : t = { DeployTrace.begin .deploy with old := some old }) : traceSpec.pre t e ∧
        ∀ r t', traceSpec.post t e r t' →
          t' = { DeployTrace.begin .deploy with old := some old } := by
    have he : e.unseen = true := by cases he <;> rfl
    refine ⟨orderly_of_unseen he t, ?_⟩
    rintro r t' ⟨rfl, -⟩
    rw [DeployTrace.track_of_unseen he, ht]
  refine wp_preDeploy_of (S := traceSpec) new
    (fun old t => t = { DeployTrace.begin .deploy with old := some old })
    (fun services order => services.entries = order) ⟨rfl, ?_⟩ hkeep ?_
  · rintro old t ⟨rfl, -⟩
    rfl
  · rintro services order t t' ⟨-, -, horder⟩
    exact horder

lemma wp_applyPlan_trace (ctx : DeployCtx) (plan : DeployPlan)
    (hnodup : ((plan.added ++ plan.changed).map Prod.fst).Nodup)
    {old : Option (Option ClusterConfig)} (h : Resting old t) (hup : t.up = []) :
    (applyPlan ctx plan).wp traceSpec (fun o t' => ∀ failed, o = .ok failed → Resting old t' ∧
      (failed = false → Progress plan (plan.changed.reverse ++ plan.added.reverse) t')) t := by
  refine wp_bind (wp_foldEach (fun _ _ t => Resting old t ∧ t.up = []) ?_ ?_ ⟨h, hup⟩)
  · rintro name left - t ⟨h, hup⟩
    refine wp_mono (wp_stopService_trace h hup) ?_
    rintro (x | u) t₁ ho
    · exact nofun
    · exact ho rfl
  · rintro - t ⟨h, hup⟩
    have hstart : Progress plan [] t :=
      ⟨fun e he => by simp [hup] at he, nofun, nofun⟩
    rw [map_append] at hnodup
    refine wp_bind (wp_mono (wp_rollouts_trace ?_ h (fun _ => hstart) hnodup.of_append_left) ?_)
    · intro s hs t h
      refine wp_mono (wp_deployService_trace ctx h) ?_
      rintro o t' ⟨h', hok⟩
      refine ⟨h', fun ho _ => ⟨hok ho, fun hchanged => ?_⟩⟩
      exact absurd (mem_map_of_mem hchanged) (disjoint_of_nodup_append hnodup (mem_map_of_mem hs))
    · rintro o t₁ ⟨failed, rfl, h₁, hprogress⟩
      rw [append_nil] at hprogress
      have hall : ((plan.added.reverse.reverse ++ plan.changed).map Prod.fst).Nodup := by
        rwa [reverse_reverse, map_append]
      refine wp_mono (wp_rollouts_trace ?_ h₁ hprogress hall) ?_
      · intro s hs t h
        refine wp_mono (wp_rollingUpdate_trace ctx h) ?_
        rintro o t' ⟨h', hok⟩
        exact ⟨h', fun ho hapart => (hok ho hapart).imp_right fun hcleared _ => hcleared⟩
      · rintro o t₂ ⟨failed₂, rfl, h₂, hprogress₂⟩ failed ho
        cases ho
        exact ⟨h₂, hprogress₂⟩

lemma wp_runDeploy_trace (ctx : DeployCtx) (new : ClusterConfig) :
    (runDeploy ctx new).wp traceSpec (DeployOutcome new) (.begin .deploy) := by
  refine wp_bind (wp_mono (wp_preDeploy_trace new) ?_)
  rintro (x | a) t ⟨old, rfl, ho⟩
  · exact nofun
  obtain ⟨newOrder, oldOrder, rfl, hnew, -⟩ := ho
  refine wp_bind (wp_propose rfl ?_ ?_)
  · rintro response t₁ ⟨rfl, -, -⟩
    have hcommitted : Resting (some old)
        (({ DeployTrace.begin .deploy with old := some old }).track (.propose (.deploy new))
          (.ok response)) := ⟨rfl, rfl, rfl⟩
    refine wp_bind (wp_mono (wp_applyPlan_trace ctx _ (nodup_plan hnew) hcommitted rfl) ?_)
    rintro (x | failed) t₂ ho
    · exact nofun
    obtain ⟨hrest, hprogress⟩ := ho failed rfl
    cases failed with
    | false =>
      refine fun _ => ⟨old, hrest.old, (hprogress rfl).deployed hnew (fun s => ?_) hrest.idle⟩
      rw [mem_append, mem_reverse, mem_reverse, Or.comm]
    | true =>
      cases old with
      | none => exact nofun
      | some old =>
        refine wp_bind (wp_effect hrest.task ?_)
        rintro (message | response) t₃ ⟨rfl, hrefused, -⟩
        · cases hrefused
        · exact nofun
  · rintro message t₁ ⟨-, hrefused, -⟩
    cases hrefused

end Mill
